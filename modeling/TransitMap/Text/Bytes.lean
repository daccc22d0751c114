/-!
Places in a text, counted in the bytes of its UTF-8 form.
-/

namespace TransitMap.Text

def byteLength : List Char → Nat
  | [] => 0
  | c :: rest => c.utf8Size + byteLength rest

/-- The rest of a text after its first bytes. -/
def dropBytes : Nat → List Char → List Char
  | _, [] => []
  | count, c :: rest => if count = 0 then c :: rest else dropBytes (count - c.utf8Size) rest

/-- The characters that begin within the first bytes of a text. -/
def takeBytes : Nat → List Char → List Char
  | _, [] => []
  | count, c :: rest => if count = 0 then [] else c :: takeBytes (count - c.utf8Size) rest

def slice (text : List Char) (start stop : Nat) : List Char :=
  takeBytes (stop - start) (dropBytes start text)

@[simp] theorem byteLength_append (first second : List Char) :
    byteLength (first ++ second) = byteLength first + byteLength second := by
  induction first with
  | nil => simp [byteLength]
  | cons c rest ih => simp [byteLength, ih, Nat.add_assoc]

@[simp] theorem dropBytes_byteLength_append (first second : List Char) :
    dropBytes (byteLength first) (first ++ second) = second := by
  induction first with
  | nil => cases second <;> simp [byteLength, dropBytes]
  | cons c rest ih =>
      have positive := Char.utf8Size_pos c
      simp [byteLength, dropBytes, ih]
      omega

@[simp] theorem takeBytes_byteLength_append (first second : List Char) :
    takeBytes (byteLength first) (first ++ second) = first := by
  induction first with
  | nil => cases second <;> simp [byteLength, takeBytes]
  | cons c rest ih =>
      have positive := Char.utf8Size_pos c
      simp [byteLength, takeBytes, ih]
      omega

theorem slice_append (before middle after : List Char) :
    slice (before ++ middle ++ after) (byteLength before)
      (byteLength before + byteLength middle) = middle := by
  simp [slice, List.append_assoc]

end TransitMap.Text
