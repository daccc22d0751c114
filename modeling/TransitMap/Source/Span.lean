namespace TransitMap

structure Span where
  start : Nat
  stop : Nat
  start_le_stop : start ≤ stop := by omega
  deriving DecidableEq, Repr

namespace Span

def between (start stop : Nat) : Span := ⟨start, max stop start, Nat.le_max_right ..⟩

def empty : Span := ⟨0, 0, Nat.le_refl 0⟩

def size (span : Span) : Nat := span.stop - span.start

def isEmpty (span : Span) : Bool := span.start == span.stop

def union (first second : Span) : Span :=
  between (min first.start second.start) (max first.stop second.stop)

def shift (span : Span) (offset : Nat) : Span :=
  ⟨span.start + offset, span.stop + offset, Nat.add_le_add_right span.start_le_stop offset⟩

end Span

structure Located (α : Type) where
  value : α
  span : Span
  deriving DecidableEq, Repr

def Located.map (f : α → β) (located : Located α) : Located β := ⟨f located.value, located.span⟩

def Located.string (located : Located (List Char)) : Located String :=
  located.map String.ofList

end TransitMap
