import Mathlib.Data.Rat.Floor
import Mathlib.Tactic.Linarith
import TransitMap.Scalar

namespace TransitMap

namespace Scalar

@[simp] theorem literal_eq (value : Nat) :
    @OfNat.ofNat Rat value (scalarLiteral value) = (value : Rat) := rfl

@[simp] theorem ofNat_eq (value : Nat) : (Scalar.ofNat value : Rat) = (value : Rat) := rfl

@[simp] theorem ofInt_eq (value : Int) : (Scalar.ofInt value : Rat) = (value : Rat) := rfl

theorem round_eq (value : Rat) : Scalar.round value = (nearest value : Rat) := rfl

theorem floor_eq_iff {value : Rat} {whole : Int} :
    value.floor = whole ↔ whole ≤ value ∧ value < whole + 1 :=
  Int.floor_eq_iff (a := value)

theorem nearest_intCast (value : Int) : nearest (value : Rat) = value := by
  unfold nearest
  split
  · have floored : (1 / 2 - (value : Rat)).floor = -value := by
      rw [floor_eq_iff]
      constructor <;> push_cast <;> linarith
    rw [floored, neg_neg]
  · rw [floor_eq_iff]
    constructor <;> linarith

def IsWhole (value : Rat) : Prop := ∃ whole : Int, value = whole

namespace IsWhole

variable {left right value : Rat}

@[simp] theorem intCast (value : Int) : IsWhole (value : Rat) := ⟨value, rfl⟩

@[simp] theorem natCast (value : Nat) : IsWhole (value : Rat) := ⟨value, by simp⟩

@[simp] theorem round (value : Rat) : IsWhole (Scalar.round value) := ⟨nearest value, rfl⟩

theorem add (first : IsWhole left) (second : IsWhole right) : IsWhole (left + right) := by
  obtain ⟨first, rfl⟩ := first
  obtain ⟨second, rfl⟩ := second
  exact ⟨first + second, by push_cast; rfl⟩

theorem sub (first : IsWhole left) (second : IsWhole right) : IsWhole (left - right) := by
  obtain ⟨first, rfl⟩ := first
  obtain ⟨second, rfl⟩ := second
  exact ⟨first - second, by push_cast; rfl⟩

theorem neg (whole : IsWhole value) : IsWhole (-value) := by
  obtain ⟨whole, rfl⟩ := whole
  exact ⟨-whole, by push_cast; rfl⟩

theorem mul (first : IsWhole left) (second : IsWhole right) : IsWhole (left * right) := by
  obtain ⟨first, rfl⟩ := first
  obtain ⟨second, rfl⟩ := second
  exact ⟨first * second, by push_cast; rfl⟩

theorem round_eq (whole : IsWhole value) : Scalar.round value = value := by
  obtain ⟨whole, rfl⟩ := whole
  rw [Scalar.round_eq, nearest_intCast]

end IsWhole

end Scalar

end TransitMap
