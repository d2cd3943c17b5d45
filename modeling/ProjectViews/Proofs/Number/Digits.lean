/-
Arithmetic with digits.

The number that digits write is the one that the first of them write, moved to the left by the
others, and what the others write.  So zeros in front do not count and zeros at the end are
powers of ten.
-/
import Mathlib.Tactic.Ring
import ProjectViews.Number.Digits

namespace ProjectViews

namespace Number

theorem ofDigitsFrom_eq (n : Nat) (ds : List Digit) :
    ofDigitsFrom n ds = n * 10 ^ ds.length + ofDigits ds := by
  induction ds generalizing n with
  | nil => simp [ofDigitsFrom, ofDigits]
  | cons d ds ih =>
      rw [ofDigits, ofDigitsFrom, ofDigitsFrom, ih, ih (10 * 0 + d.val), List.length_cons]
      ring

theorem ofDigits_append (a b : List Digit) :
    ofDigits (a ++ b) = ofDigits a * 10 ^ b.length + ofDigits b := by
  rw [ofDigits, ofDigitsFrom_append, ofDigitsFrom_eq]
  rfl

theorem ofDigits_zeros (n : Nat) : ofDigits (List.replicate n .zero) = 0 := by
  induction n with
  | zero => rfl
  | succ n ih => exact ih

/-- Zeros in front of digits do not count. -/
theorem ofDigits_zeros_append (n : Nat) (ds : List Digit) :
    ofDigits (List.replicate n .zero ++ ds) = ofDigits ds := by
  rw [ofDigits_append, ofDigits_zeros, Nat.zero_mul, Nat.zero_add]

theorem length_digitsOnto {n width : Nat} (h : n < 10 ^ (width + 1)) (found : List Digit) :
    (digitsOnto n found).length ≤ width + 1 + found.length := by
  induction width generalizing n found with
  | zero =>
      rw [digitsOnto, if_pos (by omega), List.length_cons]
      omega
  | succ width ih =>
      rw [digitsOnto]
      split
      · rw [List.length_cons]
        omega
      · rw [Nat.pow_succ] at h
        have hrest := ih (n := n / 10) (by omega) (Fin.ofNat 10 (n % 10) :: found)
        rw [List.length_cons] at hrest
        omega

/-- A number below a power of ten has no more digits than that. -/
theorem length_digits {n width : Nat} (h : n < 10 ^ (width + 1)) :
    (digits n).length ≤ width + 1 := length_digitsOnto h []

end Number

end ProjectViews
