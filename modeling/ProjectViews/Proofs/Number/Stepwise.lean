/-
Where reading a double step by step gives the nearest one.

Three roundings can go wrong on the way: of the digits, of the power of ten, and of their product
or quotient.  The digits are exact if they fit into a mantissa, and so is a power of ten up to the
twenty-second, since only its factors of five count.  Then the last rounding is the only one, and
rounding gives the same for equal numbers, however they are written.

Elsewhere the result may be next to the nearest double, but it is a double in any case.
-/
import ProjectViews.Number.Stepwise
import ProjectViews.Proofs.Number.Range

namespace ProjectViews

namespace Number

/-! ### Digits in a word -/

theorem le_ofDigitsFrom (n : Nat) (ds : List Digit) : n ≤ ofDigitsFrom n ds := by
  rw [ofDigitsFrom_eq]
  exact (Nat.le_mul_of_pos_right n (by positivity)).trans (Nat.le_add_right _ _)

/-- Digits for which there is room in a word are all taken. -/
theorem fillWord_eq {n : Nat} {ds : List Digit} (h : ofDigitsFrom n ds < UInt64.size) :
    fillWord n ds = (ofDigitsFrom n ds, []) := by
  induction ds generalizing n with
  | nil => rfl
  | cons d ds ih =>
      rw [ofDigitsFrom] at h ⊢
      rw [fillWord, if_pos ((le_ofDigitsFrom _ ds).trans_lt h), ih h]

theorem fillWord_lt {n : Nat} (h : n < UInt64.size) (ds : List Digit) :
    (fillWord n ds).1 < UInt64.size := by
  induction ds generalizing n with
  | nil => exact h
  | cons d ds ih =>
      rw [fillWord]
      split
      · rename_i hroom
        exact ih hroom
      · exact h

namespace Magnitude

/-! ### One rounding -/

/-- Equal numbers are rounded to the same double. -/
theorem nearest_congr {n d n' d' : Nat} (hd : 0 < d) (hd' : 0 < d')
    (h : (n / d : ℚ) = n' / d') : nearest n d = nearest n' d' := by
  have hzero : n = 0 ↔ n' = 0 := by
    have hd₀ : (d : ℚ) ≠ 0 := by exact_mod_cast Nat.ne_of_gt hd
    have hd₀' : (d' : ℚ) ≠ 0 := by exact_mod_cast Nat.ne_of_gt hd'
    have hiff : (n / d : ℚ) = 0 ↔ (n' / d' : ℚ) = 0 := by rw [h]
    rw [div_eq_zero_iff, div_eq_zero_iff, or_iff_left hd₀, or_iff_left hd₀'] at hiff
    exact_mod_cast hiff
  by_cases hn : n = 0
  · rw [nearest, nearest, if_pos hn, if_pos (hzero.mp hn)]
  have hpos := Nat.pos_of_ne_zero hn
  have hpos' := Nat.pos_of_ne_zero fun hn' => hn (hzero.mpr hn')
  have hexponent : exponentFor n d = exponentFor n' d' :=
    le_antisymm (exponentFor_mono hpos hd hd' h.le) (exponentFor_mono hpos' hd' hd h.ge)
  have hround : ∀ e, roundAt n d e = roundAt n' d' e := fun e =>
    le_antisymm (roundAt_mono hd hd' e h.le) (roundAt_mono hd' hd e h.ge)
  rw [nearest, nearest, if_neg hn, if_neg (Nat.ne_of_gt hpos'), hexponent]
  dsimp only
  rw [hround]

/-- A quotient is the rounded quotient of the numbers. -/
theorem div_eq_nearest (x : Magnitude) {y : Magnitude} (hy : 0 < y.value) : ∃ n d : Nat,
    0 < d ∧ x.div y = nearest n d ∧ (n / d : ℚ) = x.value / y.value := by
  obtain ⟨hx, hxvalue⟩ := x.ratio_spec
  obtain ⟨hd, hyvalue⟩ := y.ratio_spec
  have hd' : (0 : ℚ) < y.ratio.2 := by exact_mod_cast hd
  have hn : 0 < y.ratio.1 := by
    rw [← hyvalue, div_pos_iff_of_pos_right hd'] at hy
    exact_mod_cast hy
  refine ⟨_, _, Nat.mul_pos hx hn, rfl, ?_⟩
  rw [← hxvalue, ← hyvalue, Nat.cast_mul, Nat.cast_mul, div_div_div_eq]

theorem one_le_value_tenPow (n : Nat) : 1 ≤ (tenPow n).value := by
  have hone : (ofNat 1).value = 1 := by exact_mod_cast value_ofNat (n := 1) (by norm_num)
  rw [← hone]
  exact ofNat_mono (Nat.one_le_pow _ _ (by norm_num))

/-- A power of ten is exact as long as its factors of five fit into a mantissa. -/
theorem value_tenPow {n : Nat} (h : n ≤ 22) : (tenPow n).value = 10 ^ n := by
  have hexact : ∀ k : Fin 23, (tenPow k).ratio.1 = 10 ^ k.val * (tenPow k).ratio.2 := by
    decide +kernel
  obtain ⟨hd, hvalue⟩ := (tenPow n).ratio_spec
  have hd' : ((tenPow n).ratio.2 : ℚ) ≠ 0 := by exact_mod_cast Nat.ne_of_gt hd
  rw [← hvalue, hexact ⟨n, by omega⟩, div_eq_iff hd']
  push_cast
  rfl

/-! ### Quotients stay small -/

variable {x y : Magnitude}

theorem div_canonical (x : Magnitude) (hy : 0 < y.value) : (x.div y).Canonical := by
  obtain ⟨n, d, hd, hdiv, -⟩ := x.div_eq_nearest hy
  rw [hdiv]
  exact nearest_canonical n hd

/-- Dividing by one or more makes nothing greater. -/
theorem value_div_le (canonical : x.Canonical) (hy : 1 ≤ y.value) :
    (x.div y).value ≤ x.value := by
  obtain ⟨n, d, hd, hdiv, hratio⟩ := x.div_eq_nearest (zero_lt_one.trans_le hy)
  obtain ⟨hpos, hvalue⟩ := x.ratio_spec
  have hnonneg : 0 ≤ x.value := by
    unfold value
    positivity
  rw [hdiv, ← nearest_value canonical hpos hvalue]
  refine nearest_mono hd hpos ?_
  rw [hratio, hvalue]
  exact div_le_self hnonneg hy

theorem scaleDown_spec (times : Nat) (canonical : x.Canonical) :
    (x.scaleDown times).Canonical ∧ (x.scaleDown times).value ≤ x.value := by
  induction times generalizing x with
  | zero => exact ⟨canonical, le_rfl⟩
  | succ times ih =>
      rw [scaleDown]
      split
      · exact ⟨canonical, le_rfl⟩
      · have hten := one_le_value_tenPow greatestTen
        obtain ⟨hcanonical, hle⟩ := ih (div_canonical x (zero_lt_one.trans_le hten))
        exact ⟨hcanonical, hle.trans (value_div_le canonical hten)⟩

end Magnitude

/-! ### Reading decimals -/

namespace Scientific

open Magnitude

variable {x : Scientific}

/-- **Short digits with a small power of ten are read as the nearest double.** -/
theorem stepwise?_eq_magnitude? (coefficient : x.coefficient < 2 ^ 53)
    (low : -22 ≤ x.exponent) (high : x.exponent ≤ 22) : x.stepwise? = x.magnitude? := by
  have hcoefficient := value_ofNat coefficient
  obtain ⟨hd, hvalue⟩ := x.ratio_spec
  rw [magnitude?_eq, stepwise?]
  dsimp only
  split
  · rename_i hexponent
    obtain ⟨k, hk⟩ := Int.eq_ofNat_of_zero_le hexponent
    have hpower : k ≤ 22 := by omega
    rw [hk, Int.toNat_natCast, if_neg (by unfold greatestTen; omega)]
    obtain ⟨n, d, hd', hmul, hratio⟩ := mul_eq_nearest (ofNat x.coefficient) (tenPow k)
    have hsame : (n / d : ℚ) = x.value := by
      rw [hratio, hcoefficient, value_tenPow hpower, value, hk, zpow_natCast]
    rw [hmul, nearest_congr hd' hd (hsame.trans hvalue.symm)]
    simp only [isFinite_nearest_iff hd, hvalue]
  · rename_i hexponent
    obtain ⟨k, hk⟩ := Int.eq_ofNat_of_zero_le (show 0 ≤ -x.exponent by omega)
    have hpower : k ≤ 22 := by omega
    have hten := value_tenPow hpower
    -- the number of quotients by the greatest power is zero
    rw [hk, Int.toNat_natCast, Nat.div_eq_of_lt (by unfold greatestTen; omega), Nat.zero_mul,
      Nat.sub_zero, scaleDown]
    obtain ⟨n, d, hd', hdiv, hratio⟩ :=
      (ofNat x.coefficient).div_eq_nearest (y := tenPow k) (by rw [hten]; positivity)
    have hsame : (n / d : ℚ) = x.value := by
      rw [hratio, hcoefficient, hten, value, show x.exponent = -k by omega, zpow_neg, zpow_natCast,
        div_eq_mul_inv]
    have hsmall : x.value ≤ 2 ^ 64 := by
      have hle : (x.coefficient : ℚ) ≤ 2 ^ 53 := by exact_mod_cast coefficient.le
      calc x.value ≤ x.coefficient := by
            rw [← hsame, hratio, hcoefficient, hten]
            exact div_le_self (Nat.cast_nonneg _) (one_le_pow₀ (by norm_num))
        _ ≤ 2 ^ 64 := hle.trans (by norm_num)
    rw [if_pos (lt_overflowPoint hsmall), hdiv, nearest_congr hd' hd (hsame.trans hvalue.symm)]

/-- What is read is in normal form, and no infinity. -/
theorem stepwise?_canonical (coefficient : x.coefficient < UInt64.size) {m : Magnitude}
    (h : x.stepwise? = some m) : m.Canonical ∧ m.isFinite = true := by
  have hcanonical := ofNat_canonical x.coefficient
  unfold stepwise? at h
  dsimp only at h
  split at h
  · split at h
    · split at h
      · cases h
        exact ⟨⟨by decide, le_rfl, .inl rfl⟩, rfl⟩
      · cases h
    · split at h
      · rename_i hfinite
        cases h
        obtain ⟨n, d, hd, hmul, -⟩ :=
          mul_eq_nearest (ofNat x.coefficient) (tenPow x.exponent.toNat)
        refine ⟨?_, hfinite⟩
        rw [hmul]
        exact nearest_canonical n hd
      · cases h
  · cases h
    generalize ((-x.exponent).toNat - 1) / greatestTen = times
    generalize (-x.exponent).toNat - times * greatestTen = rest
    obtain ⟨hscaled, hle⟩ := scaleDown_spec times hcanonical
    have hten := one_le_value_tenPow rest
    have hdiv := div_canonical ((ofNat x.coefficient).scaleDown times) (zero_lt_one.trans_le hten)
    have hfinite : (ofNat x.coefficient).isFinite = true := by
      refine (isFinite_nearest_iff Nat.one_pos).mpr (lt_overflowPoint ?_)
      rw [Nat.cast_one, div_one]
      exact_mod_cast coefficient.le
    refine ⟨hdiv, (isFinite_iff_value_lt hdiv).mpr ?_⟩
    exact ((value_div_le hscaled hten).trans hle).trans_lt
      ((isFinite_iff_value_lt hcanonical).mp hfinite)

end Scientific

end Number

namespace Json

open Number

namespace Numeral

/-- A number for whose digits there is room in a word is read with all of them. -/
theorem leading_eq_scientific {n : Numeral} (h : n.scientific.coefficient < UInt64.size) :
    n.leading = n.scientific := by
  rw [scientific] at h
  dsimp only at h
  have hwhole : fillWord 0 (digits n.whole) = (n.whole, []) := by
    have hdigits : ofDigitsFrom 0 (digits n.whole) = n.whole := ofDigits_digits n.whole
    rw [fillWord_eq (hdigits.trans_lt ((le_ofDigitsFrom _ _).trans_lt h)), hdigits]
  rw [leading, hwhole]
  dsimp only
  rw [fillWord_eq h, scientific]
  simp

theorem coefficient_leading_lt (n : Numeral) : n.leading.coefficient < UInt64.size :=
  fillWord_lt (fillWord_lt (by decide) _) _

end Numeral

/-- A double that is read is in normal form. -/
theorem canonical_of_ofNumeral? {n : Numeral} {x : Double} (h : ofNumeral? n = some (.double x)) :
    x.Canonical := by
  unfold ofNumeral? at h
  split at h
  · cases h
  · split at h
    · cases h
    · obtain ⟨m, hm, hx⟩ := Option.map_eq_some_iff.mp h
      cases hx
      obtain ⟨canonical, finite⟩ := Scientific.stepwise?_canonical n.coefficient_leading_lt hm
      exact ⟨canonical, finite⟩

/-- **A double that is written with few digits and a small power of ten is read back.** -/
theorem ofNumeral?_numeralOf {x : Double} (canonical : x.Canonical)
    (coefficient : (numeralOf x).scientific.coefficient < 2 ^ 53)
    (low : -22 ≤ (numeralOf x).scientific.exponent)
    (high : (numeralOf x).scientific.exponent ≤ 22) :
    ofNumeral? (numeralOf x) = some (.double x) := by
  obtain ⟨hwhole, hexact⟩ := numeralOf_exact canonical
  have hroom : (numeralOf x).scientific.coefficient < UInt64.size :=
    coefficient.trans (by decide)
  rw [Scientific.double?, ← Scientific.stepwise?_eq_magnitude? coefficient low high] at hexact
  obtain ⟨m, hm, hx⟩ := Option.map_eq_some_iff.mp hexact
  rw [ofNumeral?, if_neg (by simp [hwhole]), if_neg (by simp [hwhole]),
    Numeral.leading_eq_scientific hroom, hm]
  exact congrArg (some ∘ Json.double) hx

end Json

end ProjectViews
