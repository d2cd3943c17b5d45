/-
Which numbers are too large or too small for a double.

A magnitude in normal form is a double's if it is below two to the 1024th.  A number rounds to
less than that if it is below `overflowPoint`, which is half a unit in the last place above the
greatest double: there the tie goes to the even mantissa, and that is the power of two.  Half of
the least double rounds to zero, and the least double itself does not.

The shortcuts in reading a decimal, by its power of ten, give what rounding would give, so that
reading is rounding and nothing else.  The whole part of what is read is exact for naturals of up
to 53 bits, and between the whole parts around the number below that.
-/
import ProjectViews.Proofs.Number.Monotone

namespace ProjectViews

namespace Number

namespace Magnitude

/-! ### Numbers that are too large -/

/-- The least number that is too large for a double. -/
def overflowPoint : ℚ := (2 ^ 54 - 1) * 2 ^ (970 : ℤ)

/-- The greatest double. -/
def greatest : Magnitude := ⟨2 ^ 53 - 1, greatestExponent⟩

theorem two_zpow_add (e : ℤ) (k : ℕ) : (2 : ℚ) ^ (e + k) = 2 ^ k * 2 ^ e := by
  rw [zpow_add₀ (by norm_num), zpow_natCast, mul_comm]

theorem overflowPoint_lt : overflowPoint < 2 ^ (1024 : ℤ) := by
  rw [overflowPoint, show (2 : ℚ) ^ (1024 : ℤ) = 2 ^ 54 * 2 ^ (970 : ℤ) from two_zpow_add 970 54]
  exact mul_lt_mul_of_pos_right (by norm_num) (by positivity)

theorem lt_overflowPoint {q : ℚ} (h : q ≤ 2 ^ 64) : q < overflowPoint := by
  have hunit : (2 : ℚ) ^ (20 : ℤ) ≤ 2 ^ (970 : ℤ) :=
    zpow_le_zpow_right₀ (by norm_num) (by norm_num)
  calc q ≤ 2 ^ 64 := h
    _ < (2 ^ 54 - 1) * 2 ^ (20 : ℤ) := by norm_num
    _ ≤ overflowPoint := mul_le_mul_of_nonneg_left hunit (by norm_num)

theorem greatest_canonical : greatest.Canonical :=
  ⟨by decide, by decide, .inr (by decide)⟩

variable {x : Magnitude}

/-- The doubles are the magnitudes below the power of two behind the greatest double. -/
theorem isFinite_iff_value_lt (canonical : x.Canonical) :
    x.isFinite = true ↔ x.value < 2 ^ (1024 : ℤ) := by
  rw [isFinite, decide_eq_true_iff, value]
  unfold greatestExponent
  constructor
  · intro hle
    have hlt : (x.mantissa : ℚ) < 2 ^ 53 := by exact_mod_cast canonical.mantissa_lt
    calc (x.mantissa : ℚ) * 2 ^ x.exponent < 2 ^ 53 * 2 ^ x.exponent := by gcongr
      _ ≤ 2 ^ 53 * 2 ^ (971 : ℤ) := by gcongr; norm_num
      _ = 2 ^ (1024 : ℤ) := (two_zpow_add 971 53).symm
  · intro hlt
    by_contra hgreat
    have hexponent : 972 ≤ x.exponent := by omega
    have hmantissa : (2 : ℚ) ^ 52 ≤ x.mantissa := by
      have hnormal := canonical.normal.resolve_left (by unfold leastExponent; omega)
      exact_mod_cast hnormal
    have hge : (2 : ℚ) ^ (1024 : ℤ) ≤ x.mantissa * 2 ^ x.exponent := by
      calc (2 : ℚ) ^ (1024 : ℤ) = 2 ^ 52 * 2 ^ (972 : ℤ) := two_zpow_add 972 52
        _ ≤ x.mantissa * 2 ^ x.exponent :=
          mul_le_mul hmantissa (zpow_le_zpow_right₀ (by norm_num) hexponent) (by positivity)
            (Nat.cast_nonneg _)
    exact absurd hlt (not_lt.mpr hge)

/-- The numbers from the greatest double to half a unit above it round to it. -/
theorem covers_greatest {q : ℚ} (low : greatest.value ≤ q) (high : q < overflowPoint) :
    greatest.Covers q := by
  have hlow : (greatest.lowEnd : ℚ) * greatest.quarter < q := by
    refine lt_of_lt_of_le ?_ low
    rw [value_eq]
    refine mul_lt_mul_of_pos_right ?_ greatest.quarter_pos
    exact_mod_cast (show greatest.lowEnd < 4 * greatest.mantissa by decide)
  have hhigh : q < (4 * greatest.mantissa + 2) * greatest.quarter := by
    have hend : (4 * greatest.mantissa + 2 : ℚ) = (2 ^ 54 - 1) * 2 := by norm_num [greatest]
    have hunit : (2 : ℚ) ^ (970 : ℤ) = 2 ^ 1 * greatest.quarter := two_zpow_add 969 1
    rw [overflowPoint, hunit] at high
    rw [hend]
    linarith
  exact ⟨hlow.le, hhigh.le, fun _ => ⟨hlow, hhigh⟩⟩

/-- The tie above the greatest double goes to the power of two. -/
theorem covers_overflowPoint : Covers ⟨2 ^ 52, 972⟩ overflowPoint := by
  have hend : lowEnd ⟨2 ^ 52, 972⟩ = 2 ^ 54 - 1 := by decide
  have hunit : quarter ⟨2 ^ 52, 972⟩ = 2 ^ (970 : ℤ) := rfl
  have hpos : (0 : ℚ) < 2 ^ (970 : ℤ) := by positivity
  refine ⟨?_, ?_, fun hodd => absurd hodd (by decide)⟩
  · rw [hend, hunit, overflowPoint]
    norm_num
  · rw [hunit, overflowPoint]
    exact mul_le_mul_of_nonneg_right (by norm_num) hpos.le

/-- What is too large rounds to the power of two behind the greatest double at least. -/
theorem le_value_nearest {n d : Nat} (hd : 0 < d) (h : overflowPoint ≤ n / d) :
    2 ^ (1024 : ℤ) ≤ (nearest n d).value := by
  have canonical : Canonical ⟨2 ^ 52, 972⟩ := ⟨by decide, by decide, .inr (by decide)⟩
  obtain ⟨hpos, hratio⟩ := ratio_spec ⟨2 ^ 54 - 1, 970⟩
  have hvalue : value ⟨2 ^ 54 - 1, 970⟩ = overflowPoint := by
    rw [value, overflowPoint]
    norm_num
  rw [hvalue] at hratio
  have hmono := nearest_mono hpos hd (hratio.trans_le h)
  rw [nearest_eq canonical (by decide) hpos (hratio ▸ covers_overflowPoint), value] at hmono
  refine le_trans (le_of_eq ?_) hmono
  rw [show (2 : ℚ) ^ (1024 : ℤ) = 2 ^ 52 * 2 ^ (972 : ℤ) from two_zpow_add 972 52]
  norm_num

/-- What is not too large rounds to the greatest double at most. -/
theorem value_nearest_le {n d : Nat} (hd : 0 < d) (h : (n / d : ℚ) < overflowPoint) :
    (nearest n d).value ≤ greatest.value := by
  rcases le_total greatest.value (n / d) with hle | hle
  · rw [nearest_eq greatest_canonical (by decide) hd (covers_greatest hle h)]
  · obtain ⟨hpos, hvalue⟩ := greatest.ratio_spec
    rw [← nearest_value greatest_canonical hpos hvalue]
    exact nearest_mono hd hpos (hle.trans_eq hvalue.symm)

/-- **A number rounds to a double exactly where it is less than half a unit above the greatest
one.** -/
theorem isFinite_nearest_iff {n d : Nat} (hd : 0 < d) :
    (nearest n d).isFinite = true ↔ (n / d : ℚ) < overflowPoint := by
  rw [isFinite_iff_value_lt (nearest_canonical n hd)]
  constructor
  · intro hlt
    by_contra hge
    exact absurd hlt (not_lt.mpr (le_value_nearest hd (not_lt.mp hge)))
  · intro hlt
    exact (value_nearest_le hd hlt).trans_lt ((isFinite_iff_value_lt greatest_canonical).mp rfl)

/-! ### Numbers that are too small -/

theorem lt_overflowPoint_of_small {q : ℚ} (h : q ≤ 2 ^ (-1075 : ℤ)) : q < overflowPoint := by
  have hone : (2 : ℚ) ^ (-1075 : ℤ) ≤ 1 := zpow_le_one_of_nonpos₀ (by norm_num) (by norm_num)
  exact lt_overflowPoint ((h.trans hone).trans (by norm_num))

/-- Up to half of the least double everything rounds to zero. -/
theorem nearest_eq_zero {n d : Nat} (hd : 0 < d) (h : (n / d : ℚ) ≤ 2 ^ (-1075 : ℤ)) :
    nearest n d = zero := by
  rcases Nat.eq_zero_or_pos n with rfl | hn
  · rw [nearest, if_pos rfl]
  have hlog : floorLog2 n d ≤ -1075 :=
    (zpow_le_zpow_iff_right₀ (by norm_num : (1 : ℚ) < 2)).mp ((floorLog2_spec hn hd).1.trans h)
  have hexponent : exponentFor n d = leastExponent := by
    unfold exponentFor leastExponent
    omega
  have hhalf : (1 / 2 : ℚ) * 2 ^ leastExponent = 2 ^ (-1075 : ℤ) := by
    rw [leastExponent, show (-1074 : ℤ) = -1075 + 1 by norm_num, zpow_add_one₀ (by norm_num)]
    ring
  have hround : roundAt n d leastExponent = 0 := by
    refine roundAt_eq hd ?_ ?_ fun hodd => absurd hodd (by decide)
    · rw [Nat.cast_zero, zero_sub, neg_mul, hhalf]
      have hvalue : (0 : ℚ) ≤ n / d := by positivity
      exact (neg_nonpos.mpr (by positivity)).trans hvalue
    · rwa [Nat.cast_zero, zero_add, hhalf]
  rw [nearest, if_neg (Nat.ne_of_gt hn), hexponent]
  dsimp only
  rw [hround]
  rfl

/-- The least double other than zero. -/
def least : Magnitude := ⟨1, leastExponent⟩

theorem least_canonical : least.Canonical := ⟨by decide, le_rfl, .inl rfl⟩

theorem value_least : least.value = 2 ^ (-1074 : ℤ) := by
  rw [value, least, Nat.cast_one, one_mul, leastExponent]

/-- From half of it to the whole of it everything rounds to the least double. -/
theorem covers_least {q : ℚ} (low : 2 ^ (-1075 : ℤ) < q) (high : q ≤ least.value) :
    least.Covers q := by
  have hquarter := least.quarter_pos
  have hend : least.lowEnd = 2 := by decide
  have hunit : (2 : ℚ) ^ (-1075 : ℤ) = 2 ^ 1 * least.quarter := by
    rw [quarter, show least.exponent - 2 = -1076 from rfl]
    exact two_zpow_add (-1076) 1
  have hlow : (least.lowEnd : ℚ) * least.quarter < q := by
    rw [hend]
    refine lt_of_eq_of_lt ?_ low
    rw [hunit]
    norm_num
  have hhigh : q < (4 * least.mantissa + 2) * least.quarter := by
    refine high.trans_lt ?_
    rw [value_eq]
    exact mul_lt_mul_of_pos_right (by linarith) hquarter
  exact ⟨hlow.le, hhigh.le, fun _ => ⟨hlow, hhigh⟩⟩

/-- Above half of the least double nothing rounds to zero. -/
theorem mantissa_nearest_ne_zero {n d : Nat} (hd : 0 < d) (h : 2 ^ (-1075 : ℤ) < (n / d : ℚ)) :
    (nearest n d).mantissa ≠ 0 := by
  rcases le_total (n / d : ℚ) least.value with hle | hle
  · rw [nearest_eq least_canonical (by decide) hd (covers_least h hle)]
    decide
  · obtain ⟨hpos, hratio⟩ := least.ratio_spec
    have hmono := nearest_mono hpos hd (hratio.trans_le hle)
    rw [nearest_value least_canonical hpos hratio, value_least] at hmono
    intro hzero
    rw [value, hzero, Nat.cast_zero, zero_mul] at hmono
    exact absurd hmono (not_le.mpr (by positivity))

/-! ### Whole parts -/

theorem le_floor_iff {k : Nat} : k ≤ x.floor ↔ (k : ℚ) ≤ x.value := by
  obtain ⟨hd, hvalue⟩ := x.ratio_spec
  rw [floor, Nat.le_div_iff_mul_le hd, ← hvalue, le_div_iff₀ (by exact_mod_cast hd)]
  norm_cast

theorem floor_mono {y : Magnitude} (h : x.value ≤ y.value) : x.floor ≤ y.floor :=
  le_floor_iff.mpr ((le_floor_iff.mp le_rfl).trans h)

theorem floor_eq {k : Nat} (h : x.value = k) : x.floor = k :=
  Nat.le_antisymm (by exact_mod_cast h ▸ le_floor_iff.mp (le_refl x.floor))
    (le_floor_iff.mpr h.ge)

/-- Rounding is exact for naturals of up to 53 bits, and for the power of two behind them. -/
theorem value_nearest_natural {n d k : Nat} (hd : 0 < d) (hk : k ≤ 2 ^ 53) (h : (n / d : ℚ) = k) :
    (nearest n d).value = k := by
  rcases hk.lt_or_eq with hlt | rfl
  · have hvalue : (ofNat k).value = k := value_ofNat hlt
    rw [nearest_value (ofNat_canonical k) hd (h.trans hvalue.symm), hvalue]
  · have canonical : Canonical ⟨2 ^ 52, 1⟩ := ⟨by decide, by decide, .inr (by decide)⟩
    have hvalue : value ⟨2 ^ 52, 1⟩ = (2 ^ 53 : Nat) := by norm_num [value]
    rw [nearest_value canonical hd (h.trans hvalue.symm), hvalue]

/-- The whole part of what a number rounds to is not below its whole part. -/
theorem le_floor_nearest {n d k : Nat} (hd : 0 < d) (hk : k ≤ 2 ^ 53) (h : k ≤ (n / d : ℚ)) :
    k ≤ (nearest n d).floor := by
  have hself : ((k : Nat) / (1 : Nat) : ℚ) = k := by rw [Nat.cast_one, div_one]
  rw [le_floor_iff, ← value_nearest_natural Nat.one_pos hk hself]
  exact nearest_mono Nat.one_pos hd (hself.trans_le h)

theorem floor_nearest_le {n d k : Nat} (hd : 0 < d) (hk : k ≤ 2 ^ 53) (h : (n / d : ℚ) ≤ k) :
    (nearest n d).floor ≤ k := by
  have hself : ((k : Nat) / (1 : Nat) : ℚ) = k := by rw [Nat.cast_one, div_one]
  rw [← floor_eq (value_nearest_natural Nat.one_pos hk hself)]
  exact floor_mono (nearest_mono hd Nat.one_pos (h.trans_eq hself.symm))

/-- A number from two to the sixty-fourth on has no smaller whole part than that. -/
theorem two_pow_le_floor_nearest {n d : Nat} (hd : 0 < d) (h : 2 ^ 64 ≤ (n / d : ℚ)) :
    2 ^ 64 ≤ (nearest n d).floor := by
  have canonical : Canonical ⟨2 ^ 52, 12⟩ := ⟨by decide, by decide, .inr (by decide)⟩
  obtain ⟨hpos, hratio⟩ := ratio_spec ⟨2 ^ 52, 12⟩
  have hvalue : value ⟨2 ^ 52, 12⟩ = (2 ^ 64 : Nat) := by norm_num [value]
  rw [le_floor_iff, ← hvalue, ← nearest_value canonical hpos hratio]
  refine nearest_mono hpos hd ?_
  rw [hratio, hvalue]
  exact_mod_cast h

end Magnitude

/-! ### Reading decimals -/

namespace Scientific

open Magnitude

variable {x : Scientific}

theorem value_nonneg (x : Scientific) : 0 ≤ x.value := by
  unfold value
  positivity

/-- **Reading a decimal is rounding it: the shortcuts do not show.** -/
theorem magnitude?_eq (x : Scientific) : x.magnitude?
    = if x.value < overflowPoint then some (nearest x.ratio.1 x.ratio.2) else none := by
  obtain ⟨hd, hvalue⟩ := x.ratio_spec
  rw [magnitude?]
  split
  · rename_i hzero
    have hvalue' : x.value = 0 := by rw [value, hzero, Nat.cast_zero, zero_mul]
    have hsmall : 0 < overflowPoint := lt_overflowPoint (by norm_num)
    have hround : nearest x.ratio.1 x.ratio.2 = zero :=
      nearest_eq_zero hd (by rw [hvalue, hvalue']; positivity)
    rw [hvalue', if_pos hsmall, hround]
  rename_i hzero
  split
  · rename_i hlarge
    -- ten to the 310th is too large
    have hpow : 2 ^ 1024 ≤ 10 ^ 310 := by decide +kernel
    have hge : overflowPoint ≤ x.value := by
      calc overflowPoint ≤ 2 ^ (1024 : ℤ) := overflowPoint_lt.le
        _ ≤ 10 ^ (310 : ℤ) := by exact_mod_cast hpow
        _ ≤ 10 ^ x.leastPower := zpow_le_zpow_right₀ (by norm_num) (by omega)
        _ ≤ x.value := leastPower_le (Nat.pos_of_ne_zero hzero)
    rw [if_neg (not_lt.mpr hge)]
  split
  · rename_i hsmall
    -- ten to the -330th is less than half of the least double
    have hpow : 2 ^ 1075 ≤ 10 ^ 330 := by decide +kernel
    have hle : x.value ≤ 2 ^ (-1075 : ℤ) := by
      calc x.value ≤ 10 ^ x.greatestPower := value_lt_greatestPower.le
        _ ≤ 10 ^ (-330 : ℤ) := zpow_le_zpow_right₀ (by norm_num) hsmall.le
        _ ≤ 2 ^ (-1075 : ℤ) := by
          rw [zpow_neg, zpow_neg, inv_le_inv₀ (by positivity) (by positivity)]
          exact_mod_cast hpow
    rw [if_pos (lt_overflowPoint_of_small hle), nearest_eq_zero hd (by rwa [hvalue])]
  · dsimp only
    simp only [isFinite_nearest_iff hd, hvalue]

end Scientific

end Number

end ProjectViews
