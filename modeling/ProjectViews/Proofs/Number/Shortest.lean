/-
A double is the nearest one to its shortest decimal.

Any decimal in the interval around a magnitude would do, so all there is to see is that the
search finds one.  A decimal with seventeen significant digits is never further from the double
than the ends of the interval are, since ten to the sixteenth is more than two to the
fifty-third; so the search stops there at the latest.

Reading the nearest double has two shortcuts for numbers that are far too large or far too small.  They go by a
power of ten that the number is not below, and one that it is below, and no number that rounds
to a double other than zero is caught by them.
-/
import Mathlib.Data.List.TakeWhile
import ProjectViews.Json.Value
import ProjectViews.Proofs.Number.Digits
import ProjectViews.Proofs.Number.Rounding

namespace ProjectViews

namespace Number

/-! ### Reading decimals -/

namespace Scientific

/-- The number in scientific notation, without its sign. -/
def value (x : Scientific) : ℚ := x.coefficient * 10 ^ x.exponent

theorem ratio_spec (x : Scientific) : 0 < x.ratio.2 ∧ (x.ratio.1 / x.ratio.2 : ℚ) = x.value :=
  quotient_spec x.coefficient (show 0 < 10 by norm_num) x.exponent

/-- Ten bits are worth at least three decimal places. -/
theorem ten_pow_le_two_pow (bits : Nat) : 10 ^ (bits * 3 / 10) ≤ 2 ^ bits := by
  have h : (10 ^ (bits * 3 / 10)) ^ 10 ≤ (2 ^ bits) ^ 10 := by
    calc (10 ^ (bits * 3 / 10)) ^ 10 = 10 ^ (bits * 3 / 10 * 10) := (Nat.pow_mul _ _ _).symm
      _ ≤ 10 ^ (3 * bits) := Nat.pow_le_pow_right (by norm_num) (by omega)
      _ = (10 ^ 3) ^ bits := Nat.pow_mul _ _ _
      _ ≤ (2 ^ 10) ^ bits := Nat.pow_le_pow_left (by norm_num) bits
      _ = (2 ^ bits) ^ 10 := by rw [← Nat.pow_mul, ← Nat.pow_mul, Nat.mul_comm]
  exact (Nat.pow_le_pow_iff_left (by norm_num)).mp h

/-- A hundred bits are worth at most thirty-one decimal places. -/
theorem two_pow_le_ten_pow (bits : Nat) : 2 ^ bits ≤ 10 ^ (bits * 31 / 100 + 1) := by
  have h : (2 ^ bits) ^ 100 ≤ (10 ^ (bits * 31 / 100 + 1)) ^ 100 := by
    calc (2 ^ bits) ^ 100 = (2 ^ 100) ^ bits := by
          rw [← Nat.pow_mul, ← Nat.pow_mul, Nat.mul_comm]
      _ ≤ (10 ^ 31) ^ bits := Nat.pow_le_pow_left (by norm_num) bits
      _ = 10 ^ (31 * bits) := (Nat.pow_mul _ _ _).symm
      _ ≤ 10 ^ ((bits * 31 / 100 + 1) * 100) := Nat.pow_le_pow_right (by norm_num) (by omega)
      _ = (10 ^ (bits * 31 / 100 + 1)) ^ 100 := Nat.pow_mul _ _ _
  exact (Nat.pow_le_pow_iff_left (by norm_num)).mp h

variable {x : Scientific}

theorem leastPower_le (h : 0 < x.coefficient) : (10 : ℚ) ^ x.leastPower ≤ x.value := by
  have hcoefficient : (10 : ℚ) ^ (Nat.log2 x.coefficient * 3 / 10) ≤ x.coefficient := by
    exact_mod_cast (ten_pow_le_two_pow _).trans (Nat.log2_self_le (Nat.ne_of_gt h))
  rw [leastPower, zpow_add₀ (by norm_num), zpow_natCast, mul_comm, value]
  exact mul_le_mul_of_nonneg_right hcoefficient (by positivity)

theorem value_lt_greatestPower : x.value < (10 : ℚ) ^ x.greatestPower := by
  have hcoefficient : (x.coefficient : ℚ)
      < 10 ^ ((Nat.log2 x.coefficient + 1) * 31 / 100 + 1) := by
    exact_mod_cast Nat.lt_log2_self.trans_le (two_pow_le_ten_pow _)
  rw [greatestPower, zpow_add₀ (by norm_num), zpow_natCast, mul_comm, value]
  exact mul_lt_mul_of_pos_right hcoefficient (by positivity)

end Scientific

/-- What rounds to a double is not too large for the shortcut. -/
theorem Magnitude.Covers.lt_ten_zpow {m : Magnitude} {q : ℚ} (covers : m.Covers q)
    (canonical : m.Canonical) (finite : m.isFinite = true) : q < 10 ^ (309 : ℤ) := by
  have hexponent : m.exponent ≤ greatestExponent := by simpa [Magnitude.isFinite] using finite
  have hpow : 2 ^ 1024 ≤ 10 ^ 309 := by decide +kernel
  calc q < 2 ^ (m.exponent + 53) := covers.lt_two_zpow canonical
    _ ≤ 2 ^ (1024 : ℤ) := zpow_le_zpow_right₀ (by norm_num) (by
        unfold greatestExponent at hexponent
        omega)
    _ ≤ 10 ^ (309 : ℤ) := by exact_mod_cast hpow

/-- What rounds to a double other than zero is not too small for the shortcut. -/
theorem Magnitude.Covers.ten_zpow_le {m : Magnitude} {q : ℚ} (covers : m.Covers q)
    (canonical : m.Canonical) (hm : 0 < m.mantissa) : (10 : ℚ) ^ (-330 : ℤ) ≤ q := by
  have hleast := canonical.least
  have hend : 2 ≤ m.lowEnd := by
    unfold Magnitude.lowEnd
    split <;> omega
  have hpow : 2 ^ 1075 ≤ 10 ^ 330 := by decide +kernel
  calc (10 : ℚ) ^ (-330 : ℤ) ≤ 2 ^ (-1075 : ℤ) := by
        rw [zpow_neg, zpow_neg, inv_le_inv₀ (by positivity) (by positivity)]
        exact_mod_cast hpow
    _ ≤ 2 ^ (m.exponent - 2 + 1) := zpow_le_zpow_right₀ (by norm_num) (by
        unfold leastExponent at hleast
        omega)
    _ = 2 * m.quarter := by
        rw [Magnitude.quarter, zpow_add₀ (by norm_num)]
        ring
    _ ≤ m.lowEnd * m.quarter := by
        refine mul_le_mul_of_nonneg_right ?_ m.quarter_pos.le
        exact_mod_cast hend
    _ ≤ q := covers.low

/-- **A decimal that rounds to a double is read as that double.** -/
theorem Scientific.magnitude?_of_covers {x : Scientific} {m : Magnitude} (canonical : m.Canonical)
    (finite : m.isFinite = true) (hm : 0 < m.mantissa) (covers : m.Covers x.value) :
    x.magnitude? = some m := by
  have hpos := covers.pos hm
  have hcoefficient : 0 < x.coefficient := by
    rcases Nat.eq_zero_or_pos x.coefficient with h | h
    · rw [value, h] at hpos
      simp at hpos
    · exact h
  have hlarge : x.leastPower < 309 :=
    (zpow_lt_zpow_iff_right₀ (by norm_num : (1 : ℚ) < 10)).mp
      ((leastPower_le hcoefficient).trans_lt (covers.lt_ten_zpow canonical finite))
  have hsmall : -330 < x.greatestPower :=
    (zpow_lt_zpow_iff_right₀ (by norm_num : (1 : ℚ) < 10)).mp
      ((covers.ten_zpow_le canonical hm).trans_lt value_lt_greatestPower)
  obtain ⟨hratio, hvalue⟩ := x.ratio_spec
  have hnearest : Magnitude.nearest x.ratio.1 x.ratio.2 = m :=
    Magnitude.nearest_eq canonical hm hratio (by rwa [hvalue])
  rw [magnitude?, if_neg (Nat.ne_of_gt hcoefficient), if_neg (by omega), if_neg (by omega)]
  dsimp only
  rw [hnearest, if_pos finite]

/-! ### Decimal grids -/

namespace Magnitude

theorem gridPoint_spec (k : Nat) (place : ℤ) : 0 < (gridPoint k place).2 ∧
    ((gridPoint k place).1 / (gridPoint k place).2 : ℚ) = k * 10 ^ place :=
  Scientific.ratio_spec ⟨false, k, place⟩

theorem ratio_spec (x : Magnitude) : 0 < x.ratio.2 ∧ (x.ratio.1 / x.ratio.2 : ℚ) = x.value :=
  quotient_spec x.mantissa (show 0 < 2 by norm_num) x.exponent

variable {x : Magnitude}

theorem value_pos (hm : 0 < x.mantissa) : 0 < x.value := by
  have hm' : (0 : ℚ) < x.mantissa := by exact_mod_cast hm
  exact mul_pos hm' (by positivity)

theorem roundsFrom_gridPoint (k : Nat) (place : ℤ) :
    x.roundsFrom (gridPoint k place).1 (gridPoint k place).2 = true ↔
      x.Covers (k * 10 ^ place) := by
  obtain ⟨hpos, hvalue⟩ := gridPoint_spec k place
  rw [roundsFrom_iff x hpos, hvalue]

/-- What is found on a grid rounds to the magnitude. -/
theorem covers_of_onGrid? {k : Nat} {place : ℤ} (h : x.onGrid? place = some k) :
    x.Covers (k * 10 ^ place) := by
  rw [← roundsFrom_gridPoint]
  unfold onGrid? at h
  dsimp only at h
  split at h
  · split at h
    · rename_i hfits
      cases h
      exact hfits.2
    · cases h
  · split at h
    · rename_i hfits
      cases h
      exact hfits.1
    · split at h
      · rename_i hfits
        cases h
        exact hfits.2
      · cases h

/-- A number half a unit around a magnitude rounds to it, if there is room for ten to the
sixteenth units in the magnitude. -/
theorem covers_of_near (canonical : x.Canonical) (hm : 0 < x.mantissa) {unit q : ℚ}
    (hunit : 10 ^ 16 * unit ≤ x.value) (low : x.value - unit / 2 ≤ q)
    (high : q ≤ x.value + unit / 2) : x.Covers q := by
  have hquarter := x.quarter_pos
  have hmantissa : (x.mantissa : ℚ) + 1 ≤ 2 ^ 53 := by exact_mod_cast canonical.mantissa_lt
  have hvalue := x.value_eq
  have hproduct : (x.mantissa : ℚ) * x.quarter ≤ 2 ^ 53 * x.quarter :=
    mul_le_mul_of_nonneg_right (by linarith) hquarter.le
  -- half a unit is less than half of the distance to the next magnitude
  have hlow : x.lowEnd * x.quarter < q := by
    rcases lowEnd_cast hm with hend | ⟨hpower, -, hend⟩
    · rw [hend]
      linarith
    · have hpower' : (x.mantissa : ℚ) = 2 ^ 52 := by exact_mod_cast hpower
      rw [hend]
      rw [hpower'] at hvalue ⊢
      linarith
  have hhigh : q < (4 * x.mantissa + 2) * x.quarter := by linarith
  exact ⟨hlow.le, hhigh.le, fun _ => ⟨hlow, hhigh⟩⟩

/-- A fine grid has a neighbour of a magnitude, given as a quotient of units, that rounds to the
magnitude: the one below, or the one above, whichever is nearer. -/
theorem covers_neighbour (canonical : x.Canonical) (hm : 0 < x.mantissa) {unit : ℚ}
    (fine : 10 ^ 16 * unit ≤ x.value) (hunit : 0 < unit) {n d : Nat} (hd : 0 < d)
    (hvalue : (n / d : ℚ) * unit = x.value) :
    0 < n / d ∧ (2 * (n % d) ≤ d → x.Covers ((n / d : Nat) * unit)) ∧
      (d ≤ 2 * (n % d) → x.Covers ((n / d + 1 : Nat) * unit)) := by
  have hd' : (0 : ℚ) < d := by exact_mod_cast hd
  have hrest : x.value = (n / d : Nat) * unit + (n % d : Nat) / d * unit := by
    have hdiv : (n : ℚ) = d * (n / d : Nat) + (n % d : Nat) := by
      exact_mod_cast (Nat.div_add_mod n d).symm
    rw [← hvalue]
    conv_lhs => rw [hdiv]
    field_simp
  refine ⟨?_, fun hnear => ?_, fun hnear => ?_⟩
  · have hge : (10 : ℚ) ^ 16 ≤ n / d := by
      rw [← hvalue] at fine
      exact (mul_le_mul_iff_of_pos_right hunit).mp fine
    rw [le_div_iff₀ hd'] at hge
    have hge' : 10 ^ 16 * d ≤ n := by exact_mod_cast hge
    exact Nat.div_pos (by omega) hd
  · have hhalf : ((n % d : Nat) / d : ℚ) ≤ 1 / 2 := by
      rw [div_le_iff₀ hd']
      have : (2 * (n % d : Nat) : ℚ) ≤ d := by exact_mod_cast hnear
      linarith
    have hpos : (0 : ℚ) ≤ (n % d : Nat) / d * unit := by positivity
    refine covers_of_near canonical hm fine ?_ ?_
    · have := mul_le_mul_of_nonneg_right hhalf hunit.le
      linarith
    · linarith
  · have hhalf : (1 / 2 : ℚ) ≤ (n % d : Nat) / d := by
      rw [le_div_iff₀ hd']
      have : (d : ℚ) ≤ 2 * (n % d : Nat) := by exact_mod_cast hnear
      linarith
    have hlt : ((n % d : Nat) / d : ℚ) < 1 := by
      rw [div_lt_one hd']
      exact_mod_cast Nat.mod_lt n hd
    have hbelow := mul_le_mul_of_nonneg_right hhalf hunit.le
    have habove := mul_le_mul_of_nonneg_right hlt.le hunit.le
    rw [Nat.cast_add, Nat.cast_one, add_mul, one_mul]
    refine covers_of_near canonical hm fine ?_ ?_
    · linarith
    · linarith

/-- A grid that is fine enough has a decimal that rounds to the magnitude. -/
theorem exists_onGrid? (canonical : x.Canonical) (hm : 0 < x.mantissa) {place : ℤ}
    (fine : 10 ^ 16 * (10 : ℚ) ^ place ≤ x.value) : ∃ k, x.onGrid? place = some k := by
  obtain ⟨hd, hvalue⟩ := x.ratio_spec
  obtain ⟨hsd, hunit⟩ := gridPoint_spec 1 place
  rw [Nat.cast_one, one_mul] at hunit
  have hpos : (0 : ℚ) < 10 ^ place := by positivity
  have hsn : 0 < (gridPoint 1 place).1 := by
    rcases Nat.eq_zero_or_pos (gridPoint 1 place).1 with h | h
    · rw [h, Nat.cast_zero, zero_div] at hunit
      linarith
    · exact h
  have hquotient : ((x.ratio.1 * (gridPoint 1 place).2 : Nat)
      / (x.ratio.2 * (gridPoint 1 place).1 : Nat) : ℚ) * 10 ^ place = x.value := by
    rw [← hunit, ← hvalue]
    have hd' : (x.ratio.2 : ℚ) ≠ 0 := by exact_mod_cast Nat.ne_of_gt hd
    have hsd' : ((gridPoint 1 place).2 : ℚ) ≠ 0 := by exact_mod_cast Nat.ne_of_gt hsd
    have hsn' : ((gridPoint 1 place).1 : ℚ) ≠ 0 := by exact_mod_cast Nat.ne_of_gt hsn
    push_cast
    field_simp
  obtain ⟨hbelow, hlow, hhigh⟩ :=
    covers_neighbour canonical hm fine hpos (Nat.mul_pos hd hsn) hquotient
  rw [← roundsFrom_gridPoint] at hlow hhigh
  unfold onGrid?
  dsimp only
  split
  · rename_i hrest
    exact ⟨_, if_pos ⟨hbelow, hlow (by omega)⟩⟩
  · split
    · exact ⟨_, rfl⟩
    · rename_i habove
      have hnear : 2 * (x.ratio.1 * (gridPoint 1 place).2 % (x.ratio.2 * (gridPoint 1 place).1))
          ≤ x.ratio.2 * (gridPoint 1 place).1 := by
        by_contra hfar
        exact habove ⟨hhigh (by omega), Or.inl (Or.inl (by omega))⟩
      exact ⟨_, if_pos ⟨hbelow, hlow hnear⟩⟩

/-! ### The search for a grid -/

/-- A search downwards from some power of ten ends below the number, if it reaches that far. -/
theorem powerFrom_le {n d : Nat} (hd : 0 < d) (tries : Nat) {p : ℤ}
    (h : (10 : ℚ) ^ (p - tries) ≤ n / d) : (10 : ℚ) ^ powerFrom n d tries p ≤ n / d := by
  induction tries generalizing p with
  | zero =>
      rw [powerFrom]
      simpa using h
  | succ tries ih =>
      rw [powerFrom]
      split
      · rename_i hfound
        obtain ⟨hsd, hunit⟩ := gridPoint_spec 1 p
        have hd' : (0 : ℚ) < d := by exact_mod_cast hd
        have hsd' : (0 : ℚ) < (gridPoint 1 p).2 := by exact_mod_cast hsd
        rw [Nat.cast_one, one_mul] at hunit
        rw [← hunit, div_le_div_iff₀ hsd' hd']
        exact_mod_cast hfound
      · refine ih ?_
        rwa [show p - 1 - (tries : ℤ) = p - (tries + 1 : Nat) by push_cast; ring]

/-- The power of ten of a magnitude is not above it. -/
theorem power_le (canonical : x.Canonical) (finite : x.isFinite = true) (hm : 0 < x.mantissa) :
    (10 : ℚ) ^ x.power ≤ x.value := by
  obtain ⟨hd, hvalue⟩ := x.ratio_spec
  have hd' : (0 : ℚ) < x.ratio.2 := by exact_mod_cast hd
  have hn : 0 < x.ratio.1 := by
    have hpos := value_pos hm
    rw [← hvalue, div_pos_iff_of_pos_right hd'] at hpos
    exact_mod_cast hpos
  have hm' : (1 : ℚ) ≤ x.mantissa := by exact_mod_cast hm
  have hmantissa : (x.mantissa : ℚ) < 2 ^ 53 := by exact_mod_cast canonical.mantissa_lt
  have hunit : (0 : ℚ) < 2 ^ x.exponent := by positivity
  obtain ⟨hlow, hhigh⟩ := floorLog2_spec hn hd
  rw [hvalue] at hlow hhigh
  have hleast : x.exponent < floorLog2 x.ratio.1 x.ratio.2 + 1 := by
    refine (zpow_lt_zpow_iff_right₀ (by norm_num : (1 : ℚ) < 2)).mp (lt_of_le_of_lt ?_ hhigh)
    exact le_mul_of_one_le_left hunit.le hm'
  have hgreatest : floorLog2 x.ratio.1 x.ratio.2 < 53 + x.exponent := by
    refine (zpow_lt_zpow_iff_right₀ (by norm_num : (1 : ℚ) < 2)).mp (hlow.trans_lt ?_)
    rw [zpow_add₀ (by norm_num)]
    exact mul_lt_mul_of_pos_right (by exact_mod_cast hmantissa) hunit
  have hexponent := canonical.least
  have hfinite : x.exponent ≤ greatestExponent := by simpa [isFinite] using finite
  unfold leastExponent at hexponent
  unfold greatestExponent at hfinite
  rw [← hvalue]
  unfold power
  dsimp only
  refine powerFrom_le hd 400 ?_
  rw [hvalue]
  generalize hstart : (if 0 ≤ floorLog2 x.ratio.1 x.ratio.2 + 1
    then (floorLog2 x.ratio.1 x.ratio.2 + 1) * 31 / 100 + 1
    else (floorLog2 x.ratio.1 x.ratio.2 + 1) * 30 / 100 + 1) = start
  -- the search goes down so far that eight may stand for ten
  obtain ⟨j, hj⟩ : ∃ j : Nat, start - (400 : Nat) = -j := ⟨(400 - start).toNat, by
    split at hstart <;> omega⟩
  calc (10 : ℚ) ^ (start - (400 : Nat)) = ((10 : ℚ) ^ j)⁻¹ := by rw [hj, zpow_neg, zpow_natCast]
    _ ≤ ((8 : ℚ) ^ j)⁻¹ := by gcongr; norm_num
    _ = 2 ^ (-(3 * j : Nat) : ℤ) := by
      rw [zpow_neg, zpow_natCast, pow_mul]
      norm_num
    _ ≤ 2 ^ floorLog2 x.ratio.1 x.ratio.2 := zpow_le_zpow_right₀ (by norm_num) (by
      split at hstart <;> omega)
    _ ≤ x.value := hlow

theorem covers_of_firstGrid {power : ℤ} {tries places k : Nat} {place : ℤ}
    (h : x.firstGrid power tries places = some (k, place)) : x.Covers (k * 10 ^ place) := by
  induction tries generalizing places with
  | zero => cases h
  | succ tries ih =>
      rw [firstGrid] at h
      split at h
      · rename_i hgrid
        cases h
        exact covers_of_onGrid? hgrid
      · exact ih h

/-- The search comes to a grid with seventeen digits, and ends there at the latest. -/
theorem exists_firstGrid (canonical : x.Canonical) (hm : 0 < x.mantissa) {power : ℤ}
    (hpower : (10 : ℚ) ^ power ≤ x.value) {tries places : Nat} (hplaces : places ≤ 17)
    (htries : 17 < places + tries) : ∃ found, x.firstGrid power tries places = some found := by
  induction tries generalizing places with
  | zero => omega
  | succ tries ih =>
      rw [firstGrid]
      cases hgrid : x.onGrid? (power + 1 - places) with
      | some k => exact ⟨_, rfl⟩
      | none =>
          have hcoarse : places ≠ 17 := by
            rintro rfl
            have fine : 10 ^ 16 * (10 : ℚ) ^ (power + 1 - (17 : Nat)) ≤ x.value := by
              refine le_trans (le_of_eq ?_) hpower
              rw [← zpow_natCast, ← zpow_add₀ (by norm_num)]
              congr 1
              push_cast
              ring
            obtain ⟨k, hk⟩ := exists_onGrid? canonical hm fine
            rw [hgrid] at hk
            cases hk
          exact ih (by omega) (by omega)

end Magnitude

/-! ### The shortest decimal -/

namespace Magnitude

/-- What was dropped were zeros. -/
theorem dropTrailingZeros_append (ds : List Digit) :
    ∃ n, dropTrailingZeros ds ++ List.replicate n .zero = ds := by
  refine ⟨(ds.reverse.takeWhile (· == .zero)).length, ?_⟩
  have hzeros : List.replicate (ds.reverse.takeWhile (· == .zero)).length Digit.zero
      = (ds.reverse.takeWhile (· == .zero)).reverse := by
    refine (List.eq_replicate_iff.mpr ⟨List.length_reverse, fun d hd => ?_⟩).symm
    have := List.mem_takeWhile_imp (List.mem_reverse.mp hd)
    simpa using this
  rw [hzeros, dropTrailingZeros, ← List.reverse_append, List.takeWhile_append_dropWhile,
    List.reverse_reverse]

end Magnitude

/-- The number that significant digits stand for. -/
def Significant.value (s : Significant) : ℚ :=
  ofDigits s.digits * 10 ^ (s.point - (s.digits.length : ℤ))

/-- **The shortest decimal of a magnitude rounds to it.** -/
theorem Magnitude.covers_shortest {x : Magnitude} (canonical : x.Canonical)
    (finite : x.isFinite = true) (hm : 0 < x.mantissa) : x.Covers x.shortest.value := by
  obtain ⟨⟨k, place⟩, hfound⟩ := exists_firstGrid canonical hm (power_le canonical finite hm)
    (show 1 ≤ 17 by norm_num) (show 17 < 1 + 17 by norm_num)
  have hcovers := covers_of_firstGrid hfound
  obtain ⟨n, hzeros⟩ := dropTrailingZeros_append (digits k)
  have hvalue : x.shortest.value = k * 10 ^ place := by
    have hk : k = ofDigits (dropTrailingZeros (digits k)) * 10 ^ n := by
      conv_lhs => rw [← ofDigits_digits k, ← hzeros, ofDigits_append, ofDigits_zeros,
        List.length_replicate, Nat.add_zero]
    have hlength : ((digits k).length : ℤ) = (dropTrailingZeros (digits k)).length + n := by
      conv_lhs => rw [← hzeros, List.length_append, List.length_replicate, Nat.cast_add]
    rw [Significant.value, shortest, hfound]
    dsimp only
    conv_rhs => rw [hk]
    rw [hlength]
    push_cast
    rw [show place + ((dropTrailingZeros (digits k)).length + n : ℤ)
        - (dropTrailingZeros (digits k)).length = n + place by ring, zpow_add₀ (by norm_num),
      zpow_natCast]
    ring
  rwa [hvalue]

/-- A double in normal form. -/
structure Double.Canonical (x : Double) : Prop where
  magnitude : x.magnitude.Canonical
  finite : x.magnitude.isFinite = true

end Number

namespace Json

open Number

/-- The number that a numeral stands for: its digits, and where the point is. -/
theorem Numeral.scientific_value (n : Numeral) : n.scientific.value
    = (n.whole * 10 ^ n.fraction.length + ofDigits n.fraction : Nat)
      * 10 ^ (n.exponent.getD 0 - n.fraction.length) := by
  rw [scientific, Scientific.value]
  dsimp only
  rw [ofDigitsFrom_eq]

/-- The number that is written for a double other than zero is its shortest decimal, with a
point or an exponent. -/
theorem numeralOf_spec {x : Double} (hm : x.magnitude.mantissa ≠ 0)
    (hdigits : x.magnitude.shortest.digits ≠ []) :
    (numeralOf x).isWhole = false ∧ (numeralOf x).negative = x.negative ∧
      (numeralOf x).scientific.value = x.magnitude.shortest.value := by
  generalize hs : x.magnitude.shortest = s at hdigits
  obtain ⟨ds, point⟩ := s
  have hlength : 0 < ds.length := List.length_pos_iff.mpr hdigits
  have hsplit : ∀ n, ofDigits (ds.take n) * 10 ^ (ds.drop n).length + ofDigits (ds.drop n)
      = ofDigits ds := by
    intro n
    rw [← ofDigits_append, List.take_append_drop]
  rw [Numeral.scientific_value, Significant.value]
  unfold numeralOf
  rw [if_neg hm, hs]
  dsimp only
  split
  · -- with an exponent: one digit in front of the point
    refine ⟨by simp [Numeral.isWhole], rfl, ?_⟩
    dsimp only
    rw [hsplit, List.length_drop, Option.getD_some, Nat.cast_sub hlength]
    congr 2
    push_cast
    ring
  · split
    · -- below one: zeros in front of the digits
      refine ⟨by simp [Numeral.isWhole, hdigits], rfl, ?_⟩
      dsimp only
      rw [ofDigits_zeros_append, Nat.zero_mul, Nat.zero_add, List.length_append,
        List.length_replicate, Option.getD_none]
      congr 2
      omega
    · split
      · -- a whole number: zeros behind the digits, and one behind the point
        refine ⟨rfl, rfl, ?_⟩
        obtain ⟨n, hn⟩ := Int.eq_ofNat_of_zero_le (show 0 ≤ point - (ds.length : ℤ) by omega)
        dsimp only
        rw [hn, Int.toNat_natCast, zpow_natCast]
        simp [ofDigits, ofDigitsFrom, Digit.zero]
      · -- the point among the digits
        have hfraction : ds.drop point.toNat ≠ [] := by
          rw [Ne, List.drop_eq_nil_iff]
          omega
        refine ⟨by simp [Numeral.isWhole, hfraction], rfl, ?_⟩
        dsimp only
        rw [hsplit, List.length_drop, Option.getD_none]
        congr 2
        omega

/-- **The number that is written for a double is no integer, and the double is the nearest one to
it.** -/
theorem numeralOf_exact {x : Double} (h : x.Canonical) :
    (numeralOf x).isWhole = false ∧ (numeralOf x).scientific.double? = some x := by
  obtain ⟨negative, m⟩ := x
  obtain ⟨canonical, finite⟩ := h
  dsimp only at canonical finite
  by_cases hm : m.mantissa = 0
  · have hzero : m = Magnitude.zero := by
      obtain ⟨mantissa, exponent⟩ := m
      obtain rfl : mantissa = 0 := hm
      rcases canonical.normal with hleast | hnormal
      · rw [Magnitude.zero]
        congr 1
      · exact absurd hnormal (by norm_num)
    rw [numeralOf, if_pos hm, hzero]
    exact ⟨rfl, rfl⟩
  · have hpos := Nat.pos_of_ne_zero hm
    have covers := Magnitude.covers_shortest canonical finite hpos
    have hdigits : m.shortest.digits ≠ [] := by
      intro hnil
      have hvalue := covers.pos hpos
      rw [Significant.value, hnil] at hvalue
      simp [ofDigits, ofDigitsFrom] at hvalue
    obtain ⟨hwhole, hnegative, hvalue⟩ :=
      numeralOf_spec (x := ⟨negative, m⟩) hm hdigits
    rw [← hvalue] at covers
    have hread := Scientific.magnitude?_of_covers canonical finite hpos covers
    refine ⟨hwhole, ?_⟩
    rw [Scientific.double?, hread]
    show some (Double.mk (numeralOf ⟨negative, m⟩).negative m) = _
    rw [hnegative]

end Json

end ProjectViews
