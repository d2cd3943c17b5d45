/-
Rounding to a double keeps the order of numbers.

Of two numbers the greater one never rounds to the smaller double, however close they are and
wherever they lie.  Within one exponent this is rounding to a natural, where only a tie could
go wrong, and ties go to the even one for both; across exponents there is a power of two between
the two results.

A double rounds to itself, and so does whatever is above it by less than a part in two to the
fifty-fourth.  A result is never further from the number than half a unit in the last place.
-/
import ProjectViews.Proofs.Number.Shortest

namespace ProjectViews

namespace Number

/-! ### Rounding to a natural -/

/-- A rounded quotient is at most half a unit away from the quotient, and less if it is odd. -/
theorem roundQuotient_spec (n : Nat) {d : Nat} (hd : 0 < d) :
    ((roundQuotient n d : ℚ) - 1 / 2 ≤ n / d ∧ (n / d : ℚ) ≤ roundQuotient n d + 1 / 2) ∧
      (roundQuotient n d % 2 = 1 →
        (roundQuotient n d : ℚ) - 1 / 2 < n / d ∧ (n / d : ℚ) < roundQuotient n d + 1 / 2) := by
  have hd' : (0 : ℚ) < d := by exact_mod_cast hd
  have hdiv : (n : ℚ) = d * (n / d : Nat) + (n % d : Nat) := by
    exact_mod_cast (Nat.div_add_mod n d).symm
  have hrest : ((n % d : Nat) : ℚ) < d := by exact_mod_cast Nat.mod_lt n hd
  have hzero : (0 : ℚ) ≤ (n % d : Nat) := Nat.cast_nonneg _
  rw [le_div_iff₀ hd', div_le_iff₀ hd', lt_div_iff₀ hd', div_lt_iff₀ hd']
  unfold roundQuotient
  dsimp only
  split
  · rename_i habove
    have hhalf : (d : ℚ) ≤ 2 * (n % d : Nat) := by
      rcases habove with h | h
      · exact_mod_cast h.le
      · exact_mod_cast h.1.le
    have hodd : (n / d + 1) % 2 = 1 → (d : ℚ) < 2 * (n % d : Nat) := by
      intro heven
      rcases habove with h | h
      · exact_mod_cast h
      · omega
    push_cast
    refine ⟨⟨by linarith, by linarith⟩, fun h => ⟨?_, by linarith⟩⟩
    have := hodd h
    linarith
  · rename_i hbelow
    rw [not_or, not_lt, not_and] at hbelow
    have hhalf : 2 * ((n % d : Nat) : ℚ) ≤ d := by exact_mod_cast hbelow.1
    have hodd : n / d % 2 = 1 → 2 * ((n % d : Nat) : ℚ) < d := by
      intro h
      have hne : d ≠ 2 * (n % d) := fun heq => hbelow.2 heq h
      exact_mod_cast lt_of_le_of_ne hbelow.1 (Ne.symm hne)
    refine ⟨⟨by linarith, by linarith⟩, fun h => ⟨by linarith, ?_⟩⟩
    have := hodd h
    linarith

/-- A greater quotient is rounded to a natural that is not smaller. -/
theorem roundQuotient_mono {n d n' d' : Nat} (hd : 0 < d) (hd' : 0 < d')
    (h : (n / d : ℚ) ≤ n' / d') : roundQuotient n d ≤ roundQuotient n' d' := by
  obtain ⟨⟨hlow, -⟩, hodd⟩ := roundQuotient_spec n hd
  obtain ⟨⟨-, hhigh⟩, hodd'⟩ := roundQuotient_spec n' hd'
  by_contra hlt
  rw [not_le] at hlt
  have hgap : (roundQuotient n' d' : ℚ) + 1 ≤ roundQuotient n d := by exact_mod_cast hlt
  -- both would lie just between the two, and one of these is odd
  have hnext : roundQuotient n d = roundQuotient n' d' + 1 := by
    have : (roundQuotient n d : ℚ) = roundQuotient n' d' + 1 := by linarith
    exact_mod_cast this
  rcases Nat.mod_two_eq_zero_or_one (roundQuotient n d) with heven | hodd_n
  · have := (hodd' (by omega)).2
    linarith
  · have := (hodd hodd_n).1
    linarith

/-- A greater number has a logarithm that is not smaller. -/
theorem floorLog2_mono {n d n' d' : Nat} (hn : 0 < n) (hd : 0 < d) (hd' : 0 < d')
    (h : (n / d : ℚ) ≤ n' / d') : floorLog2 n d ≤ floorLog2 n' d' := by
  have hpos : (0 : ℚ) < n / d := div_pos (by exact_mod_cast hn) (by exact_mod_cast hd)
  have hn' : 0 < n' := by
    rcases Nat.eq_zero_or_pos n' with rfl | hn'
    · simp only [Nat.cast_zero, zero_div] at h
      exact absurd h (not_le.mpr hpos)
    · exact hn'
  have hlt : (2 : ℚ) ^ floorLog2 n d < 2 ^ (floorLog2 n' d' + 1) :=
    (floorLog2_spec hn hd).1.trans_lt (h.trans_lt (floorLog2_spec hn' hd').2)
  exact Int.lt_add_one_iff.mp ((zpow_lt_zpow_iff_right₀ (by norm_num)).mp hlt)

namespace Magnitude

/-! ### Rounding to a double -/

theorem roundAt_mono {n d n' d' : Nat} (hd : 0 < d) (hd' : 0 < d') (e : ℤ)
    (h : (n / d : ℚ) ≤ n' / d') : roundAt n d e ≤ roundAt n' d' e := by
  obtain ⟨a, b, hb, hround, hratio⟩ := roundAt_eq_roundQuotient n hd e
  obtain ⟨a', b', hb', hround', hratio'⟩ := roundAt_eq_roundQuotient n' hd' e
  rw [← hratio, ← hratio', mul_le_mul_iff_of_pos_right (by positivity)] at h
  rw [hround, hround']
  exact roundQuotient_mono hb hb' h

@[simp] theorem value_zero : zero.value = 0 := by simp [value, zero]

/-- The double is the rounded multiple of the unit, also where it has the next exponent. -/
theorem value_nearest {n d : Nat} (hn : 0 < n) :
    (nearest n d).value = roundAt n d (exponentFor n d) * 2 ^ exponentFor n d := by
  rw [nearest, if_neg (Nat.ne_of_gt hn)]
  dsimp only
  split
  · rename_i hcarry
    have hpow : (Nat.pow 2 53 : ℚ) = Nat.pow 2 52 * 2 := by norm_num
    rw [hcarry, value, zpow_add_one₀ (by norm_num)]
    push_cast [hpow]
    ring
  · rfl

theorem exponentFor_mono {n d n' d' : Nat} (hn : 0 < n) (hd : 0 < d) (hd' : 0 < d')
    (h : (n / d : ℚ) ≤ n' / d') : exponentFor n d ≤ exponentFor n' d' := by
  have := floorLog2_mono hn hd hd' h
  unfold exponentFor
  omega

/-- **Of two numbers the greater one does not round to the smaller double.** -/
theorem nearest_mono {n d n' d' : Nat} (hd : 0 < d) (hd' : 0 < d')
    (h : (n / d : ℚ) ≤ n' / d') : (nearest n d).value ≤ (nearest n' d').value := by
  rcases Nat.eq_zero_or_pos n with rfl | hn
  · rw [nearest, if_pos rfl, value_zero, value]
    positivity
  have hn' : 0 < n' := by
    rcases Nat.eq_zero_or_pos n' with rfl | hn'
    · have hpos : (0 : ℚ) < n / d := div_pos (by exact_mod_cast hn) (by exact_mod_cast hd)
      simp only [Nat.cast_zero, zero_div] at h
      exact absurd h (not_le.mpr hpos)
    · exact hn'
  rw [value_nearest hn, value_nearest hn']
  rcases (exponentFor_mono hn hd hd' h).eq_or_lt with hsame | hless
  · rw [hsame]
    refine mul_le_mul_of_nonneg_right ?_ (by positivity)
    exact_mod_cast roundAt_mono hd hd' _ h
  · -- the power of two where the greater exponent begins lies between the two
    obtain ⟨-, hhigh⟩ := floorLog2_spec hn hd
    obtain ⟨hlow, -⟩ := floorLog2_spec hn' hd'
    have hlog : floorLog2 n d + 1 ≤ 53 + exponentFor n d := by
      unfold exponentFor
      omega
    have hlog' : 52 + exponentFor n' d' = floorLog2 n' d' := by
      unfold exponentFor at hless ⊢
      omega
    have hle : roundAt n d (exponentFor n d) ≤ Nat.pow 2 53 := by
      refine roundAt_le hd ?_
      calc (n / d : ℚ) ≤ 2 ^ (floorLog2 n d + 1) := hhigh.le
        _ ≤ 2 ^ (53 + exponentFor n d) := zpow_le_zpow_right₀ (by norm_num) hlog
        _ = (Nat.pow 2 53 : Nat) * 2 ^ exponentFor n d := by
          rw [zpow_add₀ (by norm_num)]
          norm_cast
    have hge : Nat.pow 2 52 ≤ roundAt n' d' (exponentFor n' d') := by
      refine le_roundAt hd' ?_
      calc ((Nat.pow 2 52 : Nat) : ℚ) * 2 ^ exponentFor n' d' = 2 ^ (52 + exponentFor n' d') := by
            rw [zpow_add₀ (by norm_num)]
            norm_cast
        _ ≤ n' / d' := by rwa [hlog']
    calc (roundAt n d (exponentFor n d) : ℚ) * 2 ^ exponentFor n d
        ≤ (Nat.pow 2 53 : Nat) * 2 ^ exponentFor n d := by gcongr
      _ = 2 ^ (exponentFor n d + 53) := by
        rw [add_comm, zpow_add₀ (by norm_num)]
        norm_cast
      _ ≤ 2 ^ (52 + exponentFor n' d') := zpow_le_zpow_right₀ (by norm_num) (by omega)
      _ = (Nat.pow 2 52 : Nat) * 2 ^ exponentFor n' d' := by
        rw [zpow_add₀ (by norm_num)]
        norm_cast
      _ ≤ roundAt n' d' (exponentFor n' d') * 2 ^ exponentFor n' d' := by gcongr

/-- A result is at most half a unit in the last place away from the number. -/
theorem sub_half_le_nearest {n d : Nat} (hn : 0 < n) (hd : 0 < d) :
    (n / d : ℚ) - 1 / 2 * 2 ^ exponentFor n d ≤ (nearest n d).value := by
  obtain ⟨a, b, hb, hround, hratio⟩ := roundAt_eq_roundQuotient n hd (exponentFor n d)
  have hhalf := (roundQuotient_spec a hb).1.2
  rw [value_nearest hn, hround, ← hratio, ← sub_mul]
  exact mul_le_mul_of_nonneg_right (by linarith) (by positivity)

/-- What is not below a double, nor above it by more than a part in two to the fifty-fourth,
rounds to it. -/
theorem nearest_eq_of_close {x : Magnitude} (canonical : x.Canonical) (hm : 0 < x.mantissa)
    {n d : Nat} (hd : 0 < d) (low : x.value ≤ n / d)
    (high : (n / d : ℚ) ≤ x.value * (1 + 1 / 2 ^ 54)) : nearest n d = x := by
  have hquarter := x.quarter_pos
  have hm' : (x.mantissa : ℚ) + 1 ≤ 2 ^ 53 := by exact_mod_cast canonical.mantissa_lt
  have hend : (x.lowEnd : ℚ) < 4 * x.mantissa := by
    rcases lowEnd_cast hm with h | ⟨-, -, h⟩
    · rw [h]
      linarith
    · rw [h]
      linarith
  have hlow : (x.lowEnd : ℚ) * x.quarter < n / d := by
    refine lt_of_lt_of_le ?_ low
    rw [value_eq]
    exact mul_lt_mul_of_pos_right hend hquarter
  have hhigh : (n / d : ℚ) < (4 * x.mantissa + 2) * x.quarter := by
    refine lt_of_le_of_lt high ?_
    rw [value_eq, mul_right_comm]
    refine mul_lt_mul_of_pos_right ?_ hquarter
    have hpart : (4 * x.mantissa : ℚ) * (1 / 2 ^ 54) < 2 := by
      rw [mul_one_div, div_lt_iff₀ (by norm_num)]
      linarith
    linarith
  exact nearest_eq canonical hm hd ⟨hlow.le, hhigh.le, fun _ => ⟨hlow, hhigh⟩⟩

/-- A double rounds to itself. -/
theorem nearest_value {x : Magnitude} (canonical : x.Canonical) {n d : Nat} (hd : 0 < d)
    (h : (n / d : ℚ) = x.value) : (nearest n d).value = x.value := by
  rcases Nat.eq_zero_or_pos x.mantissa with hzero | hm
  · have hvalue : x.value = 0 := by rw [value, hzero, Nat.cast_zero, zero_mul]
    have hn : n = 0 := by
      rw [hvalue, div_eq_zero_iff] at h
      rcases h with h | h
      · exact_mod_cast h
      · exact absurd (by exact_mod_cast h) (Nat.ne_of_gt hd)
    rw [hn, nearest, if_pos rfl, value_zero, hvalue]
  · have hvalue : 0 ≤ x.value := (value_pos hm).le
    rw [nearest_eq_of_close canonical hm hd h.ge (by rw [h]; linarith)]

/-! ### Comparing, multiplying and naturals -/

theorem le_iff_value {x y : Magnitude} : x.le y = true ↔ x.value ≤ y.value := by
  obtain ⟨hx, hxvalue⟩ := x.ratio_spec
  obtain ⟨hy, hyvalue⟩ := y.ratio_spec
  rw [le, decide_eq_true_iff, ← hxvalue, ← hyvalue, quotient_le_iff hx hy]

/-- A product is the rounded product of the numbers. -/
theorem mul_eq_nearest (x y : Magnitude) : ∃ n d : Nat, 0 < d ∧ x.mul y = nearest n d ∧
    (n / d : ℚ) = x.value * y.value := by
  obtain ⟨hx, hxvalue⟩ := x.ratio_spec
  obtain ⟨hy, hyvalue⟩ := y.ratio_spec
  refine ⟨_, _, Nat.mul_pos hx hy, rfl, ?_⟩
  rw [← hxvalue, ← hyvalue, Nat.cast_mul, Nat.cast_mul, mul_div_mul_comm]

theorem ofNat_canonical (n : Nat) : (ofNat n).Canonical := nearest_canonical n Nat.one_pos

theorem ofNat_mono {n m : Nat} (h : n ≤ m) : (ofNat n).value ≤ (ofNat m).value := by
  refine nearest_mono Nat.one_pos Nat.one_pos ?_
  rw [Nat.cast_one, div_one, div_one]
  exact_mod_cast h

/-- Rounding is exact for naturals of up to 53 bits. -/
theorem value_ofNat {n : Nat} (h : n < Nat.pow 2 53) : (ofNat n).value = n := by
  rcases Nat.eq_zero_or_pos n with rfl | hn
  · rw [ofNat, nearest, if_pos rfl, value_zero, Nat.cast_zero]
  obtain ⟨hlow, -⟩ := floorLog2_spec hn Nat.one_pos
  rw [Nat.cast_one, div_one] at hlow
  have hlog : floorLog2 n 1 < 53 := by
    refine (zpow_lt_zpow_iff_right₀ (by norm_num : (1 : ℚ) < 2)).mp (hlow.trans_lt ?_)
    exact_mod_cast h
  have hexponent : exponentFor n 1 ≤ 0 := by
    unfold exponentFor leastExponent
    omega
  rw [ofNat, value_nearest hn]
  -- the unit is the inverse of a natural, of which every natural is a multiple
  have hround : roundAt n 1 (exponentFor n 1) = n * Nat.pow 2 (-exponentFor n 1).toNat := by
    have hunit : (2 : ℚ) ^ exponentFor n 1 * (Nat.pow 2 (-exponentFor n 1).toNat : Nat) = 1 := by
      rw [← zpow_of_nonneg 2 (show 0 ≤ -exponentFor n 1 by omega), Nat.cast_ofNat,
        ← zpow_add₀ (by norm_num), add_neg_cancel, zpow_zero]
    have hexact : ((n * Nat.pow 2 (-exponentFor n 1).toNat : Nat) : ℚ) * 2 ^ exponentFor n 1
        = (n : ℚ) / (1 : Nat) := by
      rw [Nat.cast_mul, mul_assoc, mul_comm ((_ : Nat) : ℚ) (2 ^ _), hunit, Nat.cast_one, mul_one,
        div_one]
    exact Nat.le_antisymm (roundAt_le Nat.one_pos hexact.ge) (le_roundAt Nat.one_pos hexact.le)
  rw [hround, Nat.cast_mul, mul_assoc, ← zpow_of_nonneg 2 (show 0 ≤ -exponentFor n 1 by omega),
    Nat.cast_ofNat, ← zpow_add₀ (by norm_num), neg_add_cancel, zpow_zero, mul_one]

end Magnitude

end Number

end ProjectViews
