/-
Which numbers round to a double.

A double stands for a rational number, and the numbers that round to it are those of an
interval around it: `Covers` says which.  The ends belong to the interval when the mantissa is
even, and the lower end of a power of two is nearer than the upper one, since the doubles
below it lie closer together.  `nearest_eq` says that rounding gives back the double of the
interval, so nothing has to be known about how a number was written to know what it is read as.

What rounding gives is in a normal form: no two of its magnitudes stand for the same number.
-/
import Mathlib.Algebra.Order.Field.Power
import Mathlib.Algebra.Order.Field.Rat
import Mathlib.Tactic.FieldSimp
import Mathlib.Tactic.Linarith
import Mathlib.Tactic.NormNum
import Mathlib.Tactic.Positivity
import Mathlib.Tactic.Ring
import ProjectViews.Number.Shortest

namespace ProjectViews

namespace Number

/-! ### Powers -/

theorem zpow_of_nonneg (b : Nat) {e : ℤ} (h : 0 ≤ e) : (b : ℚ) ^ e = (Nat.pow b e.toNat : Nat) := by
  conv_lhs => rw [← Int.toNat_of_nonneg h]
  rw [zpow_natCast]
  norm_cast

theorem zpow_of_neg (b : Nat) {e : ℤ} (h : ¬ 0 ≤ e) :
    (b : ℚ) ^ e = ((Nat.pow b (-e).toNat : Nat) : ℚ)⁻¹ := by
  rw [← zpow_of_nonneg b (show 0 ≤ -e by omega), zpow_neg, inv_inv]

/-- A multiple of a power as a quotient of naturals. -/
theorem quotient_spec (m : Nat) {b : Nat} (hb : 0 < b) (e : ℤ) :
    let r := if 0 ≤ e then (m * Nat.pow b e.toNat, 1) else (m, Nat.pow b (-e).toNat)
    0 < r.2 ∧ (r.1 / r.2 : ℚ) = m * b ^ e := by
  dsimp only
  split
  · rename_i h
    rw [zpow_of_nonneg b h]
    exact ⟨Nat.one_pos, by simp⟩
  · rename_i h
    rw [zpow_of_neg b h, div_eq_mul_inv]
    exact ⟨Nat.pow_pos hb, rfl⟩

/-! ### Quotients of naturals -/

/-- A number is rounded to the natural that it lies half a unit around. -/
theorem roundQuotient_eq {n d m : Nat} (hd : 0 < d) (low : 2 * (m * d) ≤ 2 * n + d)
    (high : 2 * n ≤ 2 * (m * d) + d)
    (tie : m % 2 = 1 → 2 * (m * d) ≠ 2 * n + d ∧ 2 * n ≠ 2 * (m * d) + d) :
    roundQuotient n d = m := by
  have hdiv := Nat.div_add_mod n d
  have hmod := Nat.mod_lt n hd
  unfold roundQuotient
  by_cases hle : m * d ≤ n
  · have hq : n / d = m := Nat.div_eq_of_lt_le hle (by rw [Nat.succ_mul]; omega)
    rw [hq, Nat.mul_comm] at hdiv
    rw [hq, if_neg]
    rintro (habove | ⟨htie, hodd⟩)
    · omega
    · have hne := (tie hodd).2
      omega
  · obtain ⟨k, rfl⟩ : ∃ k, m = k + 1 := ⟨m - 1, by
      have hm : m ≠ 0 := fun h => hle (by simp [h])
      omega⟩
    have hsucc : (k + 1) * d = k * d + d := Nat.succ_mul k d
    have hq : n / d = k := Nat.div_eq_of_lt_le (by omega) (by omega)
    rw [hq, Nat.mul_comm] at hdiv
    rw [hq, if_pos]
    by_cases htie : d = 2 * (n % d)
    · refine Or.inr ⟨htie, ?_⟩
      by_contra heven
      exact (tie (by omega)).1 (by omega)
    · exact Or.inl (by omega)

theorem le_roundQuotient {n d a : Nat} (hd : 0 < d) (h : a * d ≤ n) : a ≤ roundQuotient n d := by
  have hq : a ≤ n / d := (Nat.le_div_iff_mul_le hd).mpr h
  unfold roundQuotient
  dsimp only
  split
  · omega
  · exact hq

theorem roundQuotient_le {n d b : Nat} (hd : 0 < d) (h : n ≤ b * d) : roundQuotient n d ≤ b := by
  have hdiv := Nat.div_add_mod n d
  have hq : n / d ≤ b := Nat.div_le_of_le_mul (by rw [Nat.mul_comm]; exact h)
  unfold roundQuotient
  dsimp only
  split
  · rename_i habove
    -- a quotient that is rounded up had a rest
    have hne : n / d ≠ b := by
      intro heq
      rw [heq, Nat.mul_comm] at hdiv
      omega
    omega
  · exact hq

theorem quotient_le_iff {a b n d : Nat} (hb : 0 < b) (hd : 0 < d) :
    (a / b : ℚ) ≤ n / d ↔ a * d ≤ n * b := by
  rw [div_le_div_iff₀ (by exact_mod_cast hb) (by exact_mod_cast hd)]
  norm_cast

theorem quotient_lt_iff {a b n d : Nat} (hb : 0 < b) (hd : 0 < d) :
    (a / b : ℚ) < n / d ↔ a * d < n * b := by
  rw [div_lt_div_iff₀ (by exact_mod_cast hb) (by exact_mod_cast hd)]
  norm_cast

/-- A power of two with a difference of naturals as its exponent, compared with a quotient. -/
theorem two_zpow_sub_le_iff {n d : Nat} (hd : 0 < d) (a b : Nat) :
    (if b ≤ a then d * Nat.pow 2 (a - b) ≤ n else d ≤ n * Nat.pow 2 (b - a))
      ↔ (2 : ℚ) ^ ((a : ℤ) - b) ≤ n / d := by
  have hd' : (0 : ℚ) < d := by exact_mod_cast hd
  rw [le_div_iff₀ hd']
  split
  · rename_i hle
    rw [← Nat.cast_sub hle, zpow_natCast, mul_comm]
    norm_cast
  · rename_i hle
    rw [← neg_sub, ← Nat.cast_sub (by omega), zpow_neg, zpow_natCast,
      inv_mul_le_iff₀ (by positivity), mul_comm]
    norm_cast

/-- The logarithm of a quotient of naturals. -/
theorem floorLog2_spec {n d : Nat} (hn : 0 < n) (hd : 0 < d) :
    (2 : ℚ) ^ floorLog2 n d ≤ n / d ∧ (n : ℚ) / d < 2 ^ (floorLog2 n d + 1) := by
  have hd' : (0 : ℚ) < d := by exact_mod_cast hd
  have hnlow : (2 : ℚ) ^ (Nat.log2 n : ℤ) ≤ n := by
    exact_mod_cast Nat.log2_self_le (Nat.ne_of_gt hn)
  have hnhigh : (n : ℚ) < 2 ^ ((Nat.log2 n : ℤ) + 1) := by
    exact_mod_cast Nat.lt_log2_self (n := n)
  have hdlow : (2 : ℚ) ^ (Nat.log2 d : ℤ) ≤ d := by
    exact_mod_cast Nat.log2_self_le (Nat.ne_of_gt hd)
  have hdhigh : (d : ℚ) < 2 ^ ((Nat.log2 d : ℤ) + 1) := by
    exact_mod_cast Nat.lt_log2_self (n := d)
  unfold floorLog2
  dsimp only
  -- the quotient of the highest bits is too large by less than a factor of two
  by_cases h : (2 : ℚ) ^ ((Nat.log2 n : ℤ) - Nat.log2 d) ≤ n / d
  · rw [if_pos ((two_zpow_sub_le_iff hd _ _).mpr h)]
    refine ⟨h, ?_⟩
    rw [div_lt_iff₀ hd']
    calc (n : ℚ) < 2 ^ ((Nat.log2 n : ℤ) + 1) := hnhigh
      _ = 2 ^ ((Nat.log2 n : ℤ) - Nat.log2 d + 1) * 2 ^ (Nat.log2 d : ℤ) := by
        rw [← zpow_add₀ (by norm_num)]
        congr 1
        ring
      _ ≤ _ := by gcongr
  · rw [if_neg fun hreached => h ((two_zpow_sub_le_iff hd _ _).mp hreached), sub_add_cancel]
    refine ⟨?_, not_le.mp h⟩
    rw [le_div_iff₀ hd']
    calc (2 : ℚ) ^ ((Nat.log2 n : ℤ) - Nat.log2 d - 1) * d
        ≤ 2 ^ ((Nat.log2 n : ℤ) - Nat.log2 d - 1) * 2 ^ ((Nat.log2 d : ℤ) + 1) := by gcongr
      _ = 2 ^ (Nat.log2 n : ℤ) := by
        rw [← zpow_add₀ (by norm_num)]
        congr 1
        ring
      _ ≤ n := hnlow

/-- A logarithm is between the bounds of its number. -/
theorem floorLog2_eq {n d : Nat} (hn : 0 < n) (hd : 0 < d) {k : ℤ} (low : (2 : ℚ) ^ k ≤ n / d)
    (high : (n : ℚ) / d < 2 ^ (k + 1)) : floorLog2 n d = k := by
  obtain ⟨hlow, hhigh⟩ := floorLog2_spec hn hd
  have hle : floorLog2 n d < k + 1 :=
    (zpow_lt_zpow_iff_right₀ (by norm_num)).mp (hlow.trans_lt high)
  have hge : k < floorLog2 n d + 1 :=
    (zpow_lt_zpow_iff_right₀ (by norm_num)).mp (low.trans_lt hhigh)
  omega

namespace Magnitude

/-! ### The numbers that round to a magnitude -/

/-- The number that a magnitude stands for. -/
def value (x : Magnitude) : ℚ := x.mantissa * 2 ^ x.exponent

/-- The unit in which the ends of the interval around a magnitude are given. -/
def quarter (x : Magnitude) : ℚ := 2 ^ (x.exponent - 2)

/-- The lower end of the interval in that unit. -/
def lowEnd (x : Magnitude) : Nat :=
  if x.mantissa = Nat.pow 2 52 ∧ leastExponent < x.exponent then 4 * x.mantissa - 1
  else 4 * x.mantissa - 2

/-- A number rounds to a magnitude: it is in the interval around it, and at an end only if the
mantissa is even. -/
structure Covers (x : Magnitude) (q : ℚ) : Prop where
  low : x.lowEnd * x.quarter ≤ q
  high : q ≤ (4 * x.mantissa + 2) * x.quarter
  inside : x.mantissa % 2 = 1 →
    x.lowEnd * x.quarter < q ∧ q < (4 * x.mantissa + 2) * x.quarter

/-- The normal form of magnitudes: the mantissa has 53 bits, and fewer only where the exponent
cannot be less. -/
structure Canonical (x : Magnitude) : Prop where
  mantissa_lt : x.mantissa < Nat.pow 2 53
  least : leastExponent ≤ x.exponent
  normal : x.exponent = leastExponent ∨ Nat.pow 2 52 ≤ x.mantissa

theorem quarter_pos (x : Magnitude) : 0 < x.quarter := zpow_pos (by norm_num) _

theorem two_zpow_exponent (x : Magnitude) : (2 : ℚ) ^ x.exponent = 4 * x.quarter := by
  rw [quarter, zpow_sub₀ (by norm_num)]
  ring

theorem value_eq (x : Magnitude) : x.value = 4 * x.mantissa * x.quarter := by
  rw [value, two_zpow_exponent]
  ring

theorem interval_eq (x : Magnitude) : ∃ unit : Nat, 0 < x.interval.2 ∧
    x.interval.1 = (x.lowEnd * unit, 4 * x.mantissa * unit, (4 * x.mantissa + 2) * unit) ∧
    (unit : ℚ) / x.interval.2 = x.quarter := by
  unfold interval quarter
  dsimp only
  split
  · rename_i h
    refine ⟨Nat.pow 2 (x.exponent - 2).toNat, by norm_num, rfl, ?_⟩
    rw [Nat.cast_one, div_one]
    exact (zpow_of_nonneg 2 h).symm
  · rename_i h
    refine ⟨1, Nat.two_pow_pos _, by simp [lowEnd], ?_⟩
    rw [Nat.cast_one, one_div]
    exact (zpow_of_neg 2 h).symm

/-- The program tells whether a quotient rounds to a magnitude. -/
theorem roundsFrom_iff (x : Magnitude) {n d : Nat} (hd : 0 < d) :
    x.roundsFrom n d = true ↔ x.Covers (n / d) := by
  obtain ⟨unit, hden, hends, hunit⟩ := x.interval_eq
  have hlow : (x.lowEnd : ℚ) * x.quarter = (x.lowEnd * unit : Nat) / x.interval.2 := by
    rw [← hunit]
    push_cast
    ring
  have hhigh : (4 * x.mantissa + 2 : ℚ) * x.quarter
      = ((4 * x.mantissa + 2) * unit : Nat) / x.interval.2 := by
    rw [← hunit]
    push_cast
    ring
  unfold roundsFrom
  rw [show x.interval = (x.interval.1, x.interval.2) from rfl, hends]
  dsimp only
  by_cases heven : x.mantissa % 2 = 0
  · rw [if_pos heven, Bool.and_eq_true, decide_eq_true_iff, decide_eq_true_iff,
      ← quotient_le_iff hden hd, ← quotient_le_iff hd hden, ← hlow, ← hhigh]
    constructor
    · rintro ⟨h, h'⟩
      exact ⟨h, h', fun hodd => by omega⟩
    · intro h
      exact ⟨h.low, h.high⟩
  · rw [if_neg heven, Bool.and_eq_true, decide_eq_true_iff, decide_eq_true_iff,
      ← quotient_lt_iff hden hd, ← quotient_lt_iff hd hden, ← hlow, ← hhigh]
    constructor
    · rintro ⟨h, h'⟩
      exact ⟨h.le, h'.le, fun _ => ⟨h, h'⟩⟩
    · intro h
      exact h.inside (by omega)

/-! ### Rounding -/

/-- Rounding to a multiple of a power of two is rounding a quotient in units of it. -/
theorem roundAt_eq_roundQuotient (n : Nat) {d : Nat} (hd : 0 < d) (e : ℤ) : ∃ n' d' : Nat,
    0 < d' ∧ roundAt n d e = roundQuotient n' d' ∧ (n' / d' : ℚ) * 2 ^ e = n / d := by
  have hd' : (d : ℚ) ≠ 0 := by exact_mod_cast Nat.ne_of_gt hd
  unfold roundAt
  split
  · rename_i he
    refine ⟨n, d * Nat.pow 2 e.toNat, Nat.mul_pos hd (Nat.two_pow_pos _), rfl, ?_⟩
    have hpow : (2 : ℚ) ^ e = (Nat.pow 2 e.toNat : Nat) := zpow_of_nonneg 2 he
    have hne : ((Nat.pow 2 e.toNat : Nat) : ℚ) ≠ 0 := by
      exact_mod_cast Nat.ne_of_gt (Nat.two_pow_pos _)
    rw [hpow, Nat.cast_mul]
    field_simp
  · rename_i he
    refine ⟨n * Nat.pow 2 (-e).toNat, d, hd, rfl, ?_⟩
    have hpow : (2 : ℚ) ^ e = ((Nat.pow 2 (-e).toNat : Nat) : ℚ)⁻¹ := zpow_of_neg 2 he
    have hne : ((Nat.pow 2 (-e).toNat : Nat) : ℚ) ≠ 0 := by
      exact_mod_cast Nat.ne_of_gt (Nat.two_pow_pos _)
    rw [hpow, Nat.cast_mul]
    field_simp

/-- A mantissa is what the number is half a unit around, in units of the exponent. -/
theorem roundAt_eq {n d m : Nat} (hd : 0 < d) {e : ℤ}
    (low : (m - 1 / 2 : ℚ) * 2 ^ e ≤ n / d) (high : (n / d : ℚ) ≤ (m + 1 / 2) * 2 ^ e)
    (inside : m % 2 = 1 → (m - 1 / 2 : ℚ) * 2 ^ e < n / d ∧ (n / d : ℚ) < (m + 1 / 2) * 2 ^ e) :
    roundAt n d e = m := by
  obtain ⟨n', d', hd', hround, hratio⟩ := roundAt_eq_roundQuotient n hd e
  have hpos : (0 : ℚ) < 2 ^ e := by positivity
  have hd'' : (0 : ℚ) < d' := by exact_mod_cast hd'
  rw [← hratio] at low high inside
  rw [mul_le_mul_iff_of_pos_right hpos] at low high
  rw [mul_lt_mul_iff_of_pos_right hpos, mul_lt_mul_iff_of_pos_right hpos] at inside
  rw [hround]
  rw [le_div_iff₀ hd''] at low
  rw [div_le_iff₀ hd''] at high
  rw [lt_div_iff₀ hd'', div_lt_iff₀ hd''] at inside
  refine roundQuotient_eq hd' ?_ ?_ ?_
  · have : (2 * (m * d') : ℚ) ≤ 2 * n' + d' := by linarith
    exact_mod_cast this
  · have : (2 * n' : ℚ) ≤ 2 * (m * d') + d' := by linarith
    exact_mod_cast this
  · intro hodd
    obtain ⟨hlow, hhigh⟩ := inside hodd
    have hlow' : (2 * (m * d') : ℚ) < 2 * n' + d' := by linarith
    have hhigh' : (2 * n' : ℚ) < 2 * (m * d') + d' := by linarith
    norm_cast at hlow' hhigh'
    omega

/-- The lower end is half a unit below a magnitude, or a quarter below a power of two. -/
theorem lowEnd_cast {x : Magnitude} (hm : 0 < x.mantissa) :
    (x.lowEnd : ℚ) = 4 * x.mantissa - 2 ∨
      x.mantissa = 2 ^ 52 ∧ leastExponent < x.exponent ∧ (x.lowEnd : ℚ) = 4 * x.mantissa - 1 := by
  unfold lowEnd
  split
  · rename_i h
    refine Or.inr ⟨h.1, h.2, ?_⟩
    rw [Nat.cast_sub (by omega)]
    push_cast
    rfl
  · refine Or.inl ?_
    rw [Nat.cast_sub (by omega)]
    push_cast
    rfl

theorem Covers.pos {x : Magnitude} {q : ℚ} (covers : x.Covers q) (hm : 0 < x.mantissa) :
    0 < q := by
  have hm' : (1 : ℚ) ≤ x.mantissa := by exact_mod_cast hm
  have hend : (0 : ℚ) < x.lowEnd := by
    rcases lowEnd_cast hm with h | ⟨-, -, h⟩
    · rw [h]
      linarith
    · rw [h]
      linarith
  exact (mul_pos hend x.quarter_pos).trans_le covers.low

/-- A number in the interval around a magnitude is below the next power of two. -/
theorem Covers.lt_two_zpow {x : Magnitude} {q : ℚ} (covers : x.Covers q)
    (canonical : x.Canonical) : q < 2 ^ (x.exponent + 53) := by
  have hlt : (x.mantissa : ℚ) + 1 ≤ 2 ^ 53 := by exact_mod_cast canonical.mantissa_lt
  calc q ≤ (4 * x.mantissa + 2) * x.quarter := covers.high
    _ < 2 ^ 53 * 4 * x.quarter := by
      refine mul_lt_mul_of_pos_right ?_ x.quarter_pos
      linarith
    _ = 2 ^ (x.exponent + 53) := by
      rw [zpow_add₀ (by norm_num), x.two_zpow_exponent]
      norm_num
      ring

/-- Where the number has the exponent of the magnitude, it is rounded to its mantissa. -/
theorem nearest_eq_of_exponent {x : Magnitude} (canonical : x.Canonical) (hm : 0 < x.mantissa)
    {n d : Nat} (hn : 0 < n) (hd : 0 < d) (covers : x.Covers (n / d))
    (exponent : exponentFor n d = x.exponent) : nearest n d = x := by
  have hquarter := x.quarter_pos
  have hunit := x.two_zpow_exponent
  have hend : (4 * x.mantissa - 2 : ℚ) * x.quarter ≤ x.lowEnd * x.quarter := by
    refine mul_le_mul_of_nonneg_right ?_ hquarter.le
    rcases lowEnd_cast hm with h | ⟨-, -, h⟩
    · exact h.ge
    · rw [h]
      linarith
  have hround : roundAt n d x.exponent = x.mantissa := by
    refine roundAt_eq hd ?_ ?_ fun hodd => ⟨?_, ?_⟩
    · have := covers.low
      rw [hunit]
      linarith
    · have := covers.high
      rw [hunit]
      linarith
    · have := (covers.inside hodd).1
      rw [hunit]
      linarith
    · have := (covers.inside hodd).2
      rw [hunit]
      linarith
  have hlt := canonical.mantissa_lt
  rw [nearest, if_neg (Nat.ne_of_gt hn), exponent]
  dsimp only
  rw [hround, if_neg (Nat.ne_of_lt hlt)]

/-- A number just below a power of two is rounded up to it. -/
theorem nearest_eq_of_below {x : Magnitude} (hm : x.mantissa = Nat.pow 2 52)
    (least : leastExponent < x.exponent) {n d : Nat} (hn : 0 < n) (hd : 0 < d)
    (covers : x.Covers (n / d)) (below : (n / d : ℚ) < 2 ^ (x.exponent + 52)) :
    nearest n d = x := by
  have hquarter := x.quarter_pos
  have hunit : (2 : ℚ) ^ (x.exponent - 1) = 2 * x.quarter := by
    rw [quarter, show x.exponent - 1 = x.exponent - 2 + 1 by ring, zpow_add₀ (by norm_num)]
    ring
  have hend : (x.lowEnd : ℚ) = 2 ^ 54 - 1 := by
    rw [lowEnd, if_pos ⟨hm, least⟩, hm]
    norm_num
  have hlow := covers.low
  rw [hend] at hlow
  have hpow : (2 : ℚ) ^ (x.exponent + 52) = 2 ^ 54 * x.quarter := by
    rw [quarter, show x.exponent + 52 = x.exponent - 2 + 54 by ring, zpow_add₀ (by norm_num)]
    norm_num
    ring
  have hexponent : exponentFor n d = x.exponent - 1 := by
    have hlog : floorLog2 n d = x.exponent + 51 := by
      refine floorLog2_eq hn hd ?_ (by rwa [show x.exponent + 51 + 1 = x.exponent + 52 by ring])
      rw [show x.exponent + 51 = x.exponent - 2 + 53 by ring, zpow_add₀ (by norm_num)]
      change x.quarter * 2 ^ (53 : ℤ) ≤ _
      norm_num
      linarith
    rw [exponentFor, hlog]
    omega
  have hround : roundAt n d (x.exponent - 1) = Nat.pow 2 53 := by
    refine roundAt_eq hd ?_ ?_ fun hodd => absurd hodd (by norm_num)
    · rw [hunit]
      norm_num
      linarith
    · rw [hunit]
      norm_num
      linarith
  rw [nearest, if_neg (Nat.ne_of_gt hn), hexponent]
  dsimp only
  rw [hround, if_pos rfl, ← hm, sub_add_cancel]

/-- **A number in the interval around a magnitude is rounded to it.** -/
theorem nearest_eq {x : Magnitude} (canonical : x.Canonical) (hm : 0 < x.mantissa) {n d : Nat}
    (hd : 0 < d) (covers : x.Covers (n / d)) : nearest n d = x := by
  have hn : 0 < n := by
    rcases Nat.eq_zero_or_pos n with rfl | hn
    · have hpos := covers.pos hm
      simp at hpos
    · exact hn
  obtain ⟨hloglow, hloghigh⟩ := floorLog2_spec hn hd
  have hlog : floorLog2 n d < x.exponent + 53 :=
    (zpow_lt_zpow_iff_right₀ (by norm_num)).mp
      (hloglow.trans_lt (covers.lt_two_zpow canonical))
  have hleast := canonical.least
  by_cases hbelow : x.exponent ≠ leastExponent ∧ (n / d : ℚ) < 2 ^ (x.exponent + 52)
  · obtain ⟨hne, hbelow⟩ := hbelow
    have hnormal := canonical.normal.resolve_left hne
    refine nearest_eq_of_below ?_ (by omega) hn hd covers hbelow
    -- a greater mantissa keeps the interval above the power of two
    by_contra hmantissa
    have hgreat : (2 : ℚ) ^ 52 + 1 ≤ x.mantissa := by
      have : Nat.pow 2 52 + 1 ≤ x.mantissa := by omega
      exact_mod_cast this
    have hend : (x.lowEnd : ℚ) = 4 * x.mantissa - 2 :=
      (lowEnd_cast hm).resolve_right fun h => hmantissa h.1
    have hlow := covers.low
    rw [hend] at hlow
    have hpow : (2 : ℚ) ^ (x.exponent + 52) = 2 ^ 52 * (4 * x.quarter) := by
      rw [zpow_add₀ (by norm_num), x.two_zpow_exponent]
      norm_num
      ring
    have hquarter := x.quarter_pos
    nlinarith
  · refine nearest_eq_of_exponent canonical hm hn hd covers ?_
    rw [not_and_or, not_ne_iff, not_lt] at hbelow
    rw [exponentFor]
    rcases hbelow with heq | hge
    · omega
    · have hlog' : x.exponent + 52 < floorLog2 n d + 1 :=
        (zpow_lt_zpow_iff_right₀ (by norm_num)).mp (hge.trans_lt hloghigh)
      omega

/-- A mantissa is at most a natural that the number is at most, in units of the exponent. -/
theorem roundAt_le {n d b : Nat} (hd : 0 < d) {e : ℤ} (h : (n / d : ℚ) ≤ b * 2 ^ e) :
    roundAt n d e ≤ b := by
  obtain ⟨n', d', hd', hround, hratio⟩ := roundAt_eq_roundQuotient n hd e
  have hd'' : (0 : ℚ) < d' := by exact_mod_cast hd'
  have hpos : (0 : ℚ) < 2 ^ e := by positivity
  rw [← hratio, mul_le_mul_iff_of_pos_right hpos, div_le_iff₀ hd''] at h
  rw [hround]
  exact roundQuotient_le hd' (by exact_mod_cast h)

theorem le_roundAt {n d a : Nat} (hd : 0 < d) {e : ℤ} (h : a * 2 ^ e ≤ (n / d : ℚ)) :
    a ≤ roundAt n d e := by
  obtain ⟨n', d', hd', hround, hratio⟩ := roundAt_eq_roundQuotient n hd e
  have hd'' : (0 : ℚ) < d' := by exact_mod_cast hd'
  have hpos : (0 : ℚ) < 2 ^ e := by positivity
  rw [← hratio, mul_le_mul_iff_of_pos_right hpos, le_div_iff₀ hd''] at h
  rw [hround]
  exact le_roundQuotient hd' (by exact_mod_cast h)

/-- What rounding gives is in normal form. -/
theorem nearest_canonical (n : Nat) {d : Nat} (hd : 0 < d) : (nearest n d).Canonical := by
  rw [nearest]
  split
  · exact ⟨by norm_num [zero], le_refl _, Or.inl rfl⟩
  rename_i hn
  obtain ⟨hloglow, hloghigh⟩ := floorLog2_spec (Nat.pos_of_ne_zero hn) hd
  have hleast : leastExponent ≤ exponentFor n d := le_max_right _ _
  have hlog : floorLog2 n d - 52 ≤ exponentFor n d := le_max_left _ _
  have hle : roundAt n d (exponentFor n d) ≤ Nat.pow 2 53 := by
    refine roundAt_le hd ?_
    calc (n / d : ℚ) ≤ 2 ^ (floorLog2 n d + 1) := hloghigh.le
      _ ≤ 2 ^ (53 + exponentFor n d) := zpow_le_zpow_right₀ (by norm_num) (by omega)
      _ = (Nat.pow 2 53 : Nat) * 2 ^ exponentFor n d := by
        rw [zpow_add₀ (by norm_num)]
        norm_cast
  have hnormal : exponentFor n d = leastExponent ∨
      Nat.pow 2 52 ≤ roundAt n d (exponentFor n d) := by
    by_cases hexponent : exponentFor n d = leastExponent
    · exact Or.inl hexponent
    have heq : 52 + exponentFor n d = floorLog2 n d := by
      unfold exponentFor at hexponent ⊢
      omega
    refine Or.inr (le_roundAt hd ?_)
    calc ((Nat.pow 2 52 : Nat) : ℚ) * 2 ^ exponentFor n d = 2 ^ (52 + exponentFor n d) := by
          rw [zpow_add₀ (by norm_num)]
          norm_cast
      _ ≤ n / d := by rwa [heq]
  dsimp only
  split
  · exact ⟨by norm_num, by dsimp only; omega, Or.inr (le_refl _)⟩
  · rename_i hne
    exact ⟨lt_of_le_of_ne hle hne, hleast, hnormal⟩

end Magnitude

end Number

end ProjectViews
