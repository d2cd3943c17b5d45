/-
A warning begins at a threshold that goes by the limit alone.

Whether a figure is a warning is decided by two conversions to a double, a product with a ratio
that is not quite four fifths, and a comparison.  Each of these rounds and each keeps the order,
so there is a least figure from which on it is a warning, `warningFrom`, and it does not fall as
the limit rises.  It is at most the limit itself.

The ratio is above four fifths by one part in two to the fifty-fourth.  Up to a limit of two to
the fifty-first this can be told exactly: the product rounds to nothing above the least natural
that is not below four fifths of the limit, and it stays above every natural that is, because a
unit in the last place is then at most a quarter, and what separates the two is a fifth.

What a report lists of each metric is then said by its figure, its limit and that threshold,
and it does not become milder with more usage nor with a lower limit.
-/
import Mathlib.Data.Rat.Floor
import ProjectViews.Proofs.Number.Monotone
import ProjectViews.Usage.Limits

namespace ProjectViews

open Number

/-! ### The double that a figure is compared with -/

/-- The double that a figure has to reach for a warning. -/
def warningPoint (limit : UInt64) : Magnitude :=
  (Magnitude.ofNat limit.toNat).mul warningRatio

/-- The ratio is above four fifths by half of what a double of that size can tell. -/
theorem value_warningRatio : warningRatio.value = 4 / 5 * (1 + 1 / 2 ^ 54) := by
  have hratio : warningRatio = ⟨7205759403792794, -53⟩ := by decide +kernel
  rw [hratio, Magnitude.value, zpow_neg]
  norm_num

theorem value_ofNat_nonneg (n : Nat) : 0 ≤ (Magnitude.ofNat n).value := by
  unfold Magnitude.value
  positivity

theorem warningPoint_mono {a b : UInt64} (h : a ≤ b) :
    (warningPoint a).value ≤ (warningPoint b).value := by
  obtain ⟨n, d, hd, hmul, hvalue⟩ :=
    Magnitude.mul_eq_nearest (Magnitude.ofNat a.toNat) warningRatio
  obtain ⟨n', d', hd', hmul', hvalue'⟩ :=
    Magnitude.mul_eq_nearest (Magnitude.ofNat b.toNat) warningRatio
  rw [warningPoint, warningPoint, hmul, hmul']
  refine Magnitude.nearest_mono hd hd' ?_
  rw [hvalue, hvalue', value_warningRatio]
  exact mul_le_mul_of_nonneg_right (Magnitude.ofNat_mono (UInt64.le_iff_toNat_le.mp h))
    (by norm_num)

/-- A limit reaches its own warning. -/
theorem warningPoint_le (limit : UInt64) :
    (warningPoint limit).value ≤ (Magnitude.ofNat limit.toNat).value := by
  obtain ⟨n, d, hd, hmul, hvalue⟩ :=
    Magnitude.mul_eq_nearest (Magnitude.ofNat limit.toNat) warningRatio
  obtain ⟨hd', hvalue'⟩ := (Magnitude.ofNat limit.toNat).ratio_spec
  rw [warningPoint, hmul, ← Magnitude.nearest_value (Magnitude.ofNat_canonical _) hd' hvalue']
  refine Magnitude.nearest_mono hd hd' ?_
  rw [hvalue, hvalue', value_warningRatio]
  refine mul_le_of_le_one_right (value_ofNat_nonneg _) ?_
  norm_num

/-! ### The least figure that is a warning -/

theorem exists_warning (limit : UInt64) :
    ∃ n : Nat, (warningPoint limit).le (Magnitude.ofNat n) = true :=
  ⟨limit.toNat, Magnitude.le_iff_value.mpr (warningPoint_le limit)⟩

/-- The least figure that is a warning for this limit. -/
def warningFrom (limit : UInt64) : Nat := Nat.find (exists_warning limit)

/-- The threshold is no greater than a figure whose double reaches the product. -/
theorem warningFrom_le_iff {limit : UInt64} {n : Nat} :
    warningFrom limit ≤ n ↔ (warningPoint limit).value ≤ (Magnitude.ofNat n).value := by
  constructor
  · intro h
    exact (Magnitude.le_iff_value.mp (Nat.find_spec (exists_warning limit))).trans
      (Magnitude.ofNat_mono h)
  · intro h
    exact Nat.find_min' _ (Magnitude.le_iff_value.mpr h)

/-- **A figure is a warning from one figure on, which goes by the limit alone.** -/
theorem reachesWarning_iff {usage limit : UInt64} :
    reachesWarning usage limit = true ↔ warningFrom limit ≤ usage.toNat :=
  Magnitude.le_iff_value.trans warningFrom_le_iff.symm

theorem warningFrom_le (limit : UInt64) : warningFrom limit ≤ limit.toNat :=
  warningFrom_le_iff.mpr (warningPoint_le limit)

theorem warningFrom_mono {a b : UInt64} (h : a ≤ b) : warningFrom a ≤ warningFrom b :=
  warningFrom_le_iff.mpr ((warningPoint_mono h).trans (warningFrom_le_iff.mp le_rfl))

/-! ### The threshold of a limit that a double can tell exactly -/

section Exact

variable {limit : UInt64}

/-- The product before it is rounded, for a limit that a double tells exactly. -/
theorem warningPoint_eq_nearest (h : limit.toNat ≤ 2 ^ 51) : ∃ n d : Nat, 0 < d ∧
    warningPoint limit = .nearest n d ∧
      (n / d : ℚ) = 4 * limit.toNat / 5 * (1 + 1 / 2 ^ 54) := by
  obtain ⟨n, d, hd, hmul, hvalue⟩ :=
    Magnitude.mul_eq_nearest (Magnitude.ofNat limit.toNat) warningRatio
  have hlt : limit.toNat < Nat.pow 2 53 := h.trans_lt (by decide)
  refine ⟨n, d, hd, hmul, ?_⟩
  rw [hvalue, value_warningRatio, Magnitude.value_ofNat hlt]
  ring

/-- The product does not round to more than a natural that four fifths of the limit do not
exceed. -/
theorem warningPoint_le_of_le (h : limit.toNat ≤ 2 ^ 51) {k : Nat} (hk : k < Nat.pow 2 53)
    (hle : (4 * limit.toNat / 5 : ℚ) ≤ k) : (warningPoint limit).value ≤ k := by
  obtain ⟨n, d, hd, hpoint, hexact⟩ := warningPoint_eq_nearest h
  rw [hpoint]
  -- the excess over `k` of `k` times the error of the ratio is lost
  have hclose : (Magnitude.nearest (k * (2 ^ 54 + 1)) (2 ^ 54)).value = k := by
    rcases Nat.eq_zero_or_pos k with rfl | hpos
    · rw [Nat.zero_mul, Magnitude.nearest, if_pos rfl, Magnitude.value_zero, Nat.cast_zero]
    · have hvalue : (Magnitude.ofNat k).value = k := Magnitude.value_ofNat hk
      have hmantissa : 0 < (Magnitude.ofNat k).mantissa := by
        by_contra hzero
        rw [Nat.not_lt, Nat.le_zero] at hzero
        rw [Magnitude.value, hzero, Nat.cast_zero, zero_mul] at hvalue
        exact absurd (by exact_mod_cast hvalue.symm) (Nat.ne_of_gt hpos)
      have hratio : ((k * (2 ^ 54 + 1) : Nat) / (2 ^ 54 : Nat) : ℚ)
          = (Magnitude.ofNat k).value * (1 + 1 / 2 ^ 54) := by
        rw [hvalue]
        push_cast
        ring
      rw [Magnitude.nearest_eq_of_close (Magnitude.ofNat_canonical k) hmantissa (by positivity)
        (by rw [hratio]; exact le_mul_of_one_le_right (value_ofNat_nonneg k) (by norm_num))
        hratio.le, hvalue]
  rw [← hclose]
  refine Magnitude.nearest_mono hd (by positivity) ?_
  rw [hexact]
  calc (4 * limit.toNat / 5 * (1 + 1 / 2 ^ 54) : ℚ) ≤ k * (1 + 1 / 2 ^ 54) :=
        mul_le_mul_of_nonneg_right hle (by norm_num)
    _ = (k * (2 ^ 54 + 1) : Nat) / (2 ^ 54 : Nat) := by
        push_cast
        ring

/-- The product stays above a natural that four fifths of the limit exceed. -/
theorem lt_warningPoint_of_lt (h : limit.toNat ≤ 2 ^ 51) {m : Nat} (hlt : 5 * m < 4 * limit.toNat) :
    (m : ℚ) < (warningPoint limit).value := by
  obtain ⟨n, d, hd, hpoint, hexact⟩ := warningPoint_eq_nearest h
  have hd' : (0 : ℚ) < d := by exact_mod_cast hd
  have hlimit : (limit.toNat : ℚ) ≤ 2 ^ 51 := by exact_mod_cast h
  have hgap : (5 * m + 1 : ℚ) ≤ 4 * limit.toNat := by exact_mod_cast hlt
  have hlow : (m : ℚ) + 1 / 5 ≤ n / d := by
    rw [hexact]
    calc (m : ℚ) + 1 / 5 ≤ 4 * limit.toNat / 5 := by linarith
      _ ≤ 4 * limit.toNat / 5 * (1 + 1 / 2 ^ 54) :=
        le_mul_of_one_le_right (by positivity) (by norm_num)
  have hpos : (0 : ℚ) < n / d := lt_of_lt_of_le (by positivity) hlow
  have hn : 0 < n := by
    rcases Nat.eq_zero_or_pos n with rfl | hn
    · simp at hpos
    · exact hn
  -- a unit in the last place is at most a quarter below two to the fifty-first
  have hhigh : (n / d : ℚ) < 2 ^ (51 : ℤ) := by
    rw [hexact]
    calc (4 * limit.toNat / 5 * (1 + 1 / 2 ^ 54) : ℚ)
        ≤ 4 * 2 ^ 51 / 5 * (1 + 1 / 2 ^ 54) := by gcongr
      _ < 2 ^ (51 : ℤ) := by norm_num
  have hlog : floorLog2 n d < 51 := by
    have hpow := (floorLog2_spec hn hd).1.trans_lt hhigh
    exact (zpow_lt_zpow_iff_right₀ (by norm_num)).mp hpow
  have hunit : (2 : ℚ) ^ Magnitude.exponentFor n d ≤ 2 ^ (-2 : ℤ) := by
    refine zpow_le_zpow_right₀ (by norm_num) ?_
    unfold Magnitude.exponentFor leastExponent
    omega
  have hround := Magnitude.sub_half_le_nearest hn hd
  rw [hpoint]
  rw [zpow_neg] at hunit
  norm_num at hunit
  linarith

/-- **Up to two to the fifty-first the threshold is the least natural that is not below four
fifths of the limit.** -/
theorem warningFrom_eq_ceil (h : limit.toNat ≤ 2 ^ 51) :
    warningFrom limit = ⌈(4 * limit.toNat / 5 : ℚ)⌉₊ := by
  have hbig : (4 * limit.toNat / 5 : ℚ) ≤ limit.toNat := by
    have hnonneg : (0 : ℚ) ≤ limit.toNat := Nat.cast_nonneg _
    linarith
  have hsmall : limit.toNat < Nat.pow 2 53 := h.trans_lt (by decide)
  have hceil : ⌈(4 * limit.toNat / 5 : ℚ)⌉₊ < Nat.pow 2 53 :=
    (Nat.ceil_le.mpr hbig).trans_lt hsmall
  apply Nat.le_antisymm
  · rw [warningFrom_le_iff, Magnitude.value_ofNat hceil]
    exact warningPoint_le_of_le h hceil (Nat.le_ceil _)
  · rw [Nat.ceil_le]
    by_contra hlt
    rw [not_le, lt_div_iff₀ (by norm_num)] at hlt
    have hlt' : 5 * warningFrom limit < 4 * limit.toNat := by
      rw [Nat.mul_comm 5]
      exact_mod_cast hlt
    have habove := lt_warningPoint_of_lt h hlt'
    have hself : warningFrom limit ≤ warningFrom limit := le_rfl
    have hbelow := warningFrom_le_iff.mp hself
    rw [Magnitude.value_ofNat ((warningFrom_le limit).trans_lt hsmall)] at hbelow
    exact absurd hbelow (not_le.mpr habove)

end Exact

/-- Nothing used is no warning, unless nothing is allowed. -/
theorem warningFrom_pos {limit : UInt64} (h : 0 < limit) : 0 < warningFrom limit := by
  have hvalue : (1 : UInt64).toNat = 1 := rfl
  have hone : warningFrom 1 = 1 := by
    rw [warningFrom_eq_ceil (by decide), Nat.ceil_eq_iff one_ne_zero, hvalue]
    norm_num
  have hle : (1 : UInt64) ≤ limit := UInt64.le_iff_toNat_le.mpr (UInt64.lt_iff_toNat_lt.mp h)
  have hmono := warningFrom_mono hle
  rw [hone] at hmono
  exact hmono

/-! ### How near a figure is to its limit -/

/-- A figure exceeds a limit when it reaches it, except that nothing does not exceed nothing. -/
def Exceeds (usage limit : UInt64) : Prop := limit ≤ usage ∧ ¬(limit = 0 ∧ usage = 0)

/-- A figure is near a limit when it does not exceed it and has reached its threshold. -/
def Nears (usage limit : UInt64) : Prop :=
  ¬Exceeds usage limit ∧ 0 < limit ∧ warningFrom limit ≤ usage.toNat

instance (usage limit : UInt64) : Decidable (Exceeds usage limit) :=
  inferInstanceAs (Decidable (_ ∧ _))

instance (usage limit : UInt64) : Decidable (Nears usage limit) :=
  inferInstanceAs (Decidable (_ ∧ _))

namespace Threshold

theorem exceeds_iff {usage limit : UInt64} :
    limit ≤ usage ∧ (0 < limit ∨ 0 < usage) ↔ Exceeds usage limit := by
  rw [Exceeds, not_and_or, UInt64.pos_iff_ne_zero, UInt64.pos_iff_ne_zero]

theorem classify_eq_exceeded_iff {usage limit : UInt64} :
    classify usage limit = some exceeded ↔ Exceeds usage limit := by
  rw [← exceeds_iff, classify]
  split
  · rename_i hexceeds
    exact iff_of_true rfl hexceeds
  · rename_i hnot
    refine iff_of_false ?_ hnot
    split <;> simp

theorem classify_eq_warning_iff {usage limit : UInt64} :
    classify usage limit = some warning ↔ Nears usage limit := by
  rw [Nears, ← exceeds_iff, ← reachesWarning_iff, classify]
  split
  · rename_i hexceeds
    exact iff_of_false (by simp) fun h => h.1 hexceeds
  · rename_i hnot
    rw [and_iff_right hnot]
    split
    · rename_i hreach
      exact iff_of_true rfl hreach
    · rename_i hreach
      exact iff_of_false (by simp) hreach

/-- From mild to severe. -/
def rank : Option Threshold → Nat
  | none => 0
  | some warning => 1
  | some exceeded => 2

/-- **More usage of a lower limit is not milder.** -/
theorem rank_classify_mono {usage usage' limit limit' : UInt64} (more : usage ≤ usage')
    (lower : limit' ≤ limit) : rank (classify usage limit) ≤ rank (classify usage' limit') := by
  have hexceeds : Exceeds usage limit → Exceeds usage' limit' := by
    rintro ⟨hle, hnot⟩
    refine ⟨UInt64.le_trans lower (UInt64.le_trans hle more), ?_⟩
    rintro ⟨-, rfl⟩
    have husage : usage = 0 := UInt64.le_antisymm more UInt64.zero_le
    subst husage
    exact hnot ⟨UInt64.le_antisymm hle UInt64.zero_le, rfl⟩
  have hnears : Nears usage limit → Exceeds usage' limit' ∨ Nears usage' limit' := by
    rintro ⟨-, hpos, hreach⟩
    have hreach' : warningFrom limit ≤ usage'.toNat :=
      hreach.trans (UInt64.le_iff_toNat_le.mp more)
    by_cases hexceeds' : Exceeds usage' limit'
    · exact Or.inl hexceeds'
    · refine Or.inr ⟨hexceeds', ?_, (warningFrom_mono lower).trans hreach'⟩
      -- something is used, so that a limit of nothing would be exceeded
      by_contra hzero
      rw [UInt64.pos_iff_ne_zero, not_not] at hzero
      have hused : usage' ≠ 0 := by
        rintro rfl
        have := warningFrom_pos hpos
        simp only [UInt64.toNat_zero] at hreach'
        omega
      exact hexceeds' ⟨hzero ▸ UInt64.zero_le, fun h => hused h.2⟩
  cases hclass : classify usage limit with
  | none => exact Nat.zero_le _
  | some t =>
      cases t with
      | exceeded =>
          rw [classify_eq_exceeded_iff.mpr (hexceeds (classify_eq_exceeded_iff.mp hclass))]
      | warning =>
          rcases hnears (classify_eq_warning_iff.mp hclass) with h | h
          · rw [classify_eq_exceeded_iff.mpr h]
            decide
          · rw [classify_eq_warning_iff.mpr h]

end Threshold

/-! ### What a report lists -/

theorem Metric.mem_all (m : Metric) : m ∈ all := by cases m <;> decide

theorem Metric.nodup_all : all.Nodup := by decide

namespace Exceeding

variable {u : UsageReport} {p : PlanLimits} {i : Interval} {m : Metric}

/-- What is said about a metric tells its figure and its limit. -/
theorem limitOf_eq_some_iff {x : UsageLimit} : limitOf u p i m = some x ↔
    ∃ limit t, p.limit? m = some limit ∧ Threshold.classify (u.figure m i) limit = some t ∧
      x = ⟨m, t, i, u.figure m i, limit⟩ := by
  unfold limitOf
  cases p.limit? m with
  | none => simp
  | some limit =>
      simp only [Option.map_eq_some_iff, Option.some.injEq, exists_and_left, exists_eq_left']
      exact ⟨fun ⟨t, ht, hx⟩ => ⟨t, ht, hx.symm⟩, fun ⟨t, ht, hx⟩ => ⟨t, ht, hx.symm⟩⟩

/-- The metrics of which a report says one thing, in their fixed order. -/
theorem metrics_of_threshold (u : UsageReport) (p : PlanLimits) (i : Interval) (t : Threshold) :
    ((entries u p i).filter (·.threshold == t)).map (·.metric) = Metric.all.filter fun m =>
      (p.limit? m).any fun limit => Threshold.classify (u.figure m i) limit == some t := by
  unfold entries
  rw [List.filter_filterMap, List.map_filterMap, ← List.filterMap_eq_filter]
  refine List.filterMap_congr fun m _ => ?_
  unfold limitOf Option.guard
  cases hlimit : p.limit? m with
  | none => simp [hlimit]
  | some limit =>
      cases hclass : Threshold.classify (u.figure m i) limit with
      | none => simp [hlimit, hclass]
      | some t' => by_cases h : t' = t <;> simp [hlimit, hclass, h]

theorem metrics_exceeded (u : UsageReport) (p : PlanLimits) (i : Interval) :
    (ofReport u p i).exceeded.map (·.metric) = Metric.all.filter fun m =>
      (p.limit? m).any fun limit => decide (Exceeds (u.figure m i) limit) := by
  refine (metrics_of_threshold u p i .exceeded).trans (List.filter_congr fun m _ => ?_)
  simp only [Bool.beq_eq_decide_eq, ← Threshold.classify_eq_exceeded_iff]

theorem metrics_warning (u : UsageReport) (p : PlanLimits) (i : Interval) :
    (ofReport u p i).warning.map (·.metric) = Metric.all.filter fun m =>
      (p.limit? m).any fun limit => decide (Nears (u.figure m i) limit) := by
  refine (metrics_of_threshold u p i .warning).trans (List.filter_congr fun m _ => ?_)
  simp only [Bool.beq_eq_decide_eq, ← Threshold.classify_eq_warning_iff]

theorem mem_exceeded_iff : m ∈ (ofReport u p i).exceeded.map (·.metric) ↔
    ∃ limit, p.limit? m = some limit ∧ Exceeds (u.figure m i) limit := by
  simp [metrics_exceeded, Metric.mem_all, Option.any_eq_true]

theorem mem_warning_iff : m ∈ (ofReport u p i).warning.map (·.metric) ↔
    ∃ limit, p.limit? m = some limit ∧ Nears (u.figure m i) limit := by
  simp [metrics_warning, Metric.mem_all, Option.any_eq_true]

/-- How severe it is what is listed of a metric: two if it is exceeded, one if it is a warning
and zero if it is not listed. -/
def severity (e : Exceeding) (m : Metric) : Nat :=
  if m ∈ e.exceeded.map (·.metric) then 2
  else if m ∈ e.warning.map (·.metric) then 1
  else 0

theorem severity_ofReport : (ofReport u p i).severity m =
    Threshold.rank ((p.limit? m).bind (Threshold.classify (u.figure m i))) := by
  simp only [severity, mem_exceeded_iff, mem_warning_iff]
  cases p.limit? m with
  | none => simp [Threshold.rank]
  | some limit =>
      simp only [Option.some.injEq, exists_eq_left', Option.bind_some,
        ← Threshold.classify_eq_exceeded_iff, ← Threshold.classify_eq_warning_iff]
      cases Threshold.classify (u.figure m i) limit with
      | none => rfl
      | some t => cases t <;> rfl

end Exceeding

/-! ### The rule of limits -/

/-- A plan allows at least as much of a metric as another one. -/
def PlanLimits.AllowsAsMuch (p p' : PlanLimits) (m : Metric) : Prop :=
  ∀ limit, p.limit? m = some limit → ∃ limit', p'.limit? m = some limit' ∧ limit' ≤ limit

open Exceeding in
/-- What holds of the comparison of reports with plans. -/
structure LimitRule : Prop where
  /-- No threshold is above its limit. -/
  atMost : ∀ limit, warningFrom limit ≤ limit.toNat
  /-- A greater limit has no smaller threshold. -/
  rises : ∀ limit limit', limit ≤ limit' → warningFrom limit ≤ warningFrom limit'
  /-- Up to two to the fifty-first the threshold is four fifths of the limit, rounded up. -/
  exact : ∀ limit : UInt64, limit.toNat ≤ 2 ^ 51 →
    warningFrom limit = ⌈(4 * limit.toNat / 5 : ℚ)⌉₊
  /-- The figure of a metric is what the report says of it for the interval; of storage it says the
  same for every interval. -/
  figure : ∀ u : UsageReport, (∀ i, u.figure .storage i = u.storageBytes) ∧
    u.figure .submission .month = u.submissions.currentMonth ∧
    u.figure .submission .year = u.submissions.currentYear ∧
    u.figure .transcribedSpeech .month = u.language.secondsMonth ∧
    u.figure .transcribedSpeech .year = u.language.secondsYear ∧
    u.figure .translatedText .month = u.language.charactersMonth ∧
    u.figure .translatedText .year = u.language.charactersYear
  /-- The limit of a metric is what the plan says of it. -/
  limit : ∀ p : PlanLimits, p.limit? .storage = p.storageBytes ∧
    p.limit? .submission = p.submissions ∧ p.limit? .transcribedSpeech = p.languageSeconds ∧
    p.limit? .translatedText = p.languageCharacters
  /-- The fixed order of the metrics. -/
  metrics : Metric.all = [.storage, .submission, .transcribedSpeech, .translatedText]
  /-- Exceeded are, in the fixed order, the metrics whose figure has reached the limit, except
  that nothing used of nothing allowed is not. -/
  exceeded : ∀ u p i, (ofReport u p i).exceeded.map (·.metric) = Metric.all.filter fun m =>
    (p.limit? m).any fun limit => decide (Exceeds (u.figure m i) limit)
  /-- Warnings are, in the fixed order, the metrics that are not exceeded, that are allowed
  something and whose figure has reached the threshold. -/
  warning : ∀ u p i, (ofReport u p i).warning.map (·.metric) = Metric.all.filter fun m =>
    (p.limit? m).any fun limit => decide (Nears (u.figure m i) limit)
  /-- Whatever is listed tells the interval, the figure and the limit that were compared. -/
  entry : ∀ u p i, ∀ x ∈ (ofReport u p i).exceeded ++ (ofReport u p i).warning,
    x.interval = i ∧ x.usage = u.figure x.metric i ∧ p.limit? x.metric = some x.limit
  /-- A metric without a limit is not listed. -/
  unlimited : ∀ u p i m, p.limit? m = none → (ofReport u p i).severity m = 0
  /-- No metric is listed twice. -/
  once : ∀ u p i, (((ofReport u p i).exceeded ++ (ofReport u p i).warning).map (·.metric)).Nodup
  /-- With more usage, or with a plan that allows less, a metric is not listed as milder. -/
  monotone : ∀ u u' p p' i i' m, u.figure m i ≤ u'.figure m i' → p.AllowsAsMuch p' m →
    (ofReport u p i).severity m ≤ (ofReport u' p' i').severity m

/-- **Limits are thresholds: exact where doubles are, and monotone everywhere.** -/
theorem limitRule : LimitRule where
  atMost := warningFrom_le
  rises := fun _ _ => warningFrom_mono
  exact := fun _ => warningFrom_eq_ceil
  figure := fun _ => ⟨fun _ => rfl, rfl, rfl, rfl, rfl, rfl, rfl⟩
  limit := fun _ => ⟨rfl, rfl, rfl, rfl⟩
  metrics := rfl
  exceeded := Exceeding.metrics_exceeded
  warning := Exceeding.metrics_warning
  entry := by
    intro u p i x hx
    have hmem : x ∈ Exceeding.entries u p i := by
      rcases List.mem_append.mp hx with hx | hx
      · exact (List.mem_filter.mp hx).1
      · exact (List.mem_filter.mp hx).1
    obtain ⟨m, -, hm⟩ := List.mem_filterMap.mp hmem
    obtain ⟨limit, t, hlimit, -, rfl⟩ := Exceeding.limitOf_eq_some_iff.mp hm
    exact ⟨rfl, rfl, hlimit⟩
  unlimited := by
    intro u p i m hnone
    rw [Exceeding.severity_ofReport, hnone]
    rfl
  once := by
    intro u p i
    rw [List.map_append, List.nodup_append]
    refine ⟨?_, ?_, ?_⟩
    · rw [Exceeding.metrics_exceeded]
      exact Metric.nodup_all.filter _
    · rw [Exceeding.metrics_warning]
      exact Metric.nodup_all.filter _
    · rintro m hexceeded _ hwarning rfl
      obtain ⟨limit, hlimit, hexceeds⟩ := Exceeding.mem_exceeded_iff.mp hexceeded
      obtain ⟨limit', hlimit', hnears⟩ := Exceeding.mem_warning_iff.mp hwarning
      rw [hlimit, Option.some.injEq] at hlimit'
      subst hlimit'
      exact hnears.1 hexceeds
  monotone := by
    intro u u' p p' i i' m more hless
    rw [Exceeding.severity_ofReport, Exceeding.severity_ofReport]
    cases hlimit : p.limit? m with
    | none => exact Nat.zero_le _
    | some limit =>
        obtain ⟨limit', hlimit', hle⟩ := hless limit hlimit
        rw [hlimit']
        exact Threshold.rank_classify_mono more hle

-- far above two to the fifty-first a figure can be a warning a fifth too early
example :
    let limit : UInt64 := 5 * 2 ^ 50 + 4
    let usage : UInt64 := 2 ^ 52 + 3
    reachesWarning usage limit = true ∧ 5 * usage.toNat < 4 * limit.toNat := by
  decide +kernel

end ProjectViews
