/-
Days and dates.

Every number of days is that of a date, and of the date that is computed for it.  A cycle of
four hundred years is made of centuries, of groups of four years, of years and of days, and the
last of each of them may be one day longer: the last year of a group has a leap day, the last
group of a century has none, unless it is the last century of the cycle.  `Place` says where in
its cycle a day lies.  The computation leaves out the leap days one after the other, and
`yearOfCycle_eq` says that what is left gives the year.
-/
import ProjectViews.Time.Calendar

namespace ProjectViews

namespace Date

/-- Where a day lies in its cycle: in which century, in which four years of it, in which of
these years, and on which day of the year, which starts with March. -/
structure Place (c g k d : Int) : Prop where
  century : 0 ≤ c ∧ c ≤ 3
  group : 0 ≤ g ∧ g ≤ 24
  year : 0 ≤ k ∧ k ≤ 3
  day : 0 ≤ d ∧ d ≤ 365
  leap : d = 365 → k = 3 ∧ (g = 24 → c = 3)

/-- The number of a day in its cycle. -/
def dayAt (c g k d : Int) : Int := 36524 * c + 1461 * g + 365 * k + d

variable {c g k d : Int}

theorem exists_place {n : Int} (low : 0 ≤ n) (high : n < 146097) :
    ∃ c g k d, Place c g k d ∧ n = dayAt c g k d := by
  obtain ⟨c, hc⟩ : ∃ c, c = min (n / 36524) 3 := ⟨_, rfl⟩
  obtain ⟨g, hg⟩ : ∃ g, g = (n - 36524 * c) / 1461 := ⟨_, rfl⟩
  obtain ⟨k, hk⟩ : ∃ k, k = min ((n - 36524 * c - 1461 * g) / 365) 3 := ⟨_, rfl⟩
  refine ⟨c, g, k, n - 36524 * c - 1461 * g - 365 * k, ⟨?_, ?_, ?_, ?_, ?_⟩, ?_⟩
  all_goals
    try unfold dayAt
    omega

/-- The year of a day in its cycle. -/
theorem yearOfCycle_eq (h : Place c g k d) {n : Int} (hn : n = dayAt c g k d) :
    (n - n / 1460 + n / 36524 - n / 146096) / 365 = 100 * c + 4 * g + k := by
  obtain ⟨hc, hg, hk, hd, hleap⟩ := h
  unfold dayAt at hn
  -- the fourth year of a group may be counted as over before it is
  have hgroups : n / 1460 = 25 * c + g ∨ n / 1460 = 25 * c + g + 1 ∧ k = 3 ∧ 0 < d := by omega
  have hcenturies : n / 36524 = c ∧ n / 146096 = 0 ∨ n / 36524 = c + 1 ∧ n / 146096 = 1 := by
    omega
  omega

/-- The number of days before a year of the cycle. -/
theorem daysBefore_eq (h : Place c g k d) :
    365 * (100 * c + 4 * g + k) + (100 * c + 4 * g + k) / 4 - (100 * c + 4 * g + k) / 100
      = dayAt c g k d - d := by
  obtain ⟨hc, hg, hk, hd, hleap⟩ := h
  have hfour : (100 * c + 4 * g + k) / 4 = 25 * c + g := by omega
  have hhundred : (100 * c + 4 * g + k) / 100 = c := by omega
  rw [hfour, hhundred, dayAt]
  omega

/-- The month of a day of the year, counted from March. -/
def monthFromMarch (day : Int) : Int := (5 * day + 2) / 153

/-- The month of the calendar. -/
def monthOf (day : Int) : Int :=
  if monthFromMarch day < 10 then monthFromMarch day + 3 else monthFromMarch day - 9

/-- The day of the month. -/
def dayOf (day : Int) : Int := day - (153 * monthFromMarch day + 2) / 5 + 1

/-- The date of a day by its place in its cycle. -/
theorem ofDays_eq (h : Place c g k d) {n cycle : Int}
    (hn : n + 719468 = 146097 * cycle + dayAt c g k d) :
    ofDays n = ⟨if monthOf d ≤ 2 then 100 * c + 4 * g + k + cycle * 400 + 1
      else 100 * c + 4 * g + k + cycle * 400, (monthOf d).toNat, (dayOf d).toNat⟩ := by
  have hrange : 0 ≤ dayAt c g k d ∧ dayAt c g k d < 146097 := by
    obtain ⟨hc, hg, hk, hd, hleap⟩ := h
    unfold dayAt
    omega
  have hcycle : (n + 719468) / 146097 = cycle := by omega
  have hplace : (n + 719468) % 146097 = dayAt c g k d := by omega
  have hyear := yearOfCycle_eq h rfl
  have hday : dayAt c g k d - (365 * (100 * c + 4 * g + k) + (100 * c + 4 * g + k) / 4
      - (100 * c + 4 * g + k) / 100) = d := by
    rw [daysBefore_eq h]
    omega
  unfold ofDays
  dsimp only
  rw [hcycle, hplace, hyear, hday]
  rfl

theorem exists_ofDays (n : Int) : ∃ cycle c g k d, Place c g k d ∧
    n + 719468 = 146097 * cycle + dayAt c g k d := by
  obtain ⟨c, g, k, d, hplace, hday⟩ :=
    exists_place (n := (n + 719468) % 146097) (by omega) (by omega)
  exact ⟨(n + 719468) / 146097, c, g, k, d, hplace, by omega⟩

theorem month_spec {d : Int} (h : 0 ≤ d ∧ d ≤ 365) :
    1 ≤ monthOf d ∧ monthOf d ≤ 12 ∧ 1 ≤ dayOf d ∧ dayOf d ≤ 31 := by
  unfold monthOf dayOf monthFromMarch
  omega

/-- The number of days of a year that starts with March, up to a month and a day of it. -/
theorem dayOfYear_eq (m day : Int) (h : m = monthFromMarch day) :
    (153 * m + 2) / 5 + dayOf day - 1 = day := by
  rw [h, dayOf]
  omega

/-- **The date of a number of days has that number.** -/
theorem toDays_ofDays (n : Int) : (ofDays n).toDays = n := by
  obtain ⟨cycle, c, g, k, d, hplace, hn⟩ := exists_ofDays n
  have hbefore := daysBefore_eq hplace
  obtain ⟨hmonth, -, hday, -⟩ := month_spec hplace.day
  have hmarch : 0 ≤ monthFromMarch d ∧ monthFromMarch d ≤ 11 := by
    have hd := hplace.day
    unfold monthFromMarch
    omega
  have hmonth' : ((monthOf d).toNat : Int) = monthOf d := Int.toNat_of_nonneg (by omega)
  have hday' : ((dayOf d).toNat : Int) = dayOf d := Int.toNat_of_nonneg (by omega)
  have hyear : (100 * c + 4 * g + k + cycle * 400) / 400 = cycle ∧
      (100 * c + 4 * g + k + cycle * 400) % 400 = 100 * c + 4 * g + k := by
    obtain ⟨hc, hg, hk, -, -⟩ := hplace
    omega
  rw [ofDays_eq hplace hn]
  unfold toDays
  dsimp only
  by_cases hearly : monthOf d ≤ 2
  · have hfrom : monthOf d + 9 = monthFromMarch d := by
      unfold monthOf at hearly ⊢
      omega
    rw [if_pos hearly, if_pos (by omega), if_pos (by omega), hmonth', hday', Int.add_sub_cancel,
      hyear.1, hyear.2, dayOfYear_eq _ d hfrom]
    omega
  · have hfrom : monthOf d - 3 = monthFromMarch d := by
      unfold monthOf at hearly ⊢
      omega
    rw [if_neg hearly, if_neg (by omega), if_neg (by omega), hmonth', hday',
      hyear.1, hyear.2, dayOfYear_eq _ d hfrom]
    omega

/-- The months of thirty days, and February, end where the next one begins. -/
theorem dayOf_le {d : Int} (h : 0 ≤ d ∧ d ≤ 365) :
    (monthOf d = 4 ∨ monthOf d = 6 ∨ monthOf d = 9 ∨ monthOf d = 11 → dayOf d ≤ 30) ∧
      (monthOf d = 2 → dayOf d ≤ 29 ∧ (dayOf d = 29 → d = 365)) := by
  unfold monthOf dayOf monthFromMarch
  omega

/-- The leap day stands at the end of the year before the leap year. -/
theorem isLeap_of_place (h : Place c g k 365) (cycle : Int) :
    isLeap (100 * c + 4 * g + k + cycle * 400 + 1) = true := by
  obtain ⟨hc, hg, hk, hd, hleap⟩ := h
  have hfour : (100 * c + 4 * g + k + cycle * 400 + 1) % 4 = 0 := by omega
  have hcentury : (100 * c + 4 * g + k + cycle * 400 + 1) % 100 ≠ 0 ∨
      (100 * c + 4 * g + k + cycle * 400 + 1) % 400 = 0 := by omega
  simp only [isLeap, Bool.and_eq_true, Bool.or_eq_true, beq_iff_eq, bne_iff_ne]
  exact ⟨hfour, hcentury⟩

/-- The month and the day of a date that exists have at most two digits. -/
theorem bounds_of_exists? {date : Date} (h : date.exists? = true) :
    (1 ≤ date.month ∧ date.month ≤ 12) ∧ 1 ≤ date.day ∧ date.day ≤ 31 := by
  rw [exists?, decide_eq_true_iff] at h
  obtain ⟨hfirst, hlast, hday, hend⟩ := h
  refine ⟨⟨hfirst, hlast⟩, hday, Nat.le_trans hend ?_⟩
  unfold daysInMonth
  split
  · split <;> omega
  · split <;> omega

/-- **The date of a number of days exists.** -/
theorem exists?_ofDays (n : Int) : (ofDays n).exists? = true := by
  obtain ⟨cycle, c, g, k, d, hplace, hn⟩ := exists_ofDays n
  have hmonth := month_spec hplace.day
  have hend := dayOf_le hplace.day
  rw [ofDays_eq hplace hn, exists?, decide_eq_true_iff]
  dsimp only
  refine ⟨by omega, by omega, by omega, ?_⟩
  unfold daysInMonth
  split
  · rename_i hfebruary
    have hfebruary' : monthOf d = 2 := by omega
    rw [if_pos (show monthOf d ≤ 2 by omega)]
    split
    · omega
    · rename_i hleap
      have hlast : dayOf d ≠ 29 := by
        intro hday
        obtain rfl : d = 365 := (hend.2 hfebruary').2 hday
        exact hleap (isLeap_of_place hplace cycle)
      omega
  · split
    · have := hend.1 (by omega)
      omega
    · omega

end Date

end ProjectViews
