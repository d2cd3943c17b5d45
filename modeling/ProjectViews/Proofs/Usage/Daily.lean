/-
Told once a day, and told.

Any number of gates may share their markers, and each mount of one of them finds a day's
marker or leaves one.  Whether it does depends on all mounts before it, because markers are
written, read, outlived and dropped on the way, and because the times of the mounts need
not go up.  Yet the whole past comes down to one thing: a mount leaves a marker just when
limits are exceeded and no mount before it that left one has its day reach to now.

What carries this is `Remembered`.  The marker that is kept is the one that lasts longest of
all that were ever left: a new one is only written once the old one has been outlived, and
then the new one outlives it in turn.  So a marker that has expired by now is proof that all
others have as well, and dropping it loses nothing.

A mount at a time without a next day has no marker to leave, and gives no answer if one is
due.  Rounds end there.
-/
import ProjectViews.Proofs.Usage.Markers
import ProjectViews.Usage.Gate
import Mathlib.Logic.Function.Basic

namespace ProjectViews

/-- A time before the end of the day that another one opens. -/
def Instant.WithinDayOf (t s : Instant) : Prop :=
  ∃ tomorrow, s.nextDay? = some tomorrow ∧ tomorrow.le t ≠ true

/-- A time a day after another one, or later. -/
def Instant.DayAfter (t s : Instant) : Prop :=
  ∃ tomorrow, s.nextDay? = some tomorrow ∧ tomorrow.le t = true

/-! ### Gates that share their markers -/

/-- What a gate is mounted with. -/
inductive Findings where
  /-- Limits that are known already. -/
  | given (limits : Exceeding) (interval : Interval)
  /-- What the usage service says. -/
  | fetched (report : UsageReport) (subscription : Except Failure (Option Subscription))

/-- One of the gates is mounted. -/
structure Mount where
  gate : Nat
  findings : Findings
  now : Instant

/-- Gates, by number, and the markers that they share. -/
structure Household where
  markers : MarkerStore
  gates : Nat → Gate

namespace Household

/-- The limits that a mount is about. -/
def limits (h : Household) (m : Mount) : Exceeding :=
  match m.findings with
  | .given limits _ => limits
  | .fetched report subscription => ((h.gates m.gate).assess report subscription).1

/-- The interval that they are for. -/
def interval (h : Household) (m : Mount) : Interval :=
  match m.findings with
  | .given _ interval => interval
  | .fetched report subscription => ((h.gates m.gate).assess report subscription).2

/-- A gate is mounted, if that gives an answer. -/
def mount (h : Household) (m : Mount) : Option Household :=
  match m.findings with
  | .given limits interval =>
    ((h.gates m.gate).apply h.markers limits interval m.now).map fun (markers, g) =>
      ⟨markers, Function.update h.gates m.gate g⟩
  | .fetched report subscription =>
    ((h.gates m.gate).mount h.markers m.now (.ok report) subscription).map
      fun (_, markers, g, _) => ⟨markers, Function.update h.gates m.gate g⟩

end Household

/-- A mount that has given its answer, with the gates and the markers before and after it. -/
structure Round where
  before : Household
  mount : Mount
  after : Household

/-- The mounts of a list one after the other, as long as they give answers. -/
def Household.rounds (h : Household) : List Mount → List Round
  | [] => []
  | m :: rest =>
    match h.mount m with
    | some after => ⟨h, m, after⟩ :: after.rounds rest
    | none => []

/-- What the mounts of a list leave behind, as far as they give answers. -/
def Household.afterAll (h : Household) : List Mount → Household
  | [] => h
  | m :: rest =>
    match h.mount m with
    | some after => after.afterAll rest
    | none => h

namespace Round

/-- Limits are exceeded. -/
def Exceeds (r : Round) : Prop := (r.before.limits r.mount).isExceeded = true

/-- There is a marker afterwards that was not there before. -/
def Writes (r : Round) : Prop :=
  ∃ m, r.after.markers.marker? Gate.markerName = some m ∧
    r.before.markers.marker? Gate.markerName ≠ some m

/-- The gate that was mounted shows the modal. -/
def ShowsModal (r : Round) : Prop := (r.after.gates r.mount.gate).decision.showModal = true

end Round

/-! ### One mount -/

/-- What consulting the markers comes to where they work. -/
inductive Consulted (markers : MarkerStore) (limits : Exceeding) (now : Instant) :
    Option (MarkerStore × Bool) → Prop
  /-- There is nothing to tell, and the markers are not looked at. -/
  | within {t : MarkerStore} (fits : limits.isExceeded = false) (same : t = markers) :
      Consulted markers limits now (some (t, false))
  /-- It was told already. -/
  | told {m : Marker} {t : MarkerStore} (exceeds : limits.isExceeded = true)
      (found : markers.marker? Gate.markerName = some m) (counts : m.isExpired now = false)
      (works : t.Works) (held : t.marker? Gate.markerName = some m) :
      Consulted markers limits now (some (t, false))
  /-- It is to be told now, which is remembered until tomorrow. -/
  | first {tomorrow : Instant} {t : MarkerStore} (exceeds : limits.isExceeded = true)
      (due : Marker.live (markers.marker? Gate.markerName) now = none)
      (next : now.nextDay? = some tomorrow) (works : t.Works)
      (held : t.marker? Gate.markerName = some ⟨Gate.markerName, "true", tomorrow⟩) :
      Consulted markers limits now (some (t, true))
  /-- It would have to be told now, but there is no tomorrow. -/
  | unanswered (exceeds : limits.isExceeded = true)
      (due : Marker.live (markers.marker? Gate.markerName) now = none)
      (last : now.nextDay? = none) : Consulted markers limits now none

theorem Gate.consulted {markers : MarkerStore} (h : markers.Works) (limits : Exceeding)
    (now : Instant) : Consulted markers limits now (Gate.consult markers limits now) := by
  unfold Gate.consult
  cases hexceeds : limits.isExceeded with
  | false =>
      rw [if_neg (by simp)]
      exact .within hexceeds rfl
  | true =>
      rw [if_pos rfl]
      obtain ⟨hworks, hfound, hheld⟩ := MarkerStore.reads_of_works h Gate.markerName now
      have hself := (hheld Gate.markerName).trans (if_pos rfl)
      dsimp only
      rw [hfound]
      cases hlive : Marker.live (markers.marker? Gate.markerName) now with
      | some m =>
          rw [hlive] at hself
          obtain ⟨hmarker, hcounts⟩ := Option.filter_eq_some_iff.mp hlive
          exact .told hexceeds hmarker (by simpa using hcounts) hworks hself
      | none =>
          cases hnext : now.nextDay? with
          | none =>
              rw [Gate.markerAt?, hnext]
              exact .unanswered hexceeds hlive hnext
          | some tomorrow =>
              have hwrites := MarkerStore.writes_of_works hworks
                ⟨Gate.markerName, "true", tomorrow⟩
              rw [Gate.markerAt?, hnext]
              exact .first hexceeds hlive hnext hwrites.works
                ((hwrites.held Gate.markerName).trans (if_pos rfl))

namespace Household

/-- However a gate is mounted, the markers are consulted about its limits, and what it shows is
settled by the answer. -/
theorem mount_eq (h : Household) (m : Mount) :
    h.mount m = (Gate.consult h.markers (h.limits m) m.now).map fun (markers, isFirst) =>
      ⟨markers, Function.update h.gates m.gate
        ((h.gates m.gate).settle (h.limits m) (h.interval m) isFirst)⟩ := by
  cases hfindings : m.findings with
  | given limits interval =>
      simp only [mount, Household.limits, Household.interval, hfindings]
      rw [Gate.apply, Option.map_map]
      rfl
  | fetched report subscription =>
      simp only [mount, Household.limits, Household.interval, hfindings]
      rw [Gate.mount]
      dsimp only
      rw [Gate.apply, Option.map_map, Option.map_map]
      rfl

/-- A mount that gives an answer, taken apart. -/
theorem mounted {h after : Household} {m : Mount} (works : h.markers.Works)
    (hm : h.mount m = some after) : ∃ isFirst,
      Consulted h.markers (h.limits m) m.now (some (after.markers, isFirst)) ∧
      after.gates = Function.update h.gates m.gate
        ((h.gates m.gate).settle (h.limits m) (h.interval m) isFirst) := by
  rw [mount_eq] at hm
  obtain ⟨⟨markers, isFirst⟩, hconsult, rfl⟩ := Option.map_eq_some_iff.mp hm
  exact ⟨isFirst, hconsult ▸ Gate.consulted works (h.limits m) m.now, rfl⟩

/-- A mount never changes how the gates are set. -/
theorem billingEnabled_of_mount {h after : Household} {m : Mount} (hm : h.mount m = some after)
    (i : Nat) : (after.gates i).billingEnabled = (h.gates i).billingEnabled := by
  rw [mount_eq] at hm
  obtain ⟨⟨markers, isFirst⟩, -, rfl⟩ := Option.map_eq_some_iff.mp hm
  by_cases hi : i = m.gate
  · subst hi
    simp [Gate.settle]
  · simp [hi]

end Household

/-! ### What is remembered -/

/-- After some rounds the marker that is kept is one that they have left, and it lasts at least
as long as all others that they have left. -/
structure Remembered (past : List Round) (h : Household) : Prop where
  works : h.markers.Works
  nothing : h.markers.marker? Gate.markerName = none → ∀ w ∈ past, ¬ w.Writes
  left : ∀ m, h.markers.marker? Gate.markerName = some m →
    ∃ w ∈ past, w.Writes ∧ w.mount.now.nextDay? = some m.expiresAt
  longest : ∀ m, h.markers.marker? Gate.markerName = some m → ∀ w ∈ past, w.Writes →
    ∃ tomorrow, w.mount.now.nextDay? = some tomorrow ∧ tomorrow.le m.expiresAt = true

/-- What a round comes to when this is known of the rounds before it. -/
structure Told (past : List Round) (r : Round) : Prop where
  writes : r.Writes ↔ r.Exceeds ∧
    ∀ w ∈ past, w.Writes → ¬ r.mount.now.WithinDayOf w.mount.now
  shows : r.ShowsModal ↔ r.Writes ∧ (r.before.gates r.mount.gate).billingEnabled = true
  next : r.Writes → ∃ tomorrow, r.mount.now.nextDay? = some tomorrow
  remembered : Remembered (past ++ [r]) r.after

namespace Remembered

theorem fresh {h : Household} (works : h.markers.Works)
    (nothing : h.markers.marker? Gate.markerName = none) : Remembered [] h where
  works := works
  nothing := fun _ _ hw => by cases hw
  left := fun m hm => by simp [nothing] at hm
  longest := fun m hm => by simp [nothing] at hm

variable {past : List Round} {h after : Household} {m : Mount}

/-- A round that leaves no marker changes nothing about the marker that is kept. -/
theorem quiet (hr : Remembered past h) (works : after.markers.Works)
    (held : after.markers.marker? Gate.markerName = h.markers.marker? Gate.markerName) :
    ¬ (⟨h, m, after⟩ : Round).Writes ∧ Remembered (past ++ [⟨h, m, after⟩]) after := by
  have hwrites : ¬ (⟨h, m, after⟩ : Round).Writes := by
    rintro ⟨marker, hafter, hbefore⟩
    exact hbefore (held.symm.trans hafter)
  have hpast : ∀ w ∈ past ++ [⟨h, m, after⟩], w.Writes → w ∈ past := by
    intro w hw hleft
    rcases List.mem_append.mp hw with hold | hnew
    · exact hold
    · rw [List.mem_singleton.mp hnew] at hleft
      exact absurd hleft hwrites
  refine ⟨hwrites, works, ?_, ?_, ?_⟩
  · intro hnone w hw hleft
    exact hr.nothing (held.symm.trans hnone) w (hpast w hw hleft) hleft
  · intro marker hmarker
    obtain ⟨w, hw, hleft⟩ := hr.left marker (held.symm.trans hmarker)
    exact ⟨w, List.mem_append_left _ hw, hleft⟩
  · intro marker hmarker w hw hleft
    exact hr.longest marker (held.symm.trans hmarker) w (hpast w hw hleft) hleft

/-- When the marker that is kept has expired, or there is none, the days of all before are
over. -/
theorem days_ended (hr : Remembered past h) {now : Instant}
    (due : Marker.live (h.markers.marker? Gate.markerName) now = none) {w : Round} (hw : w ∈ past)
    (hleft : w.Writes) :
    ∃ tomorrow, w.mount.now.nextDay? = some tomorrow ∧ tomorrow.le now = true := by
  cases hmarker : h.markers.marker? Gate.markerName with
  | none => exact absurd hleft (hr.nothing hmarker w hw)
  | some marker =>
      have hexpired : marker.expiresAt.le now = true := by
        rw [hmarker] at due
        simpa [Marker.live, Marker.isExpired] using due
      obtain ⟨tomorrow, hnext, hle⟩ := hr.longest marker hmarker w hw hleft
      exact ⟨tomorrow, hnext, Instant.le_trans hle hexpired⟩

/-- **The marker is due just when no day that a round before has opened reaches to now.** -/
theorem due_iff (hr : Remembered past h) {now : Instant} :
    Marker.live (h.markers.marker? Gate.markerName) now = none ↔
      ∀ w ∈ past, w.Writes → ¬ now.WithinDayOf w.mount.now := by
  constructor
  · rintro due w hw hleft ⟨ends', hnext', hbefore⟩
    obtain ⟨ends, hnext, hle⟩ := hr.days_ended due hw hleft
    obtain rfl := Option.some.inj (hnext.symm.trans hnext')
    exact hbefore hle
  · intro hover
    cases hmarker : h.markers.marker? Gate.markerName with
    | none => rfl
    | some marker =>
        obtain ⟨w, hw, hleft, hnext⟩ := hr.left marker hmarker
        refine Marker.live_of_expired (by_contra fun hcounts => ?_)
        exact hover w hw hleft ⟨marker.expiresAt, hnext, hcounts⟩

/-- A round that leaves a marker: it is a new one, the days of all before are over, and it is the
one that lasts longest from now on. -/
theorem first (hr : Remembered past h) {tomorrow : Instant}
    (due : Marker.live (h.markers.marker? Gate.markerName) m.now = none)
    (next : m.now.nextDay? = some tomorrow) (works : after.markers.Works)
    (held : after.markers.marker? Gate.markerName = some ⟨Gate.markerName, "true", tomorrow⟩) :
    (⟨h, m, after⟩ : Round).Writes ∧
      (∀ w ∈ past, w.Writes → ¬ m.now.WithinDayOf w.mount.now) ∧
      Remembered (past ++ [⟨h, m, after⟩]) after := by
  have hwrites : (⟨h, m, after⟩ : Round).Writes := by
    refine ⟨_, held, fun hold => ?_⟩
    -- the old marker would end tomorrow, and so it could not have expired
    rw [show h.markers.marker? Gate.markerName = _ from hold] at due
    have hexpired : tomorrow.le m.now = true := by
      simpa [Marker.live, Marker.isExpired] using due
    exact Instant.not_nextDay_le next hexpired
  refine ⟨hwrites, hr.due_iff.mp due, works, fun hnone => by simp [held] at hnone, ?_, ?_⟩
  · intro marker hmarker
    obtain rfl := Option.some.inj (held.symm.trans hmarker)
    exact ⟨_, List.mem_append_right _ List.mem_cons_self, hwrites, next⟩
  · intro marker hmarker w hw hleft
    obtain rfl := Option.some.inj (held.symm.trans hmarker)
    rcases List.mem_append.mp hw with hold | hnew
    · obtain ⟨ends, hnext, hle⟩ := hr.days_ended due hold hleft
      exact ⟨ends, hnext, Instant.le_trans hle (Instant.le_nextDay next)⟩
    · rw [List.mem_singleton.mp hnew]
      exact ⟨tomorrow, next, Instant.le_iff.mpr (Or.inr ⟨rfl, Nat.le_refl _⟩)⟩

/-- **What one more round comes to.** -/
theorem told (hr : Remembered past h) (hm : h.mount m = some after) :
    Told past ⟨h, m, after⟩ := by
  obtain ⟨isFirst, hconsulted, hgates⟩ := h.mounted hr.works hm
  have hshows : (⟨h, m, after⟩ : Round).ShowsModal ↔
      isFirst = true ∧ (h.gates m.gate).billingEnabled = true := by
    rw [Round.ShowsModal, hgates, Function.update_self, Gate.settle, Bool.and_eq_true]
  cases hconsulted with
  | within fits same =>
      obtain ⟨hwrites, hafter⟩ := hr.quiet (m := m) (same ▸ hr.works) (by rw [same])
      have hexceeds : ¬ (⟨h, m, after⟩ : Round).Exceeds := by simp [Round.Exceeds, fits]
      exact ⟨by simp [hwrites, hexceeds], by simp [hshows, hwrites], fun hc => absurd hc hwrites,
        hafter⟩
  | @told marker _ exceeds found counts works held =>
      obtain ⟨hwrites, hafter⟩ := hr.quiet (m := m) works (held.trans found.symm)
      refine ⟨iff_of_false hwrites ?_, by simp [hshows, hwrites], fun hc => absurd hc hwrites,
        hafter⟩
      rintro ⟨-, hover⟩
      have hdue := hr.due_iff.mpr hover
      rw [found, Marker.live_of_not_expired counts] at hdue
      cases hdue
  | @first tomorrow _ exceeds due next works held =>
      obtain ⟨hwrites, hover, hafter⟩ := hr.first due next works held
      exact ⟨iff_of_true hwrites ⟨exceeds, hover⟩, by simp [hshows, hwrites],
        fun _ => ⟨tomorrow, next⟩, hafter⟩

/-- It is known of the rounds before each one. -/
theorem rounds (hr : Remembered past h) {mounts : List Mount} {earlier later : List Round}
    {r : Round} (hrounds : h.rounds mounts = earlier ++ r :: later) :
    Told (past ++ earlier) r := by
  induction mounts generalizing past h earlier with
  | nil => simp [Household.rounds] at hrounds
  | cons m rest ih =>
      rw [Household.rounds] at hrounds
      cases hm : h.mount m with
      | none => simp [hm] at hrounds
      | some after =>
          rw [hm] at hrounds
          have htold := hr.told hm
          cases earlier with
          | nil =>
              obtain ⟨rfl, -⟩ := List.cons.inj hrounds
              rwa [List.append_nil]
          | cons first others =>
              obtain ⟨rfl, hrest⟩ := List.cons.inj hrounds
              have hothers := ih htold.remembered hrest
              rwa [List.append_assoc] at hothers

end Remembered

/-- Nobody changes how the gates are set. -/
theorem Household.billingEnabled_of_rounds {h : Household} {mounts : List Mount} {r : Round}
    (hr : r ∈ h.rounds mounts) (i : Nat) :
    (r.before.gates i).billingEnabled = (h.gates i).billingEnabled := by
  induction mounts generalizing h with
  | nil => simp [rounds] at hr
  | cons m rest ih =>
      rw [rounds] at hr
      cases hm : h.mount m with
      | none => simp [hm] at hr
      | some after =>
          rw [hm] at hr
          rcases List.mem_cons.mp hr with rfl | hrest
          · rfl
          · exact (ih hrest).trans (billingEnabled_of_mount hm i)

/-! ### A mount without an answer -/

/-- What is remembered after all mounts of a list. -/
theorem Remembered.afterAll {past : List Round} {h : Household} (hr : Remembered past h)
    (mounts : List Mount) : Remembered (past ++ h.rounds mounts) (h.afterAll mounts) := by
  induction mounts generalizing past h with
  | nil =>
      rw [Household.rounds, List.append_nil]
      exact hr
  | cons m rest ih =>
      rw [Household.rounds, Household.afterAll]
      cases hm : h.mount m with
      | none =>
          rw [List.append_nil]
          exact hr
      | some after =>
          have hrest := ih (hr.told hm).remembered
          rwa [List.append_assoc] at hrest

/-- Behind mounts that have all given an answer, rounds go on from what they left behind. -/
theorem Household.rounds_append {h : Household} {earlier : List Mount}
    (answered : (h.rounds earlier).map (·.mount) = earlier) (later : List Mount) :
    h.rounds (earlier ++ later) = h.rounds earlier ++ (h.afterAll earlier).rounds later := by
  induction earlier generalizing h with
  | nil => rfl
  | cons m rest ih =>
      rw [rounds] at answered
      rw [List.cons_append, rounds, rounds, afterAll]
      cases hm : h.mount m with
      | none => simp [hm] at answered
      | some after =>
          rw [hm] at answered
          exact congrArg _ (ih (List.cons.inj answered).2)

/-- **A mount gives no answer just when limits are exceeded, its marker is due and there is no
tomorrow.** -/
theorem Remembered.mount_eq_none_iff {past : List Round} {h : Household} (hr : Remembered past h)
    (m : Mount) : h.mount m = none ↔ m.now.nextDay? = none ∧ (h.limits m).isExceeded = true ∧
      ∀ w ∈ past, w.Writes → ¬ m.now.WithinDayOf w.mount.now := by
  rw [Household.mount_eq, Option.map_eq_none_iff, ← hr.due_iff]
  have hconsulted := Gate.consulted hr.works (h.limits m) m.now
  constructor
  · intro hnone
    rw [hnone] at hconsulted
    cases hconsulted with
    | unanswered exceeds due last => exact ⟨last, exceeds, due⟩
  · rintro ⟨last, exceeds, due⟩
    generalize Gate.consult h.markers (h.limits m) m.now = answer at hconsulted
    cases hconsulted with
    | unanswered => rfl
    | within fits same => simp [fits] at exceeds
    | first _ _ next => simp [last] at next
    | told _ found counts => simp [found, Marker.live_of_not_expired counts] at due

/-- As long as there is always a tomorrow, every mount gives an answer. -/
theorem Remembered.map_mount_rounds {past : List Round} {h : Household} (hr : Remembered past h)
    {mounts : List Mount} (next : ∀ m ∈ mounts, m.now.nextDay? ≠ none) :
    (h.rounds mounts).map (·.mount) = mounts := by
  induction mounts generalizing past h with
  | nil => rfl
  | cons m rest ih =>
      rw [Household.rounds]
      cases hm : h.mount m with
      | none => exact absurd ((hr.mount_eq_none_iff m).mp hm).1 (next m List.mem_cons_self)
      | some after =>
          have hrest := ih (hr.told hm).remembered fun m' hm' => next m' (List.mem_cons_of_mem _ hm')
          rw [List.map_cons, hrest]

/-! ### The rule of the day's marker -/

/-- When mounts leave a marker and when they show the modal, one after the other. -/
structure DailyRule (h : Household) (mounts : List Mount) : Prop where
  /-- Every mount gives an answer, if each of them has a tomorrow. -/
  answers : (∀ m ∈ mounts, m.now.nextDay? ≠ none) → (h.rounds mounts).map (·.mount) = mounts
  /-- Behind mounts that have all given an answer, the next one gives none, and so leaves no
  marker, just when it has no tomorrow, limits are exceeded and its marker is due: no mount before
  it that left one has its day reach to now. -/
  unanswered : ∀ earlier m later, mounts = earlier ++ m :: later →
    (h.rounds earlier).map (·.mount) = earlier →
    (h.rounds mounts = h.rounds earlier ↔
      m.now.nextDay? = none ∧ ((h.afterAll earlier).limits m).isExceeded = true ∧
        ∀ w ∈ h.rounds earlier, w.Writes → ¬ m.now.WithinDayOf w.mount.now)
  /-- A mount leaves a marker just when limits are exceeded and no mount before it that left
  one has its day reach to now. -/
  writes : ∀ earlier r later, h.rounds mounts = earlier ++ r :: later →
    (r.Writes ↔ r.Exceeds ∧ ∀ w ∈ earlier, w.Writes → ¬ r.mount.now.WithinDayOf w.mount.now)
  /-- It shows the modal just when it leaves a marker and its gate has billing. -/
  shows : ∀ r ∈ h.rounds mounts,
    r.ShowsModal ↔ r.Writes ∧ (h.gates r.mount.gate).billingEnabled = true
  /-- So mounts that leave markers are a day apart, or more. -/
  apart : ∀ earlier a between b later,
    h.rounds mounts = earlier ++ a :: (between ++ b :: later) → a.Writes → b.Writes →
      b.mount.now.DayAfter a.mount.now
  /-- And so are mounts that show the modal. -/
  modals : ∀ earlier a between b later,
    h.rounds mounts = earlier ++ a :: (between ++ b :: later) → a.ShowsModal → b.ShowsModal →
      b.mount.now.DayAfter a.mount.now
  /-- Where all gates have billing, limits that are exceeded are only passed over within the day
  of a modal that was shown before. -/
  covered : (∀ i, (h.gates i).billingEnabled = true) →
    ∀ earlier r later, h.rounds mounts = earlier ++ r :: later → r.Exceeds → ¬ r.ShowsModal →
      ∃ w ∈ earlier, w.ShowsModal ∧ r.mount.now.WithinDayOf w.mount.now

/-- **Exceeded limits are told once a day, and never passed over.** -/
theorem rounds_dailyRule (h : Household) (works : h.markers.Works)
    (nothing : h.markers.marker? Gate.markerName = none) (mounts : List Mount) :
    DailyRule h mounts := by
  have hremembered := Remembered.fresh works nothing
  have htold : ∀ {earlier r later}, h.rounds mounts = earlier ++ r :: later → Told earlier r :=
    fun hrounds => hremembered.rounds hrounds
  have hshows : ∀ r ∈ h.rounds mounts,
      r.ShowsModal ↔ r.Writes ∧ (h.gates r.mount.gate).billingEnabled = true := by
    intro r hr
    obtain ⟨earlier, later, hrounds⟩ := List.append_of_mem hr
    rw [(htold hrounds).shows, Household.billingEnabled_of_rounds hr]
  have hapart : ∀ earlier a between b later,
      h.rounds mounts = earlier ++ a :: (between ++ b :: later) → a.Writes → b.Writes →
        b.mount.now.DayAfter a.mount.now := by
    intro earlier a between b later hrounds ha hb
    obtain ⟨tomorrow, hnext⟩ := (htold hrounds).next ha
    rw [← List.cons_append, ← List.append_assoc] at hrounds
    have hover := ((htold hrounds).writes.mp hb).2 a (by simp) ha
    by_contra hnot
    exact hover ⟨tomorrow, hnext, fun hle => hnot ⟨tomorrow, hnext, hle⟩⟩
  refine ⟨hremembered.map_mount_rounds, ?_, fun _ _ _ hrounds => (htold hrounds).writes, hshows,
    hapart, ?_, ?_⟩
  · rintro earlier m later rfl answered
    have hafter := hremembered.afterAll earlier
    rw [List.nil_append] at hafter
    rw [h.rounds_append answered, List.append_right_eq_self, ← hafter.mount_eq_none_iff,
      Household.rounds]
    cases (h.afterAll earlier).mount m with
    | none => exact iff_of_true rfl rfl
    | some after => exact iff_of_false (List.cons_ne_nil _ _) (Option.some_ne_none after)
  · intro earlier a between b later hrounds ha hb
    exact hapart earlier a between b later hrounds
      ((hshows a (by simp [hrounds])).mp ha).1 ((hshows b (by simp [hrounds])).mp hb).1
  · intro billing earlier r later hrounds hexceeds hmodal
    have hwrites : ¬ r.Writes := fun hw =>
      hmodal ((hshows r (by simp [hrounds])).mpr ⟨hw, billing _⟩)
    by_contra hnone
    refine hwrites ((htold hrounds).writes.mpr ⟨hexceeds, fun w hw hleft hwithin => hnone ?_⟩)
    exact ⟨w, hw, (hshows w (by simp [hrounds, hw])).mpr ⟨hleft, billing _⟩, hwithin⟩

/-- Two gates within a day, and a third mount when it is over: the second one is not told. -/
theorem dailyRule_of_two_gates :
    let h : Household := ⟨.inMemory, fun _ => .new true none .unlimited⟩
    let limits : Exceeding := ⟨[⟨.storage, .exceeded, .month, 2, 1⟩], []⟩
    let mounts : List Mount := [⟨0, .given limits .month, .ofSeconds 1000⟩,
      ⟨1, .given limits .year, .ofSeconds 87399⟩, ⟨0, .given limits .month, .ofSeconds 87400⟩]
    h.markers.Works ∧ h.markers.marker? Gate.markerName = none ∧
      (h.rounds mounts).map (fun r => (r.after.gates r.mount.gate).decision.showModal)
        = [true, false, true] ∧ DailyRule h mounts :=
  ⟨MarkerStore.works_inMemory, rfl, by decide,
    rounds_dailyRule _ MarkerStore.works_inMemory rfl _⟩

/-- On the last day there is no tomorrow that a marker could last to: limits are exceeded and no
mount was before this one, but it gives no answer and leaves no marker. -/
theorem unanswered_on_the_last_day :
    let h : Household := ⟨.inMemory, fun _ => .new true none .unlimited⟩
    let limits : Exceeding := ⟨[⟨.storage, .exceeded, .month, 2, 1⟩], []⟩
    let noon : Instant := .ofSeconds (Date.toDays ⟨262142, 12, 31⟩ * 86400 + 43200)
    let m : Mount := ⟨0, .given limits .month, noon⟩
    h.markers.Works ∧ h.markers.marker? Gate.markerName = none ∧
      (h.limits m).isExceeded = true ∧ h.rounds [m] = [] ∧ ¬ ∃ r ∈ h.rounds [m], r.Writes := by
  intro h limits noon m
  have hrounds : h.rounds [m] = [] := by
    have hmount : h.mount m = none := by decide
    rw [Household.rounds, hmount]
  refine ⟨MarkerStore.works_inMemory, rfl, rfl, hrounds, ?_⟩
  rintro ⟨r, hr, -⟩
  rw [hrounds] at hr
  cases hr

end ProjectViews
