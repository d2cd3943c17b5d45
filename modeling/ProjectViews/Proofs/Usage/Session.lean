/-
What a gate shows, whatever happens in a session.

A mount does not happen all at once.  It waits for the usage report, for the subscription, for
the markers to be read and written, and at last for the gate itself; and while it waits, people
dismiss what is shown, other mounts settle theirs, and the markers are changed from elsewhere, or
stop working.  So a session takes each of these as a step of its own, in any order and for any
number of mounts at once, and `run_mount` and `run_apply` say that the steps of a mount that is
left alone are what the gate does.

What is shown is never worked out from what was shown before it.  A mount knows, when it settles,
whether its limits are exceeded and whether this was the first time in a day, and reads the
dismissal of the banner at that moment.  This is why a dismissal is not lost on a mount that began
before it, and why `Proper` is kept: the banner is shown just when limits are exceeded, the modal
is not shown, and the banner was not dismissed.
-/
import ProjectViews.Usage.Gate
import Mathlib.Logic.Function.Basic

namespace ProjectViews

/-! ### What a gate shows -/

/-- What is shown fits together, and fits what is known of the limits and of the person. -/
structure Gate.Proper (g : Gate) : Prop where
  /-- The banner stands in for the modal, until it is dismissed. -/
  banner : g.decision.showExceededBanner
    = (g.decision.limits.isExceeded && !g.decision.showModal && !g.bannerDismissed)
  modal : g.decision.showModal = true →
    g.decision.limits.isExceeded = true ∧ g.billingEnabled = true
  warning : g.decision.showWarningBanner = g.decision.limits.isWarning

namespace Gate

theorem proper_new (billingEnabled : Bool) (organization : Option String) (fallback : PlanLimits) :
    (new billingEnabled organization fallback).Proper :=
  ⟨rfl, nofun, rfl⟩

/-- It is only the first time in a day when limits are exceeded. -/
theorem proper_settle (g : Gate) {limits : Exceeding} (interval : Interval) {isFirst : Bool}
    (hfirst : isFirst = true → limits.isExceeded = true) :
    (g.settle limits interval isFirst).Proper where
  banner := rfl
  modal := by
    intro h
    obtain ⟨hisFirst, hbilling⟩ := Bool.and_eq_true_iff.mp h
    exact ⟨hfirst hisFirst, hbilling⟩
  warning := rfl

theorem Proper.dismissModal {g : Gate} (h : g.Proper) : g.dismissModal.Proper := by
  rw [Gate.dismissModal]
  by_cases hshown : g.decision.showModal = true
  · rw [if_pos hshown]
    exact ⟨by simp, nofun, h.warning⟩
  · rw [if_neg hshown]
    exact h

theorem Proper.dismissBanner {g : Gate} (h : g.Proper) : g.dismissBanner.Proper :=
  ⟨by simp [Gate.dismissBanner], h.modal, h.warning⟩

@[simp] theorem billingEnabled_dismissModal (g : Gate) :
    g.dismissModal.billingEnabled = g.billingEnabled := by
  rw [dismissModal]
  split <;> rfl

@[simp] theorem bannerDismissed_dismissModal (g : Gate) :
    g.dismissModal.bannerDismissed = g.bannerDismissed := by
  rw [dismissModal]
  split <;> rfl

end Gate

/-! ### A gate in a session -/

/-- How far a mount has come: what it waits for, and what it knows by now. -/
inductive Mounting where
  /-- The usage report. -/
  | fetching (now : Instant)
  /-- The subscription. -/
  | subscribing (report : UsageReport) (now : Instant)
  /-- The marker of the day, because limits are exceeded. -/
  | reading (limits : Exceeding) (interval : Interval) (now : Instant)
  /-- A marker being written, because there was none. -/
  | writing (marker : Marker) (limits : Exceeding) (interval : Interval)
  /-- The gate. -/
  | settling (limits : Exceeding) (interval : Interval) (isFirst : Bool)

/-- A mount that knows its limits.  The markers matter only when they are exceeded. -/
def Mounting.weigh (limits : Exceeding) (interval : Interval) (now : Instant) : Mounting :=
  if limits.isExceeded then reading limits interval now else settling limits interval false

/-- What a mount does once the marker was looked up.  One that cannot be read counts as missing; a
new one is written, unless it would outlast time, and then the mount is given up. -/
def Mounting.remember (found : Except MarkerError (Option String)) (limits : Exceeding)
    (interval : Interval) (now : Instant) : Option Mounting :=
  match found with
  | .ok (some _) => some (settling limits interval false)
  | _ => (Gate.markerAt? now).map fun marker => writing marker limits interval

/-- A gate, its markers, and the mounts that are under way, by number. -/
structure GateSession where
  gate : Gate
  markers : MarkerStore
  mounting : Nat → Option Mounting

/-- What can happen in a session. -/
inductive Occasion where
  | mount (task : Nat) (now : Instant)
  /-- A mount with limits that are known already. -/
  | apply (task : Nat) (limits : Exceeding) (interval : Interval) (now : Instant)
  /-- The usage service answers a mount. -/
  | report (task : Nat) (report : Except Failure UsageReport)
  | subscription (task : Nat) (subscription : Except Failure (Option Subscription))
  /-- The markers, or the gate, have time for a mount. -/
  | goOn (task : Nat)
  | dismissModal
  | dismissBanner
  /-- The markers are changed from elsewhere, or stop working, or work again. -/
  | elsewhere (markers : MarkerStore)

/-- The mount that an occasion is about. -/
def Occasion.task? : Occasion → Option Nat
  | mount task _ | apply task _ _ _ | report task _ | subscription task _ | goOn task => some task
  | dismissModal | dismissBanner | elsewhere _ => none

namespace GateSession

/-- A session that begins. -/
def new (billingEnabled : Bool) (organization : Option String) (fallback : PlanLimits)
    (markers : MarkerStore) : GateSession :=
  ⟨.new billingEnabled organization fallback, markers, fun _ => none⟩

/-- A mount has come somewhere, or is over. -/
def put (s : GateSession) (task : Nat) (m : Option Mounting) : GateSession :=
  { s with mounting := Function.update s.mounting task m }

@[simp] theorem put_gate (s : GateSession) (task : Nat) (m : Option Mounting) :
    (s.put task m).gate = s.gate := rfl

@[simp] theorem put_markers (s : GateSession) (task : Nat) (m : Option Mounting) :
    (s.put task m).markers = s.markers := rfl

@[simp] theorem put_mounting_self (s : GateSession) (task : Nat) (m : Option Mounting) :
    (s.put task m).mounting task = m :=
  Function.update_self ..

theorem put_mounting_of_ne (s : GateSession) {task u : Nat} (hu : u ≠ task)
    (m : Option Mounting) : (s.put task m).mounting u = s.mounting u :=
  Function.update_of_ne hu ..

@[simp] theorem put_put (s : GateSession) (task : Nat) (m n : Option Mounting) :
    (s.put task m).put task n = s.put task n := by
  simp [put]

theorem put_comm (s : GateSession) {task u : Nat} (hu : u ≠ task) (m n : Option Mounting) :
    (s.put task m).put u n = (s.put u n).put task m := by
  simp [put, Function.update_comm hu.symm]

theorem put_same {s : GateSession} {task : Nat} {m : Option Mounting}
    (h : s.mounting task = m) : s.put task m = s := by
  simp [put, ← h]

/-- The markers, or the gate, have time for a mount. -/
def goOn (s : GateSession) (task : Nat) : GateSession × List (Except Failure Decision) :=
  match s.mounting task with
  | some (.reading limits interval now) =>
    let (markers, found) := s.markers.read Gate.markerName now
    ({ s with markers := markers }.put task (Mounting.remember found limits interval now), [])
  | some (.writing marker limits interval) =>
    ({ s with markers := (s.markers.write marker).1 }.put task
      (some (.settling limits interval true)), [])
  | some (.settling limits interval isFirst) =>
    let gate := s.gate.settle limits interval isFirst
    ({ s with gate := gate }.put task none, [.ok gate.decision])
  | _ => (s, [])

/-- The usage service answers a mount with a report, or fails it. -/
def report (s : GateSession) (task : Nat) (report : Except Failure UsageReport) :
    GateSession × List (Except Failure Decision) :=
  match s.mounting task, report with
  | some (.fetching now), .ok report => (s.put task (some (.subscribing report now)), [])
  | some (.fetching _), .error failure => (s.put task none, [.error failure])
  | _, _ => (s, [])

/-- The usage service answers a mount with a subscription: now it knows its limits. -/
def subscription (s : GateSession) (task : Nat)
    (subscription : Except Failure (Option Subscription)) : GateSession :=
  match s.mounting task with
  | some (.subscribing report now) =>
    let (limits, interval) := s.gate.assess report subscription
    s.put task (some (.weigh limits interval now))
  | _ => s

/-- What an occasion comes to: the session after it, and what is answered.  A mount that takes the
number of another gives that one up. -/
def step (s : GateSession) : Occasion → GateSession × List (Except Failure Decision)
  | .mount task now => (s.put task (some (.fetching now)), [])
  | .apply task limits interval now => (s.put task (some (.weigh limits interval now)), [])
  | .report task report => s.report task report
  | .subscription task subscription => (s.subscription task subscription, [])
  | .goOn task => s.goOn task
  | .dismissModal => ({ s with gate := s.gate.dismissModal }, [.ok s.gate.dismissModal.decision])
  | .dismissBanner =>
    ({ s with gate := s.gate.dismissBanner }, [.ok s.gate.dismissBanner.decision])
  | .elsewhere markers => ({ s with markers := markers }, [])

/-- The session after all that has happened. -/
def run (s : GateSession) (occasions : List Occasion) : GateSession :=
  occasions.foldl (fun s o => (s.step o).1) s

@[simp] theorem run_nil (s : GateSession) : s.run [] = s := rfl

@[simp] theorem run_cons (s : GateSession) (o : Occasion) (rest : List Occasion) :
    s.run (o :: rest) = (s.step o).1.run rest := rfl

theorem run_append (s : GateSession) (occasions later : List Occasion) :
    s.run (occasions ++ later) = (s.run occasions).run later := by
  rw [run, run, run, List.foldl_append]

end GateSession

/-! ### What a step comes to -/

/-- What a mount has found out by now is so: only limits that are exceeded are looked up among the
markers. -/
def Mounting.Sound : Mounting → Prop
  | fetching _ | subscribing _ _ => True
  | reading limits _ _ | writing _ limits _ => limits.isExceeded = true
  | settling limits _ isFirst => isFirst = true → limits.isExceeded = true

theorem Mounting.sound_remember {found : Except MarkerError (Option String)} {limits : Exceeding}
    {interval : Interval} {now : Instant} {m : Mounting} (exceeds : limits.isExceeded = true)
    (h : remember found limits interval now = some m) : m.Sound := by
  unfold remember at h
  split at h
  · obtain rfl := Option.some.inj h
    exact fun _ => exceeds
  · obtain ⟨marker, -, rfl⟩ := Option.map_eq_some_iff.mp h
    exact exceeds

theorem Mounting.sound_weigh (limits : Exceeding) (interval : Interval) (now : Instant) :
    (weigh limits interval now).Sound := by
  rw [weigh]
  by_cases h : limits.isExceeded = true
  · rw [if_pos h]
    exact h
  · rw [if_neg h]
    intro hfirst
    cases hfirst

/-- Everything that can come of an occasion. -/
inductive GateSession.Outcome (s : GateSession) :
    Occasion → GateSession × List (Except Failure Decision) → Prop
  /-- A mount begins, or goes on with what it has learnt, and nothing is shown anew. -/
  | moved {o : Occasion} {task : Nat} {m : Mounting} (named : o.task? = some task)
      (markers : MarkerStore)
      (sound : (∀ n, s.mounting task = some n → n.Sound) → m.Sound) :
      Outcome s o ({ s with markers := markers }.put task (some m), [])
  /-- A mount is given up, and nothing is shown anew. -/
  | ended {o : Occasion} {task : Nat} (named : o.task? = some task) (markers : MarkerStore)
      (given : List (Except Failure Decision)) (silent : ∀ d, .ok d ∉ given) :
      Outcome s o ({ s with markers := markers }.put task none, given)
  | settled {task : Nat} {limits : Exceeding} {interval : Interval} {isFirst : Bool}
      (mounting : s.mounting task = some (.settling limits interval isFirst)) :
      Outcome s (.goOn task)
        ({ s with gate := s.gate.settle limits interval isFirst }.put task none,
          [.ok (s.gate.settle limits interval isFirst).decision])
  | dismissedModal : Outcome s .dismissModal
      ({ s with gate := s.gate.dismissModal }, [.ok s.gate.dismissModal.decision])
  | dismissedBanner : Outcome s .dismissBanner
      ({ s with gate := s.gate.dismissBanner }, [.ok s.gate.dismissBanner.decision])
  | elsewhere {markers : MarkerStore} : Outcome s (.elsewhere markers)
      ({ s with markers := markers }, [])
  /-- Nobody waits for this. -/
  | ignored {o : Occasion} {task : Nat} (named : o.task? = some task) : Outcome s o (s, [])

namespace GateSession

/-- **Every occasion has one of these outcomes.** -/
theorem outcome_step (s : GateSession) (o : Occasion) : Outcome s o (s.step o) := by
  cases o with
  | mount task now => exact .moved rfl s.markers fun _ => trivial
  | apply task limits interval now =>
      exact .moved rfl s.markers fun _ => Mounting.sound_weigh limits interval now
  | report task report =>
      simp only [step, GateSession.report]
      split
      · exact .moved rfl s.markers fun _ => trivial
      · exact .ended rfl s.markers _ fun d hd => by cases List.mem_singleton.mp hd
      · exact .ignored rfl
  | subscription task subscription =>
      simp only [step, GateSession.subscription]
      split
      · exact .moved rfl s.markers fun _ => Mounting.sound_weigh _ _ _
      · exact .ignored rfl
  | goOn task =>
      simp only [step, goOn]
      split
      · rename_i limits interval now hreading
        cases hnext : Mounting.remember _ limits interval now with
        | none => exact .ended rfl _ [] fun d hd => by cases hd
        | some m =>
            exact .moved rfl _ fun hsound => Mounting.sound_remember (hsound _ hreading) hnext
      · rename_i marker limits interval hwriting
        exact .moved rfl _ fun hsound _ => hsound _ hwriting
      · rename_i hsettling
        exact .settled hsettling
      · exact .ignored rfl
  | dismissModal => exact .dismissedModal
  | dismissBanner => exact .dismissedBanner
  | elsewhere markers => exact .elsewhere

/-- What is answered is what is shown. -/
theorem Outcome.given {s : GateSession} {o : Occasion}
    {t : GateSession × List (Except Failure Decision)} (h : Outcome s o t) {d : Decision}
    (hd : .ok d ∈ t.2) : d = t.1.gate.decision := by
  cases h with
  | moved => cases hd
  | ended _ _ given silent => exact absurd hd (silent d)
  | settled => simpa using hd
  | dismissedModal => simpa using hd
  | dismissedBanner => simpa using hd
  | elsewhere => cases hd
  | ignored => cases hd

/-! ### What a run preserves -/

/-- What is known of a session after some occasions. -/
structure Kept (billingEnabled : Bool) (past : List Occasion) (s : GateSession) : Prop where
  proper : s.gate.Proper
  billing : s.gate.billingEnabled = billingEnabled
  dismissed : s.gate.bannerDismissed = true ↔ .dismissBanner ∈ past
  sound : ∀ task m, s.mounting task = some m → m.Sound

namespace Kept

variable {billingEnabled : Bool} {past : List Occasion} {s : GateSession}

theorem new (billingEnabled : Bool) (organization : Option String) (fallback : PlanLimits)
    (markers : MarkerStore) :
    Kept billingEnabled [] (.new billingEnabled organization fallback markers) where
  proper := Gate.proper_new _ _ _
  billing := rfl
  dismissed := by simp [GateSession.new, Gate.new]
  sound := fun _ _ h => by cases h

/-- Where the mounts stand stays sound when one that is sound is put in, or one is over. -/
theorem sound_put (h : Kept billingEnabled past s) {t : GateSession} {task : Nat}
    {m : Option Mounting} (hm : ∀ n, m = some n → n.Sound) (ht : t.mounting = s.mounting) :
    ∀ u n, (t.put task m).mounting u = some n → n.Sound := by
  intro u n hn
  by_cases hu : u = task
  · subst hu
    exact hm n (by simpa using hn)
  · rw [put_mounting_of_ne _ hu, ht] at hn
    exact h.sound u n hn

/-- An occasion that is about a mount is no dismissal. -/
theorem dismissed_of_named (h : Kept billingEnabled past s) {o : Occasion} {task : Nat}
    (named : o.task? = some task) :
    s.gate.bannerDismissed = true ↔ .dismissBanner ∈ past ++ [o] := by
  have hne : o ≠ .dismissBanner := by
    rintro rfl
    cases named
  simp [h.dismissed, hne.symm]

/-- **What is known is kept by every occasion.** -/
theorem step (h : Kept billingEnabled past s) {o : Occasion}
    {t : GateSession × List (Except Failure Decision)} (e : Outcome s o t) :
    Kept billingEnabled (past ++ [o]) t.1 := by
  cases e with
  | @moved _ task m named markers sound =>
      refine ⟨h.proper, h.billing, h.dismissed_of_named named, h.sound_put ?_ rfl⟩
      rintro _ ⟨⟩
      exact sound (h.sound task)
  | ended named markers given _ =>
      exact ⟨h.proper, h.billing, h.dismissed_of_named named, h.sound_put (by simp) rfl⟩
  | settled mounting =>
      exact ⟨s.gate.proper_settle _ (h.sound _ _ mounting), h.billing,
        h.dismissed_of_named rfl, h.sound_put (by simp) rfl⟩
  | dismissedModal =>
      exact ⟨h.proper.dismissModal, by simp [h.billing], by simp [h.dismissed], h.sound⟩
  | dismissedBanner =>
      exact ⟨h.proper.dismissBanner, h.billing, by simp [Gate.dismissBanner], h.sound⟩
  | elsewhere => exact ⟨h.proper, h.billing, by simp [h.dismissed], h.sound⟩
  | ignored named => exact ⟨h.proper, h.billing, h.dismissed_of_named named, h.sound⟩

theorem run (h : Kept billingEnabled past s) (occasions : List Occasion) :
    Kept billingEnabled (past ++ occasions) (s.run occasions) := by
  induction occasions generalizing past s with
  | nil => rwa [List.append_nil]
  | cons o rest ih =>
      have hrest := ih (h.step (s.outcome_step o))
      rwa [List.append_assoc] at hrest

end Kept

/-! ### A mount that fails -/

/-- Where a mount stands makes no difference to occasions that are about others. -/
theorem step_put (s : GateSession) {o : Occasion} {task : Nat} (others : o.task? ≠ some task)
    (m : Option Mounting) :
    (s.put task m).step o = ((s.step o).1.put task m, (s.step o).2) := by
  cases o with
  | mount u now =>
      have hu : u ≠ task := fun h => others (congrArg some h)
      simp only [step, s.put_comm hu]
  | apply u limits interval now =>
      have hu : u ≠ task := fun h => others (congrArg some h)
      simp only [step, s.put_comm hu]
  | report u report =>
      have hu : u ≠ task := fun h => others (congrArg some h)
      simp only [step, GateSession.report, s.put_mounting_of_ne hu]
      split <;> simp only [s.put_comm hu]
  | subscription u subscription =>
      have hu : u ≠ task := fun h => others (congrArg some h)
      simp only [step, GateSession.subscription, s.put_mounting_of_ne hu]
      split <;> simp only [s.put_comm hu, put_gate]
  | goOn u =>
      have hu : u ≠ task := fun h => others (congrArg some h)
      simp only [step, goOn, s.put_mounting_of_ne hu]
      split
      · exact congrArg (·, []) (put_comm { s with markers := _ } hu _ _)
      · exact congrArg (·, []) (put_comm { s with markers := _ } hu _ _)
      · exact congrArg (·, _) (put_comm { s with gate := _ } hu _ _)
      · rfl
  | dismissModal => rfl
  | dismissBanner => rfl
  | elsewhere markers => rfl

theorem run_put (s : GateSession) {occasions : List Occasion} {task : Nat}
    (others : ∀ o ∈ occasions, o.task? ≠ some task) (m : Option Mounting) :
    (s.put task m).run occasions = (s.run occasions).put task m := by
  induction occasions generalizing s with
  | nil => rfl
  | cons o rest ih =>
      rw [run_cons, s.step_put (others o List.mem_cons_self), run_cons]
      exact ih _ fun o' ho' => others o' (List.mem_cons_of_mem _ ho')

theorem report_error (s : GateSession) (task : Nat) (now : Instant) (failure : Failure) :
    (s.put task (some (.fetching now))).report task (.error failure)
      = (s.put task none, [.error failure]) := by
  simp only [report, put_mounting_self, put_put]

/-- **A mount without a report leaves no trace.**  Whatever happened while it waited, all is as if
it had not begun. -/
theorem run_failed {s : GateSession} {task : Nat} (free : s.mounting task = none) (now : Instant)
    {meanwhile : List Occasion} (others : ∀ o ∈ meanwhile, o.task? ≠ some task)
    (failure : Failure) :
    s.run (.mount task now :: meanwhile ++ [.report task (.error failure)]) = s.run meanwhile := by
  have hfree : (s.run meanwhile).put task none = s.run meanwhile := by
    rw [← s.run_put others, put_same free]
  rw [List.cons_append, run_cons, run_append, step, s.run_put others, run_cons, run_nil, step,
    report_error]
  exact hfree

/-! ### A mount that is left alone -/

/-- What is answered while all this happens. -/
def answers (s : GateSession) : List Occasion → List (Except Failure Decision)
  | [] => []
  | o :: rest => (s.step o).2 ++ (s.step o).1.answers rest

theorem goOn_settling (s : GateSession) (task : Nat) (limits : Exceeding) (interval : Interval)
    (isFirst : Bool) :
    (s.put task (some (.settling limits interval isFirst))).goOn task
      = ({ s with gate := s.gate.settle limits interval isFirst }.put task none,
          [.ok (s.gate.settle limits interval isFirst).decision]) := by
  rw [goOn, put_mounting_self]
  exact congrArg (·, _) (put_put { s with gate := _ } ..)

theorem goOn_writing (s : GateSession) (task : Nat) (marker : Marker) (limits : Exceeding)
    (interval : Interval) :
    (s.put task (some (.writing marker limits interval))).goOn task
      = ({ s with markers := (s.markers.write marker).1 }.put task
          (some (.settling limits interval true)), []) := by
  rw [goOn, put_mounting_self]
  exact congrArg (·, _) (put_put { s with markers := _ } ..)

theorem goOn_over (s : GateSession) (task : Nat) :
    (s.put task none).goOn task = (s.put task none, []) := by
  rw [goOn, put_mounting_self]

theorem goOn_reading (s : GateSession) (task : Nat) (limits : Exceeding) (interval : Interval)
    (now : Instant) {markers : MarkerStore} {found : Except MarkerError (Option String)}
    (hread : s.markers.read Gate.markerName now = (markers, found)) :
    (s.put task (some (.reading limits interval now))).goOn task
      = ({ s with markers := markers }.put task
          (Mounting.remember found limits interval now), []) := by
  rw [goOn, put_mounting_self]
  simp only [put_markers, hread]
  exact congrArg (·, _) (put_put { s with markers := markers } ..)

/-- Consulting the markers at once is the same as doing it step by step. -/
theorem remember_of_consult {markers read after : MarkerStore} {limits : Exceeding}
    {now : Instant} {found : Except MarkerError (Option String)} {isFirst : Bool}
    (exceeds : limits.isExceeded = true)
    (hread : markers.read Gate.markerName now = (read, found))
    (consulted : Gate.consult markers limits now = some (after, isFirst)) (interval : Interval) :
    (Mounting.remember found limits interval now = some (.settling limits interval false) ∧
        after = read ∧ isFirst = false) ∨
      ∃ marker,
        Mounting.remember found limits interval now = some (.writing marker limits interval) ∧
        after = (read.write marker).1 ∧ isFirst = true := by
  rw [Gate.consult, if_pos exceeds, hread] at consulted
  have hmissing :
      ((Gate.markerAt? now).map fun marker => ((read.write marker).1, true))
          = some (after, isFirst) →
        ∃ marker, ((Gate.markerAt? now).map fun m => Mounting.writing m limits interval)
            = some (.writing marker limits interval) ∧
          after = (read.write marker).1 ∧ isFirst = true := by
    intro h
    obtain ⟨marker, hmarker, hpair⟩ := Option.map_eq_some_iff.mp h
    obtain ⟨rfl, rfl⟩ := Prod.mk.inj hpair
    exact ⟨marker, by rw [hmarker, Option.map_some], rfl, rfl⟩
  cases found with
  | error e => exact Or.inr (hmissing consulted)
  | ok value =>
      cases value with
      | none => exact Or.inr (hmissing consulted)
      | some value =>
          obtain ⟨rfl, rfl⟩ := Prod.mk.inj (Option.some.inj consulted)
          exact Or.inl ⟨rfl, rfl, rfl⟩

/-- A mount that knows its limits, left alone, consults the markers and settles. -/
theorem run_weigh {s : GateSession} {limits : Exceeding} {now : Instant} {markers : MarkerStore}
    {isFirst : Bool} (consulted : Gate.consult s.markers limits now = some (markers, isFirst))
    (task : Nat) (interval : Interval) :
    let left := [Occasion.goOn task, .goOn task, .goOn task]
    let weighed := s.put task (some (.weigh limits interval now))
    let gate := s.gate.settle limits interval isFirst
    weighed.run left = (GateSession.mk gate markers s.mounting).put task none ∧
      weighed.answers left = [.ok gate.decision] := by
  intro left weighed gate
  by_cases exceeds : limits.isExceeded = true
  · have hreading := s.goOn_reading task limits interval now (Prod.eta _).symm
    simp only [weighed, left, Mounting.weigh, if_pos exceeds, run_cons, run_nil, answers, step,
      hreading]
    obtain ⟨hnext, rfl, rfl⟩ | ⟨marker, hnext, rfl, rfl⟩ :=
      remember_of_consult exceeds (Prod.eta _).symm consulted interval
    · simp only [hnext, goOn_settling, goOn_over]
      exact ⟨rfl, rfl⟩
    · simp only [hnext, goOn_writing, goOn_settling]
      exact ⟨rfl, rfl⟩
  · rw [Gate.consult, if_neg exceeds] at consulted
    obtain ⟨rfl, rfl⟩ := Prod.mk.inj (Option.some.inj consulted)
    simp only [weighed, left, Mounting.weigh, if_neg exceeds, run_cons, run_nil, answers, step,
      goOn_settling, goOn_over]
    exact ⟨rfl, rfl⟩

/-- **A mount with limits that are known, left alone, is the gate's.** -/
theorem run_apply {s : GateSession} {limits : Exceeding} {interval : Interval} {now : Instant}
    {markers : MarkerStore} {gate : Gate}
    (h : s.gate.apply s.markers limits interval now = some (markers, gate)) (task : Nat) :
    let alone := [Occasion.apply task limits interval now, .goOn task, .goOn task, .goOn task]
    s.run alone = (GateSession.mk gate markers s.mounting).put task none ∧
      s.answers alone = [.ok gate.decision] := by
  intro alone
  obtain ⟨⟨markers, isFirst⟩, consulted, hpair⟩ := Option.map_eq_some_iff.mp h
  obtain ⟨rfl, rfl⟩ := Prod.mk.inj hpair
  exact run_weigh consulted task interval

theorem report_ok (s : GateSession) (task : Nat) (now : Instant) (r : UsageReport) :
    (s.put task (some (.fetching now))).report task (.ok r)
      = (s.put task (some (.subscribing r now)), []) := by
  simp only [report, put_mounting_self, put_put]

theorem subscription_known (s : GateSession) (task : Nat) (r : UsageReport) (now : Instant)
    (subscription : Except Failure (Option Subscription)) :
    (s.put task (some (.subscribing r now))).subscription task subscription
      = s.put task (some
          (.weigh (s.gate.assess r subscription).1 (s.gate.assess r subscription).2 now)) := by
  simp only [GateSession.subscription, put_mounting_self, put_gate, put_put]

theorem subscription_over (s : GateSession) (task : Nat)
    (subscription : Except Failure (Option Subscription)) :
    (s.put task none).subscription task subscription = s.put task none := by
  simp only [GateSession.subscription, put_mounting_self]

/-- **A mount that is left alone is the gate's.** -/
theorem run_mount {s : GateSession} {now : Instant} {report : Except Failure UsageReport}
    {subscription : Except Failure (Option Subscription)} {asks : List Gate.Ask}
    {markers : MarkerStore} {gate : Gate} {answer : Except Failure Decision}
    (h : s.gate.mount s.markers now report subscription = some (asks, markers, gate, answer))
    (task : Nat) :
    let alone := [Occasion.mount task now, .report task report, .subscription task subscription,
      .goOn task, .goOn task, .goOn task]
    s.run alone = (GateSession.mk gate markers s.mounting).put task none ∧
      s.answers alone = [answer] := by
  intro alone
  cases report with
  | error failure =>
      simp only [Gate.mount, Option.some.injEq, Prod.mk.injEq] at h
      obtain ⟨-, rfl, rfl, rfl⟩ := h
      simp only [alone, run_cons, run_nil, answers, step, report_error, subscription_over,
        goOn_over]
      exact ⟨trivial, rfl⟩
  | ok report =>
      obtain ⟨⟨markers', gate'⟩, happly, hmount⟩ := Option.map_eq_some_iff.mp h
      simp only [Prod.mk.injEq] at hmount
      obtain ⟨-, rfl, rfl, rfl⟩ := hmount
      simp only [alone, run_cons, answers, step, report_ok, subscription_known]
      exact run_apply happly task

end GateSession

/-! ### The rule of a session -/

/-- What holds of a session after all that has happened in it. -/
structure SessionRule (billingEnabled : Bool) (past : List Occasion) (s : GateSession) : Prop where
  /-- The modal and the banner are never both shown. -/
  exclusive : ¬ (s.gate.decision.showModal = true ∧ s.gate.decision.showExceededBanner = true)
  /-- Neither is shown within the limits. -/
  within : s.gate.decision.limits.isExceeded = false →
    s.gate.decision.showModal = false ∧ s.gate.decision.showExceededBanner = false
  /-- Beyond them just one is, until the banner is dismissed. -/
  beyond : s.gate.decision.limits.isExceeded = true → .dismissBanner ∉ past →
    s.gate.decision.showExceededBanner = !s.gate.decision.showModal
  /-- A banner that was dismissed stays away. -/
  dismissed : .dismissBanner ∈ past → s.gate.decision.showExceededBanner = false
  billing : s.gate.decision.showModal = true → billingEnabled = true
  warning : s.gate.decision.showWarningBanner = true ↔ s.gate.decision.limits.warning ≠ []
  /-- Whoever is answered next is told what is shown then. -/
  given : ∀ o d, .ok d ∈ (s.step o).2 → d = (s.step o).1.gate.decision
  /-- A mount without a report leaves no trace, whatever happens while it waits. -/
  failed : ∀ task now meanwhile failure, s.mounting task = none →
    (∀ o ∈ meanwhile, o.task? ≠ some task) →
      s.run (.mount task now :: meanwhile ++ [.report task (.error failure)]) = s.run meanwhile

/-- **What a gate shows fits together, whatever happens in a session.** -/
theorem run_sessionRule (billingEnabled : Bool) (organization : Option String)
    (fallback : PlanLimits) (markers : MarkerStore) (past : List Occasion) :
    SessionRule billingEnabled past
      ((GateSession.new billingEnabled organization fallback markers).run past) := by
  have hkept := (GateSession.Kept.new billingEnabled organization fallback markers).run past
  rw [List.nil_append] at hkept
  generalize (GateSession.new billingEnabled organization fallback markers).run past = s at hkept
  have hbanner := hkept.proper.banner
  refine ⟨?_, ?_, ?_, ?_, ?_, ?_, ?_, ?_⟩
  · rintro ⟨hmodal, hshown⟩
    rw [hbanner, hmodal] at hshown
    simp at hshown
  · intro hwithin
    refine ⟨Bool.eq_false_iff.mpr fun hmodal => ?_, by rw [hbanner, hwithin]; rfl⟩
    rw [(hkept.proper.modal hmodal).1] at hwithin
    cases hwithin
  · intro hexceeded hnot
    have hundismissed : s.gate.bannerDismissed = false :=
      Bool.eq_false_iff.mpr (mt hkept.dismissed.mp hnot)
    rw [hbanner, hexceeded, hundismissed, Bool.true_and, Bool.not_false, Bool.and_true]
  · intro hdismissed
    rw [hbanner, hkept.dismissed.mpr hdismissed, Bool.not_true, Bool.and_false]
  · intro hmodal
    exact hkept.billing.symm.trans (hkept.proper.modal hmodal).2
  · rw [hkept.proper.warning, Exceeding.isWarning]
    simp
  · exact fun o d => (s.outcome_step o).given
  · exact fun task now meanwhile failure free others =>
      GateSession.run_failed free now others failure

end ProjectViews
