/-
No deadlock: everybody who waits, waits for something held, and for so many releases.

This puts together what is known of operations that ask for the view and for their turn to save.
When they have done what they can on their own, whoever is not finished waits for the server, for
its save, or in line behind one that waits for its save, and when nothing of this is held, everybody
has finished.

That nobody is left over is not enough, since one might have been lost on the way.  So operations
are counted: those that have been started under a number are those that have ended and the one
that may still stand.
-/
import ProjectViews.Proofs.View.Countdown

namespace ProjectViews

/-! ### Everything that was begun -/

/-- Whether an operation is started with a move, under a number. -/
def Move.begins (task : Nat) : Move → Bool
  | enter other _ => other == task
  | _ => false

theorem Move.eq_of_begins {task : Nat} {m : Move} (h : m.begins task = true) :
    ∃ op, m = .enter task op := by
  cases m with
  | enter other op =>
      obtain rfl : other = task := beq_iff_eq.mp h
      exact ⟨op, rfl⟩
  | goOn other => cases h
  | takeTurn other => cases h
  | endTurn other worked => cases h
  | take other answer => cases h

/-- Whether an operation of a number ends. -/
def Output.ends (task : Nat) : Output → Bool
  | finished other _ => other == task
  | _ => false

theorem countP_ends_events (task : Nat) (events : List Event) :
    (events.map Output.event).countP (Output.ends task) = 0 := by
  rw [List.countP_eq_zero]
  intro o ho
  obtain ⟨event, -, rfl⟩ := List.mem_map.mp ho
  exact Bool.false_ne_true

namespace Store

/-- How many operations of a number stand in a store. -/
def standing (s : Store) (task : Nat) : Nat := if (s.stage? task).isSome then 1 else 0

theorem standing_of_stage {s : Store} {task : Nat} {stage : Stage}
    (h : s.stage? task = some stage) : s.standing task = 1 := by
  rw [standing, h]
  rfl

theorem standing_of_none {s : Store} {task : Nat} (h : s.stage? task = none) :
    s.standing task = 0 := by
  rw [standing, h]
  rfl

theorem standing_congr {s t : Store} {task : Nat} (h : t.stage? task = s.stage? task) :
    t.standing task = s.standing task := by
  rw [standing, standing, h]

/-- An operation that comes to stand elsewhere still stands. -/
theorem standing_put {s : Store} {other : Nat} {old : Stage} (h : s.stage? other = some old)
    (stage : Stage) (task : Nat) : (s.put other stage).standing task = s.standing task := by
  by_cases hown : task = other
  · rw [hown, standing_of_stage h]
    exact standing_of_stage (s.stage?_put_self other stage)
  · exact standing_congr ((s.stage?_put other task stage).trans (if_neg hown))

end Store

/-- Operations come to stand in a store as they are started, and leave it as they end. -/
theorem Effect.standing {s : Store} {m : Move} {t : Store × List Output} (e : Effect s m t)
    {task : Nat} (makes : m.begins task = true → ¬ s.Ignores m) :
    t.1.standing task + t.2.countP (Output.ends task)
      = s.standing task + (m.begins task).toNat := by
  cases e with
  | ignored hignores =>
      have hbegins : m.begins task = false := Bool.eq_false_iff.mpr fun h => makes h hignores
      rw [hbegins]
      rfl
  | @entered other op free =>
      by_cases hown : task = other
      · subst hown
        rw [s.standing_of_none free, Move.begins, beq_self_eq_true]
        exact Store.standing_of_stage (Store.stage?_put_self _ task _)
      · rw [Move.begins, beq_false_of_ne (Ne.symm hown)]
        exact Store.standing_congr ((Store.stage?_put _ other task _).trans (if_neg hown))
  | @ended other events result hstage =>
      rw [List.countP_append, countP_ends_events, List.countP_singleton, Nat.zero_add]
      by_cases hown : task = other
      · subst hown
        rw [Store.standing_of_stage hstage, Output.ends, beq_self_eq_true,
          Store.standing_of_none (s.stage?_leave_self task)]
        rfl
      · rw [Output.ends, beq_false_of_ne (Ne.symm hown)]
        exact Store.standing_congr ((s.stage?_leave other task).trans (if_neg hown))
  | @asked other events generation query hstage =>
      rw [List.countP_append, countP_ends_events]
      exact Store.standing_put hstage _ task
  | @joined other events uid after hstage =>
      rw [countP_ends_events]
      exact Store.standing_put hstage (.queued uid after) task
  | @handed other uid after hstage turn => exact Store.standing_put hstage _ task
  | @saved other worked uid settings after hstage =>
      exact Store.standing_put hstage (.ready [] after.next) task
  | @took other answer generation query hstage => exact Store.standing_put hstage _ task

namespace Guarded

variable {r : Registry} {g : Guarded}

/-- Whether a deed starts an operation of a number. -/
def begun (task : Nat) (g : Guarded) : Deed → Nat
  | .ask m => (m.begins task && g.admits m).toNat
  | _ => 0

/-- How many operations of a number end with a deed. -/
def ended (task : Nat) (g : Guarded) (d : Deed) : Nat := (g.step d).2.countP (Output.ends task)

/-- How many operations of a number have been started and have not ended. -/
def standing (g : Guarded) (task : Nat) : Nat :=
  g.store.standing task + g.queue.countP (Move.begins task)

/-- **Nobody is lost with a deed.** -/
theorem Sound.standing_step (h : Sound r g) (task : Nat) (d : Deed) :
    (g.step d).1.standing task + ended task g d = g.standing task + begun task g d := by
  have houtcome := g.outcome_step d
  rw [ended]
  generalize g.step d = t at houtcome
  cases houtcome with
  | refused asks makes =>
      cases d with
      | ask m =>
          rw [begun, asks m rfl, Bool.and_false]
          rfl
      | act => rfl
      | make m => rfl
  | @queued m view offered absent =>
      rw [begun, admits_iff.mpr ⟨view, offered, absent⟩, Bool.and_true, standing, standing,
        List.countP_append, List.countP_singleton, List.countP_nil]
      cases m.begins task with
      | false => rfl
      | true => rfl
  | @acted m rest t first effect =>
      have hmem : m ∈ g.queue := by
        rw [first]
        exact List.mem_cons_self
      have heffect : t.1.standing task + t.2.countP (Output.ends task)
          = g.store.standing task + (m.begins task).toNat :=
        effect.standing fun _ => (g.store.offers_iff m).mp (h.offered m hmem)
      rw [standing, standing, first, List.countP_cons]
      show t.1.standing task + rest.countP (Move.begins task) + _ = _ + 0
      cases hbegins : m.begins task with
      | false =>
          rw [hbegins, Bool.toNat_false] at heffect
          simp only [Bool.false_eq_true, if_false]
          omega
      | true =>
          rw [hbegins, Bool.toNat_true] at heffect
          simp only [if_true]
          omega
  | @made m t view effect =>
      have hbegins : m.begins task = false := by
        rw [Bool.eq_false_iff]
        intro hbegins
        obtain ⟨op, rfl⟩ := Move.eq_of_begins hbegins
        cases view
      have heffect : t.1.standing task + t.2.countP (Output.ends task)
          = g.store.standing task + (m.begins task).toNat :=
        effect.standing fun hc => by rw [hbegins] at hc; cases hc
      rw [hbegins, Bool.toNat_false] at heffect
      rw [standing, standing]
      show t.1.standing task + g.queue.countP (Move.begins task) + t.2.countP (Output.ends task)
        = g.store.standing task + g.queue.countP (Move.begins task) + 0
      omega

/-- **Whoever has been started has ended or still stands.** -/
theorem Sound.standing_run (h : Sound r g) (task : Nat) (deeds : List Deed) :
    (g.run deeds).standing task + tally (ended task) g deeds
      = g.standing task + tally (begun task) g deeds := by
  induction deeds generalizing g with
  | nil => rfl
  | cons d rest ih =>
      have hstep := h.standing_step task d
      have hrest := ih (h.step (g.outcome_step d))
      rw [tally, tally]
      show ((g.step d).1.run rest).standing task + _ = _
      omega

/-- When a number stands nowhere, nothing of it is left. -/
theorem standing_eq_zero {task : Nat} (finished : ¬ g.Unfinished task) : g.standing task = 0 := by
  have hstage : g.store.stage? task = none := by
    cases hstage : g.store.stage? task with
    | none => rfl
    | some stage => exact absurd (Or.inl (by simp [hstage])) finished
  rw [standing, Store.standing_of_none hstage, Nat.zero_add, List.countP_eq_zero]
  intro m hm hbegins
  obtain ⟨op, rfl⟩ := Move.eq_of_begins hbegins
  exact finished (Or.inr ⟨op, hm⟩)

end Guarded

/-! ### The rule of waiting -/

open Guarded

/-- Who waits for what, and for how long, after some deeds. -/
structure WaitingRule (r : Registry) (deeds : List Deed) (g : Guarded) : Prop where
  /-- What operations do on their own comes to an end. -/
  rests : ∀ own, g.Busy own → own.length ≤ g.toDo
  quiet : ∃ own, g.Busy own ∧ (g.run own).Quiet
  /-- Then whoever is unfinished waits for the server, for its save, or in line behind another
  one that has its turn and waits for its save. -/
  waits : g.Quiet → ∀ task, g.Unfinished task →
    g.store.Fetches task ∨ g.store.Saves task ∨
      (g.store.Queues task ∧
        ∃ other, other ≠ task ∧ g.store.line.head? = some other ∧ g.store.Saves other)
  /-- When nothing of this is held, all that were started have ended, nobody is in line or queues
  for the view, and the view is not loading. -/
  finished : g.Quiet → (∀ task, ¬ g.store.Fetches task ∧ ¬ g.store.Saves task) →
    (∀ task, ¬ g.Unfinished task ∧
      tally (ended task) (.empty r) deeds = tally (begun task) (.empty r) deeds) ∧
    g.store.tasks = [] ∧ g.store.line = [] ∧ g.queue = [] ∧ g.store.state.isLoading = false
  /-- How many releases an operation waits for is known once all has been quiet, and then each
  one of them takes one away, whatever else happens and in whatever order. -/
  released : g.Quiet → ∀ task later, (∀ op, .ask (.enter task op) ∉ later) →
    (g.run later).releasesLeft task + tally (frees task) g later = g.releasesLeft task
  /-- So whenever all is quiet again, it has finished just when as many have been made. -/
  ends : g.Quiet → ∀ task later, (∀ op, .ask (.enter task op) ∉ later) → (g.run later).Quiet →
    ((g.run later).Unfinished task ↔ tally (frees task) g later < g.releasesLeft task)
  /-- While it is not finished there is one left, and one that can be made. -/
  next : g.Quiet → ∀ task, g.Unfinished task → 0 < g.releasesLeft task ∧
    ((∀ answer, frees task g (.ask (.take task answer)) = 1) ∨
      ∃ other, ∀ worked, frees task g (.make (.endTurn other worked)) = 1)

/-- **The view and the line never block each other.** -/
theorem run_waitingRule (r : Registry) (deeds : List Deed) :
    WaitingRule r deeds ((Guarded.empty r).run deeds) := by
  have hsound := (Guarded.Sound.empty r).run deeds
  have hcount := fun task => (Guarded.Sound.empty r).standing_run task deeds
  generalize (Guarded.empty r).run deeds = g at hsound hcount
  refine ⟨?_, ?_, ?_, ?_, ?_, ?_, ?_⟩
  · intro own busy
    exact hsound.length_le_toDo busy
  · exact hsound.exists_quiet
  · intro quiet task unfinished
    exact quiet.waits hsound unfinished
  · intro quiet free
    have hfinished := quiet.finished hsound free
    obtain ⟨htasks, hline, hloading⟩ := hsound.at_rest hfinished
    refine ⟨fun task => ⟨hfinished task, ?_⟩, htasks, hline, quiet.queue_eq, hloading⟩
    have htask := hcount task
    rw [Guarded.standing_eq_zero (hfinished task)] at htask
    have hempty : (Guarded.empty r).standing task = 0 := rfl
    omega
  · intro quiet task later others
    exact (hsound.countdown (quiet.placed task) others).2
  · intro quiet task later others again
    have hcountdown := (hsound.countdown (quiet.placed task) others).2
    constructor
    · intro unfinished
      have hleft := (again.exists_frees (hsound.run later) unfinished).1
      omega
    · intro hless
      refine Or.inl fun hnone => ?_
      rw [releasesLeft_of_none hnone] at hcountdown
      omega
  · intro quiet task unfinished
    exact quiet.exists_frees hsound unfinished

end ProjectViews
