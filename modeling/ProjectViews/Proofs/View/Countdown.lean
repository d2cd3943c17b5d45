/-
For how many releases an operation waits.

An operation in line waits for the save of each one before it and for its own, and if it asks the
server after that, for its answer.  Nobody overtakes it there, and those who come later come
behind it.  So the number is known from the moment it has joined the line, `releasesLeft`, and each
of those releases takes one away while nothing else changes it: not what others do, not what they
begin, and not in which order anything is released.

An operation that is not finished although all is quiet has a release left, and one of those it
waits for can be made at once.
-/
import ProjectViews.Proofs.View.Rest

namespace ProjectViews

/-! ### What is left to wait for -/

/-- How many answers of the server an operation waits for after its save. -/
def AfterSave.releases : AfterSave → Nat
  | finish => 0
  | fetch _ _ => 1

/-- For how many releases an operation waits that nobody is before. -/
def Next.releases : Next → Nat
  | done _ => 0
  | fetch _ _ => 1
  | save _ after => 1 + after.releases

/-- For how many releases an operation waits that has a place in line, or whose answer may have
been released already. -/
def Stage.releases (place : Nat) (answered : Bool) : Stage → Nat
  | ready _ next => next.releases
  | queued _ after | saving _ _ after => place + 1 + after.releases
  | fetching _ _ => if answered then 0 else 1

/-- Whether it is known for how many releases an operation waits: it will not join the line any
more. -/
def Stage.placed : Stage → Bool
  | ready _ (.save _ _) => false
  | _ => true

@[simp] theorem AfterSave.releases_next (after : AfterSave) :
    after.next.releases = after.releases := by
  cases after <;> rfl

/-- The place only matters in line, and the answer only to those who have asked. -/
theorem Stage.releases_congr {place place' : Nat} {answered answered' : Bool} {stage : Stage}
    (inLine : stage.inLine = true → place = place') (asked : answered = answered') :
    stage.releases place answered = stage.releases place' answered' := by
  subst asked
  cases stage with
  | queued uid after => rw [inLine rfl]
  | saving uid settings after => rw [inLine rfl]
  | ready events next => rfl
  | fetching generation query => rfl

/-- Everybody in line waits once more for each one before it. -/
theorem Stage.releases_succ {stage : Stage} (inLine : stage.inLine = true) (place : Nat)
    (answered : Bool) :
    stage.releases (place + 1) answered = stage.releases place answered + 1 := by
  cases stage with
  | queued uid after => simp only [releases]; omega
  | saving uid settings after => simp only [releases]; omega
  | ready events next => cases inLine
  | fetching generation query => cases inLine

namespace Guarded

/-- Whether an operation queues for the view. -/
def asks (g : Guarded) (task : Nat) : Bool := g.queue.any fun q => q.task == task

/-- For how many releases an operation still waits. -/
def releasesLeft (g : Guarded) (task : Nat) : Nat :=
  match g.store.stage? task with
  | none => 0
  | some stage => stage.releases (g.store.line.idxOf task) (g.asks task)

/-- Whether a deed is a release that an operation waits for: its answer, or the return of a save
while it has a place in line. -/
def frees (task : Nat) (g : Guarded) : Deed → Nat
  | .ask (.take other answer) =>
    if other = task ∧ g.admits (.take other answer) = true then 1 else 0
  | .make (.endTurn other worked) =>
    if g.store.offers (.endTurn other worked) = true ∧ task ∈ g.store.line then 1 else 0
  | _ => 0

/-- It is known for how many releases an operation waits, or it has finished. -/
structure Placed (g : Guarded) (task : Nat) : Prop where
  entered : ∀ op, .enter task op ∉ g.queue
  placed : ∀ stage, g.store.stage? task = some stage → stage.placed = true

theorem Placed.of_stage {g : Guarded} {task : Nat} {stage : Stage}
    (entered : ∀ op, .enter task op ∉ g.queue) (hstage : g.store.stage? task = some stage)
    (hplaced : stage.placed = true) : g.Placed task := by
  refine ⟨entered, ?_⟩
  intro stage' hstage'
  obtain rfl := Option.some.inj (hstage.symm.trans hstage')
  exact hplaced

/-- Who stays where it stood is still placed. -/
theorem Placed.of_same {g t : Guarded} {task : Nat} (h : g.Placed task)
    (entered : ∀ op, .enter task op ∉ t.queue)
    (same : t.store.stage? task = g.store.stage? task) : t.Placed task := by
  refine ⟨entered, ?_⟩
  intro stage hstage
  exact h.placed stage (same.symm.trans hstage)

theorem Quiet.placed {g : Guarded} (h : g.Quiet) (task : Nat) : g.Placed task where
  entered := by
    intro op hop
    rw [h.queue_eq] at hop
    cases hop
  placed := by
    intro stage hstage
    cases stage with
    | ready events next => exact absurd hstage (h.not_ready task events next)
    | queued uid after => rfl
    | saving uid settings after => rfl
    | fetching generation query => rfl

theorem releasesLeft_of_stage {g : Guarded} {task : Nat} {stage : Stage}
    (h : g.store.stage? task = some stage) :
    g.releasesLeft task = stage.releases (g.store.line.idxOf task) (g.asks task) := by
  rw [releasesLeft, h]

theorem releasesLeft_of_none {g : Guarded} {task : Nat} (h : g.store.stage? task = none) :
    g.releasesLeft task = 0 := by
  rw [releasesLeft, h]

end Guarded

/-! ### Places in line -/

/-- Unless a save returns, the others keep their places. -/
theorem Effect.idxOf_line {s : Store} {m : Move} {t : Store × List Output} (e : Effect s m t)
    (keeps : ∀ task worked, m ≠ .endTurn task worked) {task : Nat} (hmem : task ∈ s.line) :
    t.1.line.idxOf task = s.line.idxOf task := by
  cases e with
  | joined hstage => exact (List.idxOf_append).trans (if_pos hmem)
  | saved hstage => exact absurd rfl (keeps _ _)
  | ignored => rfl
  | entered => rfl
  | ended => rfl
  | asked => rfl
  | handed => rfl
  | took => rfl

namespace Guarded

variable {r : Registry} {g : Guarded}

/-- Another operation moves, and no save returns: nothing changes for those who do not ask for the
view anew. -/
theorem Sound.releasesLeft_of_ne (h : Sound r g) {m : Move} {t : Store × List Output}
    (effect : Effect g.store m t) (keeps : ∀ task worked, m ≠ .endTurn task worked)
    {queue : List Move} {task : Nat} (hne : task ≠ m.task)
    (asks : (Guarded.mk t.1 queue).asks task = g.asks task) :
    (Guarded.mk t.1 queue).releasesLeft task = g.releasesLeft task := by
  have hstage : t.1.stage? task = g.store.stage? task := effect.stage?_of_ne hne
  cases hold : g.store.stage? task with
  | none => rw [releasesLeft_of_none hold, releasesLeft_of_none (hstage.trans hold)]
  | some stage =>
      rw [releasesLeft_of_stage hold, releasesLeft_of_stage (hstage.trans hold)]
      refine Stage.releases_congr ?_ asks
      intro hin
      exact effect.idxOf_line keeps ((h.lined.mem task).mpr ⟨stage, hold, hin⟩)

/-- Somebody asks for the view: only an answer that was waited for counts. -/
theorem countdown_ask {m : Move} (view : m.needsView = true)
    (offered : g.store.offers m = true) (absent : ∀ q ∈ g.queue, q.task ≠ m.task) {task : Nat}
    (enters : ∀ op, m ≠ .enter task op) (placed : g.Placed task) :
    let t : Guarded := { g with queue := g.queue ++ [m] }
    t.Placed task ∧ t.releasesLeft task + frees task g (.ask m) = g.releasesLeft task := by
  intro t
  have hplaced : t.Placed task := by
    refine ⟨fun op hop => ?_, placed.placed⟩
    rcases List.mem_append.mp hop with hold | hnew
    · exact placed.entered op hold
    · exact enters op (List.mem_singleton.mp hnew).symm
  refine ⟨hplaced, ?_⟩
  have hasks : t.asks task = (g.asks task || m.task == task) := by
    rw [asks, asks, List.any_append, List.any_cons, List.any_nil, Bool.or_false]
  by_cases hown : m.task = task
  · have hbefore : g.asks task = false := by
      rw [asks, List.any_eq_false]
      intro q hq hsame
      exact absent q hq ((beq_iff_eq.mp hsame).trans hown.symm)
    rw [hbefore, hown, beq_self_eq_true, Bool.or_true] at hasks
    cases m with
    | enter other op =>
        obtain rfl : other = task := hown
        exact absurd rfl (enters op)
    | takeTurn other =>
        obtain rfl : other = task := hown
        -- whether it queues for the view does not matter for one that waits for its turn
        obtain ⟨uid, after, hstage⟩ := Store.queued_of_offers offered
        rw [releasesLeft_of_stage hstage, releasesLeft_of_stage (g := t) hstage]
        rfl
    | take other answer =>
        obtain rfl : other = task := hown
        obtain ⟨generation, query, hstage⟩ := Store.fetching_of_offers offered
        have hadmits : g.admits (.take other answer) = true :=
          admits_iff.mpr ⟨rfl, offered, absent⟩
        rw [releasesLeft_of_stage hstage, releasesLeft_of_stage (g := t) hstage, hasks, hbefore,
          frees, if_pos ⟨rfl, hadmits⟩]
        rfl
    | goOn other => cases view
    | endTurn other worked => cases view
  · rw [beq_false_of_ne hown, Bool.or_false] at hasks
    have hfrees : frees task g (.ask m) = 0 := by
      cases m with
      | take other answer => exact if_neg fun hand => hown hand.1
      | enter other op => rfl
      | takeTurn other => rfl
      | goOn other => rfl
      | endTurn other worked => rfl
    rw [hfrees, releasesLeft, releasesLeft, hasks]
    rfl

/-- Somebody uses the view: nobody is released by that. -/
theorem Sound.countdown_act (h : Sound r g) {m : Move} {rest : List Move}
    {t : Store × List Output} (first : g.queue = m :: rest) (effect : Effect g.store m t)
    {task : Nat} (placed : g.Placed task) :
    (Guarded.mk t.1 rest).Placed task ∧
      (Guarded.mk t.1 rest).releasesLeft task = g.releasesLeft task := by
  have hmem : m ∈ g.queue := by
    rw [first]
    exact List.mem_cons_self
  have hview := h.view m hmem
  have hentered : ∀ op, .enter task op ∉ rest := by
    intro op hop
    refine placed.entered op ?_
    rw [first]
    exact List.mem_cons_of_mem _ hop
  have hasks : g.asks task = (m.task == task || (Guarded.mk t.1 rest).asks task) := by
    rw [asks, first, List.any_cons]
    rfl
  by_cases hown : m.task = task
  · rw [hown, beq_self_eq_true, Bool.true_or] at hasks
    cases effect with
    | ignored hignores => exact absurd hignores ((g.store.offers_iff m).mp (h.offered m hmem))
    | @entered other op free =>
        obtain rfl : other = task := hown
        exact absurd hmem (placed.entered op)
    | @handed other uid after hstage turn =>
        obtain rfl : other = task := hown
        have hafter := g.store.stage?_put_self other (.saving uid g.store.state.settings after)
        refine ⟨.of_stage hentered hafter rfl, ?_⟩
        rw [releasesLeft_of_stage hstage]
        exact releasesLeft_of_stage (g := ⟨_, rest⟩) hafter
    | @took other answer generation query hstage =>
        obtain rfl : other = task := hown
        have hafter := Store.stage?_put_self
          { g.store with state := (g.store.state.receive generation answer).1 } other
          (.ready (g.store.state.receive generation answer).2.1
            (.done (.fetched (g.store.state.receive generation answer).2.2)))
        refine ⟨.of_stage hentered hafter rfl, ?_⟩
        rw [releasesLeft_of_stage hstage, hasks]
        exact releasesLeft_of_stage (g := ⟨_, rest⟩) hafter
    | ended => cases hview
    | asked => cases hview
    | joined => cases hview
    | saved => cases hview
  · rw [beq_false_of_ne hown, Bool.false_or] at hasks
    have hstage : t.1.stage? task = g.store.stage? task := effect.stage?_of_ne (Ne.symm hown)
    refine ⟨placed.of_same hentered hstage, ?_⟩
    refine h.releasesLeft_of_ne effect ?_ (Ne.symm hown) hasks.symm
    rintro other worked rfl
    cases hview

/-- Somebody goes on: nobody is released by that. -/
theorem Sound.countdown_goOn (h : Sound r g) {other : Nat} {t : Store × List Output}
    (effect : Effect g.store (.goOn other) t) {task : Nat} (placed : g.Placed task) :
    (Guarded.mk t.1 g.queue).Placed task ∧
      (Guarded.mk t.1 g.queue).releasesLeft task = g.releasesLeft task := by
  by_cases hown : other = task
  · subst hown
    cases effect with
    | ignored => exact ⟨placed, rfl⟩
    | @ended _ events result hstage =>
        have hafter := g.store.stage?_leave_self other
        refine ⟨⟨placed.entered, ?_⟩, ?_⟩
        · intro stage hnow
          cases hafter.symm.trans hnow
        rw [releasesLeft_of_stage hstage]
        exact releasesLeft_of_none (g := ⟨_, g.queue⟩) hafter
    | @asked _ events generation query hstage =>
        have hafter := g.store.stage?_put_self other (.fetching generation query)
        -- it has not been answered yet: it has not been waiting for an answer
        have hasks : g.asks other = false := by
          rw [asks, List.any_eq_false]
          intro q hq hsame
          have hview := Move.needsView_of_fits (Store.fits_of_offers (h.offered q hq))
          rw [beq_iff_eq.mp hsame, hstage, h.view q hq] at hview
          cases hview
        refine ⟨.of_stage placed.entered hafter rfl, ?_⟩
        calc (Guarded.mk (g.store.put other (.fetching generation query)) g.queue).releasesLeft
                other
            = if g.asks other then 0 else 1 := releasesLeft_of_stage (g := ⟨_, g.queue⟩) hafter
          _ = 1 := by rw [hasks]; rfl
          _ = g.releasesLeft other := (releasesLeft_of_stage hstage).symm
    | joined hstage => cases placed.placed _ hstage
  · have hstage : t.1.stage? task = g.store.stage? task := effect.stage?_of_ne (Ne.symm hown)
    refine ⟨placed.of_same placed.entered hstage, ?_⟩
    exact h.releasesLeft_of_ne effect nofun (Ne.symm hown) rfl

/-- Whose save has returned is released, and is the first in line no more. -/
theorem Sound.countdown_saved (h : Sound r g) {task : Nat} {uid : String}
    {settings : ViewSettings} {after : AfterSave}
    (hstage : g.store.stage? task = some (.saving uid settings after))
    (entered : ∀ op, .enter task op ∉ g.queue) :
    let t : Guarded :=
      ⟨{ g.store with line := g.store.line.drop 1 }.put task (.ready [] after.next), g.queue⟩
    t.Placed task ∧ t.releasesLeft task + 1 = g.releasesLeft task := by
  intro t
  have hafter : t.store.stage? task = some (.ready [] after.next) := Store.stage?_put_self ..
  refine ⟨.of_stage entered hafter (by cases after <;> rfl), ?_⟩
  rw [releasesLeft_of_stage hafter, releasesLeft_of_stage hstage, h.line_eq hstage,
    List.idxOf_cons_self]
  simp only [Stage.releases, AfterSave.releases_next]
  omega

/-- The others in line are released with it and move up. -/
theorem Sound.countdown_saved_of_ne (h : Sound r g) {other : Nat} {uid : String}
    {settings : ViewSettings} {after : AfterSave}
    (hsaving : g.store.stage? other = some (.saving uid settings after)) {task : Nat}
    (hne : task ≠ other) (placed : g.Placed task) :
    let t : Guarded :=
      ⟨{ g.store with line := g.store.line.drop 1 }.put other (.ready [] after.next), g.queue⟩
    t.Placed task ∧
      t.releasesLeft task + (if task ∈ g.store.line then 1 else 0) = g.releasesLeft task := by
  intro t
  have hsame : t.store.stage? task = g.store.stage? task :=
    (Store.stage?_put _ other task _).trans (if_neg hne)
  refine ⟨placed.of_same placed.entered hsame, ?_⟩
  cases hold : g.store.stage? task with
  | none =>
      have hmem : task ∉ g.store.line := by
        intro hmem
        obtain ⟨stage, hstage, -⟩ := (h.lined.mem task).mp hmem
        cases hold.symm.trans hstage
      rw [if_neg hmem, releasesLeft_of_none hold, releasesLeft_of_none (hsame.trans hold)]
  | some stage =>
      rw [releasesLeft_of_stage hold, releasesLeft_of_stage (hsame.trans hold)]
      by_cases hin : stage.inLine = true
      · have hmem : task ∈ g.store.line := (h.lined.mem task).mpr ⟨stage, hold, hin⟩
        have hplace : g.store.line.idxOf task = t.store.line.idxOf task + 1 := by
          show g.store.line.idxOf task = (g.store.line.drop 1).idxOf task + 1
          have hline := h.line_eq hsaving
          generalize g.store.line.drop 1 = rest at hline
          rw [hline, List.idxOf_cons, beq_false_of_ne (Ne.symm hne)]
          rfl
        rw [if_pos hmem, hplace]
        exact (Stage.releases_succ hin _ _).symm
      · have hmem : task ∉ g.store.line := by
          intro hmem
          obtain ⟨stage', hstage', hin'⟩ := (h.lined.mem task).mp hmem
          obtain rfl := Option.some.inj (hold.symm.trans hstage')
          exact hin hin'
        rw [if_neg hmem]
        exact Stage.releases_congr (fun hin' => absurd hin' hin) rfl

/-- A save returns: everybody in line is released once. -/
theorem Sound.countdown_endTurn (h : Sound r g) {other : Nat} {worked : Bool}
    {t : Store × List Output} (effect : Effect g.store (.endTurn other worked) t) {task : Nat}
    (placed : g.Placed task) :
    (Guarded.mk t.1 g.queue).Placed task ∧
      (Guarded.mk t.1 g.queue).releasesLeft task + frees task g (.make (.endTurn other worked))
        = g.releasesLeft task := by
  cases effect with
  | ignored hignores =>
      have hoffers : ¬ g.store.offers (.endTurn other worked) = true := by
        intro hoffers
        exact (g.store.offers_iff _).mp hoffers hignores
      refine ⟨placed, ?_⟩
      rw [frees, if_neg fun hand => hoffers hand.1]
      rfl
  | @saved _ _ uid settings after hstage =>
      have hoffers : g.store.offers (.endTurn other worked) = true := by
        simp [Store.offers, Move.fits, hstage]
      rw [frees]
      by_cases hown : other = task
      · subst hown
        have hmem : other ∈ g.store.line := (h.lined.mem other).mpr ⟨_, hstage, rfl⟩
        rw [if_pos ⟨hoffers, hmem⟩]
        exact h.countdown_saved hstage placed.entered
      · simp only [hoffers, true_and]
        exact h.countdown_saved_of_ne hstage (Ne.symm hown) placed

/-- **A release that an operation waits for takes one away, and nothing else changes the
number.** -/
theorem Sound.countdown_step (h : Sound r g) {task : Nat} (placed : g.Placed task) {d : Deed}
    (others : ∀ op, d ≠ .ask (.enter task op)) :
    (g.step d).1.Placed task ∧
      (g.step d).1.releasesLeft task + frees task g d = g.releasesLeft task := by
  have houtcome := g.outcome_step d
  generalize g.step d = t at houtcome
  cases houtcome with
  | refused asks makes =>
      refine ⟨placed, ?_⟩
      have hfrees : frees task g d = 0 := by
        cases d with
        | act => rfl
        | ask m =>
            cases m with
            | take other answer =>
                refine if_neg fun hand => ?_
                rw [asks _ rfl] at hand
                exact Bool.false_ne_true hand.2
            | enter other op => rfl
            | takeTurn other => rfl
            | goOn other => rfl
            | endTurn other worked => rfl
        | make m =>
            cases m with
            | endTurn other worked => cases makes _ rfl
            | enter other op => rfl
            | takeTurn other => rfl
            | goOn other => rfl
            | take other answer => rfl
      rw [hfrees, Nat.add_zero]
  | queued view offered absent =>
      refine countdown_ask view offered absent (fun op hm => others op ?_) placed
      rw [hm]
  | acted first effect => exact h.countdown_act first effect placed
  | @made m t view effect =>
      cases m with
      | goOn other => exact h.countdown_goOn effect placed
      | endTurn other worked => exact h.countdown_endTurn effect placed
      | enter other op => cases view
      | takeTurn other => cases view
      | take other answer => cases view

/-- What deeds come to one after the other, added up. -/
def tally (count : Guarded → Deed → Nat) : Guarded → List Deed → Nat
  | _, [] => 0
  | g, d :: rest => count g d + tally count (g.step d).1 rest

/-- **And so it is over any number of deeds.** -/
theorem Sound.countdown (h : Sound r g) {task : Nat} (placed : g.Placed task) {deeds : List Deed}
    (others : ∀ op, .ask (.enter task op) ∉ deeds) :
    (g.run deeds).Placed task ∧
      (g.run deeds).releasesLeft task + tally (frees task) g deeds = g.releasesLeft task := by
  induction deeds generalizing g with
  | nil => exact ⟨placed, rfl⟩
  | cons d rest ih =>
      obtain ⟨hplaced, hstep⟩ := h.countdown_step placed
        (fun op hd => others op (hd ▸ List.mem_cons_self))
      obtain ⟨hlast, hrest⟩ := ih (h.step (g.outcome_step d)) hplaced
        (fun op hop => others op (List.mem_cons_of_mem _ hop))
      refine ⟨hlast, ?_⟩
      rw [tally]
      show ((g.step d).1.run rest).releasesLeft task + _ = _
      omega

/-- **Whoever is not finished although all is quiet has a release left, and one that it waits for
can be made.** -/
theorem Quiet.exists_frees (quiet : g.Quiet) (h : Sound r g) {task : Nat}
    (unfinished : g.Unfinished task) :
    0 < g.releasesLeft task ∧
      ((∀ answer, frees task g (.ask (.take task answer)) = 1) ∨
        ∃ other, ∀ worked, frees task g (.make (.endTurn other worked)) = 1) := by
  have hsaves : ∀ {other}, g.store.Saves other → task ∈ g.store.line →
      ∀ worked, frees task g (.make (.endTurn other worked)) = 1 := by
    rintro other ⟨uid, settings, after, hstage⟩ hmem worked
    refine if_pos ⟨?_, hmem⟩
    simp [Store.offers, Move.fits, hstage]
  rcases quiet.waits h unfinished with hfetches | hself | ⟨hqueues, other, -, -, hother⟩
  · obtain ⟨generation, query, hstage⟩ := hfetches
    refine ⟨?_, Or.inl fun answer => if_pos ⟨rfl, ?_⟩⟩
    · rw [releasesLeft_of_stage hstage, asks, quiet.queue_eq]
      exact Nat.one_pos
    · simp [admits, Move.needsView, Store.offers, Move.fits, hstage, quiet.queue_eq]
  · obtain ⟨uid, settings, after, hstage⟩ := hself
    have hmem : task ∈ g.store.line := (h.lined.mem task).mpr ⟨_, hstage, rfl⟩
    refine ⟨?_, Or.inr ⟨task, hsaves ⟨uid, settings, after, hstage⟩ hmem⟩⟩
    rw [releasesLeft_of_stage hstage, Stage.releases]
    omega
  · obtain ⟨uid, after, hstage⟩ := hqueues
    have hmem : task ∈ g.store.line := (h.lined.mem task).mpr ⟨_, hstage, rfl⟩
    refine ⟨?_, Or.inr ⟨other, hsaves hother hmem⟩⟩
    rw [releasesLeft_of_stage hstage, Stage.releases]
    omega

end Guarded

end ProjectViews
