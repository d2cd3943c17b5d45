/-
A view and its line, each for one operation at a time.

A run of a store lets operations move as if each had the view to itself.  Here they have to ask
for it: those that want to commit, to take an answer in, or to read the settings that they are
about to hand over, queue for the view, and the first of them has it.  Going on takes no view, and
neither does the return of a save, which only gives the turn in line to the next one.  Asking keeps
nobody from anything, `exists_run`.

So there are two things to wait for, the view and the turn to save, and whoever has its turn still
has to ask for the view.  Nobody who has the view waits for anything else, which is why the two
cannot block each other: `Sound` says that whoever queues for the view can make its move when it
gets it, and that everybody in line either saves or waits there.
-/
import ProjectViews.Proofs.View.Loading
import ProjectViews.Proofs.View.Saving

namespace ProjectViews

/-! ### The line -/

/-- Whether an operation has a place in the line of those that save. -/
def Stage.inLine : Stage → Bool
  | queued _ _ | saving _ _ _ => true
  | ready _ _ | fetching _ _ => false

/-- Those in line are the operations that wait there or save, each once. -/
structure Lined (s : Store) : Prop where
  nodup : s.line.Nodup
  mem : ∀ task, task ∈ s.line ↔ ∃ stage, s.stage? task = some stage ∧ stage.inLine = true

namespace Lined

theorem empty (r : Registry) : Lined (.empty r) where
  nodup := List.nodup_nil
  mem := fun _ => ⟨nofun, fun ⟨_, hstage, _⟩ => nomatch hstage⟩

variable {s t : Store} {task : Nat}

/-- An operation comes somewhere, or is over, and the line stays as it is. -/
theorem same (h : Lined s) {stage' : Option Stage} (line : t.line = s.line)
    (stages : ∀ u, t.stage? u = if u = task then stage' else s.stage? u)
    (inLine : task ∈ s.line ↔ ∃ stage, stage' = some stage ∧ stage.inLine = true) : Lined t where
  nodup := line ▸ h.nodup
  mem := by
    intro u
    rw [line, stages]
    by_cases hu : u = task
    · rw [if_pos hu, hu]
      exact inLine
    · rw [if_neg hu]
      exact h.mem u

/-- An operation that was not in line joins it. -/
theorem join (h : Lined s) {stage : Stage} (line : t.line = s.line ++ [task])
    (stages : ∀ u, t.stage? u = if u = task then some stage else s.stage? u)
    (outside : task ∉ s.line) (inLine : stage.inLine = true) : Lined t where
  nodup := by
    rw [line]
    exact List.nodup_append.mpr ⟨h.nodup, by simp, by
      intro a ha b hb
      rw [List.mem_singleton.mp hb]
      exact fun hab => outside (hab ▸ ha)⟩
  mem := by
    intro u
    rw [line, stages, List.mem_append, List.mem_singleton, h.mem u]
    by_cases hu : u = task
    · rw [if_pos hu]
      exact iff_of_true (Or.inr hu) ⟨stage, rfl, inLine⟩
    · rw [if_neg hu]
      exact ⟨fun hor => hor.resolve_right hu, Or.inl⟩

/-- The first one in line leaves it. -/
theorem leave (h : Lined s) {rest : List Nat} {stage : Stage} (before : s.line = task :: rest)
    (line : t.line = rest)
    (stages : ∀ u, t.stage? u = if u = task then some stage else s.stage? u)
    (outside : stage.inLine = false) : Lined t := by
  have hnodup := h.nodup
  rw [before] at hnodup
  obtain ⟨hrest, hnodup⟩ := List.nodup_cons.mp hnodup
  refine ⟨line ▸ hnodup, fun u => ?_⟩
  rw [line, stages]
  by_cases hu : u = task
  · rw [if_pos hu, hu]
    refine iff_of_false hrest ?_
    rintro ⟨_, hstage, hin⟩
    obtain rfl := Option.some.inj hstage
    exact Bool.false_ne_true (outside.symm.trans hin)
  · rw [if_neg hu, ← h.mem u, before, List.mem_cons]
    exact ⟨Or.inr, fun hor => hor.resolve_left hu⟩

end Lined

/-- The first one in line is the one that saves. -/
theorem Saving.line_eq {past : List Moment} {s : Store} (h : Saving past s) {task : Nat}
    {uid : String} {settings : ViewSettings} {after : AfterSave}
    (hstage : s.stage? task = some (.saving uid settings after)) :
    s.line = task :: s.line.drop 1 := by
  have hturn := h.turn hstage
  cases hline : s.line with
  | nil => simp [hline] at hturn
  | cons first rest =>
      rw [hline] at hturn
      obtain rfl := Option.some.inj hturn
      rfl

/-- It holds in every store that a run reaches. -/
theorem Reached.lined {r : Registry} {past : List Moment} {s : Store} (h : Reached r past s) :
    Lined s := by
  induction h with
  | empty => exact .empty r
  | @step past s m t h e ih =>
      have houtside : ∀ {task stage}, s.stage? task = some stage → stage.inLine = false →
          task ∉ s.line := by
        intro task stage hstage hout hmem
        obtain ⟨stage', hstage', hin⟩ := (ih.mem task).mp hmem
        obtain rfl := Option.some.inj (hstage.symm.trans hstage')
        exact Bool.false_ne_true (hout.symm.trans hin)
      cases e with
      | ignored => exact ih
      | @entered task op free =>
          refine ih.same rfl (fun u => Store.stage?_put _ task u _) (iff_of_false ?_ ?_)
          · intro hmem
            obtain ⟨stage, hstage, -⟩ := (ih.mem task).mp hmem
            simp [free] at hstage
          · rintro ⟨_, ⟨⟩, hin⟩
            cases hin
      | @ended task events result hstage =>
          refine ih.same rfl (fun u => Store.stage?_leave s task u)
            (iff_of_false (houtside hstage rfl) ?_)
          rintro ⟨_, hnone, -⟩
          cases hnone
      | @asked task events generation query hstage =>
          refine ih.same rfl (fun u => Store.stage?_put s task u _)
            (iff_of_false (houtside hstage rfl) ?_)
          rintro ⟨_, ⟨⟩, hin⟩
          cases hin
      | @joined task events uid after hstage =>
          exact ih.join rfl (fun u => Store.stage?_put _ task u _) (houtside hstage rfl) rfl
      | @handed task uid after hstage turn =>
          exact ih.same rfl (fun u => Store.stage?_put s task u _)
            (iff_of_true ((ih.mem task).mpr ⟨_, hstage, rfl⟩) ⟨_, rfl, rfl⟩)
      | @saved task worked uid settings after hstage =>
          exact ih.leave (h.saving.line_eq hstage) rfl (fun u => Store.stage?_put _ task u _) rfl
      | @took task answer generation query hstage =>
          refine ih.same rfl (fun u => Store.stage?_put _ task u _)
            (iff_of_false (houtside hstage rfl) ?_)
          rintro ⟨_, ⟨⟩, hin⟩
          cases hin

/-! ### Asking for the view -/

/-- Whether a move takes the view: to change it, or to read the settings that are handed over. -/
def Move.needsView : Move → Bool
  | enter _ _ | takeTurn _ | take _ _ => true
  | goOn _ | endTurn _ _ => false

/-- Whether an operation that stands somewhere, or nowhere, is the one to make a move. -/
def Move.fits : Move → Option Stage → Bool
  | enter _ _, none => true
  | goOn _, some (.ready _ _) => true
  | takeTurn _, some (.queued _ _) => true
  | endTurn _ _, some (.saving _ _ _) => true
  | take _ _, some (.fetching _ _) => true
  | _, _ => false

/-- Whether the next move of an operation that stands somewhere, or nowhere, needs the view. -/
def Move.needsViewFrom : Option Stage → Bool
  | none | some (.queued _ _) | some (.fetching _ _) => true
  | some (.ready _ _) | some (.saving _ _ _) => false

theorem Move.needsView_of_fits {m : Move} {stage : Option Stage} (h : m.fits stage = true) :
    m.needsView = needsViewFrom stage := by
  rcases stage with _ | stage
  · cases m <;> cases h
    rfl
  · cases stage <;> cases m <;> cases h <;> rfl

/-- Whether an operation can make a move now: it stands where the move begins, and if that is the
line it is its turn. -/
def Store.offers (s : Store) (m : Move) : Bool :=
  m.fits (s.stage? m.task) &&
    match m with
    | .takeTurn task => s.line.head? == some task
    | _ => true

theorem Store.offers_iff (s : Store) (m : Move) : s.offers m = true ↔ ¬ s.Ignores m := by
  rcases hstage : s.stage? m.task with _ | stage
  · cases m <;> (rw [Move.task] at hstage; simp [offers, Move.fits, Ignores, hstage])
  · cases stage <;> cases m <;>
      (rw [Move.task] at hstage; simp [offers, Move.fits, Ignores, hstage])

theorem Store.fits_of_offers {s : Store} {m : Move} (h : s.offers m = true) :
    m.fits (s.stage? m.task) = true :=
  (Bool.and_eq_true_iff.mp h).1

/-- Whoever can take an answer in has asked for one. -/
theorem Store.fetching_of_offers {s : Store} {task : Nat} {answer : Except Failure RowPage}
    (h : s.offers (.take task answer) = true) :
    ∃ generation query, s.stage? task = some (.fetching generation query) := by
  have hfits : (Move.take task answer).fits (s.stage? task) = true := fits_of_offers h
  rcases hstage : s.stage? task with _ | stage
  · rw [hstage] at hfits
    cases hfits
  · rw [hstage] at hfits
    cases stage with
    | fetching generation query => exact ⟨generation, query, rfl⟩
    | ready events next => cases hfits
    | queued uid after => cases hfits
    | saving uid settings after => cases hfits

/-- Whoever can take its turn to save waits for it. -/
theorem Store.queued_of_offers {s : Store} {task : Nat} (h : s.offers (.takeTurn task) = true) :
    ∃ uid after, s.stage? task = some (.queued uid after) := by
  have hfits : (Move.takeTurn task).fits (s.stage? task) = true := fits_of_offers h
  rcases hstage : s.stage? task with _ | stage
  · rw [hstage] at hfits
    cases hfits
  · rw [hstage] at hfits
    cases stage with
    | queued uid after => exact ⟨uid, after, rfl⟩
    | ready events next => cases hfits
    | saving uid settings after => cases hfits
    | fetching generation query => cases hfits

/-- A store whose view is given to one operation at a time, to the first in the queue. -/
structure Guarded where
  store : Store
  queue : List Move

/-- What can happen. -/
inductive Deed where
  /-- An operation that can make a move asks for the view. -/
  | ask (m : Move)
  /-- The first in the queue has the view, makes its move and gives the view back. -/
  | act
  /-- A move is made that needs no view. -/
  | make (m : Move)

namespace Guarded

def empty (r : Registry) : Guarded := ⟨.empty r, []⟩

/-- Whether a move can be queued: it needs the view, the operation can make it, and is not in the
queue yet. -/
def admits (g : Guarded) (m : Move) : Bool :=
  m.needsView && g.store.offers m && g.queue.all fun q => q.task != m.task

theorem admits_iff {g : Guarded} {m : Move} : g.admits m = true ↔
    m.needsView = true ∧ g.store.offers m = true ∧ ∀ q ∈ g.queue, q.task ≠ m.task := by
  rw [admits, Bool.and_eq_true_iff, Bool.and_eq_true_iff, List.all_eq_true, and_assoc]
  simp only [bne_iff_ne]

/-- What a deed comes to, and what it gives to the outside. -/
def step (g : Guarded) : Deed → Guarded × List Output
  | .ask m => if g.admits m then ({ g with queue := g.queue ++ [m] }, []) else (g, [])
  | .act =>
    match g.queue with
    | [] => (g, [])
    | m :: rest => (⟨(g.store.step m).1, rest⟩, (g.store.step m).2)
  | .make m =>
    if m.needsView then (g, []) else (⟨(g.store.step m).1, g.queue⟩, (g.store.step m).2)

def run (g : Guarded) (deeds : List Deed) : Guarded := deeds.foldl (fun g d => (g.step d).1) g

/-- Everything that a deed can come to. -/
inductive Outcome (g : Guarded) : Deed → Guarded × List Output → Prop
  | refused {d : Deed} (asks : ∀ m, d = .ask m → g.admits m = false)
      (makes : ∀ m, d = .make m → m.needsView = true) : Outcome g d (g, [])
  | queued {m : Move} (view : m.needsView = true) (offered : g.store.offers m = true)
      (absent : ∀ q ∈ g.queue, q.task ≠ m.task) :
      Outcome g (.ask m) ({ g with queue := g.queue ++ [m] }, [])
  | acted {m : Move} {rest : List Move} {t : Store × List Output} (first : g.queue = m :: rest)
      (effect : Effect g.store m t) : Outcome g .act (⟨t.1, rest⟩, t.2)
  | made {m : Move} {t : Store × List Output} (view : m.needsView = false)
      (effect : Effect g.store m t) : Outcome g (.make m) (⟨t.1, g.queue⟩, t.2)

theorem outcome_step (g : Guarded) (d : Deed) : Outcome g d (g.step d) := by
  cases d with
  | ask m =>
      rw [step]
      by_cases h : g.admits m = true
      · rw [if_pos h]
        obtain ⟨view, offered, absent⟩ := admits_iff.mp h
        exact .queued view offered absent
      · rw [if_neg h]
        refine .refused ?_ nofun
        rintro _ ⟨⟩
        exact Bool.eq_false_iff.mpr h
  | act =>
      rw [step]
      cases hqueue : g.queue with
      | nil => exact .refused nofun nofun
      | cons m rest => exact .acted hqueue (effect_step g.store m)
  | make m =>
      rw [step]
      by_cases h : m.needsView = true
      · rw [if_pos h]
        refine .refused nofun ?_
        rintro _ ⟨⟩
        exact h
      · rw [if_neg h]
        exact .made (Bool.eq_false_iff.mpr h) (effect_step g.store m)

end Guarded

/-! ### Who queues for the view -/

/-- The first in line stays so until it has saved, whoever moves. -/
theorem Effect.head?_of_waits {s : Store} {m : Move} {t : Store × List Output}
    (e : Effect s m t) {past : List Moment} (saving : Saving past s) {task : Nat}
    (waits : ∀ uid settings after, s.stage? task ≠ some (.saving uid settings after))
    (hturn : s.line.head? = some task) : t.1.line.head? = some task := by
  cases e.turn with
  | rests h => exact h.line task hturn
  | hands h => rwa [h.line]
  | returns h =>
      -- only the first in line saves, and that one does not
      obtain rfl := Option.some.inj ((saving.turn h.stage).symm.trans hturn)
      exact absurd h.stage (waits _ _ _)

/-- What an operation can do, it still can after others have moved. -/
theorem Effect.offers_of_ne {s : Store} {m : Move} {t : Store × List Output} (e : Effect s m t)
    {past : List Moment} (saving : Saving past s) {q : Move} (hne : q.task ≠ m.task)
    (offered : s.offers q = true) : t.1.offers q = true := by
  obtain ⟨hfits, hturn⟩ := Bool.and_eq_true_iff.mp offered
  refine Bool.and_eq_true_iff.mpr ⟨by rwa [e.stage?_of_ne hne], ?_⟩
  cases q with
  | takeTurn task =>
      refine beq_iff_eq.mpr (e.head?_of_waits saving ?_ (beq_iff_eq.mp hturn))
      intro uid settings after hstage
      rw [Move.task, hstage] at hfits
      cases hfits
  | enter task op => rfl
  | goOn task => rfl
  | endTurn task worked => rfl
  | take task answer => rfl

namespace Guarded

/-- The store is one that a run reaches, and everybody in the queue can make its move. -/
structure Sound (r : Registry) (g : Guarded) : Prop where
  reached : ∃ past, Reached r past g.store
  view : ∀ q ∈ g.queue, q.needsView = true
  offered : ∀ q ∈ g.queue, g.store.offers q = true
  apart : (g.queue.map (·.task)).Nodup

namespace Sound

variable {r : Registry} {g : Guarded}

theorem empty (r : Registry) : Sound r (.empty r) where
  reached := ⟨[], .empty⟩
  view := nofun
  offered := nofun
  apart := List.nodup_nil

theorem lined (h : Sound r g) : Lined g.store := by
  obtain ⟨past, hreached⟩ := h.reached
  exact hreached.lined

theorem oneEach (h : Sound r g) : OneEach g.store := by
  obtain ⟨past, hreached⟩ := h.reached
  exact hreached.oneEach

theorem line_eq (h : Sound r g) {task : Nat} {uid : String} {settings : ViewSettings}
    {after : AfterSave} (hstage : g.store.stage? task = some (.saving uid settings after)) :
    g.store.line = task :: g.store.line.drop 1 := by
  obtain ⟨past, hreached⟩ := h.reached
  exact hreached.saving.line_eq hstage

/-- **Every deed keeps it.** -/
theorem step (h : Sound r g) {d : Deed} {t : Guarded × List Output} (o : Outcome g d t) :
    Sound r t.1 := by
  obtain ⟨past, hreached⟩ := h.reached
  cases o with
  | refused => exact h
  | @queued m view offered absent =>
      refine ⟨⟨past, hreached⟩, ?_, ?_, ?_⟩
      · intro q hq
        rcases List.mem_append.mp hq with hold | hnew
        · exact h.view q hold
        · exact List.mem_singleton.mp hnew ▸ view
      · intro q hq
        rcases List.mem_append.mp hq with hold | hnew
        · exact h.offered q hold
        · exact List.mem_singleton.mp hnew ▸ offered
      · rw [List.map_append, List.nodup_append]
        refine ⟨h.apart, by simp, ?_⟩
        intro a ha b hb
        obtain ⟨q, hq, rfl⟩ := List.mem_map.mp ha
        obtain rfl : b = m.task := by simpa using hb
        exact absent q hq
  | @acted m rest t first effect =>
      have hview := h.view
      have hoffered := h.offered
      have hapart := h.apart
      rw [first] at hview hoffered hapart
      obtain ⟨hothers, hrest⟩ := List.nodup_cons.mp hapart
      refine ⟨⟨_, hreached.step effect⟩, fun q hq => hview q (List.mem_cons_of_mem _ hq),
        fun q hq => ?_, hrest⟩
      refine effect.offers_of_ne hreached.saving (fun hsame => hothers ?_)
        (hoffered q (List.mem_cons_of_mem _ hq))
      exact List.mem_map.mpr ⟨q, hq, hsame⟩
  | @made m t view effect =>
      refine ⟨⟨_, hreached.step effect⟩, h.view, fun q hq => ?_, h.apart⟩
      by_cases hoffered : g.store.offers m = true
      · refine effect.offers_of_ne hreached.saving (fun hsame => ?_) (h.offered q hq)
        -- who makes a move that needs no view does not queue for the view
        have hmview := Move.needsView_of_fits (Store.fits_of_offers hoffered)
        have hqview := Move.needsView_of_fits (Store.fits_of_offers (h.offered q hq))
        rw [← hsame, ← hqview, view, h.view q hq] at hmview
        cases hmview
      · rw [Store.offers_iff, Classical.not_not] at hoffered
        rw [effect.of_ignores hoffered]
        exact h.offered q hq

theorem run (h : Sound r g) (deeds : List Deed) : Sound r (g.run deeds) := by
  induction deeds generalizing g with
  | nil => exact h
  | cons d rest ih => exact ih (h.step (g.outcome_step d))

end Sound

/-- **Asking for the view keeps nobody from anything**: whatever a run of a store reaches is
reached when each move is asked for and made at once. -/
theorem exists_run (s : Store) (moves : List Move) :
    ∃ deeds, (Guarded.mk s []).run deeds = ⟨s.run moves, []⟩ := by
  induction moves generalizing s with
  | nil => exact ⟨[], rfl⟩
  | cons m rest ih =>
      obtain ⟨deeds, hdeeds⟩ := ih (s.step m).1
      cases hview : m.needsView with
      | false =>
          refine ⟨.make m :: deeds, ?_⟩
          have hmake : ((Guarded.mk s []).step (.make m)).1 = ⟨(s.step m).1, []⟩ := by
            rw [step, hview]
            rfl
          show (((Guarded.mk s []).step (.make m)).1).run deeds = _
          rw [hmake, hdeeds]
          rfl
      | true =>
          by_cases hoffered : s.offers m = true
          · refine ⟨.ask m :: .act :: deeds, ?_⟩
            have hadmits : (Guarded.mk s []).admits m = true :=
              admits_iff.mpr ⟨hview, hoffered, nofun⟩
            have hask : ((Guarded.mk s []).step (.ask m)).1 = ⟨s, [m]⟩ := by
              rw [step, if_pos hadmits]
              rfl
            show ((((Guarded.mk s []).step (.ask m)).1.step .act).1).run deeds = _
            rw [hask]
            exact hdeeds
          · -- a move that cannot be made changes nothing
            rw [Store.offers_iff, Classical.not_not] at hoffered
            have hsame := congrArg Prod.fst ((effect_step s m).of_ignores hoffered)
            refine ⟨deeds, ?_⟩
            rw [hsame] at hdeeds
            rw [hdeeds, Store.run, Store.run, List.foldl_cons, hsame]

end Guarded

end ProjectViews
