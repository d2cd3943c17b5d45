/-
What the first request of a generation waits for.

An operation that gives the view another question has its settings saved before it asks the
server, and only one operation saves at a time.  So its request waits for saves: for those of the
operations that are in line when it joins the line, and then for its own.  A save that never
returns keeps the request back for good, and the view stays empty and loading with nothing on its
way to the server, `unsent_while_saving`.

That is all it waits for.  `savesFor` lists the operations whose saves an operation waits for, the
first one first.  Each save that returns, whether it has worked or not, takes the first one off,
and nothing else changes the list: not what the server does, not what is begun later.  When the
list is empty and all is quiet the request has been sent, once, and it asks what the view asked
when its generation began.
-/
import ProjectViews.Proofs.View.Rest

namespace ProjectViews

/-! ### Requests still to be sent -/

/-- The request that an operation has still to send. -/
def Stage.unsent? : Stage → Option Query
  | ready _ next => next.errand?.map (·.2)
  | queued _ after | saving _ _ after => after.errand?.map (·.2)
  | fetching _ _ => none

/-- The requests of an operation among what is given to the outside. -/
def requestsOf (task : Nat) (outputs : List Output) : List Query :=
  outputs.filterMap fun
    | .request other query => if other = task then some query else none
    | _ => none

theorem requestsOf_append (task : Nat) (outputs later : List Output) :
    requestsOf task (outputs ++ later) = requestsOf task outputs ++ requestsOf task later :=
  List.filterMap_append

theorem requestsOf_events (task : Nat) (events : List Event) :
    requestsOf task (events.map Output.event) = [] := by
  induction events with
  | nil => rfl
  | cons event rest ih => exact ih

/-- Others do not send its requests. -/
theorem Effect.requestsOf_of_ne {s : Store} {m : Move} {t : Store × List Output}
    (e : Effect s m t) {task : Nat} (h : task ≠ m.task) : requestsOf task t.2 = [] := by
  have hne : m.task ≠ task := Ne.symm h
  cases e with
  | ignored => rfl
  | entered => rfl
  | ended => rw [requestsOf_append, requestsOf_events]; rfl
  | asked =>
      rw [requestsOf_append, requestsOf_events]
      show [_].filterMap _ = []
      simp only [Move.task] at hne
      simp [hne]
  | joined => exact requestsOf_events task _
  | handed => rfl
  | saved => rfl
  | took => rfl

/-- Whether an operation has no request to send any more. -/
def Stage.hasAsked : Stage → Bool
  | fetching _ _ | ready _ (.done _) => true
  | _ => false

/-- How far an operation is with a request: it has still to send it and has sent none, or it has
sent this one and sends no other. -/
inductive Way (s : Store) (task : Nat) (query : Query) : List Query → Prop
  | before {stage : Stage} (hstage : s.stage? task = some stage)
      (unsent : stage.unsent? = some query) : Way s task query []
  | after (asked : ∀ stage, s.stage? task = some stage → stage.hasAsked = true) :
      Way s task query [query]

namespace Way

variable {s t : Store} {task : Nat} {query : Query} {sent : List Query}

theorem of_same (h : Way s task query sent) (same : t.stage? task = s.stage? task) :
    Way t task query sent := by
  cases h with
  | before hstage unsent => exact .before (same.trans hstage) unsent
  | after asked => exact .after fun stage hstage => asked stage (same.symm.trans hstage)

theorem after_of_stage {stage : Stage} (hstage : s.stage? task = some stage)
    (asked : stage.hasAsked = true) : Way s task query [query] := by
  refine .after fun stage' hstage' => ?_
  obtain rfl := Option.some.inj (hstage.symm.trans hstage')
  exact asked

/-- Who still has to ask has asked nothing. -/
theorem of_unasked (h : Way s task query sent) {stage : Stage}
    (hstage : s.stage? task = some stage) (unasked : stage.hasAsked = false) :
    sent = [] ∧ stage.unsent? = some query := by
  cases h with
  | before hstage' unsent =>
      obtain rfl := Option.some.inj (hstage.symm.trans hstage')
      exact ⟨rfl, unsent⟩
  | after asked =>
      rw [asked stage hstage] at unasked
      cases unasked

/-- Who has asked asks no more. -/
theorem of_asked (h : Way s task query sent) {stage : Stage}
    (hstage : s.stage? task = some stage) (silent : stage.unsent? = none) : sent = [query] := by
  cases h with
  | before hstage' unsent =>
      obtain rfl := Option.some.inj (hstage.symm.trans hstage')
      rw [silent] at unsent
      cases unsent
  | after => rfl

/-- **An operation sends its request once, when it asks.** -/
theorem step (h : Way s task query sent) {m : Move} {t : Store × List Output} (e : Effect s m t)
    (others : ∀ op, m ≠ .enter task op) : Way t.1 task query (sent ++ requestsOf task t.2) := by
  by_cases hown : task = m.task
  · subst hown
    cases e with
    | ignored =>
        rw [show requestsOf m.task [] = [] from rfl, List.append_nil]
        exact h
    | entered => exact absurd rfl (others _)
    | @ended task events result hstage =>
        rw [h.of_asked hstage rfl, requestsOf_append, requestsOf_events]
        refine .after fun stage hnow => ?_
        cases (s.stage?_leave_self task).symm.trans hnow
    | @asked task events generation asked hstage =>
        obtain ⟨rfl, hunsent⟩ := h.of_unasked hstage rfl
        obtain rfl : asked = query := Option.some.inj hunsent
        have hsent : requestsOf task (events.map .event ++ [.request task asked]) = [asked] := by
          rw [requestsOf_append, requestsOf_events]
          simp [requestsOf]
        show Way _ task asked ([] ++ requestsOf task (events.map .event ++ [.request task asked]))
        rw [hsent]
        exact after_of_stage (s.stage?_put_self task _) rfl
    | @joined task events uid after hstage =>
        obtain ⟨rfl, hunsent⟩ := h.of_unasked hstage rfl
        show Way _ task query ([] ++ requestsOf task (events.map .event))
        rw [requestsOf_events]
        exact .before (Store.stage?_put_self _ task _) hunsent
    | @handed task uid after hstage turn =>
        obtain ⟨rfl, hunsent⟩ := h.of_unasked hstage rfl
        exact .before (s.stage?_put_self task _) hunsent
    | @saved task worked uid settings after hstage =>
        obtain ⟨rfl, hunsent⟩ := h.of_unasked hstage rfl
        refine .before (Store.stage?_put_self _ task _) ?_
        rw [Stage.unsent?, AfterSave.errand?_next]
        exact hunsent
    | @took task answer generation asked hstage =>
        rw [h.of_asked hstage rfl]
        exact after_of_stage (Store.stage?_put_self _ task _) rfl
  · rw [e.requestsOf_of_ne hown, List.append_nil]
    exact h.of_same (e.stage?_of_ne hown)

end Way

/-! ### The saves that an operation waits for -/

/-- A line up to an element that stands in it, which is the last one then. -/
def lineTo (task : Nat) (line : List Nat) : List Nat :=
  if task ∈ line then line.take (line.idxOf task + 1) else []

theorem lineTo_of_not_mem {task : Nat} {line : List Nat} (h : task ∉ line) :
    lineTo task line = [] :=
  if_neg h

/-- Who comes later comes behind it. -/
theorem lineTo_append {task : Nat} {line : List Nat} (h : task ∈ line) (later : List Nat) :
    lineTo task (line ++ later) = lineTo task line := by
  have hplace : line.idxOf task < line.length := List.idxOf_lt_length_iff.mpr h
  rw [lineTo, lineTo, if_pos (List.mem_append_left later h), if_pos h, List.idxOf_append,
    if_pos h, List.take_append_of_le_length (by omega)]

/-- Who joins a line has all of it before itself. -/
theorem lineTo_concat {task : Nat} {line : List Nat} (h : task ∉ line) :
    lineTo task (line ++ [task]) = line ++ [task] := by
  rw [lineTo, if_pos (by simp), List.idxOf_append, if_neg h, List.idxOf_cons_self]
  exact List.take_of_length_le (by simp)

/-- Without its first one a line is shorter by that one. -/
theorem lineTo_tail {task first : Nat} {rest : List Nat} (nodup : (first :: rest).Nodup)
    (h : task ∈ first :: rest) :
    lineTo task rest = (lineTo task (first :: rest)).tail := by
  obtain ⟨hfirst, -⟩ := List.nodup_cons.mp nodup
  rw [lineTo, lineTo, if_pos h]
  by_cases heq : first = task
  · subst heq
    rw [if_neg hfirst, List.idxOf_cons_self]
    rfl
  · have hrest : task ∈ rest := (List.mem_cons.mp h).resolve_left fun e => heq e.symm
    rw [if_pos hrest, List.idxOf_cons, beq_false_of_ne heq]
    rfl

theorem mem_of_mem_lineTo {task other : Nat} {line : List Nat} (h : other ∈ lineTo task line) :
    task ∈ line ∧ other ∈ line := by
  by_cases hmem : task ∈ line
  · rw [lineTo, if_pos hmem] at h
    exact ⟨hmem, List.mem_of_mem_take h⟩
  · rw [lineTo_of_not_mem hmem] at h
    cases h

theorem mem_lineTo_self {task : Nat} {line : List Nat} (h : task ∈ line) :
    task ∈ lineTo task line := by
  have hplace : line.idxOf task < line.length := List.idxOf_lt_length_iff.mpr h
  rw [lineTo, if_pos h, List.mem_take_iff_getElem]
  exact ⟨line.idxOf task, by omega, List.getElem_idxOf hplace⟩

theorem lineTo_eq_nil {task : Nat} {line : List Nat} : lineTo task line = [] ↔ task ∉ line := by
  constructor
  · intro h hmem
    have hself := mem_lineTo_self hmem
    rw [h] at hself
    cases hself
  · exact lineTo_of_not_mem

theorem head?_lineTo {task : Nat} {line : List Nat} (h : task ∈ line) :
    (lineTo task line).head? = line.head? := by
  rw [lineTo, if_pos h, List.head?_take, if_neg (Nat.succ_ne_zero _)]

/-- The operations whose saves an operation waits for: those before it in line, and itself. -/
def Store.savesFor (s : Store) (task : Nat) : List Nat := lineTo task s.line

theorem Store.savesFor_eq_nil {s : Store} {task : Nat} : s.savesFor task = [] ↔ task ∉ s.line :=
  lineTo_eq_nil

/-- Whether a save returns to an operation with a move. -/
def Move.isReturn : Move → Bool
  | endTurn _ _ => true
  | _ => false

/-- The saves that an operation in line waits for become fewer with each that returns, and stay
the same with every other move. -/
theorem Effect.savesFor {s : Store} {m : Move} {t : Store × List Output} (e : Effect s m t)
    (lined : Lined s) {past : List Moment} (saving : Saving past s) {task : Nat}
    (h : task ∈ s.line) :
    t.1.savesFor task
      = if m.isReturn && s.offers m then (s.savesFor task).tail else s.savesFor task := by
  cases e with
  | ignored hignores =>
      have hoffers : s.offers m = false :=
        Bool.eq_false_iff.mpr fun hoffers => (s.offers_iff m).mp hoffers hignores
      rw [hoffers, Bool.and_false]
      rfl
  | entered => rfl
  | ended => rfl
  | asked => rfl
  | joined => exact lineTo_append h _
  | handed => rfl
  | took => rfl
  | @saved other worked uid settings after hstage =>
      have hoffers : s.offers (.endTurn other worked) = true := by
        simp [Store.offers, Move.fits, hstage]
      rw [hoffers]
      show lineTo task (s.line.drop 1) = (lineTo task s.line).tail
      have hline := saving.line_eq hstage
      have hnodup := lined.nodup
      generalize s.line.drop 1 = rest at hline
      rw [hline] at h hnodup ⊢
      exact lineTo_tail hnodup h

/-- Nobody asks the server from a place in line. -/
theorem Effect.requestsOf_of_mem {s : Store} {m : Move} {t : Store × List Output}
    (e : Effect s m t) (lined : Lined s) {task : Nat} (h : task ∈ s.line) :
    requestsOf task t.2 = [] := by
  by_cases hown : task = m.task
  · subst hown
    obtain ⟨stage, hin, hline⟩ := (lined.mem _).mp h
    cases e with
    | ignored => rfl
    | entered => rfl
    | ended hstage =>
        obtain rfl := Option.some.inj (hin.symm.trans hstage)
        cases hline
    | asked hstage =>
        obtain rfl := Option.some.inj (hin.symm.trans hstage)
        cases hline
    | joined => exact requestsOf_events _ _
    | handed => rfl
    | saved => rfl
    | took => rfl
  · exact e.requestsOf_of_ne hown

namespace Guarded

variable {r : Registry} {g : Guarded}

/-- What deeds give to the outside, one after the other. -/
def outputs (g : Guarded) : List Deed → List Output
  | [] => []
  | d :: rest => (g.step d).2 ++ (g.step d).1.outputs rest

/-- Whether a save returns with a deed. -/
def returns (g : Guarded) : Deed → Bool
  | .make m => m.isReturn && g.store.offers m
  | _ => false

/-- **Each save that returns takes the first one off those that an operation in line waits for,
and nothing else does.** -/
theorem Sound.savesFor_step (h : Sound r g) {task : Nat} (hmem : task ∈ g.store.line) (d : Deed) :
    (g.step d).1.store.savesFor task
      = if g.returns d then (g.store.savesFor task).tail else g.store.savesFor task := by
  obtain ⟨past, hreached⟩ := h.reached
  have houtcome := g.outcome_step d
  generalize g.step d = t at houtcome
  cases houtcome with
  | refused asks makes =>
      have hreturns : g.returns d = false := by
        cases d with
        | ask m => rfl
        | act => rfl
        | make m =>
            have hview := makes m rfl
            cases m with
            | endTurn other worked => cases hview
            | enter other op => rfl
            | goOn other => rfl
            | takeTurn other => rfl
            | take other answer => rfl
      rw [hreturns]
      rfl
  | queued => rfl
  | @acted m rest t first effect =>
      have hview : m.needsView = true := h.view m (by rw [first]; exact List.mem_cons_self)
      have hreturn : m.isReturn = false := by
        cases m with
        | endTurn other worked => cases hview
        | enter other op => rfl
        | goOn other => rfl
        | takeTurn other => rfl
        | take other answer => rfl
      have hsaves := effect.savesFor hreached.lined hreached.saving hmem
      rw [hreturn, Bool.false_and] at hsaves
      exact hsaves
  | made view effect => exact effect.savesFor hreached.lined hreached.saving hmem

/-- A save only returns to the first one in line. -/
theorem Sound.of_returns (h : Sound r g) {d : Deed} (returns : g.returns d = true) :
    ∃ first worked, d = .make (.endTurn first worked) ∧ g.store.line.head? = some first := by
  obtain ⟨past, hreached⟩ := h.reached
  cases d with
  | ask m => cases returns
  | act => cases returns
  | make m =>
      obtain ⟨hreturn, hoffers⟩ := Bool.and_eq_true_iff.mp returns
      cases m with
      | endTurn first worked =>
          refine ⟨first, worked, rfl, ?_⟩
          have hfits : (Move.endTurn first worked).fits (g.store.stage? first) = true :=
            Store.fits_of_offers hoffers
          cases hstage : g.store.stage? first with
          | none =>
              rw [hstage] at hfits
              cases hfits
          | some stage =>
              rw [hstage] at hfits
              cases stage with
              | saving uid settings after => exact hreached.saving.turn hstage
              | ready events next => cases hfits
              | queued uid after => cases hfits
              | fetching generation query => cases hfits
      | enter other op => cases hreturn
      | goOn other => cases hreturn
      | takeTurn other => cases hreturn
      | take other answer => cases hreturn

/-- What a deed gives to the outside comes from a move of the store, if from anything. -/
theorem requestsOf_step_of_mem (h : Sound r g) {task : Nat} (hmem : task ∈ g.store.line)
    (d : Deed) : requestsOf task (g.step d).2 = [] := by
  have houtcome := g.outcome_step d
  generalize g.step d = t at houtcome
  cases houtcome with
  | refused => rfl
  | queued => rfl
  | acted first effect => exact effect.requestsOf_of_mem h.lined hmem
  | made view effect => exact effect.requestsOf_of_mem h.lined hmem

/-- **While one of the saves that it waits for does not return, an operation sends nothing.** -/
theorem Sound.held (h : Sound r g) {task other : Nat} (hother : other ∈ g.store.savesFor task)
    {later : List Deed} (never : ∀ worked, .make (.endTurn other worked) ∉ later) :
    other ∈ (g.run later).store.savesFor task ∧ requestsOf task (g.outputs later) = [] := by
  induction later generalizing g with
  | nil => exact ⟨hother, rfl⟩
  | cons d rest ih =>
      have hmem : task ∈ g.store.line := (mem_of_mem_lineTo hother).1
      have hstill : other ∈ (g.step d).1.store.savesFor task := by
        rw [h.savesFor_step hmem d]
        by_cases hreturns : g.returns d = true
        · -- the save that returns is that of the first one, and that is another one
          obtain ⟨first, worked, rfl, hhead⟩ := h.of_returns hreturns
          have hne : other ≠ first := by
            rintro rfl
            exact never worked List.mem_cons_self
          have hsaves : (g.store.savesFor task).head? = some first :=
            (head?_lineTo hmem).trans hhead
          rw [if_pos hreturns]
          obtain ⟨tail, htail⟩ := List.head?_eq_some_iff.mp hsaves
          rw [htail] at hother ⊢
          exact (List.mem_cons.mp hother).resolve_left hne
        · rw [if_neg hreturns]
          exact hother
      obtain ⟨hlast, hsilent⟩ := ih (h.step (g.outcome_step d)) hstill
        (fun worked hw => never worked (List.mem_cons_of_mem _ hw))
      refine ⟨hlast, ?_⟩
      rw [outputs, requestsOf_append, hsilent, List.append_nil]
      exact requestsOf_step_of_mem h hmem d

/-- An operation that is started commits, and whoever still queues is another one. -/
theorem Sound.step_enter (h : Sound r g) {task : Nat} {op : Operation} {rest : List Move}
    (first : g.queue = .enter task op :: rest) :
    (g.step .act).1.store
        = { g.store with state := (op.commit g.store.registry g.store.state).state }.put task
          (.ready (op.commit g.store.registry g.store.state).events
            (op.commit g.store.registry g.store.state).next) ∧
      (g.step .act).1.queue = rest := by
  have hoffered : g.store.offers (.enter task op) = true :=
    h.offered _ (first ▸ List.mem_cons_self)
  have hfree : g.store.stage? task = none := by
    cases hstage : g.store.stage? task with
    | none => rfl
    | some stage => exact absurd hoffered (by simp [Store.offers, Move.fits, hstage])
  simp only [Guarded.step, first, Store.step, Store.enter, hfree, and_self]

/-- An operation that has to save gets in line behind all who are there. -/
theorem Sound.savesFor_goOn (h : Sound r g) {task : Nat} {events : List Event} {uid : String}
    {after : AfterSave} (hstage : g.store.stage? task = some (.ready events (.save uid after))) :
    (g.step (.make (.goOn task))).1.store.savesFor task = g.store.line ++ [task] := by
  have hline : (g.step (.make (.goOn task))).1.store.line = g.store.line ++ [task] := by
    simp only [Guarded.step, Move.needsView, Bool.false_eq_true, if_false, Store.step,
      Store.goOn, hstage]
  have houtside : task ∉ g.store.line := by
    intro hmem
    obtain ⟨stage, hstage', hin⟩ := (h.lined.mem task).mp hmem
    obtain rfl := Option.some.inj (hstage.symm.trans hstage')
    cases hin
  rw [Store.savesFor, hline]
  exact lineTo_concat houtside

/-- What an operation has sent after any number of deeds. -/
theorem way_run {task : Nat} {query : Query} {sent : List Query}
    (h : Way g.store task query sent) (entered : ∀ op, .enter task op ∉ g.queue)
    {later : List Deed} (others : ∀ op, .ask (.enter task op) ∉ later) :
    Way (g.run later).store task query (sent ++ requestsOf task (g.outputs later)) := by
  induction later generalizing g sent with
  | nil =>
      rw [outputs, show requestsOf task [] = [] from rfl, List.append_nil]
      exact h
  | cons d rest ih =>
      have hothers : ∀ op, .ask (.enter task op) ∉ rest :=
        fun op hop => others op (List.mem_cons_of_mem _ hop)
      have hrun : Way (g.step d).1.store task query (sent ++ requestsOf task (g.step d).2) →
          (∀ op, .enter task op ∉ (g.step d).1.queue) → _ :=
        fun hway hentered => ih hway hentered hothers
      rw [outputs, requestsOf_append, ← List.append_assoc]
      show Way ((g.step d).1.run rest).store task query _
      have houtcome := g.outcome_step d
      generalize g.step d = t at houtcome hrun
      have hnothing : sent ++ requestsOf task [] = sent := List.append_nil sent
      cases houtcome with
      | refused => exact hrun (hnothing.symm ▸ h) entered
      | @queued m view offered absent =>
          refine hrun (hnothing.symm ▸ h) fun op hop => ?_
          rcases List.mem_append.mp hop with hold | hnew
          · exact entered op hold
          · exact others op (List.mem_singleton.mp hnew ▸ List.mem_cons_self)
      | @acted m rest t first effect =>
          refine hrun (h.step effect ?_) fun op hop => ?_
          · rintro op rfl
            exact entered op (first ▸ List.mem_cons_self)
          · exact entered op (first ▸ List.mem_cons_of_mem _ hop)
      | @made m t view effect =>
          refine hrun (h.step effect ?_) entered
          rintro op rfl
          cases view

/-- When all is quiet, who has not sent its request waits for a save. -/
theorem Quiet.sent_eq (quiet : g.Quiet) (h : Sound r g) {task : Nat} {query : Query}
    {sent : List Query} (way : Way g.store task query sent) :
    sent = if g.store.savesFor task = [] then [query] else [] := by
  cases way with
  | @before stage hstage unsent =>
      have hmem : task ∈ g.store.line := by
        refine (h.lined.mem task).mpr ⟨stage, hstage, ?_⟩
        cases stage with
        | ready events next => exact absurd hstage (quiet.not_ready task events next)
        | queued uid after => rfl
        | saving uid settings after => rfl
        | fetching generation query => cases unsent
      rw [if_neg fun hnil => Store.savesFor_eq_nil.mp hnil hmem]
  | after asked =>
      have hmem : task ∉ g.store.line := by
        intro hmem
        obtain ⟨stage, hstage, hin⟩ := (h.lined.mem task).mp hmem
        have hasked := asked stage hstage
        cases stage with
        | queued uid after => cases hasked
        | saving uid settings after => cases hasked
        | ready events next => cases hin
        | fetching generation query => cases hin
      rw [if_pos (Store.savesFor_eq_nil.mpr hmem)]

/-- When all is quiet, the first one in line is the one whose save is held. -/
theorem Quiet.saves_of_head (quiet : g.Quiet) (h : Sound r g) {first : Nat}
    (hhead : g.store.line.head? = some first) : g.store.Saves first := by
  obtain ⟨stage, hstage, hin⟩ := (h.lined.mem first).mp (List.mem_of_mem_head? hhead)
  cases stage with
  | saving uid settings after => exact ⟨uid, settings, after, hstage⟩
  | queued uid after => exact absurd hhead (quiet.turn_taken ⟨uid, after, hstage⟩)
  | ready events next => cases hin
  | fetching generation query => cases hin

end Guarded

/-! ### The rule of sending -/

/-- Whether an operation gives the view another question. -/
def Operation.asksAnew : Operation → Bool
  | setFilters _ | setOrder _ => true
  | _ => false

/-- Another question begins a generation, and is saved before it is asked. -/
theorem Commits.next_of_asksAnew {s : ViewState} {op : Operation} {c : Commit}
    (h : Commits s op c) (anew : op.asksAnew = true)
    (begins : c.state.generation ≠ s.generation) :
    c.state.generation = s.generation + 1 ∧
      ∃ uid, c.next = .save uid (.fetch c.state.generation c.state.question) := by
  cases h with
  | configure isSetUp => exact ⟨rfl, _, rfl⟩
  | setUp => cases anew
  | reload => cases anew
  | idle => exact absurd rfl begins
  | fields => exact absurd rfl begins
  | more => cases anew
  | changed => cases anew
  | deleted => cases anew

namespace Guarded

variable {r : Registry} {g : Guarded}

/-- An operation that has asked another question sends it when no save is left that it waits
for. -/
theorem Sound.sent_of_enter (h : Sound r g) {task : Nat} {op : Operation} {rest : List Move}
    (first : g.queue = .enter task op :: rest) (anew : op.asksAnew = true)
    (begins : (g.step .act).1.store.state.generation ≠ g.store.state.generation) :
    (g.step .act).1.store.state.generation = g.store.state.generation + 1 ∧
      ∀ later, (∀ op, .ask (.enter task op) ∉ later) → ((g.step .act).1.run later).Quiet →
        requestsOf task ((g.step .act).1.outputs later)
          = if ((g.step .act).1.run later).store.savesFor task = []
            then [(g.step .act).1.store.state.question] else [] := by
  obtain ⟨hstore, hqueue⟩ := h.step_enter first
  have hcommits := op.commits g.store.registry g.store.state
  have hstate : (g.step .act).1.store.state
      = (op.commit g.store.registry g.store.state).state := by rw [hstore]; rfl
  have hstage : (g.step .act).1.store.stage? task
      = some (.ready (op.commit g.store.registry g.store.state).events
        (op.commit g.store.registry g.store.state).next) := by
    rw [hstore]
    exact Store.stage?_put_self _ task _
  have hentered : ∀ other, .enter task other ∉ (g.step .act).1.queue := by
    intro other hother
    have hapart := h.apart
    rw [first, List.map_cons, List.nodup_cons] at hapart
    rw [hqueue] at hother
    exact hapart.1 (List.mem_map.mpr ⟨_, hother, rfl⟩)
  have hafter := h.step (g.outcome_step .act)
  rw [hstate] at begins ⊢
  obtain ⟨hgeneration, uid, hnext⟩ := hcommits.next_of_asksAnew anew begins
  refine ⟨hgeneration, fun later others quiet => ?_⟩
  have hway : Way (g.step .act).1.store task
      (op.commit g.store.registry g.store.state).state.question [] :=
    .before hstage (by rw [Stage.unsent?, hnext]; rfl)
  exact quiet.sent_eq (hafter.run later) (way_run hway hentered others)

end Guarded

open Guarded

/-- What the first request of a generation waits for. -/
structure SendingRule (g : Guarded) : Prop where
  /-- Other filters or another order begin the next generation.  Whenever all is quiet after
  that, and whatever has happened in between, the first page of what the view then asked has been
  asked for once if no save is left that the operation waits for, and has not been asked for
  otherwise. -/
  sends : ∀ task op rest, g.queue = .enter task op :: rest → op.asksAnew = true →
    (g.step .act).1.store.state.generation ≠ g.store.state.generation →
    (g.step .act).1.store.state.generation = g.store.state.generation + 1 ∧
      ∀ later, (∀ op, .ask (.enter task op) ∉ later) → ((g.step .act).1.run later).Quiet →
        requestsOf task ((g.step .act).1.outputs later)
          = if ((g.step .act).1.run later).store.savesFor task = []
            then [(g.step .act).1.store.state.question] else []
  /-- An operation that has to save waits for the saves of those in line, and for its own. -/
  joins : ∀ task events uid after, g.store.stage? task = some (.ready events (.save uid after)) →
    (g.step (.make (.goOn task))).1.store.savesFor task = g.store.line ++ [task]
  /-- Each save that returns, whether it has worked or not, takes the first one off, and nothing
  else changes which ones they are. -/
  returns : ∀ task, task ∈ g.store.line → ∀ d,
    (g.step d).1.store.savesFor task
      = if g.returns d then (g.store.savesFor task).tail else g.store.savesFor task
  /-- When all is quiet the first one of them has been handed over and is held. -/
  holds : g.Quiet → ∀ task first, (g.store.savesFor task).head? = some first →
    g.store.Saves first ∧ ∀ worked, g.returns (.make (.endTurn first worked)) = true
  /-- As long as one of them does not return, the operation sends nothing. -/
  waits : ∀ task other, other ∈ g.store.savesFor task → ∀ later,
    (∀ worked, .make (.endTurn other worked) ∉ later) →
    other ∈ (g.run later).store.savesFor task ∧ requestsOf task (g.outputs later) = []
  /-- The answer to the request of the present generation is taken in. -/
  applies : ∀ task query page rest, g.queue = .take task (.ok page) :: rest →
    g.store.stage? task = some (.fetching g.store.state.generation query) →
    let after := (g.step .act).1.store.state
    after.rows = g.store.state.rows ++ ViewState.newRows g.store.state.seen page.rows ∧
      after.cursor = page.next ∧ after.isLoading = false ∧ after.isFirstLoadComplete = true

/-- **The first request of a generation waits for the saves before its own and for its own, and
for nothing else.** -/
theorem run_sendingRule (r : Registry) (deeds : List Deed) :
    SendingRule ((Guarded.empty r).run deeds) := by
  have hsound := (Guarded.Sound.empty r).run deeds
  generalize (Guarded.empty r).run deeds = g at hsound
  refine ⟨?_, ?_, ?_, ?_, ?_, ?_⟩
  · intro task op rest first anew begins
    exact hsound.sent_of_enter first anew begins
  · intro task events uid after hstage
    exact hsound.savesFor_goOn hstage
  · intro task hmem d
    exact hsound.savesFor_step hmem d
  · intro quiet task first hhead
    have hmem : task ∈ g.store.line :=
      (mem_of_mem_lineTo (List.mem_of_mem_head? hhead)).1
    obtain ⟨uid, settings, after, hstage⟩ :=
      quiet.saves_of_head hsound ((head?_lineTo hmem).symm.trans hhead)
    refine ⟨⟨uid, settings, after, hstage⟩, fun worked => ?_⟩
    simp [returns, Move.isReturn, Store.offers, Move.fits, hstage]
  · intro task other hother later never
    exact hsound.held hother never
  · intro task query page rest first hstage
    have hstate : (g.step .act).1.store.state
        = (g.store.state.receive g.store.state.generation (.ok page)).1 := by
      simp only [Guarded.step, first, Store.step, Store.take, hstage, Store.put_state]
    rw [hstate, ViewState.receive_page]
    exact ⟨rfl, rfl, rfl, rfl⟩

/-! ### A save that does not return -/

/-- Whether an operation waits for what is outside of the store. -/
def Stage.isHeld : Stage → Bool
  | saving _ _ _ | fetching _ _ => true
  | ready _ _ | queued _ _ => false

namespace Guarded

theorem outputs_append (g : Guarded) (deeds later : List Deed) :
    g.outputs (deeds ++ later) = g.outputs deeds ++ (g.run deeds).outputs later := by
  induction deeds generalizing g with
  | nil => rfl
  | cons d rest ih =>
      rw [List.cons_append, outputs, outputs, ih, List.append_assoc]
      rfl

/-- When everybody waits for what is outside, all is quiet. -/
theorem quiet_of_isHeld {g : Guarded} (queue : g.queue = [])
    (held : ∀ t ∈ g.store.tasks, t.2.isHeld = true) : g.Quiet := by
  have hheld : ∀ {task stage}, g.store.stage? task = some stage → stage.isHeld = true := by
    intro task stage hstage
    obtain ⟨t, hfound, rfl⟩ := Option.map_eq_some_iff.mp hstage
    exact held t (List.mem_of_find?_eq_some hfound)
  intro d own
  cases d with
  | act => rw [step, queue]
  | make m =>
      cases m with
      | goOn task =>
          have hignores : g.store.Ignores (.goOn task) := by
            intro events next hready
            cases hheld hready
          rw [step, if_neg (by simp [Move.needsView]),
            (effect_step g.store (.goOn task)).of_ignores hignores]
      | enter task op => cases own
      | takeTurn task => cases own
      | endTurn task worked => cases own
      | take task answer => cases own
  | ask m =>
      cases m with
      | takeTurn task =>
          have hoffers : g.admits (.takeTurn task) ≠ true := by
            intro hadmits
            obtain ⟨uid, after, hqueued⟩ := Store.queued_of_offers (admits_iff.mp hadmits).2.1
            cases hheld hqueued
          rw [step, if_neg hoffers]
      | enter task op => cases own
      | goOn task => cases own
      | endTurn task worked => cases own
      | take task answer => cases own

end Guarded

/-- A view is set up, is given a filter, and hands its settings over. -/
def heldSave : List Deed :=
  [.ask (.enter 0 (.setUp "home" "" [.name] none)), .act, .make (.goOn 0),
   .ask (.enter 1 (.setFilters [⟨.name, .contains, some "water"⟩])), .act, .make (.goOn 1),
   .ask (.takeTurn 1), .act]

/-- **The view is empty and loading and all is quiet, but as long as the save does not return
nothing is asked of the server for the present generation.** -/
theorem unsent_while_saving :
    let g := (Guarded.empty .ownProjects).run heldSave
    (g.store.state.generation = 2 ∧ g.store.state.isLoading = true ∧ g.store.state.rows = [] ∧
      g.store.Saves 1 ∧ g.Quiet) ∧
    ∀ later, (∀ worked, .make (.endTurn 1 worked) ∉ later) →
      requestsOf 1 ((Guarded.empty .ownProjects).outputs (heldSave ++ later)) = [] := by
  intro g
  refine ⟨⟨rfl, rfl, rfl, ⟨_, _, _, rfl⟩, quiet_of_isHeld rfl ?_⟩, fun later never => ?_⟩
  · intro t ht
    have htasks : g.store.tasks.all (fun t => t.2.isHeld) = true := rfl
    exact List.all_eq_true.mp htasks t ht
  · have hsound : Sound .ownProjects g := (Sound.empty .ownProjects).run heldSave
    have hsaves : g.store.savesFor 1 = [1] := rfl
    have hother : 1 ∈ g.store.savesFor 1 := by
      rw [hsaves]
      exact List.mem_cons_self
    obtain ⟨-, hsilent⟩ := hsound.held hother never
    have hbefore : requestsOf 1 ((Guarded.empty .ownProjects).outputs heldSave) = [] := rfl
    rw [outputs_append, requestsOf_append, hbefore]
    exact hsilent

end ProjectViews
