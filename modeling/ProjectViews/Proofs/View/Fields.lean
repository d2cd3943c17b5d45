/-
The fields that a view shows are the work of the operations on them.

A list of fields that is set is sifted: what the registry does not admit is left out, and of the
rest each field stays at its first place.  Sifting and hiding are both filters, so they can be
exchanged, and what was sifted once is not changed by sifting it again.  All laws of the
operations come from these two facts.

Nothing else touches the fields of a view that is set up.  After any run they are therefore what
the operations on them have made of them, in the order of their commits, whatever else has
happened in between, `Reached.visibleFields`.

An operation that has changed the fields tells so once and saves once, and one that has not does
neither: `Progress` says how far it is with that.
-/
import Mathlib.Data.List.Induction
import ProjectViews.Proofs.View.Configuration
import ProjectViews.Proofs.View.Rest
import ProjectViews.Proofs.View.Restart

namespace ProjectViews

/-! ### Sifting -/

section Firsts

variable {α : Type} [DecidableEq α]

theorem firsts_concat (xs : List α) (x : α) :
    firsts (xs ++ [x]) = if x ∈ xs then firsts xs else firsts xs ++ [x] := by
  have hmem : x ∈ firsts xs ↔ x ∈ xs := mem_firsts
  rw [firsts, List.foldl_append]
  show (if x ∈ firsts xs then firsts xs else firsts xs ++ [x]) = _
  by_cases hx : x ∈ xs
  · rw [if_pos (hmem.mpr hx), if_pos hx]
  · rw [if_neg (mt hmem.mp hx), if_neg hx]

theorem firsts_eq_eraseDups (xs : List α) : firsts xs = xs.eraseDups := by
  induction xs using List.reverseRecOn with
  | nil => rfl
  | append_singleton xs x ih =>
      rw [firsts_concat, List.eraseDups_append, ih]
      by_cases hx : x ∈ xs
      · simp [List.removeAll, hx]
      · simp [List.removeAll, hx, List.eraseDups_cons]

/-- It does not matter whether a list is filtered before or after. -/
theorem filter_firsts (p : α → Bool) (xs : List α) :
    (firsts xs).filter p = firsts (xs.filter p) := by
  induction xs using List.reverseRecOn with
  | nil => rfl
  | append_singleton xs x ih =>
      rw [List.filter_append, firsts_concat]
      cases hp : p x with
      | false =>
          have hnone : [x].filter p = [] := by simp [hp]
          rw [hnone, List.append_nil, ← ih]
          split
          · rfl
          · rw [List.filter_append, hnone, List.append_nil]
      | true =>
          have hself : [x].filter p = [x] := by simp [hp]
          have hmem : x ∈ xs.filter p ↔ x ∈ xs := by simp [List.mem_filter, hp]
          rw [hself, firsts_concat, ← ih]
          by_cases hx : x ∈ xs
          · rw [if_pos hx, if_pos (hmem.mpr hx)]
          · rw [if_neg hx, if_neg (mt hmem.mp hx), List.filter_append, hself]

end Firsts

/-- The fields of a list that a registry knows and does not exclude, each at its first place. -/
def Registry.shown (r : Registry) (fields : List Field) : List Field :=
  (fields.filter fun f => (r.get? f).any fun d => !d.isExcluded).eraseDups

namespace ViewState

theorem admitted_eq_shown (r : Registry) (fields : List Field) :
    admitted r fields = r.shown fields := by
  have hadmits : (fun f => !r.isExcluded f) = fun f => (r.get? f).any fun d => !d.isExcluded := by
    funext f
    rw [Registry.isExcluded]
    cases r.get? f <;> rfl
  rw [admitted, firsts_eq_eraseDups, hadmits, Registry.shown]

theorem admitted_filter (r : Registry) (fields : List Field) (p : Field → Bool) :
    (admitted r fields).filter p = admitted r (fields.filter p) := by
  rw [admitted, admitted, filter_firsts, List.filter_comm]

end ViewState

/-! ### What operations make of the fields -/

/-- Whether an operation is one on the visible fields. -/
def Operation.isOnFields (op : Operation) : Bool := op.aspect? == some .fields

/-- What an operation makes of the visible fields of a view that is set up. -/
def Operation.fieldsAfter (r : Registry) (defaults visible : List Field) : Operation → List Field
  | setFields fields => ViewState.admitted r fields
  | resetFields => defaults
  | hideField field => visible.filter (· != field)
  | _ => visible

namespace Configuration

variable {c : Configuration} {uid : String}

/-- **In a view that is set up nothing but the operations on the fields changes them.** -/
theorem fields_after (r : Registry) (h : c.uid = some uid) (op : Operation) :
    (c.after r op).uid = some uid ∧ (c.after r op).defaultFields = c.defaultFields ∧
      (c.after r op).visibleFields = op.fieldsAfter r c.defaultFields c.visibleFields := by
  obtain ⟨_, baseQuery, defaults, visible, filters, order, generation⟩ := c
  obtain rfl : _ = some uid := h
  cases op with
  | setUp uid' baseQuery' fields saved => exact ⟨rfl, rfl, rfl⟩
  | setFilters filters' =>
      simp only [after, Operation.commit]
      cases filters'.find? fun f => r.isExcluded f.field with
      | some f => exact ⟨rfl, rfl, rfl⟩
      | none => exact ⟨rfl, rfl, rfl⟩
  | setOrder order' =>
      simp only [after, Operation.commit]
      cases r.isOrderable order'.field with
      | false => exact ⟨rfl, rfl, rfl⟩
      | true => exact ⟨rfl, rfl, rfl⟩
  | setFields fields =>
      simp only [after, Operation.commit, configuration_updateFields]
      exact ⟨rfl, rfl, rfl⟩
  | resetFields =>
      simp only [after, Operation.commit, configuration_updateFields]
      exact ⟨rfl, rfl, rfl⟩
  | hideField field =>
      simp only [after, Operation.commit, configuration_updateFields]
      exact ⟨rfl, rfl, rfl⟩
  | fetchMore => exact ⟨rfl, rfl, rfl⟩
  | reload => exact ⟨rfl, rfl, rfl⟩
  | projectChanged row =>
      simp only [after, commit_projectChanged]
      exact ⟨rfl, rfl, rfl⟩
  | projectDeleted deleted =>
      simp only [after, commit_projectDeleted]
      exact ⟨rfl, rfl, rfl⟩

/-- So after any operations they are what those on the fields have made of them. -/
theorem fields_afterAll (r : Registry) (h : c.uid = some uid) (ops : List Operation) :
    (c.afterAll r ops).uid = some uid ∧ (c.afterAll r ops).defaultFields = c.defaultFields ∧
      (c.afterAll r ops).visibleFields
        = (ops.filter Operation.isOnFields).foldl
            (fun visible op => op.fieldsAfter r c.defaultFields visible) c.visibleFields := by
  induction ops generalizing c with
  | nil => exact ⟨h, rfl, rfl⟩
  | cons op rest ih =>
      obtain ⟨huid, hdefaults, hvisible⟩ := fields_after r h op
      obtain ⟨huid', hdefaults', hvisible'⟩ := ih huid
      refine ⟨huid', hdefaults'.trans hdefaults, ?_⟩
      show ((c.after r op).afterAll r rest).visibleFields = _
      rw [hvisible', hdefaults, hvisible, List.filter_cons]
      split
      · rfl
      · rename_i hother
        congr 1
        cases op with
        | setFields fields => exact absurd rfl hother
        | resetFields => exact absurd rfl hother
        | hideField field => exact absurd rfl hother
        | setUp uid' baseQuery fields saved => rfl
        | setFilters filters => rfl
        | setOrder order => rfl
        | fetchMore => rfl
        | reload => rfl
        | projectChanged row => rfl
        | projectDeleted deleted => rfl

/-- A view that is set up has the fields that it was given as its defaults. -/
theorem after_setUp (r : Registry) (h : c.uid = none) (uid baseQuery : String)
    (fields : List Field) (saved : Option ViewSettings) :
    (c.after r (.setUp uid baseQuery fields saved)).uid = some uid ∧
      (c.after r (.setUp uid baseQuery fields saved)).defaultFields
        = ViewState.admitted r fields := by
  obtain ⟨_, baseQuery', defaults, visible, filters, order, generation⟩ := c
  obtain rfl : _ = none := h
  cases saved <;> exact ⟨rfl, rfl⟩

end Configuration

/-- What a run makes of a configuration. -/
theorem Reached.configuration_run {r : Registry} {past : List Moment} {s : Store}
    (h : Reached r past s) (later : List Move) :
    (s.run later).state.configuration
      = s.state.configuration.afterAll r (configuredBy (s.moments later)) := by
  rw [(h.run later).configuration, h.configuration, configuredBy, configuredBy,
    List.filterMap_append, Configuration.afterAll_append]
  rfl

/-- The operations on the visible fields in a run, in the order of their commits. -/
def Store.fieldOperations (s : Store) (later : List Move) : List Operation :=
  (configuredBy (s.moments later)).filter Operation.isOnFields

/-- **After any run the visible fields are what the operations on them have made of them.** -/
theorem Reached.visibleFields {r : Registry} {past : List Moment} {s : Store}
    (h : Reached r past s) {uid : String} (huid : s.state.uid = some uid) (later : List Move) :
    (s.run later).state.visibleFields
      = (s.fieldOperations later).foldl
          (fun visible op => op.fieldsAfter r s.state.defaultFields visible)
          s.state.visibleFields := by
  have hrun := congrArg Configuration.visibleFields (h.configuration_run later)
  exact hrun.trans (Configuration.fields_afterAll r (c := s.state.configuration) huid _).2.2

/-- The fields with which a view was set up. -/
def Operation.setUpFields? : Operation → Option (List Field)
  | setUp _ _ fields _ => some fields
  | _ => none

/-- The fields with which the view was set up in a past. -/
def setUpFields (past : List Moment) : List (List Field) :=
  (configuredBy past).filterMap Operation.setUpFields?

/-- An operation that configures the view is not a forbidden one. -/
theorem Store.of_configured? {s : Store} {m : Move} {op : Operation}
    (h : s.configured? m = some op) :
    op.configures = true ∧ ¬ op.Forbidden s.registry s.state := by
  cases m with
  | enter task other =>
      rw [configured?] at h
      split at h
      · rename_i hgranted
        obtain rfl := Option.some.inj h
        simp only [Bool.and_eq_true, Bool.not_eq_true'] at hgranted
        refine ⟨hgranted.1.2, fun forbidden => ?_⟩
        cases other.verdict s.registry s.state with
        | refused _ v commit =>
            rw [commit] at hgranted
            exact absurd hgranted.2 (by simp [Commit.refuse, Commit.nothing, Next.refuses])
        | granted allowed => exact allowed forbidden
      · cases h
  | goOn task => cases h
  | takeTurn task => cases h
  | endTurn task worked => cases h
  | take task answer => cases h

/-- Nothing but setting it up is allowed in a view that is not set up. -/
theorem Operation.exists_setUp {op : Operation} {r : Registry} {s : ViewState}
    (unset : s.uid = none) (configures : op.configures = true) (allowed : ¬ op.Forbidden r s) :
    ∃ uid baseQuery fields saved, op = .setUp uid baseQuery fields saved := by
  cases op with
  | setUp uid baseQuery fields saved => exact ⟨uid, baseQuery, fields, saved, rfl⟩
  | setFilters filters => exact absurd (Or.inr unset) allowed
  | setOrder order => exact absurd (Or.inr unset) allowed
  | setFields fields => exact absurd unset allowed
  | resetFields => exact absurd unset allowed
  | hideField field => exact absurd unset allowed
  | reload => exact absurd unset allowed
  | fetchMore => cases configures
  | projectChanged row => cases configures
  | projectDeleted uid => cases configures

/-- And it is not set up again. -/
theorem Operation.setUpFields?_eq_none {op : Operation} {r : Registry} {s : ViewState}
    {uid : String} (set : s.uid = some uid) (allowed : ¬ op.Forbidden r s) :
    op.setUpFields? = none := by
  cases op with
  | setUp uid' baseQuery fields saved =>
      exact absurd (fun hnone => by cases set.symm.trans hnone) allowed
  | _ => rfl

/-- What is known of the set-up of a view: there was none, or there was one, and the fields that
it gave are the defaults. -/
inductive SetUpOnce (r : Registry) (past : List Moment) (s : ViewState) : Prop
  | never (unset : s.uid = none) (none : setUpFields past = [])
  | once {fields : List Field} {uid : String} (set : s.uid = some uid)
      (one : setUpFields past = [fields]) (defaults : s.defaultFields = ViewState.admitted r fields)

/-- It stays so with every move. -/
theorem SetUpOnce.concat {r : Registry} {past : List Moment} {s : Store} {m : Move}
    {t : Store × List Output} (h : SetUpOnce r past s.state) (e : Effect s m t)
    (registry : s.registry = r) : SetUpOnce r (past ++ [⟨s, m, t.2, t.1⟩]) t.1.state := by
  have hafter := e.configuration
  have hfields : setUpFields (past ++ [⟨s, m, t.2, t.1⟩])
      = setUpFields past ++ (s.configured? m).toList.filterMap Operation.setUpFields? := by
    rw [setUpFields, configuredBy_concat, List.filterMap_append]
    rfl
  subst registry
  cases hop : s.configured? m with
  | none =>
      rw [hop] at hafter hfields
      have huid : t.1.state.uid = s.state.uid := congrArg Configuration.uid hafter
      have hdefaults : t.1.state.defaultFields = s.state.defaultFields :=
        congrArg Configuration.defaultFields hafter
      rw [Option.toList_none, List.filterMap_nil, List.append_nil] at hfields
      cases h with
      | never unset none => exact .never (huid.trans unset) (hfields.trans none)
      | once set one defaults =>
          exact .once (huid.trans set) (hfields.trans one) (hdefaults.trans defaults)
  | some op =>
      obtain ⟨hconfigures, hallowed⟩ := Store.of_configured? hop
      rw [hop] at hafter hfields
      have huid : t.1.state.uid = (s.state.configuration.after s.registry op).uid :=
        congrArg Configuration.uid hafter
      have hdefaults : t.1.state.defaultFields
          = (s.state.configuration.after s.registry op).defaultFields :=
        congrArg Configuration.defaultFields hafter
      cases h with
      | never unset none =>
          rw [none, List.nil_append] at hfields
          obtain ⟨uid, baseQuery, fields, saved, rfl⟩ :=
            Operation.exists_setUp unset hconfigures hallowed
          obtain ⟨hset, hadmitted⟩ := Configuration.after_setUp s.registry
            (c := s.state.configuration) unset uid baseQuery fields saved
          exact .once (huid.trans hset) hfields (hdefaults.trans hadmitted)
      | @once fields uid set one defaults =>
          obtain ⟨huid', hdefaults', -⟩ := Configuration.fields_after s.registry
            (c := s.state.configuration) set op
          refine .once (huid.trans huid') ?_ ((hdefaults.trans hdefaults').trans defaults)
          rw [hfields, one]
          simp [Operation.setUpFields?_eq_none set hallowed]

theorem Reached.setUpOnce {r : Registry} {past : List Moment} {s : Store} (h : Reached r past s) :
    SetUpOnce r past s.state := by
  induction h with
  | empty => exact .never rfl rfl
  | step hr e ih => exact ih.concat e hr.registry

/-! ### What an operation on the fields tells and saves -/

/-- What an operation gives to the outside, one move after the other. -/
def outputsOf (task : Nat) (past : List Moment) : List Output :=
  past.flatMap fun m => if m.move.task = task then m.outputs else []

/-- What a move makes of the operation whose it is, by where that stands, and what it gives to the
outside. -/
inductive Advance (task : Nat) : Option Stage → Option Stage → List Output → Prop
  | stays {stage : Option Stage} : Advance task stage stage []
  | ended {events : List Event} {result : Result} :
      Advance task (some (.ready events (.done result))) none
        (events.map .event ++ [.finished task result])
  | asked {events : List Event} {generation : Nat} {query : Query} :
      Advance task (some (.ready events (.fetch generation query)))
        (some (.fetching generation query)) (events.map .event ++ [.request task query])
  | joined {events : List Event} {uid : String} {after : AfterSave} :
      Advance task (some (.ready events (.save uid after))) (some (.queued uid after))
        (events.map .event)
  | handed {uid : String} {settings : ViewSettings} {after : AfterSave} :
      Advance task (some (.queued uid after)) (some (.saving uid settings after))
        [.save task uid settings]
  | saved {uid : String} {settings : ViewSettings} {after : AfterSave} :
      Advance task (some (.saving uid settings after)) (some (.ready [] after.next)) []
  | took {generation : Nat} {query : Query} {events : List Event} {outcome : FetchOutcome} :
      Advance task (some (.fetching generation query))
        (some (.ready events (.done (.fetched outcome)))) []

theorem Effect.advance {s : Store} {m : Move} {t : Store × List Output} (e : Effect s m t)
    (others : ∀ task op, m ≠ .enter task op) :
    Advance m.task (s.stage? m.task) (t.1.stage? m.task) t.2 := by
  cases e with
  | ignored => exact .stays
  | entered => exact absurd rfl (others _ _)
  | ended hstage =>
      rw [Move.task, hstage, Store.stage?_leave_self]
      exact .ended
  | asked hstage =>
      rw [Move.task, hstage, Store.stage?_put_self]
      exact .asked
  | joined hstage =>
      rw [Move.task, hstage, Store.stage?_put_self]
      exact .joined
  | handed hstage turn =>
      rw [Move.task, hstage, Store.stage?_put_self]
      exact .handed
  | saved hstage =>
      rw [Move.task, hstage, Store.stage?_put_self]
      exact .saved
  | took hstage =>
      rw [Move.task, hstage, Store.stage?_put_self]
      exact .took

/-- An operation on the fields has given out what it had to, and has only to end or has ended. -/
inductive Ending (task : Nat) (given : List Output) : Option Stage → List Output → Prop
  | ready : Ending task given (some (.ready [] (.done .fieldsSet))) given
  | ended : Ending task given none (given ++ [.finished task .fieldsSet])

/-- How far an operation that has changed the fields is, by where it stands: it has still to tell
so, it waits for its turn to save, it saves, or it is ending. -/
inductive Progress (task : Nat) (uid : String) (event : Event) : Option Stage → List Output → Prop
  | changed : Progress task uid event (some (.ready [event] (.save uid .finish))) []
  | told : Progress task uid event (some (.queued uid .finish)) [.event event]
  | handed {settings : ViewSettings} :
      Progress task uid event (some (.saving uid settings .finish))
        [.event event, .save task uid settings]
  | saved {settings : ViewSettings} {stage : Option Stage} {done : List Output}
      (ending : Ending task [.event event, .save task uid settings] stage done) :
      Progress task uid event stage done

section Steps

variable {task : Nat} {uid : String} {event : Event} {stage stage' : Option Stage}
  {given done outputs : List Output}

/-- Who is ending gives nothing out but its end. -/
theorem Ending.advance (h : Ending task given stage done) (a : Advance task stage stage' outputs) :
    Ending task given stage' (done ++ outputs) := by
  cases a with
  | stays =>
      rw [List.append_nil]
      exact h
  | ended =>
      cases h
      exact .ended
  | asked => cases h
  | joined => cases h
  | handed => cases h
  | saved => cases h
  | took => cases h

/-- **An operation that has changed the fields tells so, saves and ends, in this order.** -/
theorem Progress.advance (h : Progress task uid event stage done)
    (a : Advance task stage stage' outputs) : Progress task uid event stage' (done ++ outputs) := by
  cases h with
  | changed =>
      cases a with
      | stays => exact .changed
      | joined => exact .told
  | told =>
      cases a with
      | stays => exact .told
      | handed => exact .handed
  | handed =>
      cases a with
      | stays => exact .handed
      | saved => exact .saved .ready
  | saved ending => exact .saved (ending.advance a)

end Steps

/-- What holds of an operation by where it stands, and what each of its moves keeps, holds after
any run in which it is not started anew. -/
theorem outputsOf_run {task : Nat} {P : Option Stage → List Output → Prop}
    (advance : ∀ {stage stage' done outputs}, P stage done → Advance task stage stage' outputs →
      P stage' (done ++ outputs))
    {s : Store} {done : List Output} (h : P (s.stage? task) done) {later : List Move}
    (others : ∀ op, .enter task op ∉ later) :
    P ((s.run later).stage? task) (done ++ outputsOf task (s.moments later)) := by
  induction later generalizing s done with
  | nil =>
      rw [Store.moments, outputsOf, List.flatMap_nil, List.append_nil]
      exact h
  | cons m rest ih =>
      have hstep : P ((s.step m).1.stage? task)
          (done ++ if m.task = task then (s.step m).2 else []) := by
        by_cases hown : m.task = task
        · subst hown
          rw [if_pos rfl]
          refine advance h ((effect_step s m).advance ?_)
          rintro task op rfl
          exact others op List.mem_cons_self
        · rw [if_neg hown, List.append_nil, (effect_step s m).stage?_of_ne (Ne.symm hown)]
          exact h
      have hrest := ih hstep fun op hop => others op (List.mem_cons_of_mem _ hop)
      rw [List.append_assoc] at hrest
      exact hrest

/-- Nobody in a store has anything left to do but to wait for the server. -/
def Store.Calm (s : Store) : Prop :=
  ∀ task, s.Ignores (.goOn task) ∧ s.Ignores (.takeTurn task) ∧ ¬ s.Saves task

/-- Who is in line has to save first, or waits behind one that has. -/
theorem Store.Calm.fetches {s : Store} (calm : s.Calm) (lined : Lined s) {task : Nat}
    {stage : Stage} (h : s.stage? task = some stage) : s.Fetches task := by
  cases stage with
  | ready events next => exact absurd h ((calm task).1 events next)
  | saving uid settings after => exact absurd ⟨uid, settings, after, h⟩ (calm task).2.2
  | fetching generation query => exact ⟨generation, query, h⟩
  | queued uid after =>
      have hmem : task ∈ s.line := (lined.mem task).mpr ⟨_, h, rfl⟩
      obtain ⟨first, rest, hline⟩ := List.exists_cons_of_ne_nil (List.ne_nil_of_mem hmem)
      obtain ⟨stage, hfirst, hin⟩ := (lined.mem first).mp (by rw [hline]; exact List.mem_cons_self)
      cases stage with
      | queued uid' after' =>
          exact absurd (by rw [hline]; rfl) ((calm first).2.1 uid' after' hfirst)
      | saving uid' settings' after' =>
          exact absurd ⟨uid', settings', after', hfirst⟩ (calm first).2.2
      | ready events next => cases hin
      | fetching generation query => cases hin

/-- What an operation gives to the outside in a run, by what is due from it: nothing else, and all
of it when it has ended or the store is calm. -/
structure Store.Gives (s : Store) (task : Nat) (later : List Move) (due : List Output) :
    Prop where
  only : outputsOf task (s.moments later) <+: due
  ended : (s.run later).stage? task = none → outputsOf task (s.moments later) = due
  calm : (s.run later).Calm → outputsOf task (s.moments later) = due

section Due

variable {s : Store} {task : Nat} {later : List Move}

theorem Ending.due {given done : List Output} {stage : Option Stage}
    (h : Ending task given stage done) :
    done <+: given ++ [.finished task .fieldsSet] ∧
      (stage = none → done = given ++ [.finished task .fieldsSet]) := by
  cases h with
  | ready => exact ⟨List.prefix_append _ _, nofun⟩
  | ended => exact ⟨List.prefix_rfl, fun _ => rfl⟩

theorem Progress.due {uid : String} {event : Event} {done : List Output} {stage : Option Stage}
    (h : Progress task uid event stage done) : ∃ settings,
      done <+: [.event event, .save task uid settings, .finished task .fieldsSet] ∧
        (stage = none →
          done = [.event event, .save task uid settings, .finished task .fieldsSet]) := by
  cases h with
  | changed => exact ⟨default, List.nil_prefix, nofun⟩
  | told => exact ⟨default, ⟨_, rfl⟩, nofun⟩
  | @handed settings => exact ⟨settings, ⟨_, rfl⟩, nofun⟩
  | @saved settings stage done ending => exact ⟨settings, ending.due⟩

/-- Who never waits for the server gives what is due. -/
theorem Store.gives_of_due {due : List Output}
    (fetchless : ¬ (s.run later).Fetches task) (lined : Lined (s.run later))
    (only : outputsOf task (s.moments later) <+: due)
    (ended : (s.run later).stage? task = none → outputsOf task (s.moments later) = due) :
    s.Gives task later due where
  only := only
  ended := ended
  calm := by
    intro hcalm
    cases hstage : (s.run later).stage? task with
    | none => exact ended hstage
    | some stage => exact absurd (hcalm.fetches lined hstage) fetchless

end Due

theorem Operation.commit_onFields {op : Operation} (h : op.isOnFields = true) (r : Registry)
    (s : ViewState) : op.commit r s
      = .updateFields s fun s => op.fieldsAfter r s.defaultFields s.visibleFields := by
  cases op with
  | setFields fields => rfl
  | resetFields => rfl
  | hideField field => rfl
  | _ => cases h

/-- An operation on the fields of a view that is set up is never refused. -/
theorem Store.fieldOperations_enter {s : Store} {uid : String} (huid : s.state.uid = some uid)
    {task : Nat} (free : s.stage? task = none) {op : Operation} (onFields : op.isOnFields = true)
    (later : List Move) : s.fieldOperations (.enter task op :: later)
      = op :: (s.enter task op).fieldOperations later := by
  have hconfigures : op.configures = true := by
    cases op <;> first | rfl | cases onFields
  have hgranted : (op.commit s.registry s.state).next.refuses = false := by
    rw [op.commit_onFields onFields, Commit.updateFields, huid]
    dsimp only
    split <;> rfl
  have hop : s.configured? (.enter task op) = some op := by
    rw [configured?, free, hconfigures, hgranted]
    rfl
  have hcounted : configuredBy (s.moments (.enter task op :: later))
      = op :: configuredBy ((s.enter task op).moments later) := List.filterMap_cons_some hop
  rw [fieldOperations, hcounted, List.filter_cons_of_pos onFields, fieldOperations]

section Entered

variable {r : Registry} {past : List Moment} {s : Store} {uid : String} {task : Nat}
  {op : Operation} {later : List Move}

/-- An operation that leaves the fields as they are only ends. -/
theorem Reached.gives_of_unchanged (h : Reached r past s) (huid : s.state.uid = some uid)
    (free : s.stage? task = none) (onFields : op.isOnFields = true)
    (others : ∀ op, .enter task op ∉ later)
    (same : op.fieldsAfter s.registry s.state.defaultFields s.state.visibleFields
      = s.state.visibleFields) :
    (s.enter task op).Gives task later [.finished task .fieldsSet] := by
  have hcommit : op.commit s.registry s.state = .nothing s.state .fieldsSet := by
    rw [op.commit_onFields onFields, Commit.updateFields, huid]
    exact if_pos same
  have hstage : (s.enter task op).stage? task = some (.ready [] (.done .fieldsSet)) := by
    rw [Store.enter, free, hcommit]
    exact Store.stage?_put_self _ _ _
  have hending : Ending task [] ((s.enter task op).stage? task) [] := hstage ▸ .ready
  have hafter := outputsOf_run (P := Ending task []) Ending.advance hending others
  obtain ⟨honly, hended⟩ := hafter.due
  have hlined := ((h.step (effect_step s (.enter task op))).run later).lined
  refine Store.gives_of_due ?_ hlined honly hended
  rintro ⟨generation, query, hfetching⟩
  rw [show (Store.run _ later).stage? task = _ from hfetching] at hafter
  cases hafter

/-- An operation that changes the fields tells so and saves them before it ends. -/
theorem Reached.gives_of_changed (h : Reached r past s) (huid : s.state.uid = some uid)
    (free : s.stage? task = none) (onFields : op.isOnFields = true)
    (others : ∀ op, .enter task op ∉ later)
    (changed : op.fieldsAfter s.registry s.state.defaultFields s.state.visibleFields
      ≠ s.state.visibleFields) : ∃ settings,
    (s.enter task op).Gives task later [.event (.stateChanged s.state.generation),
      .save task uid settings, .finished task .fieldsSet] := by
  have hstage : (s.enter task op).stage? task
      = some (.ready [.stateChanged s.state.generation] (.save uid .finish)) := by
    rw [Store.enter, free, op.commit_onFields onFields, Commit.updateFields, huid]
    simp only [if_neg changed]
    exact Store.stage?_put_self _ _ _
  have hprogress : Progress task uid (.stateChanged s.state.generation)
      ((s.enter task op).stage? task) [] := hstage ▸ .changed
  have hafter := outputsOf_run (P := Progress task uid (.stateChanged s.state.generation))
    Progress.advance hprogress others
  obtain ⟨settings, honly, hended⟩ := hafter.due
  have hlined := ((h.step (effect_step s (.enter task op))).run later).lined
  refine ⟨settings, Store.gives_of_due ?_ hlined honly hended⟩
  rintro ⟨generation, query, hfetching⟩
  rw [show (Store.run _ later).stage? task = _ from hfetching] at hafter
  cases hafter with
  | saved ending => cases ending

end Entered

/-! ### The rule of fields -/

/-- A view shows these fields after any run whose operations on the fields are these. -/
def Store.Shows (s : Store) (ops : List Operation) (fields : List Field) : Prop :=
  ∀ later, s.fieldOperations later = ops → (s.run later).state.visibleFields = fields

/-- What the operations on the fields of a view that is set up come to, in a store with its past,
whatever else happens between them. -/
structure FieldsRule (r : Registry) (past : List Moment) (s : Store) (uid : String) : Prop where
  /-- Whoever starts an operation on the fields has it counted among those. -/
  counts : ∀ task op later, s.stage? task = none → op.isOnFields = true →
    s.fieldOperations (.enter task op :: later)
      = op :: (s.enter task op).fieldOperations later
  /-- Of a list that is set, each field that is known and not excluded is shown at its first
  place. -/
  set : ∀ fields, s.Shows [.setFields fields] (r.shown fields)
  /-- Hiding a field takes it out of the list, as if it had not been set. -/
  hidden : ∀ fields f,
    s.Shows [.setFields fields, .hideField f] (r.shown (fields.filter (· != f)))
  /-- So it undoes that a new field was added. -/
  undone : ∀ f, f ∉ s.state.visibleFields →
    s.Shows [.setFields (s.state.visibleFields ++ [f]), .hideField f] s.state.visibleFields
  /-- Hiding a field again changes nothing. -/
  twice : ∀ f, s.Shows [.hideField f] (s.state.visibleFields.filter (· != f)) ∧
    s.Shows [.hideField f, .hideField f] (s.state.visibleFields.filter (· != f))
  /-- Two fields are hidden in any order. -/
  commute : ∀ f g,
    s.Shows [.hideField f, .hideField g]
      (s.state.visibleFields.filter fun x => x != f && x != g) ∧
    s.Shows [.hideField g, .hideField f]
      (s.state.visibleFields.filter fun x => x != f && x != g)
  /-- Setting what is shown changes nothing. -/
  again : s.Shows [.setFields s.state.visibleFields] s.state.visibleFields
  /-- Resetting leads back to the fields that the view was set up with, whatever the operations
  before were. -/
  reset : ∃ fields, setUpFields past = [fields] ∧
    ∀ ops, s.Shows (ops ++ [.resetFields]) (r.shown fields)
  /-- An operation that changes the fields tells so and saves them, each once, and one that does
  not change them does neither.  None asks the server. -/
  tells : ∀ task op later, s.stage? task = none → op.isOnFields = true →
    (∀ op, .enter task op ∉ later) →
    ((s.enter task op).state.visibleFields = s.state.visibleFields →
      (s.enter task op).Gives task later [.finished task .fieldsSet]) ∧
    ((s.enter task op).state.visibleFields ≠ s.state.visibleFields → ∃ settings,
      (s.enter task op).Gives task later [.event (.stateChanged s.state.generation),
        .save task uid settings, .finished task .fieldsSet])

/-- **The operations on the fields obey their laws after every run in which a view was set up.** -/
theorem run_fieldsRule {r : Registry} {moves : List Move} {uid : String}
    (isSetUp : ((Store.empty r).run moves).state.uid = some uid) :
    FieldsRule r ((Store.empty r).moments moves) ((Store.empty r).run moves) uid := by
  have hreached := reached_run r moves
  generalize (Store.empty r).moments moves = past at hreached
  generalize (Store.empty r).run moves = s at hreached isSetUp
  have hregistry : s.registry = r := hreached.registry
  have hvisible : ViewState.admitted r s.state.visibleFields = s.state.visibleFields :=
    hreached.permitted.visible.admitted_eq
  -- what a run shows is what its operations on the fields make of what is shown now
  have hshows : ∀ {ops fields}, ops.foldl (fun visible op =>
      op.fieldsAfter r s.state.defaultFields visible) s.state.visibleFields = fields →
      s.Shows ops fields := by
    intro ops fields hops later hlater
    rw [hreached.visibleFields isSetUp later, hlater, hops]
  refine ⟨?_, ?_, ?_, ?_, ?_, ?_, hshows hvisible, ?_, ?_⟩
  · intro task op later free onFields
    exact Store.fieldOperations_enter isSetUp free onFields later
  · intro fields
    exact hshows (ViewState.admitted_eq_shown r fields)
  · intro fields f
    refine hshows ?_
    show (ViewState.admitted r fields).filter (· != f) = _
    rw [ViewState.admitted_filter, ViewState.admitted_eq_shown]
  · intro f hnew
    refine hshows ?_
    show (ViewState.admitted r (s.state.visibleFields ++ [f])).filter (· != f) = _
    have hwithout : (s.state.visibleFields ++ [f]).filter (· != f) = s.state.visibleFields := by
      have hold : s.state.visibleFields.filter (· != f) = s.state.visibleFields :=
        List.filter_eq_self.mpr fun x hx => bne_iff_ne.mpr fun hxf : x = f => hnew (hxf ▸ hx)
      rw [List.filter_append, hold]
      simp
    rw [ViewState.admitted_filter, hwithout, hvisible]
  · intro f
    refine ⟨hshows rfl, hshows ?_⟩
    show (s.state.visibleFields.filter (· != f)).filter (· != f) = _
    rw [List.filter_filter]
    simp only [Bool.and_self]
  · intro f g
    refine ⟨hshows ?_, hshows ?_⟩
    · show (s.state.visibleFields.filter (· != f)).filter (· != g) = _
      rw [List.filter_filter]
      exact congrArg (List.filter · _) (funext fun x => Bool.and_comm _ _)
    · show (s.state.visibleFields.filter (· != g)).filter (· != f) = _
      rw [List.filter_filter]
  · cases hreached.setUpOnce with
    | never unset none => cases unset.symm.trans isSetUp
    | @once fields uid' set one defaults =>
        refine ⟨fields, one, fun ops => hshows ?_⟩
        rw [List.foldl_append]
        exact defaults.trans (ViewState.admitted_eq_shown r fields)
  · intro task op later free onFields others
    have hstate : (s.enter task op).state.visibleFields
        = op.fieldsAfter s.registry s.state.defaultFields s.state.visibleFields := by
      rw [Store.enter, free]
      show (op.commit s.registry s.state).state.visibleFields = _
      rw [op.commit_onFields onFields, Commit.updateFields, isSetUp]
      dsimp only
      split
      · rename_i hsame
        exact hsame.symm
      · rfl
    rw [hstate]
    exact ⟨hreached.gives_of_unchanged isSetUp free onFields others,
      hreached.gives_of_changed isSetUp free onFields others⟩

/-- They do after a view was set up and a field was hidden. -/
theorem run_fieldsRule_hidden :
    let moves : List Move :=
      [.enter 0 (.setUp "home" "" [.name, .status] none), .enter 1 (.hideField .name)]
    ((Store.empty .ownProjects).run moves).state.uid = some "home" ∧
      FieldsRule .ownProjects ((Store.empty .ownProjects).moments moves)
        ((Store.empty .ownProjects).run moves) "home" :=
  ⟨rfl, run_fieldsRule rfl⟩

end ProjectViews
