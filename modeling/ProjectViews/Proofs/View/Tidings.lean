/-
What there is to tell after a stint.

A view tells little: that it has changed, that its rows are those of a new generation, that
the first page of one has come, and why a page has not.  What a single stint has to tell goes
together with what becomes of the generation and of the flag for the first page, and there
are only five cases, which are `Tidings`.  Nothing further on asks which operation it was.

Besides, there are stints that come to nothing by the rules of the view, and `Idle` lists
them without a look at what is told.
-/
import ProjectViews.Proofs.View.Refusal
import ProjectViews.Proofs.View.Stint

namespace ProjectViews

/-! ### Commits that announce something -/

/-- What a commit tells, and what becomes of the generation and of the flag for its first
page. -/
inductive Announces (s : ViewState) (c : Commit) : Prop
  | nothing (state : c.state = s) (events : c.events = [])
  | reset (generation : c.state.generation = s.generation + 1)
      (blank : c.state.isFirstLoadComplete = false)
      (events : c.events = [.rowsReset (s.generation + 1), .stateChanged (s.generation + 1)])
  | change (generation : c.state.generation = s.generation)
      (loaded : c.state.isFirstLoadComplete = s.isFirstLoadComplete)
      (events : c.events = [.stateChanged s.generation])

theorem Commits.announces {s : ViewState} {op : Operation} {c : Commit} (h : Commits s op c) :
    Announces s c := by
  cases h with
  | idle => exact .nothing rfl rfl
  | setUp _ _ generation =>
      refine .reset ?_ rfl ?_
      · rw [← generation]
        rfl
      · rw [← generation]
        rfl
  | configure => exact .reset rfl rfl rfl
  | reload => exact .reset rfl rfl rfl
  | fields => exact .change rfl rfl rfl
  | more => exact .change rfl rfl rfl
  | @changed row =>
      cases hloaded : s.isLoaded row.uid with
      | true => exact .change rfl rfl rfl
      | false =>
          rw [replaceRow_of_not_loaded hloaded]
          exact .nothing rfl rfl
  | @deleted uid =>
      cases hloaded : s.isLoaded uid with
      | true => exact .change rfl rfl rfl
      | false =>
          rw [dropRow_of_not_loaded hloaded]
          exact .nothing rfl rfl

/-- No operation fails when it commits. -/
theorem Commits.failure? {s : ViewState} {op : Operation} {c : Commit} (h : Commits s op c) :
    c.next.failure? = none := by
  cases h with
  | idle _ plain =>
      rcases plain with rfl | rfl | ⟨v, rfl⟩ <;> rfl
  | setUp => rfl
  | configure => rfl
  | reload => rfl
  | fields => rfl
  | more => rfl
  | changed => rfl
  | deleted => rfl

/-! ### What a stint has to tell -/

namespace Store

/-- The view takes a page of the present generation in. -/
def Accepts (s : Store) (x : Stint) : Prop :=
  ∃ task page query, x = .answered task (.ok page) ∧
    s.stage? task = some (.fetching s.state.generation query)

/-- A request of the present generation fails. -/
def Fails (s : Store) (x : Stint) (failure : Failure) : Prop :=
  ∃ task query, x = .answered task (.error failure) ∧
    s.stage? task = some (.fetching s.state.generation query)

theorem Accepts.engages {s : Store} {x : Stint} (h : s.Accepts x) : s.Engages x := by
  obtain ⟨task, page, query, rfl, hstage⟩ := h
  exact ⟨_, query, hstage⟩

theorem Fails.engages {s : Store} {x : Stint} {failure : Failure} (h : s.Fails x failure) :
    s.Engages x := by
  obtain ⟨task, query, rfl, hstage⟩ := h
  exact ⟨_, query, hstage⟩

/-- An answer is a page or a failure, not both. -/
theorem Fails.not_accepts {s : Store} {x : Stint} {failure : Failure} (h : s.Fails x failure) :
    ¬ s.Accepts x := by
  obtain ⟨task, query, rfl, -⟩ := h
  rintro ⟨task', page, query', h, -⟩
  cases h

/-- Nothing has come for the present generation. -/
def Unanswered (s : Store) (x : Stint) : Prop := ¬ s.Accepts x ∧ ∀ failure, ¬ s.Fails x failure

end Store

/-- What a stint has to tell, and what becomes of the generation and of the flag for its first
page. -/
inductive Tidings (s : Store) (x : Stint) (t : Store × List Output) : Prop
  | nothing (none : s.Unanswered x) (state : t.1.state = s.state) (events : told t.2 = [])
      (failed : failures t.2 = [])
  | reset (none : s.Unanswered x) (generation : t.1.state.generation = s.state.generation + 1)
      (blank : t.1.state.isFirstLoadComplete = false)
      (events : told t.2
        = [.rowsReset (s.state.generation + 1), .stateChanged (s.state.generation + 1)])
      (failed : failures t.2 = [])
  | change (none : s.Unanswered x) (generation : t.1.state.generation = s.state.generation)
      (loaded : t.1.state.isFirstLoadComplete = s.state.isFirstLoadComplete)
      (events : told t.2 = [.stateChanged s.state.generation]) (failed : failures t.2 = [])
  | page (page : s.Accepts x) (generation : t.1.state.generation = s.state.generation)
      (loaded : t.1.state.isFirstLoadComplete = true)
      (events : told t.2 = (if s.state.isFirstLoadComplete then []
        else [.firstLoadComplete s.state.generation]) ++ [.stateChanged s.state.generation])
      (failed : failures t.2 = [])
  | failure {failure : Failure} (fails : s.Fails x failure)
      (generation : t.1.state.generation = s.state.generation)
      (loaded : t.1.state.isFirstLoadComplete = s.state.isFirstLoadComplete)
      (events : told t.2 = [.error (failure.notification fetchContext),
        .stateChanged s.state.generation])
      (failed : failures t.2 = [failure])

theorem Store.Course.tidings {s : Store} {x : Stint} {t : Store × List Output}
    (h : Store.Course s x t) : Tidings s x t := by
  cases h with
  | aside aside stretch =>
      exact .nothing ⟨fun h => aside h.engages, fun failure h => aside h.engages⟩ stretch.state
        stretch.told stretch.failures
  | @commits task op t free stretch =>
      have hnone : s.Unanswered (.start task op) := by
        refine ⟨?_, ?_⟩
        · rintro ⟨task', page, query, h, -⟩
          cases h
        · rintro failure ⟨task', query, h, -⟩
          cases h
      have hcommits := op.commits s.registry s.state
      generalize op.commit s.registry s.state = c at stretch hcommits
      have hfailures : failures t.2 = [] := by
        rw [stretch.failures, hcommits.failure?]
        rfl
      cases hcommits.announces with
      | nothing state events =>
          exact .nothing hnone (stretch.state.trans state) (stretch.told.trans events) hfailures
      | reset generation blank events =>
          exact .reset hnone (by rw [stretch.state, generation]) (by rw [stretch.state, blank])
            (stretch.told.trans events) hfailures
      | change generation loaded events =>
          exact .change hnone (by rw [stretch.state, generation]) (by rw [stretch.state, loaded])
            (stretch.told.trans events) hfailures
  | @receives task generation query answer t out stretch =>
      by_cases hnow : s.state.generation = generation
      · subst hnow
        cases answer with
        | ok page =>
            rw [ViewState.receive_page] at stretch
            exact .page ⟨task, page, query, rfl, out⟩ (by rw [stretch.state]; rfl)
              (by rw [stretch.state]) stretch.told stretch.failures
        | error failure =>
            rw [ViewState.receive_failure] at stretch
            exact .failure ⟨task, query, rfl, out⟩ (by rw [stretch.state]) (by rw [stretch.state])
              stretch.told stretch.failures
      · rw [ViewState.receive_stale s.state answer hnow] at stretch
        have hother : ∀ query', s.stage? task ≠ some (.fetching s.state.generation query') := by
          intro query' hstage
          obtain ⟨hgeneration, -⟩ : generation = s.state.generation ∧ query = query' := by
            simpa [out] using hstage
          exact hnow hgeneration.symm
        refine .nothing ⟨?_, ?_⟩ stretch.state stretch.told stretch.failures
        · rintro ⟨task', page, query', h, hstage⟩
          cases h
          exact hother query' hstage
        · rintro failure ⟨task', query', h, hstage⟩
          cases h
          exact hother query' hstage

/-! ### What is read off the tidings of a stint -/

/-- The generation that an event speaks of. -/
def Event.generation? : Event → Option Nat
  | stateChanged g | rowsReset g | firstLoadComplete g => some g
  | error _ => none

/-- What an event says has gone wrong. -/
def Event.message? : Event → Option String
  | error message => some message
  | _ => none

namespace Tidings

variable {s : Store} {x : Stint} {t : Store × List Output}

theorem generation_cases (h : Tidings s x t) : t.1.state.generation = s.state.generation ∨
    t.1.state.generation = s.state.generation + 1 := by
  cases h with
  | nothing _ state => exact Or.inl (by rw [state])
  | reset _ generation => exact Or.inr generation
  | change _ generation => exact Or.inl generation
  | page _ generation => exact Or.inl generation
  | failure _ generation => exact Or.inl generation

/-- No generation begins with a page. -/
theorem generation_of_accepts (h : Tidings s x t) (page : s.Accepts x) :
    t.1.state.generation = s.state.generation := by
  cases h with
  | nothing _ state => rw [state]
  | reset none => exact absurd page none.1
  | change _ generation => exact generation
  | page _ generation => exact generation
  | failure _ generation => exact generation

/-- The flag for the first page is raised by a page, and stays up for the generation. -/
theorem loaded_iff (h : Tidings s x t) : t.1.state.isFirstLoadComplete = true ↔
    s.Accepts x ∨ t.1.state.generation = s.state.generation ∧
      s.state.isFirstLoadComplete = true := by
  cases h with
  | nothing none state => simp [none.1, state]
  | reset none generation blank => simp [none.1, generation, blank]
  | change none generation loaded => simp [none.1, generation, loaded]
  | page page _ loaded => simp [page, loaded]
  | failure fails generation loaded => simp [fails.not_accepts, generation, loaded]

/-- What is told is told of the generation that is then the present one. -/
theorem generation_of_told (h : Tidings s x t) :
    ∀ g ∈ (told t.2).filterMap Event.generation?, g = t.1.state.generation := by
  cases h with
  | nothing _ _ events => simp [events]
  | reset _ generation _ events => simp [events, generation, Event.generation?]
  | change _ generation _ events => simp [events, generation, Event.generation?]
  | page _ generation _ events =>
      rw [events, generation]
      split <;> simp [Event.generation?]
  | failure _ generation _ events => simp [events, generation, Event.generation?]

/-- What is told beside a change is told once, and that the view has changed follows at once. -/
theorem told_of_mem (h : Tidings s x t) {e : Event} (he : e ∈ told t.2)
    (notable : ∀ g, e ≠ .stateChanged g) :
    told t.2 = [e, .stateChanged t.1.state.generation] := by
  cases h with
  | nothing _ _ events => simp [events] at he
  | reset _ generation _ events =>
      obtain rfl : e = .rowsReset (s.state.generation + 1) := by simpa [events, notable] using he
      rw [events, generation]
  | change _ _ _ events => simp [events, notable] at he
  | page _ generation _ events =>
      rw [events] at he ⊢
      cases hflag : s.state.isFirstLoadComplete with
      | true => simp [hflag, notable] at he
      | false =>
          obtain rfl : e = .firstLoadComplete s.state.generation := by
            simpa [hflag, notable] using he
          rw [generation]
          rfl
  | @failure failure _ generation _ events =>
      obtain rfl : e = .error (failure.notification fetchContext) := by
        simpa [events, notable] using he
      rw [events, generation]

/-- A generation is announced just when it begins. -/
theorem rowsReset_mem (h : Tidings s x t) (g : Nat) : .rowsReset g ∈ told t.2 ↔
    s.state.generation < g ∧ t.1.state.generation = g := by
  have hlater : t.1.state.generation = s.state.generation →
      ¬ (s.state.generation < g ∧ t.1.state.generation = g) := by omega
  cases h with
  | nothing _ state events => simp [events, hlater (by rw [state])]
  | reset _ generation _ events =>
      have hmem : Event.rowsReset g ∈ told t.2 ↔ g = s.state.generation + 1 := by
        simp [events]
      rw [hmem, generation]
      omega
  | change _ generation _ events => simp [events, hlater generation]
  | page _ generation _ events =>
      rw [events]
      split <;> simp [hlater generation]
  | failure _ generation _ events => simp [events, hlater generation]

/-- The first page is announced just when a page comes while the flag is down. -/
theorem firstLoadComplete_mem (h : Tidings s x t) (g : Nat) :
    .firstLoadComplete g ∈ told t.2 ↔
      s.Accepts x ∧ s.state.isFirstLoadComplete = false ∧ s.state.generation = g := by
  cases h with
  | nothing none _ events => simp [events, none.1]
  | reset none _ _ events => simp [events, none.1]
  | change none _ _ events => simp [events, none.1]
  | page page _ _ events =>
      rw [events]
      cases s.state.isFirstLoadComplete <;> simp [page, eq_comm]
  | failure fails _ _ events => simp [events, fails.not_accepts]

/-- The errors that are told are the failures. -/
theorem messages (h : Tidings s x t) : (told t.2).filterMap Event.message?
    = (failures t.2).map (·.notification fetchContext) := by
  cases h with
  | nothing _ _ events failed => rw [events, failed]; rfl
  | reset _ _ _ events failed => rw [events, failed]; rfl
  | change _ _ _ events failed => rw [events, failed]; rfl
  | page _ _ _ events failed =>
      rw [events, failed]
      split <;> rfl
  | failure _ _ _ events failed => rw [events, failed]; rfl

/-- An operation ends with a failure just when its request was one of the present generation
and has failed. -/
theorem failure_mem (h : Tidings s x t) (failure : Failure) :
    failure ∈ failures t.2 ↔ s.Fails x failure := by
  cases h with
  | nothing none _ _ failed => simp [failed, none.2]
  | reset none _ _ _ failed => simp [failed, none.2]
  | change none _ _ _ failed => simp [failed, none.2]
  | page page _ _ _ failed =>
      rw [failed]
      exact iff_of_false (by simp) fun fails => fails.not_accepts page
  | @failure failure' fails _ _ _ failed =>
      rw [failed, List.mem_singleton]
      constructor
      · rintro rfl
        exact fails
      · rintro ⟨task, query, rfl, -⟩
        obtain ⟨task', query', h, -⟩ := fails
        cases h
        rfl

/-- Whatever changes, that it has changed is the last thing that is told. -/
theorem getLast?_told (h : Tidings s x t) (changed : t.1.state ≠ s.state) :
    (told t.2).getLast? = some (.stateChanged t.1.state.generation) := by
  cases h with
  | nothing _ state => exact absurd state changed
  | reset _ generation _ events => rw [events, generation]; rfl
  | change _ generation _ events => rw [events, generation]; rfl
  | page _ generation _ events => rw [events, generation, List.getLast?_concat]
  | failure _ generation _ events => rw [events, generation]; rfl

end Tidings

/-! ### Stints that come to nothing -/

/-- An operation that is against the rules, or that leaves nothing to do. -/
inductive Operation.Idle (r : Registry) (s : ViewState) : Operation → Prop
  | refused {op : Operation} (h : op.Forbidden r s) : Idle r s op
  /-- A page is being loaded, or there is none. -/
  | skipped (h : s.isLoading = true ∨ s.cursor = none) : Idle r s .fetchMore
  /-- The project is not loaded. -/
  | changed {row : Row} (h : s.isLoaded row.uid = false) : Idle r s (.projectChanged row)
  | deleted {uid : String} (h : s.isLoaded uid = false) : Idle r s (.projectDeleted uid)
  /-- The fields are shown already, -/
  | setFields {fields : List Field} (h : ViewState.admitted r fields = s.visibleFields) :
      Idle r s (.setFields fields)
  | resetFields (h : s.defaultFields = s.visibleFields) : Idle r s .resetFields
  /-- or this one is not. -/
  | hideField {field : Field} (h : field ∉ s.visibleFields) : Idle r s (.hideField field)

/-- Fields that are shown already change nothing. -/
theorem updateFields_of_same {s : ViewState} {update : ViewState → List Field}
    (h : update s = s.visibleFields) :
    (Commit.updateFields s update).state = s ∧ (Commit.updateFields s update).events = [] := by
  unfold Commit.updateFields
  split
  · exact ⟨rfl, rfl⟩
  · rw [if_pos h]
    exact ⟨rfl, rfl⟩

theorem Operation.Idle.commit {r : Registry} {s : ViewState} {op : Operation} (h : op.Idle r s) :
    (op.commit r s).state = s ∧ (op.commit r s).events = [] := by
  cases h with
  | refused h =>
      cases op.verdict r s with
      | refused _ v commit =>
          rw [commit]
          exact ⟨rfl, rfl⟩
      | granted hallowed => exact absurd h hallowed
  | skipped h =>
      simp only [Operation.commit]
      split
      · exact ⟨rfl, rfl⟩
      · rename_i hloading
        rw [h.resolve_left hloading]
        exact ⟨rfl, rfl⟩
  | changed h =>
      rw [commit_projectChanged, replaceRow_of_not_loaded h, h]
      exact ⟨rfl, rfl⟩
  | deleted h =>
      rw [commit_projectDeleted, dropRow_of_not_loaded h, h]
      exact ⟨rfl, rfl⟩
  | setFields h => exact updateFields_of_same h
  | resetFields h => exact updateFields_of_same h
  | hideField h =>
      refine updateFields_of_same (List.filter_eq_self.mpr fun f hf => ?_)
      rw [bne_iff_ne]
      rintro rfl
      exact h hf

/-- A stint that comes to nothing: an idle operation is started, or an answer comes for a
generation that is over, or it is all about saving. -/
def Store.Idle (s : Store) : Stint → Prop
  | .start _ op => op.Idle s.registry s.state
  | .answered task _ => ∃ generation query,
      s.stage? task = some (.fetching generation query) ∧ generation ≠ s.state.generation
  | .takeTurn _ | .saved _ _ => True

/-- Indeed nothing changes, and nothing is told. -/
theorem Store.Course.of_idle {s : Store} {x : Stint} {t : Store × List Output}
    (h : Store.Course s x t) (idle : s.Idle x) : t.1.state = s.state ∧ told t.2 = [] := by
  cases h with
  | aside _ stretch => exact ⟨stretch.state, stretch.told⟩
  | commits _ stretch =>
      obtain ⟨hstate, hevents⟩ := Operation.Idle.commit idle
      exact ⟨stretch.state.trans hstate, stretch.told.trans hevents⟩
  | @receives task generation query answer t out stretch =>
      obtain ⟨generation', query', hstage, hold⟩ := idle
      obtain ⟨rfl, rfl⟩ : generation = generation' ∧ query = query' := by simpa [out] using hstage
      rw [ViewState.receive_stale s.state answer (Ne.symm hold)] at stretch
      exact ⟨stretch.state, stretch.told⟩

end ProjectViews
