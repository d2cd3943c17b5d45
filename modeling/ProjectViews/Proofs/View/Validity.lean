/-
What a view holds is in order, whatever has been done with it.

Three things are to be said of a view, and each has a reason of its own.

  * What it shows, filters by and orders by is what the registry permits.  Every way in is
    guarded: fields are admitted one by one, filters and orders are judged when they are
    set, and what was remembered is sorted out when the view is set up.
  * The rows have different uids, which have all been seen.  This is read off the replay of
    the history.
  * Before it is set up a view holds nothing, and before its first page has come it holds no
    rows.  An answer cannot change that, for nobody is out for a page of the generation
    before all others.
-/
import ProjectViews.Proofs.View.Provenance
import ProjectViews.Proofs.View.Refusal
import ProjectViews.Proofs.View.Rows

namespace ProjectViews

/-! ### What the registry permits -/

/-- Fields that can be shown: none twice, and the registry admits them all. -/
def Showable (r : Registry) (fields : List Field) : Prop :=
  fields.Nodup ∧ ∀ f ∈ fields, r.Admits f

namespace Showable

variable {r : Registry} {fields : List Field}

theorem nil (r : Registry) : Showable r [] := ⟨List.nodup_nil, fun f h => by cases h⟩

theorem admitted (r : Registry) (fields : List Field) :
    Showable r (ViewState.admitted r fields) := by
  refine ⟨nodup_firsts _, fun f hf => ?_⟩
  rw [ViewState.admitted, mem_firsts, List.mem_filter] at hf
  rw [Registry.admits_iff]
  simpa using hf.2

theorem filter (h : Showable r fields) (p : Field → Bool) : Showable r (fields.filter p) :=
  ⟨h.1.filter p, fun f hf => h.2 f (List.mem_filter.mp hf).1⟩

end Showable

/-- What a view is set to is permitted by the registry. -/
structure Permitted (r : Registry) (s : ViewState) : Prop where
  visible : Showable r s.visibleFields
  defaults : Showable r s.defaultFields
  filters : ∀ f ∈ s.filters, r.Admits f.field
  order : ∀ o, s.order = some o → r.isOrderable o.field = true

namespace Permitted

variable {r : Registry} {s : ViewState}

theorem initial (r : Registry) : Permitted r .initial where
  visible := .nil r
  defaults := .nil r
  filters := fun f h => by cases h
  order := fun o h => by cases h

/-- Only what is permitted is restored. -/
theorem restore (h : Permitted r s) (saved : ViewSettings) : Permitted r (s.restore r saved) where
  visible := by
    unfold ViewState.restore
    cases saved.fields with
    | some fields => exact .admitted r fields
    | none => exact h.visible
  defaults := h.defaults
  filters := by
    intro f hf
    rw [Registry.admits_iff]
    simpa using (List.mem_filter.mp hf).2
  order := by
    intro o ho
    exact (Option.filter_eq_some_iff.mp ho).2

/-- A new generation leaves the settings alone. -/
theorem reset (h : Permitted r s) (next : Nat → Query → Next) :
    Permitted r (Commit.reset s next).state :=
  ⟨h.visible, h.defaults, h.filters, h.order⟩

theorem updateFields (h : Permitted r s) {update : ViewState → List Field}
    (hupdate : Showable r (update s)) : Permitted r (Commit.updateFields s update).state := by
  unfold Commit.updateFields
  split
  · exact h
  · split
    · exact h
    · exact ⟨hupdate, h.defaults, h.filters, h.order⟩

/-- Every operation keeps it. -/
theorem commit (h : Permitted r s) (op : Operation) : Permitted r (op.commit r s).state := by
  cases op with
  | setUp uid baseQuery fields saved =>
      simp only [Operation.commit]
      split
      · exact h
      · refine reset ?_ _
        have hset : Permitted r { s with
            uid := some uid
            baseQuery := baseQuery
            defaultFields := ViewState.admitted r fields
            visibleFields := ViewState.admitted r fields } :=
          ⟨.admitted r fields, .admitted r fields, h.filters, h.order⟩
        cases saved with
        | none => exact hset
        | some saved => exact hset.restore saved
  | setFilters filters =>
      simp only [Operation.commit]
      split
      · exact h
      · rename_i hnone
        split
        · exact h
        · have hfilters : ∀ f ∈ filters, r.Admits f.field := by
            intro f hf
            rw [Registry.admits_iff, Bool.eq_false_iff]
            exact List.find?_eq_none.mp hnone f hf
          exact ⟨h.visible, h.defaults, hfilters, h.order⟩
  | setOrder order =>
      simp only [Operation.commit]
      split
      · rename_i horder
        split
        · exact h
        · have hset : ∀ o, some order = some o → r.isOrderable o.field = true := by
            rintro o ⟨⟩
            exact horder
          exact ⟨h.visible, h.defaults, h.filters, hset⟩
      · exact h
  | setFields fields =>
      rw [Operation.commit]
      exact h.updateFields (.admitted r fields)
  | resetFields =>
      rw [Operation.commit]
      exact h.updateFields h.defaults
  | hideField field =>
      rw [Operation.commit]
      exact h.updateFields (h.visible.filter _)
  | fetchMore =>
      simp only [Operation.commit]
      split
      · exact h
      · split
        · exact h
        · exact ⟨h.visible, h.defaults, h.filters, h.order⟩
  | reload =>
      simp only [Operation.commit]
      split
      · exact h
      · exact h.reset _
  | projectChanged row =>
      rw [commit_projectChanged]
      exact ⟨h.visible, h.defaults, h.filters, h.order⟩
  | projectDeleted uid =>
      rw [commit_projectDeleted]
      exact ⟨h.visible, h.defaults, h.filters, h.order⟩

/-- So does every answer. -/
theorem receive (h : Permitted r s) (generation : Nat) (answer : Except Failure RowPage) :
    Permitted r (s.receive generation answer).1 := by
  by_cases hnow : s.generation = generation
  · subst hnow
    cases answer with
    | ok page =>
        rw [ViewState.receive_page]
        exact ⟨h.visible, h.defaults, h.filters, h.order⟩
    | error failure =>
        rw [ViewState.receive_failure]
        exact ⟨h.visible, h.defaults, h.filters, h.order⟩
  · rw [ViewState.receive_stale s answer hnow]
    exact h

end Permitted

/-- It holds of every view that a run reaches. -/
theorem Reached.permitted {r : Registry} {past : List Moment} {s : Store} (h : Reached r past s) :
    Permitted r s.state := by
  induction h with
  | empty => exact .initial r
  | step hr e ih =>
      rcases e.state_cases with hstate | ⟨_, op, -, -, hstate⟩ | ⟨_, answer, _, _, -, -, hstate⟩
      · rw [hstate]
        exact ih
      · rw [hstate, hr.registry]
        exact ih.commit op
      · rw [hstate]
        exact ih.receive _ answer

/-! ### What a view holds at first -/

/-- A view holds no rows before its first page has come, and nothing at all before it is
set up. -/
structure Begun (s : ViewState) : Prop where
  blank : s.isFirstLoadComplete = false → s.rows = [] ∧ s.seen = [] ∧ s.cursor = none
  unset : s.uid = none → s = .initial
  counted : s.uid ≠ none → 0 < s.generation

namespace Begun

variable {s : ViewState}

theorem initial : Begun .initial where
  blank := fun _ => ⟨rfl, rfl, rfl⟩
  unset := fun _ => rfl
  counted := fun h => absurd rfl h

/-- A new generation of a view that is set up begins with nothing. -/
theorem reset {s' : ViewState} {uid : String} (h : s'.uid = some uid) (next : Nat → Query → Next) :
    Begun (Commit.reset s' next).state where
  blank := fun _ => ⟨rfl, rfl, rfl⟩
  unset := by
    intro hunset
    rw [show (Commit.reset s' next).state.uid = s'.uid from rfl, h] at hunset
    cases hunset
  counted := fun _ => Nat.succ_pos _

/-- News of projects elsewhere are nothing to a view without rows. -/
theorem rowsAfter_nil (n : Option News) : ProjectViews.rowsAfter [] n = [] := by
  rcases n with _ | _ | _ | _ <;> rfl

theorem rowsAfter (h : Begun s) (n : Option News) :
    Begun { s with rows := ProjectViews.rowsAfter s.rows n } where
  blank := by
    intro hblank
    obtain ⟨hrows, hrest⟩ := h.blank hblank
    refine ⟨?_, hrest⟩
    rw [hrows, rowsAfter_nil]
  unset := by
    intro hunset
    rw [h.unset hunset]
    exact congrArg (fun rows => { ViewState.initial with rows := rows }) (rowsAfter_nil n)
  counted := h.counted

/-- Every commit keeps it. -/
theorem commits (h : Begun s) {op : Operation} {c : Commit} (hc : Commits s op c) :
    Begun c.state := by
  cases hc with
  | idle => exact h
  | setUp _ named => exact reset named _
  | @configure op uid filters order isSetUp _ =>
      have hset : { s with filters := filters, order := order }.uid = some uid := isSetUp
      exact reset hset _
  | reload isSetUp => exact reset isSetUp _
  | fields isSetUp => exact ⟨h.blank, fun hunset => by simp [isSetUp] at hunset, h.counted⟩
  | more _ more =>
      refine ⟨h.blank, fun hunset => ?_, h.counted⟩
      rw [h.unset hunset] at more
      cases more
  | @changed row => exact h.rowsAfter (some (.changed row))
  | @deleted uid => exact h.rowsAfter (some (.deleted uid))

/-- So does every answer that is for a generation that has begun. -/
theorem receive (h : Begun s) {generation : Nat} (hpos : 0 < generation)
    (answer : Except Failure RowPage) : Begun (s.receive generation answer).1 := by
  by_cases hnow : s.generation = generation
  · subst hnow
    have hset : s.uid ≠ none := by
      intro hunset
      rw [h.unset hunset] at hpos
      exact absurd hpos (Nat.lt_irrefl 0)
    cases answer with
    | ok page =>
        rw [ViewState.receive_page]
        exact ⟨fun hblank => (by cases hblank), fun hunset => absurd hunset hset, fun _ => hpos⟩
    | error failure =>
        rw [ViewState.receive_failure]
        exact ⟨h.blank, fun hunset => absurd hunset hset, fun _ => hpos⟩
  · rw [ViewState.receive_stale s answer hnow]
    exact h

end Begun

/-- It holds of every view that a run reaches. -/
theorem Reached.begun {r : Registry} {past : List Moment} {s : Store} (h : Reached r past s) :
    Begun s.state := by
  induction h with
  | empty => exact .initial
  | step hr e ih =>
      rcases e.state_cases with
        hstate | ⟨_, op, -, -, hstate⟩ | ⟨_, answer, _, _, -, hstage, hstate⟩
      · rw [hstate]
        exact ih
      · rw [hstate]
        exact ih.commits (op.commits _ _)
      · rw [hstate]
        have hasked := (hr.provenance.errand (Store.errand?_of_stage? hstage)).1
        exact ih.receive hasked.pos answer

/-! ### How generations count -/

/-- A move starts an operation that asks the server anew, and that is not refused. -/
def Store.Renews (s : Store) (m : Move) : Prop :=
  ∃ task op, m = .enter task op ∧ s.stage? task = none ∧ op.renews = true ∧
    ∀ v, (op.commit s.registry s.state).next ≠ .done (.refused v)

/-- An operation that is not among those that ask anew, or is refused, begins nothing. -/
theorem commit_generation_of_not {r : Registry} {s : ViewState} {op : Operation}
    (h : ¬ (op.renews = true ∧ ∀ v, (op.commit r s).next ≠ .done (.refused v))) :
    (op.commit r s).state.generation = s.generation := by
  cases op.verdict r s with
  | refused _ v commit => rw [commit]; rfl
  | granted _ next generation =>
      rw [generation, if_neg fun hrenews => h ⟨hrenews, next⟩]

theorem Effect.generation_of_renews {s : Store} {m : Move} {t : Store × List Output}
    (e : Effect s m t) (h : s.Renews m) : t.1.state.generation = s.state.generation + 1 := by
  obtain ⟨task, op, rfl, free, hrenews, hgranted⟩ := h
  cases e with
  | ignored hignores => exact absurd free hignores
  | entered =>
      rw [Store.put_state]
      cases op.verdict s.registry s.state with
      | refused _ v commit => exact absurd (by rw [commit]; rfl) (hgranted v)
      | granted _ _ generation => exact generation.trans (if_pos hrenews)

theorem Effect.generation_of_not_renews {s : Store} {m : Move} {t : Store × List Output}
    (e : Effect s m t) (h : ¬ s.Renews m) : t.1.state.generation = s.state.generation := by
  rcases e.state_cases with hstate | ⟨task, op, rfl, free, hstate⟩ | ⟨_, _, _, _, -, -, hstate⟩
  · rw [hstate]
  · rw [hstate]
    exact commit_generation_of_not fun hop => h ⟨task, op, rfl, free, hop.1, hop.2⟩
  · rw [hstate]
    exact (s.state.receive_keeps _ _).1

/-! ### The rule of the state -/

/-- What holds of the state of a view, whatever has happened. -/
structure ValidityRule (r : Registry) (s : Store) : Prop where
  /-- No field is shown twice, and none that the registry excludes or does not know; the
  same goes for the default fields. -/
  visible : Showable r s.state.visibleFields
  defaults : Showable r s.state.defaultFields
  /-- No filter is on such a field either. -/
  filters : ∀ f ∈ s.state.filters, r.Admits f.field
  /-- What the view is ordered by can be ordered by. -/
  order : ∀ o, s.state.order = some o → r.isOrderable o.field = true
  /-- No project has two rows, and the uids of all rows have been seen. -/
  nodup : (s.state.rows.map (·.uid)).Nodup
  seen : ∀ row ∈ s.state.rows, row.uid ∈ s.state.seen
  /-- Before the first page has come there are no rows, no uids seen and no cursor. -/
  blank : s.state.isFirstLoadComplete = false →
    s.state.rows = [] ∧ s.state.seen = [] ∧ s.state.cursor = none
  /-- The generation is 0 just as long as the view is not set up, and then all else is as at
  first. -/
  unset : s.state.generation = 0 ↔ s.state.uid = none
  initial : s.state.generation = 0 → s.state = .initial
  /-- Whatever happens next, the generation grows by one if that starts an operation that
  asks anew and is not refused, and stays as it is if not. -/
  grows : ∀ m, s.Renews m → (s.step m).1.state.generation = s.state.generation + 1
  stays : ∀ m, ¬ s.Renews m → (s.step m).1.state.generation = s.state.generation

/-- **What a view holds is in order, after every run.** -/
theorem run_validityRule (r : Registry) (moves : List Move) :
    ValidityRule r ((Store.empty r).run moves) := by
  have hreached := reached_run r moves
  generalize (Store.empty r).moments moves = past at hreached
  generalize (Store.empty r).run moves = s at hreached
  have hpermitted := hreached.permitted
  have hbegun := hreached.begun
  have hunset : s.state.generation = 0 ↔ s.state.uid = none := by
    constructor
    · intro hzero
      by_contra hset
      exact absurd hzero (Nat.pos_iff_ne_zero.mp (hbegun.counted hset))
    · intro hnone
      rw [hbegun.unset hnone]
      rfl
  have huids := map_uid_replay (newsOf past s.state.generation)
  rw [← hreached.replayed.rows] at huids
  refine ⟨hpermitted.visible, hpermitted.defaults, hpermitted.filters, hpermitted.order, ?_, ?_,
    hbegun.blank, hunset, fun hzero => hbegun.unset (hunset.mp hzero),
    fun m => (effect_step s m).generation_of_renews,
    fun m => (effect_step s m).generation_of_not_renews⟩
  · rw [huids]
    exact (nodup_firsts _).sublist List.filter_sublist
  · intro row hrow
    have huid : row.uid ∈ s.state.rows.map (·.uid) := List.mem_map_of_mem hrow
    rw [huids, List.mem_filter] at huid
    exact (hreached.replayed.seen row.uid).mpr (mem_firsts.mp huid.1)

end ProjectViews
