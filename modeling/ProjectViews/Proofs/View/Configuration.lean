/-
The configuration of a view is the work of the operations that configure it.

What a view is, what it asks and what it shows, and how often it has asked anew, is its
configuration; the rest is what it has loaded.  Pages, failures, news of projects and requests for
further pages leave the configuration alone, and what a configuring operation makes of it depends
on nothing but the configuration before.  So after any run it can be computed from the operations
that were granted, in the order of their commits, `Reached.configuration`.  Runs that agree in
these agree in the configuration, in what each generation asks and in the request for its first
page, whatever else happens and whenever it does.

Filters, order and visible fields are three different parts of it, and an operation on one of them
neither reads nor writes the others.  Two such operations can therefore change places.
-/
import ProjectViews.Proofs.View.Refusal
import ProjectViews.Proofs.View.Provenance

namespace ProjectViews

/-! ### What operations make of the configuration -/

/-- A view without what it has loaded. -/
structure Configuration where
  uid : Option String
  baseQuery : String
  defaultFields : List Field
  visibleFields : List Field
  filters : List Filter
  order : Option Order
  generation : Nat
deriving DecidableEq

/-- The configuration of a view. -/
def ViewState.configuration (s : ViewState) : Configuration :=
  ⟨s.uid, s.baseQuery, s.defaultFields, s.visibleFields, s.filters, s.order, s.generation⟩

namespace Configuration

/-- A view of this configuration that has loaded nothing. -/
def view (c : Configuration) : ViewState :=
  { ViewState.initial with
    uid := c.uid
    baseQuery := c.baseQuery
    defaultFields := c.defaultFields
    visibleFields := c.visibleFields
    filters := c.filters
    order := c.order
    generation := c.generation }

/-- What a view of this configuration asks. -/
def question (c : Configuration) : Query := c.view.question

/-- What an operation makes of a configuration. -/
def after (r : Registry) (c : Configuration) (op : Operation) : Configuration :=
  (op.commit r c.view).state.configuration

/-- What operations make of a configuration, one after the other. -/
def afterAll (r : Registry) (c : Configuration) (ops : List Operation) : Configuration :=
  ops.foldl (after r) c

end Configuration

/-- Whether an operation is one that configures the view. -/
def Operation.configures : Operation → Bool
  | setUp _ _ _ _ | setFilters _ | setOrder _ | setFields _ | resetFields | hideField _ | reload =>
    true
  | fetchMore | projectChanged _ | projectDeleted _ => false

/-- Whether an operation ends because it is against the rules. -/
def Next.refuses : Next → Bool
  | done (.refused _) => true
  | _ => false

theorem configuration_updateFields (s : ViewState) (update : ViewState → List Field) :
    (Commit.updateFields s update).state.configuration
      = if s.uid.isNone then s.configuration
        else { s.configuration with visibleFields := update s } := by
  unfold Commit.updateFields
  cases huid : s.uid with
  | none => rfl
  | some uid =>
      by_cases hsame : update s = s.visibleFields
      · simp [hsame, Commit.nothing, ViewState.configuration, huid]
      · simp [hsame, ViewState.configuration, huid]

/-- **What a commit makes of the configuration does not depend on what is loaded.** -/
theorem configuration_commit (r : Registry) (s : ViewState) (op : Operation) :
    (op.commit r s).state.configuration = s.configuration.after r op := by
  obtain ⟨uid, baseQuery, defaults, visible, filters, order, rows, seen, cursor, isLoading,
    isFirstLoadComplete, generation⟩ := s
  cases op with
  | setUp uid' baseQuery' fields saved =>
      cases uid with
      | none => cases saved <;> rfl
      | some existing => rfl
  | setFilters filters' =>
      simp only [Configuration.after, Operation.commit]
      cases filters'.find? fun f => r.isExcluded f.field with
      | some f => rfl
      | none => cases uid <;> rfl
  | setOrder order' =>
      simp only [Configuration.after, Operation.commit]
      cases r.isOrderable order'.field with
      | false => rfl
      | true => cases uid <;> rfl
  | setFields fields =>
      simp only [Configuration.after, Operation.commit, configuration_updateFields]
      rfl
  | resetFields =>
      simp only [Configuration.after, Operation.commit, configuration_updateFields]
      rfl
  | hideField field =>
      simp only [Configuration.after, Operation.commit, configuration_updateFields]
      rfl
  | fetchMore =>
      cases isLoading with
      | true => rfl
      | false => cases cursor <;> rfl
  | reload => cases uid <;> rfl
  | projectChanged row =>
      rw [commit_projectChanged]
      rfl
  | projectDeleted deleted =>
      rw [commit_projectDeleted]
      rfl

/-- An operation that does not configure the view leaves the configuration alone. -/
theorem configuration_of_not_configures {op : Operation} (h : op.configures = false)
    (r : Registry) (s : ViewState) :
    (op.commit r s).state.configuration = s.configuration := by
  rw [configuration_commit]
  cases op with
  | fetchMore => rfl
  | projectChanged row => rfl
  | projectDeleted uid => rfl
  | setUp uid baseQuery fields saved => cases h
  | setFilters filters => cases h
  | setOrder order => cases h
  | setFields fields => cases h
  | resetFields => cases h
  | hideField field => cases h
  | reload => cases h

/-- So does one that is refused. -/
theorem configuration_of_refuses {r : Registry} {s : ViewState} {op : Operation}
    (h : (op.commit r s).next.refuses = true) :
    (op.commit r s).state.configuration = s.configuration := by
  cases op.verdict r s with
  | refused _ v commit => rw [commit]; rfl
  | granted _ next _ =>
      unfold Next.refuses at h
      split at h
      · rename_i v hv
        exact absurd hv (next v)
      · cases h

/-- Answers leave the configuration alone. -/
theorem configuration_receive (s : ViewState) (generation : Nat)
    (answer : Except Failure RowPage) :
    (s.receive generation answer).1.configuration = s.configuration := by
  by_cases h : s.generation = generation
  · subst h
    cases answer with
    | ok page => rw [ViewState.receive_page]; rfl
    | error failure => rw [ViewState.receive_failure]; rfl
  · rw [ViewState.receive_stale s answer h]

/-! ### Operations that were granted -/

/-- The operation that configures the view with a move. -/
def Store.configured? (s : Store) : Move → Option Operation
  | .enter task op =>
    if (s.stage? task).isNone && op.configures
        && !(op.commit s.registry s.state).next.refuses then some op
    else none
  | _ => none

/-- The operations that have configured the view, in the order of their commits. -/
def configuredBy (past : List Moment) : List Operation :=
  past.filterMap fun m => m.before.configured? m.move

theorem configuredBy_concat (past : List Moment) (m : Moment) :
    configuredBy (past ++ [m]) = configuredBy past ++ (m.before.configured? m.move).toList := by
  rw [configuredBy, List.filterMap_append]
  rfl

/-- A move makes of the configuration what the operation does that configures the view. -/
theorem Effect.configuration {s : Store} {m : Move} {t : Store × List Output} (e : Effect s m t) :
    t.1.state.configuration
      = s.state.configuration.afterAll s.registry (s.configured? m).toList := by
  cases e with
  | ignored h =>
      have hnone : s.configured? m = none := by
        cases m with
        | enter task op =>
            cases hstage : s.stage? task with
            | none => exact absurd hstage h
            | some stage => simp [Store.configured?, hstage]
        | goOn task => rfl
        | takeTurn task => rfl
        | endTurn task worked => rfl
        | take task answer => rfl
      rw [hnone]
      rfl
  | @entered task op free =>
      show (op.commit s.registry s.state).state.configuration = _
      rw [Store.configured?, free]
      cases hconfigures : op.configures with
      | false => exact configuration_of_not_configures hconfigures s.registry s.state
      | true =>
          cases hrefuses : (op.commit s.registry s.state).next.refuses with
          | true => exact configuration_of_refuses hrefuses
          | false => exact configuration_commit s.registry s.state op
  | took => exact configuration_receive s.state _ _
  | ended => rfl
  | asked => rfl
  | joined => rfl
  | handed => rfl
  | saved => rfl

theorem Configuration.afterAll_append (r : Registry) (c : Configuration)
    (ops later : List Operation) :
    c.afterAll r (ops ++ later) = (c.afterAll r ops).afterAll r later :=
  List.foldl_append

/-- **The configuration is what those operations make of it, one after the other.** -/
theorem Reached.configuration {r : Registry} {past : List Moment} {s : Store}
    (h : Reached r past s) :
    s.state.configuration
      = ViewState.initial.configuration.afterAll r (configuredBy past) := by
  induction h with
  | empty => rfl
  | @step past s m t h e ih =>
      rw [e.configuration, configuredBy_concat, Configuration.afterAll_append, ← ih, h.registry]

/-! ### What each generation asks -/

/-- What a move asks anew: the generation that it begins and the question of that. -/
def Configuration.begun (r : Registry) (c : Configuration) (op : Operation) :
    List (Nat × Query) :=
  if (c.after r op).generation = c.generation then []
  else [((c.after r op).generation, (c.after r op).question)]

/-- The generations that operations begin, one after the other, and their questions. -/
def Configuration.begunAll (r : Registry) : Configuration → List Operation → List (Nat × Query)
  | _, [] => []
  | c, op :: rest => c.begun r op ++ (c.after r op).begunAll r rest

theorem Configuration.begunAll_append (r : Registry) (c : Configuration)
    (ops later : List Operation) :
    c.begunAll r (ops ++ later) = c.begunAll r ops ++ (c.afterAll r ops).begunAll r later := by
  induction ops generalizing c with
  | nil => rfl
  | cons op rest ih =>
      rw [List.cons_append, begunAll, begunAll, ih, List.append_assoc]
      rfl

theorem Configuration.generation_after (r : Registry) (c : Configuration) (op : Operation) :
    (c.after r op).generation = c.generation ∨ (c.after r op).generation = c.generation + 1 := by
  cases (op.commits r c.view).fetches with
  | begins generation => exact Or.inr generation
  | continues state => exact Or.inl (congrArg ViewState.generation state)
  | asksNothing generation => exact Or.inl generation

theorem Configuration.mem_begun {r : Registry} {c : Configuration} {op : Operation} {g : Nat}
    {q : Query} :
    (g, q) ∈ c.begun r op ↔
      c.generation < g ∧ g = (c.after r op).generation ∧ q = (c.after r op).question := by
  have hgrows := c.generation_after r op
  unfold begun
  by_cases hsame : (c.after r op).generation = c.generation
  · rw [if_pos hsame]
    refine iff_of_false List.not_mem_nil ?_
    rintro ⟨hlt, heq, -⟩
    omega
  · rw [if_neg hsame, List.mem_singleton, Prod.mk.injEq]
    constructor
    · rintro ⟨rfl, rfl⟩
      exact ⟨by omega, rfl, rfl⟩
    · rintro ⟨-, hg, hq⟩
      exact ⟨hg, hq⟩

theorem Configuration.lt_of_mem_begunAll {r : Registry} {ops : List Operation} {g : Nat}
    {q : Query} {c : Configuration} (h : (g, q) ∈ c.begunAll r ops) : c.generation < g := by
  induction ops generalizing c with
  | nil => cases h
  | cons op rest ih =>
      rw [begunAll, List.mem_append] at h
      have hgrows := c.generation_after r op
      rcases h with hnow | hlater
      · exact (mem_begun.mp hnow).1
      · have := ih hlater
        omega

/-- A generation begins once. -/
theorem Configuration.begunAll_unique {r : Registry} {ops : List Operation} {g : Nat}
    {q q' : Query} {c : Configuration} (h : (g, q) ∈ c.begunAll r ops)
    (h' : (g, q') ∈ c.begunAll r ops) : q = q' := by
  induction ops generalizing c with
  | nil => cases h
  | cons op rest ih =>
      rw [begunAll, List.mem_append] at h h'
      rcases h with hnow | hlater
      · obtain ⟨-, hg, rfl⟩ := mem_begun.mp hnow
        rcases h' with hnow' | hlater'
        · exact (mem_begun.mp hnow').2.2.symm
        · have := lt_of_mem_begunAll hlater'
          omega
      · rcases h' with hnow' | hlater'
        · obtain ⟨-, hg, -⟩ := mem_begun.mp hnow'
          have := lt_of_mem_begunAll hlater
          omega
        · exact ih hlater hlater'

/-- A generation has begun at some time, with a question. -/
def BegunAsking (past : List Moment) (generation : Nat) (question : Query) : Prop :=
  ∃ m ∈ past, m.Begins generation ∧ m.after.state.question = question

theorem begunAsking_concat {past : List Moment} {m : Moment} {g : Nat} {q : Query} :
    BegunAsking (past ++ [m]) g q ↔
      BegunAsking past g q ∨ (m.Begins g ∧ m.after.state.question = q) := by
  unfold BegunAsking
  constructor
  · rintro ⟨b, hb, hbegins⟩
    rcases List.mem_append.mp hb with hold | hnew
    · exact Or.inl ⟨b, hold, hbegins⟩
    · exact Or.inr (List.mem_singleton.mp hnew ▸ hbegins)
  · rintro (⟨b, hb, hbegins⟩ | hbegins)
    · exact ⟨b, List.mem_append_left _ hb, hbegins⟩
    · exact ⟨m, List.mem_append_right _ List.mem_cons_self, hbegins⟩

/-- A move begins a generation if it is of an operation that configures the view and asks
anew. -/
theorem Effect.begins_iff {s : Store} {m : Move} {t : Store × List Output} (e : Effect s m t)
    {g : Nat} {q : Query} :
    (s.state.generation < g ∧ t.1.state.generation = g) ∧ t.1.state.question = q ↔
      (g, q) ∈ s.state.configuration.begunAll s.registry (s.configured? m).toList := by
  have hafter := e.configuration
  cases hop : s.configured? m with
  | none =>
      rw [hop] at hafter
      have hsame : t.1.state.generation = s.state.generation :=
        congrArg Configuration.generation hafter
      refine iff_of_false ?_ List.not_mem_nil
      rintro ⟨⟨hlt, heq⟩, -⟩
      omega
  | some op =>
      rw [hop] at hafter
      have hconfiguration : s.state.configuration.after s.registry op = t.1.state.configuration :=
        hafter.symm
      show _ ↔ (g, q) ∈ s.state.configuration.begun s.registry op ++ []
      rw [List.append_nil, Configuration.mem_begun, hconfiguration]
      constructor
      · rintro ⟨⟨hlt, hg⟩, hq⟩
        exact ⟨hlt, hg.symm, hq.symm⟩
      · rintro ⟨hlt, hg, hq⟩
        exact ⟨⟨hlt, hg.symm⟩, hq.symm⟩

/-- **Which generations have begun and what they ask is known from those operations.** -/
theorem Reached.begun_iff {r : Registry} {past : List Moment} {s : Store} (h : Reached r past s)
    {g : Nat} {q : Query} :
    BegunAsking past g q ↔
      (g, q) ∈ ViewState.initial.configuration.begunAll r (configuredBy past) := by
  induction h with
  | empty => exact iff_of_false (fun ⟨_, hm, _⟩ => nomatch hm) List.not_mem_nil
  | @step past s m t h e ih =>
      have hbefore : s.state.configuration
          = ViewState.initial.configuration.afterAll r (configuredBy past) := h.configuration
      have hbegins := e.begins_iff (g := g) (q := q)
      rw [h.registry, hbefore] at hbegins
      rw [begunAsking_concat, ih, configuredBy_concat, Configuration.begunAll_append,
        List.mem_append]
      exact or_congr_right hbegins

/-! ### Operations that change places -/

/-- The parts of a configuration that operations change on their own. -/
inductive Aspect where
  | filters
  | order
  | fields
deriving DecidableEq

/-- The part of the configuration that an operation is about, if it is about one of them. -/
def Operation.aspect? : Operation → Option Aspect
  | setFilters _ => some .filters
  | setOrder _ => some .order
  | setFields _ | resetFields | hideField _ => some .fields
  | _ => none

/-- Two operations that are about different parts of the configuration. -/
def Operation.Apart (a b : Operation) : Prop :=
  ∃ x y, a.aspect? = some x ∧ b.aspect? = some y ∧ x ≠ y

theorem Operation.Apart.symm {a b : Operation} (h : a.Apart b) : b.Apart a := by
  obtain ⟨x, y, ha, hb, hne⟩ := h
  exact ⟨y, x, hb, ha, hne.symm⟩

/-- What is written to one part of the configuration.  Fields are found without a look at the
rest. -/
inductive Writes : Aspect → (ViewState → ViewState) → Prop
  | filters (filters : List Filter) :
      Writes .filters fun s => { s with filters := filters }.beginGeneration
  | order (order : Order) :
      Writes .order fun s => { s with order := some order }.beginGeneration
  | fields (update : List Field → List Field → List Field) :
      Writes .fields fun s => { s with visibleFields := update s.defaultFields s.visibleFields }

theorem Writes.uid {x : Aspect} {write : ViewState → ViewState} (h : Writes x write)
    (s : ViewState) : (write s).uid = s.uid := by
  cases h <;> rfl

/-- Different parts can be written in either order. -/
theorem Writes.comm {x y : Aspect} {write write' : ViewState → ViewState} (h : Writes x write)
    (h' : Writes y write') (hne : x ≠ y) (s : ViewState) : write (write' s) = write' (write s) := by
  cases h with
  | filters filters =>
      cases h' with
      | filters => exact absurd rfl hne
      | order order => rfl
      | fields update => rfl
  | order order =>
      cases h' with
      | filters filters => rfl
      | order => exact absurd rfl hne
      | fields update => rfl
  | fields update =>
      cases h' with
      | filters filters => rfl
      | order order => rfl
      | fields => exact absurd rfl hne

theorem state_updateFields (s : ViewState) (update : ViewState → List Field) :
    (Commit.updateFields s update).state
      = if s.uid.isSome then { s with visibleFields := update s } else s := by
  obtain ⟨uid, baseQuery, defaults, visible, filters, order, rows, seen, cursor, isLoading,
    isFirstLoadComplete, generation⟩ := s
  cases uid with
  | none => rfl
  | some uid =>
      simp only [Commit.updateFields, Option.isSome_some, if_true]
      split
      · rename_i hsame
        rw [hsame]
        rfl
      · rfl

/-- An operation about one part writes it, if that is granted and the view is set up. -/
theorem Operation.exists_writes (r : Registry) {op : Operation} {x : Aspect}
    (h : op.aspect? = some x) : ∃ granted write, Writes x write ∧
      ∀ s, (op.commit r s).state = if granted && s.uid.isSome then write s else s := by
  cases op with
  | setFilters filters =>
      obtain rfl := Option.some.inj h
      refine ⟨(filters.find? fun f => r.isExcluded f.field).isNone, _, .filters filters,
        fun s => ?_⟩
      rw [commit]
      cases filters.find? fun f => r.isExcluded f.field with
      | some f => rfl
      | none => cases s.uid <;> rfl
  | setOrder order =>
      obtain rfl := Option.some.inj h
      refine ⟨r.isOrderable order.field, _, .order order, fun s => ?_⟩
      rw [commit]
      cases r.isOrderable order.field with
      | false => rfl
      | true => cases s.uid <;> rfl
  | setFields fields =>
      obtain rfl := Option.some.inj h
      exact ⟨true, _, .fields fun _ _ => ViewState.admitted r fields,
        fun s => state_updateFields s _⟩
  | resetFields =>
      obtain rfl := Option.some.inj h
      exact ⟨true, _, .fields fun defaults _ => defaults, fun s => state_updateFields s _⟩
  | hideField field =>
      obtain rfl := Option.some.inj h
      exact ⟨true, _, .fields fun _ visible => visible.filter (· != field),
        fun s => state_updateFields s _⟩
  | setUp uid baseQuery fields saved => cases h
  | fetchMore => cases h
  | reload => cases h
  | projectChanged row => cases h
  | projectDeleted uid => cases h

/-- **Operations about different parts can change places.** -/
theorem Operation.Apart.commit_comm {a b : Operation} (h : a.Apart b) (r : Registry)
    (s : ViewState) :
    (b.commit r (a.commit r s).state).state = (a.commit r (b.commit r s).state).state := by
  obtain ⟨x, y, ha, hb, hne⟩ := h
  obtain ⟨granted, write, hwrite, hstate⟩ := a.exists_writes r ha
  obtain ⟨granted', write', hwrite', hstate'⟩ := b.exists_writes r hb
  rw [hstate', hstate s, hstate, hstate' s]
  cases granted with
  | false => simp
  | true =>
      cases granted' with
      | false => simp
      | true =>
          cases huid : s.uid with
          | none => simp [huid]
          | some uid =>
              have hwritten := hwrite.uid s
              have hwritten' := hwrite'.uid s
              simp [huid, hwritten, hwritten', hwrite.comm hwrite' hne s]

theorem Operation.Apart.after_comm {a b : Operation} (h : a.Apart b) (r : Registry)
    (c : Configuration) : (c.after r a).after r b = (c.after r b).after r a := by
  have hcommit := congrArg ViewState.configuration (h.commit_comm r c.view)
  rw [configuration_commit, configuration_commit, configuration_commit,
    configuration_commit] at hcommit
  exact hcommit

/-! ### The rule of the configuration -/

/-- The operations that configure the view in a run. -/
def configuredIn (r : Registry) (moves : List Move) : List Operation :=
  configuredBy ((Store.empty r).moments moves)

theorem configuredIn_of_earlier (r : Registry) {earlier moves : List Move} (h : earlier <+: moves) :
    configuredIn r earlier <+: configuredIn r moves := by
  obtain ⟨later, rfl⟩ := h
  refine ⟨configuredBy (((Store.empty r).run earlier).moments later), ?_⟩
  rw [configuredIn, configuredIn, Store.moments_append, configuredBy, configuredBy, configuredBy,
    List.filterMap_append]

/-- In a run the first page of a generation is asked for with a request. -/
def FirstRequest (past : List Moment) (generation : Nat) (query : Query) : Prop :=
  ∃ m ∈ past, ∃ task, .request task query ∈ m.outputs ∧
    m.after.stage? task = some (.fetching generation query) ∧ query.cursor = none

/-- A request for a first page asks what its generation asks. -/
theorem Reached.begun_of_firstRequest {r : Registry} {past : List Moment} {s : Store}
    (h : Reached r past s) {g : Nat} {q : Query} (first : FirstRequest past g q) :
    BegunAsking past g q := by
  obtain ⟨m, hm, task, hrequest, hstage, hcursor⟩ := first
  obtain ⟨earlier, later, rfl⟩ := List.append_of_mem hm
  obtain ⟨hbefore, heffect⟩ := h.split rfl
  obtain ⟨g', herrand, hstage'⟩ := heffect.request hrequest
  obtain ⟨rfl, -⟩ := Stage.fetching.inj (Option.some.inj (hstage.symm.trans hstage'))
  obtain ⟨⟨⟨b, hb, hbegins⟩, hall⟩, -⟩ := hbefore.provenance.errand herrand
  have hquestion : q.question = q := by
    obtain ⟨baseQuery, filters, order, cursor⟩ := q
    obtain rfl : cursor = none := hcursor
    rfl
  exact ⟨b, List.mem_append_left _ hb, hbegins, (hall b hb hbegins).trans hquestion⟩

/-- What the configuration of a view depends on. -/
structure ConfigurationRule (r : Registry) : Prop where
  /-- Take two runs in which the same operations configure the view, in the same order, as far as
  either of them has come.  Whenever as many of them have committed in the one as in the other, the
  configurations agree. -/
  agrees : ∀ moves moves', configuredIn r moves <+: configuredIn r moves' →
    ∀ earlier earlier', earlier <+: moves → earlier' <+: moves' →
    (configuredIn r earlier).length = (configuredIn r earlier').length →
    ((Store.empty r).run earlier).state.configuration
      = ((Store.empty r).run earlier').state.configuration
  /-- And where the first page of a generation is asked for in both, it is with the same
  request. -/
  requests : ∀ moves moves', configuredIn r moves <+: configuredIn r moves' → ∀ g q q',
    FirstRequest ((Store.empty r).moments moves) g q →
    FirstRequest ((Store.empty r).moments moves') g q' → q = q'
  /-- If two operations about different parts of the configuration have changed places, one right
  after the other, the configurations still agree after both. -/
  exchanged : ∀ moves moves' ops a b later, a.Apart b →
    configuredIn r moves = ops ++ a :: b :: later → configuredIn r moves' = ops ++ b :: a :: later →
    ((Store.empty r).run moves).state.configuration
      = ((Store.empty r).run moves').state.configuration
  /-- And if nothing else happens meanwhile, so does all of the view. -/
  states : ∀ moves a b t u, a.Apart b → t ≠ u →
    ((Store.empty r).run moves).stage? t = none → ((Store.empty r).run moves).stage? u = none →
    ((Store.empty r).run (moves ++ [.enter t a, .enter u b])).state
      = ((Store.empty r).run (moves ++ [.enter u b, .enter t a])).state

/-- **The configuration of a view depends on nothing but the operations that configure it.** -/
theorem run_configurationRule (r : Registry) : ConfigurationRule r := by
  have hconfiguration : ∀ moves, ((Store.empty r).run moves).state.configuration
      = ViewState.initial.configuration.afterAll r (configuredIn r moves) :=
    fun moves => (reached_run r moves).configuration
  refine ⟨?_, ?_, ?_, ?_⟩
  · intro moves moves' hsame earlier earlier' hearlier hearlier' hcount
    have hprefix := (configuredIn_of_earlier r hearlier).trans hsame
    have hprefix' := configuredIn_of_earlier r hearlier'
    have heq : configuredIn r earlier = configuredIn r earlier' :=
      (List.prefix_of_prefix_length_le hprefix hprefix' (Nat.le_of_eq hcount)).eq_of_length hcount
    rw [hconfiguration, hconfiguration, heq]
  · intro moves moves' ⟨more, hmore⟩ g q q' hq hq'
    have hreached := reached_run r moves
    have hreached' := reached_run r moves'
    have hbegun := hreached.begun_iff.mp (hreached.begun_of_firstRequest hq)
    have hbegun' := hreached'.begun_iff.mp (hreached'.begun_of_firstRequest hq')
    have hlater : (g, q) ∈ ViewState.initial.configuration.begunAll r (configuredIn r moves') := by
      rw [← hmore, Configuration.begunAll_append]
      exact List.mem_append_left _ hbegun
    exact Configuration.begunAll_unique hlater hbegun'
  · intro moves moves' ops a b later hapart hmoves hmoves'
    have hboth : ∀ c : Configuration,
        c.afterAll r (a :: b :: later) = c.afterAll r (b :: a :: later) := by
      intro c
      show ((c.after r a).after r b).afterAll r later = ((c.after r b).after r a).afterAll r later
      rw [hapart.after_comm]
    rw [hconfiguration, hconfiguration, hmoves, hmoves', Configuration.afterAll_append,
      Configuration.afterAll_append, hboth]
  · intro moves a b t u hapart hne ht hu
    have hregistry := (reached_run r moves).registry
    rw [Store.run_append, Store.run_append]
    generalize (Store.empty r).run moves = s at ht hu hregistry
    have hafter : (s.enter t a).stage? u = none := by
      rw [Store.enter, ht, Store.stage?_put, if_neg (Ne.symm hne)]
      exact hu
    have hafter' : (s.enter u b).stage? t = none := by
      rw [Store.enter, hu, Store.stage?_put, if_neg hne]
      exact ht
    show ((s.enter t a).enter u b).state = ((s.enter u b).enter t a).state
    have htwice := hapart.commit_comm s.registry s.state
    simp only [Store.enter, ht, hu] at hafter hafter' ⊢
    simp only [hafter, hafter', Store.put_state]
    exact htwice

end ProjectViews
