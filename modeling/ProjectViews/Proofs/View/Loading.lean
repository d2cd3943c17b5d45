/-
The loading flag belongs to exactly one operation.

An operation is outstanding for a generation from the commit that begins it, or that
asks for its next page, until its answer has been taken in.  It may spend that time in
the line of those that save, and any number of newer generations may begin meanwhile,
each with an operation of its own.  `OneEach` is what keeps them apart: there is never a
second operation for a generation, never one for a generation that has not begun, and
the view is loading exactly while there is one for the present generation.

The flag is raised in two places and lowered in a third.  Beginning a generation raises
it for a number that no operation can have yet.  Asking for the next page raises it only
when it is down, so that by the invariant nobody is out for the present generation.  And
an answer lowers it only if it is for the present generation, whose one operation is
then done.
-/
import ProjectViews.Proofs.View.Errand
import Mathlib.Logic.ExistsUnique

namespace ProjectViews

/-- An operation has begun to ask for a page of a generation and has not taken the answer
in. -/
def Store.Outstanding (s : Store) (task generation : Nat) : Prop :=
  ∃ query, s.errand? task = some (generation, query)

/-- Each generation has at most one outstanding operation, and the flag belongs to that
of the present one. -/
structure OneEach (s : Store) : Prop where
  unique : ∀ {t u g : Nat}, s.Outstanding t g → s.Outstanding u g → t = u
  begun : ∀ {t g : Nat}, s.Outstanding t g → g ≤ s.state.generation
  loading : s.state.isLoading = true ↔ ∃ t, s.Outstanding t s.state.generation

/-! ### How errands change who is outstanding -/

theorem outstanding_congr {s t : Store} (h : ∀ u, t.errand? u = s.errand? u) (u g : Nat) :
    t.Outstanding u g ↔ s.Outstanding u g := by
  unfold Store.Outstanding
  rw [h]

theorem outstanding_gain {s t : Store} {task generation : Nat} {query : Query}
    (h : ∀ u, t.errand? u = if u = task then some (generation, query) else s.errand? u)
    (free : s.errand? task = none) (u g : Nat) :
    t.Outstanding u g ↔ (u = task ∧ g = generation) ∨ s.Outstanding u g := by
  unfold Store.Outstanding
  rw [h]
  by_cases hu : u = task
  · subst hu
    rw [if_pos rfl, free]
    constructor
    · rintro ⟨q, hq⟩
      cases hq
      exact Or.inl ⟨rfl, rfl⟩
    · rintro (⟨-, rfl⟩ | ⟨q, hq⟩)
      · exact ⟨query, rfl⟩
      · cases hq
  · rw [if_neg hu]
    exact ⟨Or.inr, fun hq => hq.resolve_left fun hc => hu hc.1⟩

theorem outstanding_loss {s t : Store} {task : Nat}
    (h : ∀ u, t.errand? u = if u = task then none else s.errand? u) (u g : Nat) :
    t.Outstanding u g ↔ u ≠ task ∧ s.Outstanding u g := by
  unfold Store.Outstanding
  rw [h]
  by_cases hu : u = task
  · rw [if_pos hu]
    constructor
    · rintro ⟨q, hq⟩
      cases hq
    · rintro ⟨hne, -⟩
      exact absurd hu hne
  · rw [if_neg hu]
    exact ⟨fun hq => ⟨hu, hq⟩, fun hq => hq.2⟩

/-! ### The invariant -/

namespace OneEach

theorem empty (r : Registry) : OneEach (.empty r) where
  unique := by
    rintro t u g ⟨q, hq⟩
    cases hq
  begun := by
    rintro t g ⟨q, hq⟩
    cases hq
  loading := by
    constructor
    · intro h
      cases h
    · rintro ⟨t, q, hq⟩
      cases hq

/-- One more operation, for a generation that nobody is out for. -/
theorem gain {s t : Store} (h : OneEach s) {task generation : Nat}
    (hout : ∀ u g, t.Outstanding u g ↔ (u = task ∧ g = generation) ∨ s.Outstanding u g)
    (hnobody : ∀ u, ¬ s.Outstanding u generation)
    (hgen : t.state.generation = generation) (hle : s.state.generation ≤ generation)
    (hloading : t.state.isLoading = true) : OneEach t where
  unique := by
    intro a b g ha hb
    rcases (hout a g).mp ha with ⟨hat, hag⟩ | ha' <;>
      rcases (hout b g).mp hb with ⟨hbt, hbg⟩ | hb'
    · rw [hat, hbt]
    · exact absurd (hag ▸ hb') (hnobody b)
    · exact absurd (hbg ▸ ha') (hnobody a)
    · exact h.unique ha' hb'
  begun := by
    intro a g ha
    rcases (hout a g).mp ha with ⟨-, hag⟩ | ha'
    · omega
    · have := h.begun ha'
      omega
  loading := by
    rw [hgen]
    exact ⟨fun _ => ⟨task, (hout task generation).mpr (Or.inl ⟨rfl, rfl⟩)⟩, fun _ => hloading⟩

/-- One operation fewer; if it was the one of the present generation, the flag is down. -/
theorem loss {s t : Store} (h : OneEach s) {task generation : Nat}
    (hout : ∀ u g, t.Outstanding u g ↔ u ≠ task ∧ s.Outstanding u g)
    (htask : s.Outstanding task generation)
    (hgen : t.state.generation = s.state.generation)
    (hloading : t.state.isLoading
      = if s.state.generation = generation then false else s.state.isLoading) : OneEach t where
  unique := fun ha hb => h.unique ((hout _ _).mp ha).2 ((hout _ _).mp hb).2
  begun := by
    intro a g ha
    rw [hgen]
    exact h.begun ((hout a g).mp ha).2
  loading := by
    rw [hloading, hgen]
    by_cases hnow : s.state.generation = generation
    · rw [if_pos hnow]
      refine ⟨fun hc => Bool.noConfusion hc, ?_⟩
      rintro ⟨u, hu⟩
      obtain ⟨hne, hu'⟩ := (hout u _).mp hu
      exact absurd (h.unique hu' (hnow ▸ htask)) hne
    · rw [if_neg hnow, h.loading]
      constructor
      · rintro ⟨u, hu⟩
        refine ⟨u, (hout u _).mpr ⟨?_, hu⟩⟩
        -- the operation that is done was out for another generation
        rintro rfl
        obtain ⟨q, hq⟩ := hu
        obtain ⟨q', hq'⟩ := htask
        rw [hq] at hq'
        cases hq'
        exact hnow rfl
      · rintro ⟨u, hu⟩
        exact ⟨u, ((hout u _).mp hu).2⟩

/-- Every move keeps it. -/
theorem passage {s t : Store} {m : Move} (h : OneEach s) (p : Passage s m t) : OneEach t := by
  cases p with
  | rests generation loading question seen cursor rows noPage errands =>
      have hout := outstanding_congr errands
      refine ⟨fun ha hb => h.unique ((hout _ _).mp ha) ((hout _ _).mp hb), ?_, ?_⟩
      · intro a g ha
        rw [generation]
        exact h.begun ((hout a g).mp ha)
      · rw [loading, generation, h.loading]
        exact exists_congr fun u => (hout u _).symm
  | begins generation loading rows seen cursor free news errands =>
      refine h.gain (outstanding_gain errands free) ?_ generation (by omega) loading
      intro u hu
      have := h.begun hu
      omega
  | continues state idle more free news errands =>
      refine h.gain (outstanding_gain errands free) ?_ (by rw [state]) (Nat.le_refl _)
        (by rw [state])
      -- the flag is down, so nobody is out for the present generation
      intro u hu
      have := h.loading.mpr ⟨u, hu⟩
      simp [idle] at this
  | stale move errand old state news errands =>
      refine h.loss (outstanding_loss errands) ⟨_, errand⟩ (by rw [state]) ?_
      rw [state, if_neg old]
  | page move errand state news errands =>
      refine h.loss (outstanding_loss errands) ⟨_, errand⟩ (by rw [state]; rfl) ?_
      rw [state, if_pos rfl]
  | fails move errand state news errands =>
      refine h.loss (outstanding_loss errands) ⟨_, errand⟩ (by rw [state]) ?_
      rw [state, if_pos rfl]

end OneEach

/-- It holds in every store that a run reaches. -/
theorem Reached.oneEach {r : Registry} {past : List Moment} {s : Store} (h : Reached r past s) :
    OneEach s := by
  induction h with
  | empty => exact .empty r
  | step _ e ih => exact ih.passage e.passage

/-! ### The rule of the loading flag -/

/-- A started operation is outstanding just when its commit began a generation or raised
the flag, and for the generation in which it left the view. -/
theorem outstanding_enter {s : Store} {task : Nat} (op : Operation) (free : s.stage? task = none)
    (g : Nat) : (s.enter task op).Outstanding task g ↔
      g = (s.enter task op).state.generation ∧
        (s.state.generation < g ∨
          s.state.isLoading = false ∧ (s.enter task op).state.isLoading = true) := by
  have henter : s.enter task op = { s with state := (op.commit s.registry s.state).state }.put task
      (.ready (op.commit s.registry s.state).events (op.commit s.registry s.state).next) := by
    rw [Store.enter, free]
  have hout : (s.enter task op).Outstanding task g
      ↔ ∃ q, (op.commit s.registry s.state).next.errand? = some (g, q) := by
    rw [Store.Outstanding, henter, Store.errand?_put, if_pos rfl]
    rfl
  have hstate : (s.enter task op).state = (op.commit s.registry s.state).state := by
    rw [henter]
    rfl
  rw [hout, hstate]
  cases (op.commits s.registry s.state).fetches with
  | begins generation loading rows seen cursor errand news =>
      rw [errand, generation]
      constructor
      · rintro ⟨q, hq⟩
        cases hq
        exact ⟨rfl, Or.inl (Nat.lt_succ_self _)⟩
      · rintro ⟨rfl, -⟩
        exact ⟨_, rfl⟩
  | continues state idle more errand news =>
      rw [errand, state]
      constructor
      · rintro ⟨q, hq⟩
        cases hq
        exact ⟨rfl, Or.inr ⟨idle, rfl⟩⟩
      · rintro ⟨rfl, -⟩
        exact ⟨_, rfl⟩
  | asksNothing generation loading question seen cursor rows errand =>
      rw [errand, generation, loading]
      constructor
      · rintro ⟨q, hq⟩
        cases hq
      · rintro ⟨rfl, hlt | ⟨hdown, hup⟩⟩
        · omega
        · rw [hdown] at hup
          cases hup

/-- An outstanding operation stays so through every move but the one that takes its answer
in. -/
theorem outstanding_step {s : Store} {task g : Nat} (h : s.Outstanding task g) {m : Move}
    (hm : ∀ answer, m ≠ .take task answer) : (s.step m).1.Outstanding task g := by
  cases (effect_step s m).passage with
  | rests generation loading question seen cursor rows noPage errands =>
      exact (outstanding_congr errands task g).mpr h
  | begins generation loading rows seen cursor free news errands =>
      exact (outstanding_gain errands free task g).mpr (Or.inr h)
  | continues state idle more free news errands =>
      exact (outstanding_gain errands free task g).mpr (Or.inr h)
  | stale move errand old state news errands =>
      refine (outstanding_loss errands task g).mpr ⟨?_, h⟩
      rintro rfl
      exact hm _ move
  | page move errand state news errands =>
      refine (outstanding_loss errands task g).mpr ⟨?_, h⟩
      rintro rfl
      exact hm _ move
  | fails move errand state news errands =>
      refine (outstanding_loss errands task g).mpr ⟨?_, h⟩
      rintro rfl
      exact hm _ move

/-- What holds of the loading flag and of those who are outstanding, whatever has
happened. -/
structure LoadingRule (s : Store) : Prop where
  /-- An operation becomes outstanding by the commit that begins a generation or raises
  the flag, for the generation that is then the present one. -/
  starts : ∀ task op g, s.stage? task = none → ((s.enter task op).Outstanding task g ↔
    g = (s.enter task op).state.generation ∧
      (s.state.generation < g ∨
        s.state.isLoading = false ∧ (s.enter task op).state.isLoading = true))
  /-- It stays so, whoever moves, until it takes its answer in. -/
  stays : ∀ task g m, s.Outstanding task g → (∀ answer, m ≠ .take task answer) →
    (s.step m).1.Outstanding task g
  /-- With its answer it is done. -/
  ends : ∀ task g q answer, s.stage? task = some (.fetching g q) →
    ∀ g', ¬ (s.take task answer).Outstanding task g'
  /-- A generation has at most one outstanding operation. -/
  unique : ∀ t u g, s.Outstanding t g → s.Outstanding u g → t = u
  /-- A generation that has not begun has none. -/
  begun : ∀ t g, s.Outstanding t g → g ≤ s.state.generation
  /-- The view is loading just when the present generation has exactly one. -/
  loading : s.state.isLoading = true ↔ ∃! t, s.Outstanding t s.state.generation
  /-- An answer for a generation that is over only ends its own operation, as stale: the
  view, the flag included, and all other operations stay as they are. -/
  stale : ∀ task g q answer, s.stage? task = some (.fetching g q) → g ≠ s.state.generation →
    s.take task answer = s.put task (.ready [] (.done (.fetched (.stale g))))
  /-- An answer for the present generation lowers the flag, and is not stale. -/
  current : ∀ task q answer, s.stage? task = some (.fetching s.state.generation q) →
    (s.take task answer).state.isLoading = false ∧ ∀ events g,
      (s.take task answer).stage? task ≠ some (.ready events (.done (.fetched (.stale g))))
  /-- While nobody is outstanding the view is not loading. -/
  quiet : (∀ t g, ¬ s.Outstanding t g) → s.state.isLoading = false

/-- **The loading flag belongs to the one operation that is out for the present
generation, after every run.** -/
theorem run_loadingRule (r : Registry) (moves : List Move) :
    LoadingRule ((Store.empty r).run moves) := by
  have hone := (reached_run r moves).oneEach
  generalize (Store.empty r).run moves = s at hone
  have htake : ∀ {task g : Nat} {q : Query} (answer : Except Failure RowPage),
      s.stage? task = some (.fetching g q) → s.take task answer
        = { s with state := (s.state.receive g answer).1 }.put task
          (.ready (s.state.receive g answer).2.1
            (.done (.fetched (s.state.receive g answer).2.2))) := by
    intro task g q answer h
    rw [Store.take, h]
  refine ⟨fun task op g free => outstanding_enter op free g,
    fun task g m h hm => outstanding_step h hm, ?_, fun t u g => hone.unique,
    fun t g => hone.begun, ?_, ?_, ?_, ?_⟩
  · rintro task g q answer h g' ⟨q', hq'⟩
    rw [htake answer h, Store.errand?_put, if_pos rfl] at hq'
    cases hq'
  · rw [hone.loading]
    constructor
    · rintro ⟨t, ht⟩
      exact ⟨t, ht, fun u hu => hone.unique hu ht⟩
    · rintro ⟨t, ht, -⟩
      exact ⟨t, ht⟩
  · intro task g q answer h hold
    rw [htake answer h, ViewState.receive_stale s.state answer (Ne.symm hold)]
  · intro task q answer h
    rw [htake answer h, Store.put_state, Store.stage?_put, if_pos rfl]
    cases answer with
    | ok page =>
        rw [ViewState.receive_page]
        exact ⟨rfl, by simp⟩
    | error failure =>
        rw [ViewState.receive_failure]
        exact ⟨rfl, by simp⟩
  · intro hnobody
    cases hloading : s.state.isLoading with
    | false => rfl
    | true =>
        obtain ⟨t, ht⟩ := hone.loading.mp hloading
        exact absurd ht (hnobody t _)

end ProjectViews
