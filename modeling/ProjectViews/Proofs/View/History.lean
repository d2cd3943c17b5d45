/-
What has happened to a view so far, generation by generation.

Generations only ever count up, one at a time, and so none of them comes back.  What the
view learnt while a generation was the present one is therefore one stretch of the past,
which `newsOf` picks out by the number alone.
-/
import ProjectViews.Proofs.View.Loading

namespace ProjectViews

/-- A generation begins in a moment. -/
def Moment.Begins (m : Moment) (generation : Nat) : Prop :=
  m.before.state.generation < generation ∧ m.after.state.generation = generation

/-- What the view learnt in a generation, the first news first. -/
def newsOf (past : List Moment) (generation : Nat) : List News :=
  past.filterMap fun m =>
    if m.before.state.generation = generation then m.before.news? m.move else none

theorem newsOf_append (past more : List Moment) (generation : Nat) :
    newsOf (past ++ more) generation = newsOf past generation ++ newsOf more generation :=
  List.filterMap_append

theorem newsOf_concat (past : List Moment) (m : Moment) (generation : Nat) :
    newsOf (past ++ [m]) generation = newsOf past generation
      ++ if m.before.state.generation = generation then (m.before.news? m.move).toList else [] := by
  rw [newsOf, newsOf, List.filterMap_append]
  congr 1
  by_cases h : m.before.state.generation = generation
  · rw [if_pos h, List.filterMap_cons, if_pos h, List.filterMap_nil]
    cases m.before.news? m.move <;> rfl
  · rw [if_neg h, List.filterMap_cons, if_neg h, List.filterMap_nil]

/-- What was learnt stays learnt. -/
theorem mem_newsOf_concat {past : List Moment} {n : News} {generation : Nat} (m : Moment)
    (h : n ∈ newsOf past generation) : n ∈ newsOf (past ++ [m]) generation := by
  rw [newsOf_concat]
  exact List.mem_append_left _ h

/-! ### Generations count up -/

theorem Passage.generation_cases {s t : Store} {m : Move} (p : Passage s m t) :
    t.state.generation = s.state.generation ∨ t.state.generation = s.state.generation + 1 := by
  cases p with
  | rests generation => exact Or.inl generation
  | begins generation => exact Or.inr generation
  | continues state => exact Or.inl (by rw [state])
  | stale _ _ _ state => exact Or.inl (by rw [state])
  | page _ _ state => exact Or.inl (by rw [state]; rfl)
  | fails _ _ state => exact Or.inl (by rw [state])

theorem generation_le_run (s : Store) (moves : List Move) :
    s.state.generation ≤ (s.run moves).state.generation := by
  induction moves generalizing s with
  | nil => exact Nat.le_refl _
  | cons m rest ih =>
      have hstep := (effect_step s m).passage.generation_cases
      have hrest : (s.step m).1.state.generation ≤ (s.run (m :: rest)).state.generation :=
        ih (s.step m).1
      omega

/-- No moment of the past lies in a later generation than the present one. -/
theorem Reached.generation_le {r : Registry} {past : List Moment} {s : Store}
    (h : Reached r past s) : ∀ m ∈ past, m.before.state.generation ≤ s.state.generation ∧
      m.after.state.generation ≤ s.state.generation := by
  induction h with
  | empty =>
      intro m hm
      cases hm
  | @step past s m t _ e ih =>
      have hstep := e.passage.generation_cases
      intro b hb
      rcases List.mem_append.mp hb with hb' | hb'
      · have := ih b hb'
        omega
      · rw [List.mem_singleton.mp hb']
        show s.state.generation ≤ t.1.state.generation
          ∧ t.1.state.generation ≤ t.1.state.generation
        omega

/-- Nothing has been learnt yet in a generation that is still to come. -/
theorem Reached.newsOf_later {r : Registry} {past : List Moment} {s : Store}
    (h : Reached r past s) {generation : Nat} (hlt : s.state.generation < generation) :
    newsOf past generation = [] := by
  rw [newsOf, List.filterMap_eq_nil_iff]
  intro m hm
  have := (h.generation_le m hm).1
  rw [if_neg (by omega)]

/-- The present generation learns what the next move tells. -/
theorem newsOf_present (past : List Moment) (s : Store) (m : Move) (t : Store × List Output) :
    newsOf (past ++ [⟨s, m, t.2, t.1⟩]) s.state.generation
      = newsOf past s.state.generation ++ (s.news? m).toList := by
  rw [newsOf_concat]
  exact congrArg _ (if_pos rfl)

/-- A generation that is still to come has learnt nothing by the next move either. -/
theorem Reached.newsOf_begun {r : Registry} {past : List Moment} {s : Store}
    (h : Reached r past s) (m : Move) (t : Store × List Output) :
    newsOf (past ++ [⟨s, m, t.2, t.1⟩]) (s.state.generation + 1) = [] := by
  rw [newsOf_concat, h.newsOf_later (Nat.lt_succ_self _)]
  exact if_neg (Nat.ne_of_lt (Nat.lt_succ_self _))

/-- A generation that has begun does not begin again. -/
theorem not_begins_of_le {s : Store} {m : Move} {t : Store × List Output} {generation : Nat}
    (h : generation ≤ s.state.generation) :
    ¬ Moment.Begins ⟨s, m, t.2, t.1⟩ generation := by
  rintro ⟨hlt, -⟩
  exact Nat.not_lt.mpr h hlt

end ProjectViews
