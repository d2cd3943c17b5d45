/-
What those who watch a view are told in the long run.

Watchers rely on more than the single events.  A generation is announced once, and before
anything else is said of it; nobody hears again of a generation that is over; its first page
is the first one, however often loading it has failed before; and no change goes untold, nor
is anything told when nothing has happened.

The runs here are those in which an operation that can go on does so, and they are looked at
stint by stint.  What is told in a run is what its stints have to tell, one after the other,
and the `Tidings` of each say nearly all.  One thing has to be known besides: the flag for
the first page is up just when a page of the present generation has been taken in.
-/
import ProjectViews.Proofs.View.Tidings

namespace ProjectViews

/-- A stint in a run: the store before it, what it gave to the outside, and the store after
it. -/
structure Scene where
  before : Store
  stint : Stint
  outputs : List Output
  after : Store

/-- The scenes of a run, the first one first. -/
def Store.scenes (s : Store) : List Stint → List Scene
  | [] => []
  | x :: rest => ⟨s, x, (s.perform x).2, (s.perform x).1⟩ :: (s.perform x).1.scenes rest

/-- What someone is told who has watched from the start. -/
def stream (past : List Scene) : List Event := past.flatMap fun c => told c.outputs

/-- The view takes a page of a generation in that is the present one. -/
def Scene.Accepts (c : Scene) (generation : Nat) : Prop :=
  c.before.state.generation = generation ∧ c.before.Accepts c.stint

theorem stream_concat (past : List Scene) (c : Scene) :
    stream (past ++ [c]) = stream past ++ told c.outputs := by
  simp [stream]

/-- The stream of a run is all that it tells. -/
theorem stream_scenes (s : Store) (stints : List Stint) :
    stream (s.scenes stints) = told (s.play (stints.flatMap Stint.moves)).2 := by
  induction stints generalizing s with
  | nil => rfl
  | cons x rest ih =>
      have hcons : stream (s.scenes (x :: rest))
          = told (s.perform x).2 ++ stream ((s.perform x).1.scenes rest) := rfl
      rw [hcons, ih, List.flatMap_cons, Store.play_append, told_append, ← Store.perform_eq_play]

theorem exists_accepts_concat {past : List Scene} {c : Scene} {g : Nat} :
    (∃ b ∈ past ++ [c], b.Accepts g) ↔ (∃ b ∈ past, b.Accepts g) ∨ c.Accepts g := by
  constructor
  · rintro ⟨b, hb, haccepts⟩
    rcases List.mem_append.mp hb with hb | hb
    · exact Or.inl ⟨b, hb, haccepts⟩
    · rw [← List.mem_singleton.mp hb]
      exact Or.inr haccepts
  · rintro (⟨b, hb, haccepts⟩ | haccepts)
    · exact ⟨b, List.mem_append_left _ hb, haccepts⟩
    · exact ⟨c, List.mem_append_right _ List.mem_cons_self, haccepts⟩

/-! ### Runs of stints -/

/-- The stores that stints lead to, with the scenes until then. -/
inductive Performed (r : Registry) : List Scene → Store → Prop
  | empty : Performed r [] (.empty r)
  | step {past : List Scene} {s : Store} (h : Performed r past s) (x : Stint) :
      Performed r (past ++ [⟨s, x, (s.perform x).2, (s.perform x).1⟩]) (s.perform x).1

namespace Performed

variable {r : Registry} {past : List Scene} {s : Store}

theorem performAll (h : Performed r past s) (stints : List Stint) :
    Performed r (past ++ s.scenes stints) (s.performAll stints) := by
  induction stints generalizing past s with
  | nil =>
      rw [Store.scenes, List.append_nil]
      exact h
  | cons x rest ih =>
      have hrest := ih (h.step x)
      rw [List.append_assoc] at hrest
      exact hrest

/-- Between stints everybody waits. -/
theorem settled (h : Performed r past s) : s.Settled := by
  induction h with
  | empty =>
      intro task events next hstage
      cases hstage
  | step _ x ih => exact (ih.course x).settled

/-- So each stint has one of the tidings to tell. -/
theorem tidings (h : Performed r past s) (x : Stint) : Tidings s x (s.perform x) :=
  (h.settled.course x).tidings

/-- No scene of the past was in a later generation. -/
theorem generation_le (h : Performed r past s) :
    ∀ c ∈ past, c.before.state.generation ≤ s.state.generation := by
  induction h with
  | empty => simp
  | @step past s h x ih =>
      have hcount := (h.tidings x).generation_cases
      intro c hc
      rcases List.mem_append.mp hc with hc | hc
      · have := ih c hc
        omega
      · rw [List.mem_singleton.mp hc]
        show s.state.generation ≤ (s.perform x).1.state.generation
        omega

/-- Whatever was told of generations was told of those that have begun. -/
theorem tag_le (h : Performed r past s) :
    ∀ g ∈ (stream past).filterMap Event.generation?, g ≤ s.state.generation := by
  induction h with
  | empty => simp [stream]
  | @step past s h x ih =>
      have hcount := (h.tidings x).generation_cases
      intro g hg
      rw [stream_concat, List.filterMap_append, List.mem_append] at hg
      rcases hg with hg | hg
      · have := ih g hg
        omega
      · exact Nat.le_of_eq ((h.tidings x).generation_of_told g hg)

/-- Generations are told of in their order. -/
theorem tags_sorted (h : Performed r past s) :
    ((stream past).filterMap Event.generation?).Pairwise (· ≤ ·) := by
  induction h with
  | empty => exact List.Pairwise.nil
  | @step past s h x ih =>
      have htold := (h.tidings x).generation_of_told
      have hcount := (h.tidings x).generation_cases
      rw [stream_concat, List.filterMap_append, List.pairwise_append]
      refine ⟨ih, ?_, ?_⟩
      · refine List.pairwise_of_forall_mem_list fun a ha b hb => ?_
        exact Nat.le_of_eq ((htold a ha).trans (htold b hb).symm)
      · intro a ha b hb
        have := h.tag_le a ha
        have := htold b hb
        omega

/-- Every generation that has begun was announced, once. -/
theorem count_rowsReset (h : Performed r past s) (g : Nat) : (stream past).count (.rowsReset g)
    = if 0 < g ∧ g ≤ s.state.generation then 1 else 0 := by
  induction h with
  | empty =>
      have hnone : ¬ (0 < g ∧ g ≤ (Store.empty r).state.generation) := by
        show ¬ (0 < g ∧ g ≤ 0)
        omega
      rw [if_neg hnone]
      rfl
  | @step past s h x ih =>
      have hcount := (h.tidings x).generation_cases
      have hmem := (h.tidings x).rowsReset_mem g
      rw [stream_concat, List.count_append, ih]
      by_cases hg : .rowsReset g ∈ told (s.perform x).2
      · have hbegins := hmem.mp hg
        rw [(h.tidings x).told_of_mem hg (by simp), if_neg (by omega), if_pos (by omega)]
        simp
      · have hold := mt hmem.mpr hg
        have hsame : 0 < g ∧ g ≤ s.state.generation ↔
            0 < g ∧ g ≤ (s.perform x).1.state.generation := by omega
        rw [List.count_eq_zero.mpr hg, Nat.add_zero]
        simp only [hsame]

/-- **The flag for the first page is up just when one has been taken in.** -/
theorem loaded_iff (h : Performed r past s) :
    s.state.isFirstLoadComplete = true ↔ ∃ c ∈ past, c.Accepts s.state.generation := by
  induction h with
  | empty => exact iff_of_false Bool.false_ne_true (by simp)
  | @step past s h x ih =>
      rw [(h.tidings x).loaded_iff, ih, exists_accepts_concat]
      constructor
      · rintro (hpage | ⟨hgeneration, hold⟩)
        · exact Or.inr ⟨((h.tidings x).generation_of_accepts hpage).symm, hpage⟩
        · rw [hgeneration]
          exact Or.inl hold
      · rintro (⟨c, hc, haccepts⟩ | ⟨-, hpage⟩)
        · -- the generation of an old page has not ended with this stint
          have hle := h.generation_le c hc
          have hcount := (h.tidings x).generation_cases
          have hpresent : (s.perform x).1.state.generation = s.state.generation := by
            have := haccepts.1
            omega
          rw [hpresent] at haccepts
          exact Or.inr ⟨hpresent, c, hc, haccepts⟩
        · exact Or.inl hpage

/-- The first page of a generation is announced just when it is taken in. -/
theorem firstLoadComplete_mem (h : Performed r past s) (x : Stint) (g : Nat) :
    .firstLoadComplete g ∈ told (s.perform x).2 ↔
      s.Accepts x ∧ s.state.generation = g ∧ ∀ c ∈ past, ¬ c.Accepts g := by
  rw [(h.tidings x).firstLoadComplete_mem g, Bool.eq_false_iff, Ne, h.loaded_iff]
  constructor
  · rintro ⟨hpage, hfirst, rfl⟩
    exact ⟨hpage, rfl, fun c hc haccepts => hfirst ⟨c, hc, haccepts⟩⟩
  · rintro ⟨hpage, rfl, hfirst⟩
    exact ⟨hpage, fun ⟨c, hc, haccepts⟩ => hfirst c hc haccepts, rfl⟩

/-- That it has come is told of a generation just when a page of it was taken in. -/
theorem firstLoadComplete_mem_stream (h : Performed r past s) (g : Nat) :
    .firstLoadComplete g ∈ stream past ↔ ∃ c ∈ past, c.Accepts g := by
  induction h with
  | empty => simp [stream]
  | @step past s h x ih =>
      rw [stream_concat, List.mem_append, ih, exists_accepts_concat, h.firstLoadComplete_mem x g]
      by_cases hold : ∃ c ∈ past, c.Accepts g
      · exact iff_of_true (Or.inl hold) (Or.inl hold)
      · have hfirst : ∀ c ∈ past, ¬ c.Accepts g := fun c hc haccepts => hold ⟨c, hc, haccepts⟩
        refine or_congr Iff.rfl ?_
        exact ⟨fun ⟨hpage, hg, _⟩ => ⟨hg, hpage⟩, fun ⟨hg, hpage⟩ => ⟨hpage, hg, hfirst⟩⟩

/-- It is told once at most. -/
theorem count_firstLoadComplete (h : Performed r past s) (g : Nat) :
    (stream past).count (.firstLoadComplete g) ≤ 1 := by
  induction h with
  | empty => exact Nat.zero_le 1
  | @step past s h x ih =>
      rw [stream_concat, List.count_append]
      by_cases hg : .firstLoadComplete g ∈ told (s.perform x).2
      · have hfirst := ((h.firstLoadComplete_mem x g).mp hg).2.2
        have hnew : .firstLoadComplete g ∉ stream past := by
          rw [h.firstLoadComplete_mem_stream]
          exact fun ⟨c, hc, haccepts⟩ => hfirst c hc haccepts
        rw [List.count_eq_zero.mpr hnew, (h.tidings x).told_of_mem hg (by simp)]
        simp
      · rw [List.count_eq_zero.mpr hg]
        exact ih

/-- The errors that are told are the failures of requests. -/
theorem messages (h : Performed r past s) : (stream past).filterMap Event.message?
    = (past.flatMap fun c => failures c.outputs).map (·.notification fetchContext) := by
  induction h with
  | empty => rfl
  | @step past s h x ih =>
      rw [stream_concat, List.filterMap_append, ih, (h.tidings x).messages, List.flatMap_append,
        List.map_append, List.flatMap_singleton]

end Performed

/-- Every list of stints makes a run. -/
theorem performed_performAll (r : Registry) (stints : List Stint) :
    Performed r ((Store.empty r).scenes stints) ((Store.empty r).performAll stints) :=
  Performed.empty.performAll stints

/-! ### The rule of events -/

/-- What a stint tells, in a store with its past. -/
structure TellingRule (past : List Scene) (s : Store) (x : Stint) (t : Store × List Output) :
    Prop where
  /-- Whatever it tells of a generation it tells of the one that is then the present one. -/
  tags : ∀ g ∈ (told t.2).filterMap Event.generation?, g = t.1.state.generation
  /-- It announces a generation just when that begins. -/
  reset : ∀ g, .rowsReset g ∈ told t.2 ↔ s.state.generation < g ∧ t.1.state.generation = g
  /-- It announces the first page of a generation just when the view takes a page of the
  present one in and has never done so before. -/
  first : ∀ g, .firstLoadComplete g ∈ told t.2 ↔
    s.Accepts x ∧ s.state.generation = g ∧ ∀ c ∈ past, ¬ c.Accepts g
  /-- An operation ends with a failure just when its request was one of the present
  generation and has failed, -/
  failed : ∀ failure, (∃ task, .finished task (.fetched (.failed failure)) ∈ t.2) ↔
    s.Fails x failure
  /-- and the errors that are told are those of such failures. -/
  errors : (told t.2).filterMap Event.message?
    = (failures t.2).map (·.notification fetchContext)
  /-- A generation, a first page and an error are announced before anything else is told, and
  nothing is told after them but that the view has changed. -/
  followed : ∀ e ∈ told t.2, (∀ g, e ≠ .stateChanged g) →
    told t.2 = [e, .stateChanged t.1.state.generation]
  /-- Whatever changes of what the view shows, the last thing that is told is that the view
  has changed, with the generation that it then shows. -/
  changed : t.1.state.snapshot ≠ s.state.snapshot →
    (told t.2).getLast? = some (.stateChanged t.1.state.snapshot.generation)
  /-- Late answers, refused operations and those with nothing to do change nothing, and nothing
  is told of them. -/
  idle : s.Idle x → t.1.state = s.state ∧ told t.2 = []

/-- What has been told in a run, and what is told next. -/
structure EventRule (past : List Scene) (s : Store) : Prop where
  /-- The generations that events speak of never decrease. -/
  tags : ((stream past).filterMap Event.generation?).Pairwise (· ≤ ·)
  /-- Every generation that has begun was announced once, and no other one. -/
  resets : ∀ g, (stream past).count (.rowsReset g)
    = if 0 < g ∧ g ≤ s.state.generation then 1 else 0
  /-- The first page was announced of those generations that have had a page, and once. -/
  firsts : ∀ g, .firstLoadComplete g ∈ stream past ↔ ∃ c ∈ past, c.Accepts g
  once : ∀ g, (stream past).count (.firstLoadComplete g) ≤ 1
  /-- The errors were those of the failures with which operations ended, one each and in their
  order. -/
  errors : (stream past).filterMap Event.message?
    = (past.flatMap fun c => failures c.outputs).map (·.notification fetchContext)
  next : ∀ x, TellingRule past s x (s.perform x)

/-- **The events of a view tell what happens to it, all of it and nothing else.** -/
theorem run_eventRule (r : Registry) (stints : List Stint) :
    EventRule ((Store.empty r).scenes stints) ((Store.empty r).performAll stints) := by
  have h := performed_performAll r stints
  generalize (Store.empty r).scenes stints = past at h
  generalize (Store.empty r).performAll stints = s at h
  refine ⟨h.tags_sorted, h.count_rowsReset, h.firstLoadComplete_mem_stream,
    h.count_firstLoadComplete, h.messages, fun x => ?_⟩
  have htidings := h.tidings x
  refine ⟨htidings.generation_of_told, htidings.rowsReset_mem, h.firstLoadComplete_mem x, ?_,
    htidings.messages, fun e => htidings.told_of_mem, ?_, (h.settled.course x).of_idle⟩
  · intro failure
    rw [← htidings.failure_mem, mem_failures]
  · intro hchanged
    exact htidings.getLast?_told fun hsame => hchanged (congrArg ViewState.snapshot hsame)

/-- The page of the first generation comes too late, the second one never has a page, and the
third one has. -/
example : stream ((Store.empty ⟨[]⟩).scenes
    [.start 0 (.setUp "view" "" [] none), .start 1 .reload, .answered 0 (.ok ⟨[], none⟩),
     .answered 1 (.error (.transport "down")), .start 2 .reload, .answered 2 (.ok ⟨[], none⟩)])
    = [.rowsReset 1, .stateChanged 1, .rowsReset 2, .stateChanged 2,
       .error ((Failure.transport "down").notification fetchContext), .stateChanged 2,
       .rowsReset 3, .stateChanged 3, .firstLoadComplete 3, .stateChanged 3] := rfl

end ProjectViews
