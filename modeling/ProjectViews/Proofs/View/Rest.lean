/-
What operations do on their own comes to rest, and then everybody waits for something held.

Left to themselves, operations go on, ask for the view when it is their turn to save, and use it
when they have it.  `toDo` counts what is left of that: an operation that has to save has three
things to do until it saves, the others one, whoever waits outside none.  Every deed of their own
takes one away, so there are never many before all is quiet.

When all is quiet nobody queues for the view.  Whoever is in line then waits for the first one
there, and that one has its turn already: it saves, and waits for nothing but that.
-/
import ProjectViews.Proofs.View.Locks

namespace ProjectViews

/-! ### Waiting -/

namespace Store

/-- An operation waits for the server. -/
def Fetches (s : Store) (task : Nat) : Prop :=
  ∃ generation query, s.stage? task = some (.fetching generation query)

/-- An operation waits until its settings are saved. -/
def Saves (s : Store) (task : Nat) : Prop :=
  ∃ uid settings after, s.stage? task = some (.saving uid settings after)

/-- An operation waits for its turn to save. -/
def Queues (s : Store) (task : Nat) : Prop :=
  ∃ uid after, s.stage? task = some (.queued uid after)

theorem tasks_eq_nil {s : Store} (h : ∀ task, s.stage? task = none) : s.tasks = [] := by
  cases htasks : s.tasks with
  | nil => rfl
  | cons t rest =>
      have hfirst := h t.1
      simp [stage?, htasks] at hfirst

end Store

/-- Whether operations do it on their own: nobody has to answer, to save or to begin anything. -/
def Deed.isOwn : Deed → Bool
  | act | make (.goOn _) | ask (.takeTurn _) => true
  | _ => false

namespace Guarded

/-- An operation has been started and has not ended. -/
def Unfinished (g : Guarded) (task : Nat) : Prop :=
  g.store.stage? task ≠ none ∨ ∃ op, .enter task op ∈ g.queue

/-- There is nothing that operations can do on their own. -/
def Quiet (g : Guarded) : Prop := ∀ d : Deed, d.isOwn = true → (g.step d).1 = g

namespace Quiet

variable {r : Registry} {g : Guarded}

/-- Nobody queues for the view: the first one could use it. -/
theorem queue_eq (h : g.Quiet) : g.queue = [] := by
  cases hqueue : g.queue with
  | nil => rfl
  | cons m rest =>
      have hact := congrArg Guarded.queue (h .act rfl)
      rw [step, hqueue] at hact
      exact absurd hact (by simp)

/-- Nobody is ready to go on. -/
theorem not_ready (h : g.Quiet) (task : Nat) (events : List Event) (next : Next) :
    g.store.stage? task ≠ some (.ready events next) := by
  intro hready
  have hsame : (g.store.goOn task).1 = g.store :=
    congrArg Guarded.store (h (.make (.goOn task)) rfl)
  have hstage : (g.store.goOn task).1.stage? task = some (.ready events next) := by
    rw [hsame, hready]
  -- it would have moved to another place
  simp only [Store.goOn, hready] at hstage
  cases next with
  | done result => simp at hstage
  | fetch generation query => simp at hstage
  | save uid after =>
      cases (Store.stage?_put_self g.store task _).symm.trans hstage

/-- Nobody has its turn to save without having taken it. -/
theorem turn_taken (h : g.Quiet) {task : Nat} (queues : g.store.Queues task) :
    g.store.line.head? ≠ some task := by
  intro hturn
  obtain ⟨uid, after, hstage⟩ := queues
  have hadmits : g.admits (.takeTurn task) = true := by
    simp [admits, Move.needsView, Store.offers, Move.fits, hstage, hturn, h.queue_eq]
  have hask := congrArg Guarded.queue (h (.ask (.takeTurn task)) rfl)
  rw [step, if_pos hadmits, h.queue_eq] at hask
  exact absurd hask (by simp)

/-- **Whoever is unfinished waits for the server, for its save, or in line behind one that
waits for its save.** -/
theorem waits (h : g.Quiet) (sound : Sound r g) {task : Nat} (unfinished : g.Unfinished task) :
    g.store.Fetches task ∨ g.store.Saves task ∨
      (g.store.Queues task ∧
        ∃ other, other ≠ task ∧ g.store.line.head? = some other ∧ g.store.Saves other) := by
  obtain ⟨stage, hstage⟩ : ∃ stage, g.store.stage? task = some stage := by
    rcases unfinished with hstage | ⟨op, hop⟩
    · exact Option.ne_none_iff_exists'.mp hstage
    · rw [h.queue_eq] at hop
      cases hop
  cases stage with
  | ready events next => exact absurd hstage (h.not_ready task events next)
  | fetching generation query => exact Or.inl ⟨generation, query, hstage⟩
  | saving uid settings after => exact Or.inr (Or.inl ⟨uid, settings, after, hstage⟩)
  | queued uid after =>
      have hqueues : g.store.Queues task := ⟨uid, after, hstage⟩
      have hmem : task ∈ g.store.line := (sound.lined.mem task).mpr ⟨_, hstage, rfl⟩
      obtain ⟨other, rest, hline⟩ := List.exists_cons_of_ne_nil (List.ne_nil_of_mem hmem)
      have hturn : g.store.line.head? = some other := by rw [hline, List.head?_cons]
      obtain ⟨stage, hother, hin⟩ := (sound.lined.mem other).mp (by rw [hline]; simp)
      refine Or.inr (Or.inr ⟨hqueues, other, ?_, hturn, ?_⟩)
      · intro hsame
        exact h.turn_taken hqueues (hsame ▸ hturn)
      · cases stage with
        | saving uid settings after => exact ⟨uid, settings, after, hother⟩
        | queued uid after => exact absurd hturn (h.turn_taken ⟨uid, after, hother⟩)
        | ready events next => cases hin
        | fetching generation query => cases hin

/-- **When nothing is held, everybody has finished.** -/
theorem finished (h : g.Quiet) (sound : Sound r g)
    (free : ∀ task, ¬ g.store.Fetches task ∧ ¬ g.store.Saves task) (task : Nat) :
    ¬ g.Unfinished task := by
  intro hunfinished
  rcases h.waits sound hunfinished with hfetches | hsaves | ⟨-, other, -, -, hsaves⟩
  · exact (free task).1 hfetches
  · exact (free task).2 hsaves
  · exact (free other).2 hsaves

end Quiet

/-- A store without unfinished operations has nobody in line and is not loading. -/
theorem Sound.at_rest {r : Registry} {g : Guarded} (h : Sound r g)
    (finished : ∀ task, ¬ g.Unfinished task) :
    g.store.tasks = [] ∧ g.store.line = [] ∧ g.store.state.isLoading = false := by
  have hnone : ∀ task, g.store.stage? task = none := by
    intro task
    cases hstage : g.store.stage? task with
    | none => rfl
    | some stage => exact absurd (Or.inl (by simp [hstage])) (finished task)
  refine ⟨Store.tasks_eq_nil hnone, ?_, ?_⟩
  · rw [List.eq_nil_iff_forall_not_mem]
    intro task hmem
    obtain ⟨stage, hstage, -⟩ := (h.lined.mem task).mp hmem
    simp [hnone task] at hstage
  · rw [Bool.eq_false_iff]
    intro hloading
    obtain ⟨task, query, herrand⟩ := h.oneEach.loading.mp hloading
    simp [Store.errand?, hnone task] at herrand

end Guarded

/-! ### Coming to rest -/

/-- What an operation still does on its own before it waits, or has ended. -/
def Stage.toDo : Stage → Nat
  | ready _ (.save _ _) => 3
  | ready _ _ => 1
  | queued _ _ => 2
  | saving _ _ _ | fetching _ _ => 0

theorem Stage.toDo_le (stage : Stage) : stage.toDo ≤ 3 := by
  unfold toDo
  split <;> omega

namespace Store

/-- What the operations of a store still do on their own. -/
def toDo (s : Store) : Nat := s.tasks.foldr (fun t n => t.2.toDo + n) 0

private theorem toDo_filter_le (tasks : List (Nat × Stage)) (task : Nat) :
    (tasks.filter fun t => t.1 != task).foldr (fun t n => t.2.toDo + n) 0
        + ((tasks.find? fun t => t.1 == task).map fun t => t.2.toDo).getD 0
      ≤ tasks.foldr (fun t n => t.2.toDo + n) 0 := by
  induction tasks with
  | nil => simp
  | cons t rest ih =>
      by_cases ht : t.1 = task
      · simp only [ht, List.filter_cons, List.find?_cons, bne_self_eq_false, Bool.false_eq_true,
          if_false, beq_self_eq_true, Option.map_some, Option.getD_some, List.foldr_cons]
        omega
      · have hbeq : (t.1 == task) = false := beq_false_of_ne ht
        have hbne : (t.1 != task) = true := bne_iff_ne.mpr ht
        simp only [hbeq, hbne, List.filter_cons, List.find?_cons, if_true, List.foldr_cons]
        omega

theorem toDo_leave_le (s : Store) (task : Nat) :
    (s.leave task).toDo + ((s.stage? task).map Stage.toDo).getD 0 ≤ s.toDo := by
  have hfilter := toDo_filter_le s.tasks task
  rw [stage?, Option.map_map]
  exact hfilter

theorem toDo_put (s : Store) (task : Nat) (stage : Stage) :
    (s.put task stage).toDo = (s.leave task).toDo + stage.toDo := by
  have hsum : ∀ (tasks : List (Nat × Stage)) (n : Nat),
      tasks.foldr (fun t n => t.2.toDo + n) n = tasks.foldr (fun t n => t.2.toDo + n) 0 + n := by
    intro tasks n
    induction tasks with
    | nil => simp
    | cons t rest ih =>
        rw [List.foldr_cons, List.foldr_cons, ih]
        omega
  rw [toDo, put, List.foldr_append, hsum]
  rfl

/-- An operation that stands somewhere comes to stand elsewhere. -/
theorem toDo_put_le {s : Store} {task : Nat} {stage : Stage} (h : s.stage? task = some stage)
    (stage' : Stage) : (s.put task stage').toDo + stage.toDo ≤ s.toDo + stage'.toDo := by
  have hleave := s.toDo_leave_le task
  rw [h, Option.map_some, Option.getD_some] at hleave
  rw [toDo_put]
  omega

end Store

/-- What a move gives an operation to do, and one for the move itself. -/
def Move.toDo : Move → Nat
  | enter _ _ => 4
  | take _ _ | endTurn _ _ => 2
  | goOn _ | takeTurn _ => 0

/-- Whether an operation takes its turn to save with a move. -/
def Move.isTurn : Move → Bool
  | takeTurn _ => true
  | _ => false

/-- A move takes one thing away from what is left, and two if it takes a turn. -/
theorem Effect.toDo_lt {s : Store} {m : Move} {t : Store × List Output} (e : Effect s m t)
    (makes : ¬ s.Ignores m) :
    t.1.toDo + (if m.isTurn then 2 else 1) ≤ s.toDo + m.toDo := by
  cases e with
  | ignored hignores => exact absurd hignores makes
  | @entered task op free =>
      have hput := Store.toDo_put s task
        (.ready (op.commit s.registry s.state).events (op.commit s.registry s.state).next)
      have hleave := s.toDo_leave_le task
      have hready := Stage.toDo_le
        (.ready (op.commit s.registry s.state).events (op.commit s.registry s.state).next)
      show (s.put task _).toDo + 1 ≤ s.toDo + 4
      omega
  | @ended task events result hstage =>
      have hleave := s.toDo_leave_le task
      rw [hstage] at hleave
      exact hleave
  | @asked task events generation query hstage =>
      exact Store.toDo_put_le hstage (.fetching generation query)
  | @joined task events uid after hstage =>
      have hput : (s.put task (.queued uid after)).toDo + 3 ≤ s.toDo + 2 :=
        Store.toDo_put_le hstage (.queued uid after)
      show (s.put task _).toDo + 1 ≤ s.toDo
      omega
  | @handed task uid after hstage turn =>
      exact Store.toDo_put_le hstage (.saving uid s.state.settings after)
  | @saved task worked uid settings after hstage =>
      have hput := Store.toDo_put_le hstage (.ready [] after.next)
      have hready : (Stage.ready [] after.next).toDo = 1 := by cases after <;> rfl
      show (s.put task _).toDo + 1 ≤ s.toDo + 2
      omega
  | @took task answer generation query hstage =>
      have hput : (s.put task (.ready (s.state.receive generation answer).2.1
          (.done (.fetched (s.state.receive generation answer).2.2)))).toDo + 0 ≤ s.toDo + 1 :=
        Store.toDo_put_le hstage _
      show (s.put task _).toDo + 1 ≤ s.toDo + 2
      omega

namespace Guarded

/-- What operations still do on their own.  Whoever has its turn to save first has to ask for the
view. -/
def toDo (g : Guarded) : Nat :=
  g.store.toDo + g.queue.foldr (fun m n => m.toDo + n) 0 + if g.queue.any Move.isTurn then 0 else 1

namespace Sound

variable {r : Registry} {g : Guarded}

/-- Only one operation has its turn to save, and it asks for the view once. -/
theorem no_turn (h : Sound r g) {task : Nat} (offered : g.store.offers (.takeTurn task) = true)
    (absent : ∀ q ∈ g.queue, q.task ≠ task) : g.queue.any Move.isTurn = false := by
  rw [List.any_eq_false]
  intro q hq hturn
  cases q with
  | takeTurn other =>
      have hother := (Bool.and_eq_true_iff.mp (h.offered _ hq)).2
      have htask := (Bool.and_eq_true_iff.mp offered).2
      have hsame : other = task :=
        Option.some.inj ((beq_iff_eq.mp hother).symm.trans (beq_iff_eq.mp htask))
      exact absent _ hq hsame
  | enter other op => cases hturn
  | goOn other => cases hturn
  | endTurn other worked => cases hturn
  | take other answer => cases hturn

end Sound

/-- **A deed of their own that changes anything takes one away.** -/
theorem Sound.toDo_lt {r : Registry} {g : Guarded} (h : Sound r g) {d : Deed}
    (own : d.isOwn = true) (changes : (g.step d).1 ≠ g) : (g.step d).1.toDo < g.toDo := by
  have houtcome := g.outcome_step d
  generalize g.step d = t at houtcome changes
  cases houtcome with
  | refused => exact absurd rfl changes
  | @queued m view offered absent =>
      cases m with
      | takeTurn task =>
          have hturn := h.no_turn offered absent
          simp [toDo, hturn, Move.isTurn, Move.toDo]
      | enter task op => cases own
      | take task answer => cases own
      | goOn task => cases view
      | endTurn task worked => cases view
  | @acted m rest t first effect =>
      have hmem : m ∈ g.queue := by
        rw [first]
        exact List.mem_cons_self
      have hless := effect.toDo_lt ((g.store.offers_iff m).mp (h.offered m hmem))
      simp only [toDo, first, List.foldr_cons, List.any_cons]
      cases hturn : m.isTurn with
      | false =>
          simp only [hturn, Bool.false_eq_true, if_false] at hless
          simp only [Bool.false_or]
          omega
      | true =>
          simp only [hturn, if_true] at hless
          simp only [Bool.true_or, if_true]
          split <;> omega
  | @made m t view effect =>
      have hmakes : ¬ g.store.Ignores m := by
        intro hignores
        rw [effect.of_ignores hignores] at changes
        exact changes rfl
      have hless := effect.toDo_lt hmakes
      cases m with
      | goOn task =>
          simp only [Move.isTurn, Move.toDo, Bool.false_eq_true, if_false] at hless
          simp only [toDo]
          omega
      | endTurn task worked => cases own
      | enter task op => cases view
      | takeTurn task => cases view
      | take task answer => cases view

/-- Deeds of their own, each of which changes something. -/
def Busy (g : Guarded) : List Deed → Prop
  | [] => True
  | d :: rest => d.isOwn = true ∧ (g.step d).1 ≠ g ∧ (g.step d).1.Busy rest

/-- **Left to themselves, operations soon have nothing to do.** -/
theorem Sound.length_le_toDo {r : Registry} {g : Guarded} (h : Sound r g) {deeds : List Deed}
    (busy : g.Busy deeds) : deeds.length ≤ g.toDo := by
  induction deeds generalizing g with
  | nil => exact Nat.zero_le _
  | cons d rest ih =>
      obtain ⟨hown, hchanges, hrest⟩ := busy
      have hless := h.toDo_lt hown hchanges
      have hlength := ih (h.step (g.outcome_step d)) hrest
      rw [List.length_cons]
      omega

/-- **And then all is quiet.** -/
theorem Sound.exists_quiet {r : Registry} {g : Guarded} (h : Sound r g) :
    ∃ deeds, g.Busy deeds ∧ (g.run deeds).Quiet := by
  induction hn : g.toDo using Nat.strongRecOn generalizing g with
  | _ n ih =>
      by_cases hquiet : g.Quiet
      · exact ⟨[], trivial, hquiet⟩
      · obtain ⟨d, hd⟩ := Classical.not_forall.mp hquiet
        obtain ⟨hown, hchanges⟩ := Classical.not_imp.mp hd
        have hless := h.toDo_lt hown hchanges
        obtain ⟨deeds, hbusy, hlast⟩ := ih _ (by omega) (h.step (g.outcome_step d)) rfl
        exact ⟨d :: deeds, ⟨hown, hchanges, hbusy⟩, hlast⟩

end Guarded

end ProjectViews
