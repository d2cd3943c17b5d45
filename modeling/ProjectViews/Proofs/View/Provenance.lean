/-
Where requests, cursors and rows come from.

Answers come late and out of order, filters and orders are replaced meanwhile, and a
request may be sent long after its generation is over.  Still the questions are never
mixed.  Every request asks what the view asked when the generation of the request began;
a request for a further page carries a cursor that came with a page of the same
generation, in answer to the same question; and what the view holds at any time comes
from pages of the present generation that answer what the view asks now.

The reason is that a generation has one question.  Whatever changes the question begins
a generation in the same step, which is `Asked`, and requests are written down at the
time of a commit, when the question of the generation is at hand.  The rest is to follow
the requests on their way.
-/
import ProjectViews.Proofs.View.History

namespace ProjectViews

/-- A generation has begun, and this is what the view asked then. -/
def Asked (past : List Moment) (generation : Nat) (question : Query) : Prop :=
  (∃ m ∈ past, m.Begins generation) ∧
    ∀ m ∈ past, m.Begins generation → m.after.state.question = question

/-- The cursor of a request, if it has one, came with a page of the same generation that
answers the same question. -/
def Continues (past : List Moment) (generation : Nat) (query : Query) : Prop :=
  ∀ cursor, query.cursor = some cursor → ∃ earlier page,
    News.page earlier page ∈ newsOf past generation ∧ earlier.question = query.question ∧
      page.next = some cursor

/-- The last page among the news. -/
def lastPage? (news : List News) : Option RowPage :=
  (news.filterMap fun
    | .page _ page => some page
    | _ => none).getLast?

/-! ### Questions and cursors do not change afterwards -/

theorem Asked.unique {past : List Moment} {g : Nat} {q q' : Query} (h : Asked past g q)
    (h' : Asked past g q') : q = q' := by
  obtain ⟨m, hm, hbegins⟩ := h.1
  rw [← h.2 m hm hbegins, ← h'.2 m hm hbegins]

/-- A generation that has begun is not the one before all others. -/
theorem Asked.pos {past : List Moment} {g : Nat} {q : Query} (h : Asked past g q) : 0 < g := by
  obtain ⟨m, -, hlt, -⟩ := h.1
  exact Nat.lt_of_le_of_lt (Nat.zero_le _) hlt

theorem Asked.concat {past : List Moment} {g : Nat} {q : Query} (h : Asked past g q)
    {m : Moment} (hm : ¬ m.Begins g) : Asked (past ++ [m]) g q := by
  obtain ⟨⟨b, hb, hbegins⟩, hall⟩ := h
  refine ⟨⟨b, List.mem_append_left _ hb, hbegins⟩, ?_⟩
  intro c hc hc'
  rcases List.mem_append.mp hc with hc | hc
  · exact hall c hc hc'
  · rw [List.mem_singleton.mp hc] at hc'
    exact absurd hc' hm

/-- A generation that begins only now asks what the view asks after it. -/
theorem Asked.begin {past : List Moment} {g : Nat} {m : Moment} (hm : m.Begins g)
    (hpast : ∀ b ∈ past, b.after.state.generation < g) :
    Asked (past ++ [m]) g m.after.state.question := by
  refine ⟨⟨m, by simp, hm⟩, ?_⟩
  intro b hb hbegins
  rcases List.mem_append.mp hb with hb | hb
  · have := hpast b hb
    have := hbegins.2
    omega
  · rw [List.mem_singleton.mp hb]

theorem Continues.concat {past : List Moment} {g : Nat} {q : Query} (h : Continues past g q)
    (m : Moment) : Continues (past ++ [m]) g q := by
  intro cursor hcursor
  obtain ⟨earlier, page, hmem, hquestion, hnext⟩ := h cursor hcursor
  exact ⟨earlier, page, mem_newsOf_concat m hmem, hquestion, hnext⟩

/-- A request for the first page continues nothing. -/
theorem Continues.first {past : List Moment} {g : Nat} (s : ViewState) :
    Continues past g s.question := by
  intro cursor hcursor
  cases hcursor

theorem lastPage?_concat_page (news : List News) (query : Query) (page : RowPage) :
    lastPage? (news ++ [.page query page]) = some page := by
  rw [lastPage?, List.filterMap_append]
  exact List.getLast?_concat

theorem lastPage?_append_of_no_page {news more : List News}
    (h : ∀ query page, News.page query page ∉ more) :
    lastPage? (news ++ more) = lastPage? news := by
  rw [lastPage?, lastPage?, List.filterMap_append]
  have hmore : (more.filterMap fun
      | .page _ page => some page
      | _ => none) = ([] : List RowPage) := by
    rw [List.filterMap_eq_nil_iff]
    intro n hn
    cases n with
    | page query page => exact absurd hn (h query page)
    | changed row => rfl
    | deleted uid => rfl
  rw [hmore, List.append_nil]

theorem exists_page_of_lastPage? {news : List News} {page : RowPage}
    (h : lastPage? news = some page) : ∃ query, News.page query page ∈ news := by
  obtain ⟨n, hn, hpage⟩ := List.mem_filterMap.mp (List.mem_of_getLast? h)
  cases n with
  | page query page' =>
      obtain rfl := Option.some.inj hpage
      exact ⟨query, hn⟩
  | changed row => simp at hpage
  | deleted uid => simp at hpage

/-! ### The invariant -/

/-- Everything that is asked for, and everything that is held, comes from where it
should. -/
structure Provenance (past : List Moment) (s : Store) : Prop where
  /-- The view still asks what it asked when the present generation began. -/
  question : 0 < s.state.generation → Asked past s.state.generation s.state.question
  /-- So does every request, for its own generation. -/
  errand : ∀ {u g : Nat} {q : Query}, s.errand? u = some (g, q) →
    Asked past g q.question ∧ Continues past g q
  /-- So did the request behind every page. -/
  page : ∀ {g : Nat} {q : Query} {page : RowPage}, .page q page ∈ newsOf past g →
    Asked past g q.question
  /-- The cursor is that of the last page. -/
  cursor : s.state.cursor = (lastPage? (newsOf past s.state.generation)).bind (·.next)
  /-- The rows are of projects that came with a page. -/
  rows : ∀ row ∈ s.state.rows, ∃ q page,
    .page q page ∈ newsOf past s.state.generation ∧ ∃ row' ∈ page.rows, row'.uid = row.uid

/-- A row after a change elsewhere is of a project that had a row before. -/
theorem exists_of_mem_rowsAfter {rows : List Row} {n : Option News} {row : Row}
    (h : row ∈ rowsAfter rows n) : ∃ row' ∈ rows, row'.uid = row.uid := by
  match n, h with
  | none, h => exact ⟨row, h, rfl⟩
  | some (.page _ _), h => exact ⟨row, h, rfl⟩
  | some (.changed new), h =>
      obtain ⟨loaded, hloaded, rfl⟩ := List.mem_map.mp h
      refine ⟨loaded, hloaded, ?_⟩
      split
      · rename_i heq
        exact beq_iff_eq.mp heq
      · rfl
  | some (.deleted uid), h => exact ⟨row, (List.mem_filter.mp h).1, rfl⟩

namespace Provenance

theorem empty (r : Registry) : Provenance [] (.empty r) where
  question := fun h => absurd h (Nat.lt_irrefl 0)
  errand := fun h => by cases h
  page := fun h => by cases h
  cursor := rfl
  rows := fun row h => by cases h

variable {r : Registry} {past : List Moment} {s : Store} {m : Move} {t : Store × List Output}

/-- What is known of the requests that are out stays known. -/
theorem errand_old (h : Provenance past s) (hr : Reached r past s) {u g : Nat} {q : Query}
    (he : s.errand? u = some (g, q)) :
    Asked (past ++ [⟨s, m, t.2, t.1⟩]) g q.question ∧
      Continues (past ++ [⟨s, m, t.2, t.1⟩]) g q := by
  have hle : g ≤ s.state.generation := hr.oneEach.begun ⟨q, he⟩
  exact ⟨(h.errand he).1.concat (not_begins_of_le hle), (h.errand he).2.concat _⟩

/-- So it is of the pages that have come, if it is known of the one that comes now. -/
theorem page_concat (h : Provenance past s) (hr : Reached r past s)
    (hnew : ∀ q page, s.news? m = some (.page q page) →
      Asked past s.state.generation q.question) {g : Nat} {q : Query} {page : RowPage}
    (hmem : .page q page ∈ newsOf (past ++ [⟨s, m, t.2, t.1⟩]) g) :
    Asked (past ++ [⟨s, m, t.2, t.1⟩]) g q.question := by
  rw [newsOf_concat] at hmem
  rcases List.mem_append.mp hmem with hold | hnow
  · have hle : g ≤ s.state.generation := by
      rcases Nat.lt_or_ge s.state.generation g with hlt | hle
      · rw [hr.newsOf_later hlt] at hold
        cases hold
      · exact hle
    exact (h.page hold).concat (not_begins_of_le hle)
  · split at hnow
    · rename_i hg
      have hg : s.state.generation = g := hg
      subst hg
      exact (hnew q page (by simpa using hnow)).concat (not_begins_of_le (Nat.le_refl _))
    · simp at hnow

/-- A move by which no generation begins and no page comes only has to account for the
requests. -/
theorem still (h : Provenance past s) (hr : Reached r past s)
    (generation : t.1.state.generation = s.state.generation)
    (question : t.1.state.question = s.state.question)
    (cursor : t.1.state.cursor = s.state.cursor)
    (rows : t.1.state.rows = rowsAfter s.state.rows (s.news? m))
    (noPage : ∀ q page, s.news? m ≠ some (.page q page))
    (errand : ∀ {u g : Nat} {q : Query}, t.1.errand? u = some (g, q) →
      Asked (past ++ [⟨s, m, t.2, t.1⟩]) g q.question ∧
        Continues (past ++ [⟨s, m, t.2, t.1⟩]) g q) :
    Provenance (past ++ [⟨s, m, t.2, t.1⟩]) t.1 where
  question := by
    rw [generation, question]
    exact fun hpos => (h.question hpos).concat (not_begins_of_le (Nat.le_refl _))
  errand := errand
  page := h.page_concat hr fun q page hnew => absurd hnew (noPage q page)
  cursor := by
    rw [generation, newsOf_present, cursor, h.cursor, lastPage?_append_of_no_page]
    intro q page hmem
    exact noPage q page (by simpa using hmem)
  rows := by
    intro row hrow
    rw [rows] at hrow
    obtain ⟨row', hrow', huid⟩ := exists_of_mem_rowsAfter hrow
    obtain ⟨q, page, hmem, row'', hrow'', huid'⟩ := h.rows row' hrow'
    rw [generation]
    exact ⟨q, page, mem_newsOf_concat _ hmem, row'', hrow'', huid'.trans huid⟩

/-- Errands other than a new one are old. -/
theorem errand_gain (h : Provenance past s) (hr : Reached r past s) {task g₀ : Nat} {q₀ : Query}
    (errands : ∀ u, t.1.errand? u = if u = task then some (g₀, q₀) else s.errand? u)
    (hnew : Asked (past ++ [⟨s, m, t.2, t.1⟩]) g₀ q₀.question ∧
      Continues (past ++ [⟨s, m, t.2, t.1⟩]) g₀ q₀) {u g : Nat} {q : Query}
    (he : t.1.errand? u = some (g, q)) :
    Asked (past ++ [⟨s, m, t.2, t.1⟩]) g q.question ∧
      Continues (past ++ [⟨s, m, t.2, t.1⟩]) g q := by
  rw [errands] at he
  by_cases hu : u = task
  · rw [if_pos hu] at he
    obtain ⟨rfl, rfl⟩ : g₀ = g ∧ q₀ = q := by simpa using he
    exact hnew
  · rw [if_neg hu] at he
    exact h.errand_old hr he

/-- So they are when an errand has ended. -/
theorem errand_loss (h : Provenance past s) (hr : Reached r past s) {task : Nat}
    (errands : ∀ u, t.1.errand? u = if u = task then none else s.errand? u) {u g : Nat}
    {q : Query} (he : t.1.errand? u = some (g, q)) :
    Asked (past ++ [⟨s, m, t.2, t.1⟩]) g q.question ∧
      Continues (past ++ [⟨s, m, t.2, t.1⟩]) g q := by
  rw [errands] at he
  by_cases hu : u = task
  · simp [hu] at he
  · rw [if_neg hu] at he
    exact h.errand_old hr he

/-- A generation begins with the question that the view has then, and with nothing else. -/
theorem begins (h : Provenance past s) (hr : Reached r past s) {task : Nat}
    (generation : t.1.state.generation = s.state.generation + 1)
    (rows : t.1.state.rows = []) (cursor : t.1.state.cursor = none) (news : s.news? m = none)
    (errands : ∀ u, t.1.errand? u
      = if u = task then some (s.state.generation + 1, t.1.state.question) else s.errand? u) :
    Provenance (past ++ [⟨s, m, t.2, t.1⟩]) t.1 := by
  have hbegins : Moment.Begins ⟨s, m, t.2, t.1⟩ (s.state.generation + 1) :=
    ⟨Nat.lt_succ_self _, generation⟩
  have hasked : Asked (past ++ [⟨s, m, t.2, t.1⟩]) (s.state.generation + 1) t.1.state.question :=
    .begin hbegins fun b hb => Nat.lt_succ_of_le (hr.generation_le b hb).2
  refine ⟨fun _ => generation ▸ hasked, h.errand_gain hr errands ⟨hasked, .first t.1.state⟩,
    ?_, ?_, ?_⟩
  · exact h.page_concat hr fun q page hnew => by simp [news] at hnew
  · rw [generation, hr.newsOf_begun, cursor]
    rfl
  · intro row hrow
    simp [rows] at hrow

/-- The cursor at hand came with the last page, which answers the present question. -/
theorem continues_present (h : Provenance past s) {cursor : Cursor}
    (more : s.state.cursor = some cursor) :
    Asked past s.state.generation s.state.question ∧
      Continues past s.state.generation (s.state.query (some cursor)) := by
  obtain ⟨page, hpage, hnext⟩ := Option.bind_eq_some_iff.mp (h.cursor.symm.trans more)
  obtain ⟨earlier, hmem⟩ := exists_page_of_lastPage? hpage
  have hearlier := h.page hmem
  have hquestion := h.question hearlier.pos
  refine ⟨hquestion, ?_⟩
  intro c hc
  obtain rfl := Option.some.inj hc
  exact ⟨earlier, page, hmem, hearlier.unique hquestion, hnext⟩

/-- A page of the present generation answers the present question. -/
theorem page_present (h : Provenance past s) (hr : Reached r past s) {task : Nat} {query : Query}
    {page : RowPage} (errand : s.errand? task = some (s.state.generation, query))
    (state : t.1.state = { s.state.appendPage page.rows with
      isLoading := false, cursor := page.next, isFirstLoadComplete := true })
    (news : s.news? m = some (.page query page))
    (errands : ∀ u, t.1.errand? u = if u = task then none else s.errand? u) :
    Provenance (past ++ [⟨s, m, t.2, t.1⟩]) t.1 := by
  have hgeneration : t.1.state.generation = s.state.generation := by rw [state]; rfl
  have hquestion : t.1.state.question = s.state.question := by rw [state]; rfl
  have hnews : newsOf (past ++ [⟨s, m, t.2, t.1⟩]) s.state.generation
      = newsOf past s.state.generation ++ [.page query page] := by
    rw [newsOf_present, news]
    rfl
  refine ⟨?_, h.errand_loss hr errands, ?_, ?_, ?_⟩
  · rw [hgeneration, hquestion]
    exact fun hpos => (h.question hpos).concat (not_begins_of_le (Nat.le_refl _))
  · refine h.page_concat hr fun q p hnew => ?_
    obtain ⟨rfl, rfl⟩ : query = q ∧ page = p := by simpa [news] using hnew
    exact (h.errand errand).1
  · rw [hgeneration, hnews, lastPage?_concat_page, state]
    rfl
  · intro row hrow
    rw [hgeneration, hnews]
    rw [state] at hrow
    rcases List.mem_append.mp hrow with hold | hnew
    · obtain ⟨q, p, hmem, hrow'⟩ := h.rows row hold
      exact ⟨q, p, List.mem_append_left _ hmem, hrow'⟩
    · exact ⟨query, page, by simp, row, (ViewState.newRows_sublist _ _).subset hnew, rfl⟩

/-- Every move keeps it. -/
theorem passage (h : Provenance past s) (hr : Reached r past s) (p : Passage s m t.1) :
    Provenance (past ++ [⟨s, m, t.2, t.1⟩]) t.1 := by
  cases p with
  | rests generation loading question seen cursor rows noPage errands =>
      refine h.still hr generation question cursor rows noPage fun {u g q} he => ?_
      rw [errands] at he
      exact h.errand_old hr he
  | begins generation loading rows seen cursor free news errands =>
      exact h.begins hr generation rows cursor news errands
  | continues state idle more free news errands =>
      obtain ⟨hasked, hcontinues⟩ := h.continues_present more
      refine h.still hr (by rw [state]) (by rw [state]; rfl) (by rw [state])
        (by rw [state, news]; rfl) (by simp [news]) (h.errand_gain hr errands ⟨?_, ?_⟩)
      · exact hasked.concat (not_begins_of_le (Nat.le_refl _))
      · exact hcontinues.concat _
  | stale move errand old state news errands =>
      exact h.still hr (by rw [state]) (by rw [state]) (by rw [state])
        (by rw [state, news]; rfl) (by simp [news]) (h.errand_loss hr errands)
  | fails move errand state news errands =>
      exact h.still hr (by rw [state]) (by rw [state]; rfl) (by rw [state])
        (by rw [state, news]; rfl) (by simp [news]) (h.errand_loss hr errands)
  | page move errand state news errands =>
      exact h.page_present hr errand state news errands

end Provenance

/-- It holds in every store that a run reaches. -/
theorem Reached.provenance {r : Registry} {past : List Moment} {s : Store}
    (h : Reached r past s) : Provenance past s := by
  induction h with
  | empty => exact .empty r
  | step hr e ih => exact ih.passage hr e.passage

/-! ### Requests that were made -/

/-- Only an operation that is out for a request makes it, and then waits for the answer. -/
theorem Effect.request {s : Store} {m : Move} {t : Store × List Output} (e : Effect s m t)
    {task : Nat} {q : Query} (h : .request task q ∈ t.2) :
    ∃ g, s.errand? task = some (g, q) ∧ t.1.stage? task = some (.fetching g q) := by
  cases e with
  | ignored => simp at h
  | entered => simp at h
  | saved => simp at h
  | took => simp at h
  | ended => simp at h
  | joined => simp at h
  | handed => simp at h
  | @asked task' events generation query hstage =>
      have hreq : task = task' ∧ q = query := by simpa using h
      obtain ⟨rfl, rfl⟩ := hreq
      exact ⟨generation, Store.errand?_of_stage? hstage, Store.stage?_put_self _ _ _⟩

/-- An operation that waits for an answer has made its request. -/
theorem Reached.requested {r : Registry} {past : List Moment} {s : Store} (h : Reached r past s)
    {task g : Nat} {q : Query} (hstage : s.stage? task = some (.fetching g q)) :
    ∃ m ∈ past, .request task q ∈ m.outputs := by
  obtain ⟨⟨before, move, outputs, after⟩, hm, htask, hmade, hafter⟩ := h.origin hstage
  refine ⟨_, hm, ?_⟩
  have e := h.effect hm
  dsimp only at htask hmade hafter e ⊢
  subst htask
  cases e with
  | ignored hignores => exact absurd hignores hmade
  | @asked task events generation query hready =>
      have hsame : generation = g ∧ query = q := by simpa using hafter
      simp [hsame.2]
  | ended => simp at hafter
  | joined => simp at hafter
  | entered => simp at hafter
  | handed => simp at hafter
  | saved => simp at hafter
  | took => simp at hafter

/-- A page among the news was the answer to a request, and of the generation it counts for. -/
theorem exists_take_of_page {past : List Moment} {g : Nat} {q : Query} {page : RowPage}
    (h : .page q page ∈ newsOf past g) : ∃ m ∈ past, ∃ task, m.move = .take task (.ok page) ∧
      m.before.stage? task = some (.fetching g q) ∧ m.before.state.generation = g := by
  obtain ⟨m, hm, hnews⟩ := List.mem_filterMap.mp h
  split at hnews
  · rename_i hg
    subst hg
    refine ⟨m, hm, ?_⟩
    match hmove : m.move with
    | .take task (.ok page') =>
        rw [hmove, Store.news?] at hnews
        split at hnews
        · rename_i g' q' hstage
          split at hnews
          · rename_i hg'
            cases hnews
            exact ⟨task, rfl, hg' ▸ hstage, rfl⟩
          · simp at hnews
        · simp at hnews
    | .enter task op =>
        rw [hmove, Store.news?] at hnews
        split at hnews
        · exact absurd hnews (op.news?_ne_page q page)
        · simp at hnews
    | .take task (.error failure) => simp [hmove, Store.news?] at hnews
    | .goOn task => simp [hmove, Store.news?] at hnews
    | .takeTurn task => simp [hmove, Store.news?] at hnews
    | .endTurn task worked => simp [hmove, Store.news?] at hnews
  · simp at hnews

/-! ### The rule of questions -/

/-- What is asked, and where what is held comes from, in a store with its past. -/
structure QuestionRule (past : List Moment) (s : Store) : Prop where
  /-- Whatever happens next, a request that is made then is for a generation that has
  begun, asks what the view asked at that time, and carries no cursor but that of a page
  of this generation that answers the same question. -/
  asks : ∀ m task q, .request task q ∈ (s.step m).2 →
    ∃ g, (s.step m).1.stage? task = some (.fetching g q) ∧ Asked past g q.question ∧
      Continues past g q
  /-- A page that counts for a generation was accepted while that was the present one, and
  answers a request that had been made for it. -/
  answers : ∀ g q page, .page q page ∈ newsOf past g →
    ∃ earlier m later task, past = earlier ++ m :: later ∧ m.move = .take task (.ok page) ∧
      m.before.stage? task = some (.fetching g q) ∧ m.before.state.generation = g ∧
      ∃ b ∈ earlier, .request task q ∈ b.outputs
  /-- The cursor at hand is that of the last page of the present generation, and there is
  none without a page. -/
  cursor : s.state.cursor = (lastPage? (newsOf past s.state.generation)).bind (·.next)
  /-- The rows at hand are of projects that came with a page of the present generation, in
  answer to what the view asks now. -/
  rows : ∀ row ∈ s.state.rows, ∃ q page, .page q page ∈ newsOf past s.state.generation ∧
    (∃ row' ∈ page.rows, row'.uid = row.uid) ∧ q.question = s.state.question

/-- **Questions are never mixed, after every run and whatever comes next.** -/
theorem run_questionRule (r : Registry) (moves : List Move) :
    QuestionRule ((Store.empty r).moments moves) ((Store.empty r).run moves) := by
  have hreached := reached_run r moves
  generalize (Store.empty r).moments moves = past at hreached
  generalize (Store.empty r).run moves = s at hreached
  have hprov := hreached.provenance
  refine ⟨?_, ?_, hprov.cursor, ?_⟩
  · intro m task q hreq
    obtain ⟨g, herrand, hstage⟩ := (effect_step s m).request hreq
    obtain ⟨hasked, hcontinues⟩ := hprov.errand herrand
    exact ⟨g, hstage, hasked, hcontinues⟩
  · intro g q page hpage
    obtain ⟨m, hm, task, hmove, hstage, hg⟩ := exists_take_of_page hpage
    obtain ⟨earlier, later, hpast⟩ := List.append_of_mem hm
    have hbefore := (hreached.split hpast).1
    exact ⟨earlier, m, later, task, hpast, hmove, hstage, hg, hbefore.requested hstage⟩
  · intro row hrow
    obtain ⟨q, page, hpage, hrow'⟩ := hprov.rows row hrow
    have hasked := hprov.page hpage
    exact ⟨q, page, hpage, hrow', hasked.unique (hprov.question hasked.pos)⟩

end ProjectViews
