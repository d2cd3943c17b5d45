/-
Lists that come in pages, and what a view shows of them.

A chain is a finite list of pages in which every page but the last has a cursor for the one
behind it, and no two pages have the same.  So a cursor asks for one page of the chain, and
without a cursor it is the first one, which is `page?_cursor?`.

A view shows the first so many pages of a chain when it has their rows, without those of
projects that came before, and the cursor for the page behind them.  The first row of each
project is said by itself in `firstOfEach`; that appending pages one by one comes to the same
is `firstOfEach_append`.  A view that shows some pages and takes the next one in shows one more.
-/
import ProjectViews.Proofs.View.Replay

namespace ProjectViews

/-! ### The first row of each project -/

/-- The rows of a list that are the first ones of their projects. -/
def firstOfEach : List Row → List Row
  | [] => []
  | row :: rest => row :: (firstOfEach rest).filter fun r => r.uid != row.uid

/-- The new rows of a page are the first ones of the projects that were not seen. -/
theorem newRows_eq_filter (seen : List String) (rows : List Row) :
    ViewState.newRows seen rows = (firstOfEach rows).filter fun r => !seen.contains r.uid := by
  induction rows generalizing seen with
  | nil => rfl
  | cons row rest ih =>
      rw [ViewState.newRows, firstOfEach]
      by_cases hseen : row.uid ∈ seen
      · rw [if_pos hseen, ih, List.filter_cons_of_neg (by simpa using hseen), List.filter_filter]
        refine List.filter_congr fun r _ => ?_
        by_cases hr : r.uid = row.uid
        · simp [hr, hseen]
        · simp [hr]
      · rw [if_neg hseen, ih, List.filter_cons_of_pos (by simpa using hseen), List.filter_filter]
        refine congrArg _ (List.filter_congr fun r _ => ?_)
        rw [List.contains_cons, Bool.not_or, Bool.and_comm]
        rfl

theorem firstOfEach_eq_newRows (rows : List Row) : firstOfEach rows = ViewState.newRows [] rows := by
  rw [newRows_eq_filter]
  exact (List.filter_eq_self.mpr fun _ _ => rfl).symm

/-- What is appended only adds rows of projects that were not there. -/
theorem firstOfEach_append (rows more : List Row) {seen : List String}
    (h : ∀ uid, uid ∈ seen ↔ uid ∈ rows.map (·.uid)) :
    firstOfEach (rows ++ more) = firstOfEach rows ++ ViewState.newRows seen more := by
  induction rows generalizing seen with
  | nil =>
      have hnil : seen = [] := List.eq_nil_iff_forall_not_mem.mpr fun uid huid => by
        simpa using (h uid).mp huid
      rw [hnil, ← firstOfEach_eq_newRows]
      rfl
  | cons row rest ih =>
      rw [List.cons_append, firstOfEach, firstOfEach, ih fun _ => Iff.rfl, List.filter_append,
        List.cons_append, newRows_eq_filter, newRows_eq_filter, List.filter_filter]
      refine congrArg (row :: _ ++ ·) (List.filter_congr fun r _ => ?_)
      rw [Bool.eq_iff_iff]
      simp [h, and_comm]

/-! ### Chains -/

/-- A list in pages. -/
structure Chain where
  pages : List RowPage
  /-- There is a first page. -/
  nonempty : 0 < pages.length
  /-- Every page but the last one has a cursor. -/
  linked : ∀ (k : Nat) page, pages[k]? = some page →
    (page.next.isSome = true ↔ k + 1 < pages.length)
  /-- No two pages have the same. -/
  distinct : ∀ (i j : Nat) (page page' : RowPage) cursor, pages[i]? = some page →
    pages[j]? = some page' → page.next = some cursor → page'.next = some cursor → i = j

namespace Chain

/-- How many pages there are. -/
def length (c : Chain) : Nat := c.pages.length

/-- The cursor that asks for a page of the chain.  Pages are counted from zero, and the first
one needs none. -/
def cursor? (c : Chain) : Nat → Option Cursor
  | 0 => none
  | k + 1 => (c.pages[k]?).bind (·.next)

/-- The page that a cursor asks for. -/
def page? (c : Chain) (cursor : Option Cursor) : Option RowPage :=
  ((List.range c.length).find? fun k => c.cursor? k == cursor).bind fun k => c.pages[k]?

/-- The rows of the first pages, where the first row of each project counts. -/
def rows (c : Chain) (k : Nat) : List Row := firstOfEach ((c.pages.take k).flatMap (·.rows))

variable {c : Chain} {k : Nat}

/-- There is a cursor for every page but the first one, and for none behind the last one. -/
theorem cursor?_isSome_iff (h : k ≤ c.length) :
    (c.cursor? k).isSome = true ↔ 0 < k ∧ k < c.length := by
  cases k with
  | zero => simp [cursor?]
  | succ k =>
      have hpage : c.pages[k]? = some c.pages[k] := List.getElem?_eq_getElem h
      rw [cursor?, hpage, Option.bind_some, c.linked k _ hpage]
      exact (and_iff_right (Nat.succ_pos k)).symm

theorem cursor?_succ_of_page {page : RowPage} (h : c.pages[k]? = some page) :
    c.cursor? (k + 1) = page.next := by
  rw [cursor?, h, Option.bind_some]

/-- Different pages are asked for by different cursors. -/
theorem cursor?_inj {l : Nat} (hk : k < c.length) (hl : l < c.length)
    (h : c.cursor? k = c.cursor? l) : k = l := by
  have hsome : 0 < k ↔ 0 < l := by
    have hkSome := c.cursor?_isSome_iff (Nat.le_of_lt hk)
    have hlSome := c.cursor?_isSome_iff (Nat.le_of_lt hl)
    rw [and_iff_left hk] at hkSome
    rw [and_iff_left hl] at hlSome
    rw [← hkSome, ← hlSome, h]
  cases k with
  | zero => omega
  | succ k =>
      cases l with
      | zero => omega
      | succ l =>
          have hcursor := (c.cursor?_isSome_iff (Nat.le_of_lt hk)).mpr ⟨Nat.succ_pos k, hk⟩
          obtain ⟨cursor, hcursor⟩ := Option.isSome_iff_exists.mp hcursor
          obtain ⟨page, hpage, hnext⟩ := Option.bind_eq_some_iff.mp hcursor
          obtain ⟨page', hpage', hnext'⟩ := Option.bind_eq_some_iff.mp (h ▸ hcursor)
          rw [c.distinct k l page page' cursor hpage hpage' hnext hnext']

/-- **A cursor asks for its page.** -/
theorem page?_cursor? (h : k < c.length) : c.page? (c.cursor? k) = c.pages[k]? := by
  unfold page?
  cases hfind : (List.range c.length).find? fun l => c.cursor? l == c.cursor? k with
  | none =>
      have hk := List.find?_eq_none.mp hfind k (List.mem_range.mpr h)
      simp at hk
  | some l =>
      have hl : l < c.length := List.mem_range.mp (List.mem_of_find?_eq_some hfind)
      have hcursor : c.cursor? l = c.cursor? k := by simpa using List.find?_some hfind
      rw [Option.bind_some, cursor?_inj hl h hcursor]

/-- The rows of one page more. -/
theorem flatMap_take_succ {page : RowPage} (h : c.pages[k]? = some page) :
    (c.pages.take (k + 1)).flatMap (·.rows)
      = (c.pages.take k).flatMap (·.rows) ++ page.rows := by
  rw [List.take_add_one, h, Option.toList_some, List.flatMap_append, List.flatMap_singleton]

end Chain

/-- What a server has to give: a chain for each question. -/
abbrev Catalogue := Query → Chain

/-- The page that a catalogue has for a request. -/
def Catalogue.page? (catalogue : Catalogue) (q : Query) : Option RowPage :=
  (catalogue q.question).page? q.cursor

/-! ### What a view shows of a chain -/

/-- A view shows the first pages of a chain, and no further ones. -/
structure Shows (c : Chain) (k : Nat) (s : ViewState) : Prop where
  /-- There are that many. -/
  le : k ≤ c.length
  /-- It has the rows of these pages. -/
  rows : s.rows = c.rows k
  /-- It has seen the projects of these pages. -/
  seen : ∀ uid, uid ∈ s.seen ↔ uid ∈ ((c.pages.take k).flatMap (·.rows)).map (·.uid)
  /-- Its cursor asks for the page behind them. -/
  cursor : s.cursor = c.cursor? k
  /-- It knows whether the first one has come. -/
  complete : s.isFirstLoadComplete = decide (0 < k)

namespace Shows

variable {c : Chain} {k : Nat} {s : ViewState}

/-- A generation begins without a page. -/
theorem begin (c : Chain) (s : ViewState) : Shows c 0 s.beginGeneration where
  le := Nat.zero_le _
  rows := rfl
  seen := by simp [ViewState.beginGeneration]
  cursor := rfl
  complete := rfl

/-- What leaves the loaded part alone changes nothing. -/
theorem congr {t : ViewState} (h : Shows c k s) (rows : t.rows = s.rows) (seen : t.seen = s.seen)
    (cursor : t.cursor = s.cursor) (complete : t.isFirstLoadComplete = s.isFirstLoadComplete) :
    Shows c k t where
  le := h.le
  rows := rows.trans h.rows
  seen := seen ▸ h.seen
  cursor := cursor.trans h.cursor
  complete := complete.trans h.complete

/-- **The next page is one more.** -/
theorem receive {page : RowPage} (h : Shows c k s) (hpage : c.pages[k]? = some page) :
    Shows c (k + 1) (s.receive s.generation (.ok page)).1 := by
  obtain ⟨hlt, -⟩ := List.getElem?_eq_some_iff.mp hpage
  rw [ViewState.receive_page]
  refine ⟨hlt, ?_, ?_, (c.cursor?_succ_of_page hpage).symm, by simp⟩
  · show s.rows ++ ViewState.newRows s.seen page.rows = c.rows (k + 1)
    rw [h.rows, Chain.rows, Chain.rows, Chain.flatMap_take_succ hpage,
      firstOfEach_append _ _ h.seen]
  · intro uid
    show uid ∈ (ViewState.newRows s.seen page.rows).map (·.uid) ++ s.seen ↔ _
    rw [List.mem_append, or_comm, mem_uids_newRows, h.seen, Chain.flatMap_take_succ hpage,
      List.map_append, List.mem_append]

end Shows

end ProjectViews
