/-
The rows of a view are the replay of its history.

The view keeps two things and changes them in place: the rows that are loaded, and the
uids that were seen in the generation.  What they amount to can be said from the news of
the generation alone.  The projects are those that came with its pages, in the order in
which they came first, without those that were deleted since; and the row of each is the
last one that a change brought since it came, or else the one it first came with.  That
is `replay`, and it mentions neither of the two.

It is enough to see how `replay` grows by one piece of news.  A page adds its new rows,
and new means that the uid has not come in the generation, which is what the seen uids
say also of rows that are gone; a change or a deletion only looks at what has come.
-/
import ProjectViews.Proofs.View.History
import Mathlib.Data.List.Basic

namespace ProjectViews

/-- The rows that come with some news. -/
def News.rows : News → List Row
  | .page _ answer => answer.rows
  | _ => []

/-- The new row of a project, if that is the news. -/
def News.change? (uid : String) : News → Option Row
  | .changed row => if row.uid = uid then some row else none
  | _ => none

/-- Whether the news is that a project was deleted. -/
def News.deletes (uid : String) : News → Bool
  | .deleted uid' => uid' == uid
  | _ => false

/-- All rows that came with pages, the first page first. -/
def pageRows (news : List News) : List Row := news.flatMap News.rows

/-- The uids of all rows that came with pages, with repetitions. -/
def landed (news : List News) : List String := (pageRows news).map (·.uid)

/-- What was learnt after the page with which a project came first. -/
def sinceLanding (uid : String) : List News → List News
  | [] => []
  | n :: rest => if uid ∈ n.rows.map (·.uid) then rest else sinceLanding uid rest

/-- The row of a project that has come: none if it was deleted since, or else the last one
that a change has brought since, or else the one it came with. -/
def rowNow? (news : List News) (uid : String) : Option Row :=
  if (sinceLanding uid news).any (·.deletes uid) then none
  else ((sinceLanding uid news).filterMap (·.change? uid)).getLast?.or
    ((pageRows news).find? fun r => r.uid == uid)

/-- The rows that the news of a generation amount to. -/
def replay (news : List News) : List Row := (firsts (landed news)).filterMap (rowNow? news)

/-! ### What has come, and what was learnt since -/

theorem landed_append (news more : List News) :
    landed (news ++ more) = landed news ++ landed more := by
  simp [landed, pageRows]

theorem sinceLanding_append {news : List News} {uid : String} (h : uid ∈ landed news)
    (more : List News) : sinceLanding uid (news ++ more) = sinceLanding uid news ++ more := by
  induction news with
  | nil => cases h
  | cons n rest ih =>
      rw [List.cons_append, sinceLanding, sinceLanding]
      by_cases hn : uid ∈ n.rows.map (·.uid)
      · rw [if_pos hn, if_pos hn]
      · rw [if_neg hn, if_neg hn]
        refine ih ?_
        have hsplit : landed (n :: rest) = n.rows.map (·.uid) ++ landed rest := by
          simp [landed, pageRows]
        rw [hsplit, List.mem_append] at h
        exact h.resolve_left hn

/-- Nothing has been learnt since about a project that comes only now. -/
theorem sinceLanding_concat_of_not_landed {news : List News} {uid : String}
    (h : uid ∉ landed news) (n : News) : sinceLanding uid (news ++ [n]) = [] := by
  induction news with
  | nil => simp [sinceLanding]
  | cons first rest ih =>
      have hsplit : landed (first :: rest) = first.rows.map (·.uid) ++ landed rest := by
        simp [landed, pageRows]
      rw [hsplit, List.mem_append, not_or] at h
      rw [List.cons_append, sinceLanding, if_neg h.1]
      exact ih h.2

/-! ### The row of one project after one more piece of news -/

theorem uid_of_rowNow? {news : List News} {uid : String} {row : Row}
    (h : rowNow? news uid = some row) : row.uid = uid := by
  unfold rowNow? at h
  split at h
  · simp at h
  · rcases Option.or_eq_some_iff.mp h with hchange | ⟨-, hfirst⟩
    · obtain ⟨n, -, hn⟩ := List.mem_filterMap.mp (List.mem_of_getLast? hchange)
      cases n with
      | changed row' =>
          rw [News.change?] at hn
          split at hn
          · rename_i huid
            rw [← Option.some.inj hn]
            exact huid
          · simp at hn
      | page query page => simp [News.change?] at hn
      | deleted uid' => simp [News.change?] at hn
    · simpa using List.find?_some hfirst

/-- A project that has come came first with some row. -/
theorem find?_pageRows_isSome {news : List News} {uid : String} (h : uid ∈ landed news) :
    ((pageRows news).find? fun r => r.uid == uid).isSome := by
  obtain ⟨row, hrow, huid⟩ := List.mem_map.mp h
  rw [List.find?_isSome]
  exact ⟨row, hrow, by simpa using huid⟩

/-- The page with which a project came first has the say, as far as pages are concerned. -/
theorem find?_pageRows_append {news : List News} {uid : String} (h : uid ∈ landed news)
    (more : List News) : ((pageRows (news ++ more)).find? fun r => r.uid == uid)
      = (pageRows news).find? fun r => r.uid == uid := by
  have happend : pageRows (news ++ more) = pageRows news ++ pageRows more := by simp [pageRows]
  rw [happend, List.find?_append]
  exact Option.or_of_isSome (find?_pageRows_isSome h)

variable {news : List News} {uid : String}

/-- A further page is no news of a project that has come. -/
theorem rowNow?_concat_page (h : uid ∈ landed news) (query : Query) (page : RowPage) :
    rowNow? (news ++ [.page query page]) uid = rowNow? news uid := by
  simp only [rowNow?, sinceLanding_append h, find?_pageRows_append h, List.any_append,
    List.filterMap_append]
  simp [News.deletes, News.change?]

/-- A project that comes only now has the row of the page. -/
theorem rowNow?_concat_of_not_landed (h : uid ∉ landed news) (query : Query) (page : RowPage) :
    rowNow? (news ++ [.page query page]) uid = page.rows.find? fun r => r.uid == uid := by
  have hbefore : ((pageRows news).find? fun r => r.uid == uid) = none := by
    rw [List.find?_eq_none]
    intro row hrow huid
    exact h (List.mem_map.mpr ⟨row, hrow, by simpa using huid⟩)
  have happend : pageRows (news ++ [.page query page]) = pageRows news ++ page.rows := by
    simp [pageRows, News.rows]
  simp only [rowNow?, sinceLanding_concat_of_not_landed h, happend, List.find?_append, hbefore]
  rfl

/-- A project that has come and was not deleted since has a row. -/
theorem rowNow?_isSome (h : uid ∈ landed news)
    (hkept : ¬ (sinceLanding uid news).any (·.deletes uid) = true) :
    ∃ row, rowNow? news uid = some row := by
  rw [rowNow?, if_neg hkept, ← Option.isSome_iff_exists, Option.isSome_or,
    find?_pageRows_isSome h, Bool.or_true]

/-- A change puts the new row in the place of the old one. -/
theorem rowNow?_concat_changed (h : uid ∈ landed news) (row : Row) :
    rowNow? (news ++ [.changed row]) uid
      = (rowNow? news uid).map fun loaded => if loaded.uid == row.uid then row else loaded := by
  have huid : ∀ {loaded : Row}, rowNow? news uid = some loaded → loaded.uid = uid :=
    uid_of_rowNow?
  by_cases hrow : row.uid = uid
  · have hnow : rowNow? (news ++ [.changed row]) uid
        = if (sinceLanding uid news).any (·.deletes uid) then none else some row := by
      simp only [rowNow?, sinceLanding_append h, find?_pageRows_append h, List.any_append,
        List.filterMap_append]
      simp [News.deletes, News.change?, hrow]
    rw [hnow]
    by_cases hgone : (sinceLanding uid news).any (·.deletes uid) = true
    · rw [if_pos hgone, rowNow?, if_pos hgone]
      rfl
    · obtain ⟨loaded, hloaded⟩ := rowNow?_isSome h hgone
      rw [if_neg hgone, hloaded, Option.map_some, if_pos]
      simpa [huid hloaded] using hrow.symm
  · have hsame : rowNow? (news ++ [.changed row]) uid = rowNow? news uid := by
      simp only [rowNow?, sinceLanding_append h, find?_pageRows_append h, List.any_append,
        List.filterMap_append]
      simp [News.deletes, News.change?, hrow]
    rw [hsame]
    cases hnow : rowNow? news uid with
    | none => rfl
    | some loaded =>
        rw [Option.map_some, if_neg]
        simpa [huid hnow] using Ne.symm hrow

/-- A deletion takes the row away. -/
theorem rowNow?_concat_deleted (h : uid ∈ landed news) (uid' : String) :
    rowNow? (news ++ [.deleted uid']) uid = if uid' = uid then none else rowNow? news uid := by
  simp only [rowNow?, sinceLanding_append h, find?_pageRows_append h, List.any_append,
    List.filterMap_append]
  by_cases huid : uid' = uid
  · simp [News.deletes, huid]
  · simp [News.deletes, News.change?, huid]

/-! ### New rows -/

/-- The uids of the new rows of a page are those that come first with it. -/
theorem foldl_firsts_uids (rows : List Row) {seen found : List String}
    (h : ∀ u, u ∈ seen ↔ u ∈ found) :
    (rows.map (·.uid)).foldl (fun found x => if x ∈ found then found else found ++ [x]) found
      = found ++ (ViewState.newRows seen rows).map (·.uid) := by
  induction rows generalizing seen found with
  | nil => simp [ViewState.newRows]
  | cons row rest ih =>
      rw [List.map_cons, List.foldl_cons, ViewState.newRows]
      by_cases hrow : row.uid ∈ seen
      · rw [if_pos ((h _).mp hrow), if_pos hrow]
        exact ih h
      · have hmore : ∀ u, u ∈ row.uid :: seen ↔ u ∈ found ++ [row.uid] := by
          intro u
          rw [List.mem_cons, List.mem_append, List.mem_singleton, h, or_comm]
        rw [if_neg fun hc => hrow ((h _).mpr hc), if_neg hrow, ih hmore]
        simp

/-- With the new rows of a page all its uids have been seen. -/
theorem mem_uids_newRows (rows : List Row) (seen : List String) (uid : String) :
    uid ∈ seen ∨ uid ∈ (ViewState.newRows seen rows).map (·.uid) ↔
      uid ∈ seen ∨ uid ∈ rows.map (·.uid) := by
  rw [← List.mem_append, ← foldl_firsts_uids rows fun _ => Iff.rfl]
  exact mem_foldl_firsts _ _ _

/-- A new row is the first one of its project in the page, and its project was not seen
before. -/
theorem find?_of_mem_newRows {rows : List Row} {seen : List String} {row : Row}
    (h : row ∈ ViewState.newRows seen rows) :
    (rows.find? fun r => r.uid == row.uid) = some row ∧ row.uid ∉ seen := by
  induction rows generalizing seen with
  | nil => cases h
  | cons first rest ih =>
      rw [ViewState.newRows] at h
      by_cases hfirst : first.uid ∈ seen
      · rw [if_pos hfirst] at h
        obtain ⟨hfind, hunseen⟩ := ih h
        have hne : first.uid ≠ row.uid := fun hc => hunseen (hc ▸ hfirst)
        refine ⟨?_, hunseen⟩
        rw [List.find?_cons_of_neg (by simpa using hne), hfind]
      · rw [if_neg hfirst] at h
        rcases List.mem_cons.mp h with rfl | h'
        · exact ⟨List.find?_cons_of_pos (beq_self_eq_true _), hfirst⟩
        · obtain ⟨hfind, hunseen⟩ := ih h'
          rw [List.mem_cons, not_or] at hunseen
          refine ⟨?_, hunseen.2⟩
          rw [List.find?_cons_of_neg (by simpa using Ne.symm hunseen.1), hfind]

/-! ### The rows after one more piece of news -/

/-- A page adds its new rows, those of projects that have not come yet. -/
theorem replay_concat_page {seen : List String} (h : ∀ u, u ∈ seen ↔ u ∈ landed news)
    (query : Query) (page : RowPage) :
    replay (news ++ [.page query page]) = replay news ++ ViewState.newRows seen page.rows := by
  have hlanded : landed (news ++ [.page query page]) = landed news ++ page.rows.map (·.uid) := by
    simp [landed, pageRows, News.rows]
  have hfirsts : firsts (landed news ++ page.rows.map (·.uid))
      = firsts (landed news) ++ (ViewState.newRows seen page.rows).map (·.uid) := by
    rw [firsts, List.foldl_append]
    exact foldl_firsts_uids page.rows fun u => (h u).trans mem_firsts.symm
  rw [replay, hlanded, hfirsts, List.filterMap_append]
  congr 1
  · exact List.filterMap_congr fun uid huid => rowNow?_concat_page (mem_firsts.mp huid) query page
  · rw [List.filterMap_map]
    refine (List.filterMap_congr fun row hrow => ?_).trans List.filterMap_some
    obtain ⟨hfind, hunseen⟩ := find?_of_mem_newRows hrow
    exact (rowNow?_concat_of_not_landed (fun hc => hunseen ((h _).mpr hc)) query page).trans hfind

/-- A change replaces the row it is about. -/
theorem replay_concat_changed (row : Row) :
    replay (news ++ [.changed row]) = replaceRow row (replay news) := by
  have hlanded : landed (news ++ [.changed row]) = landed news := by
    simp [landed, pageRows, News.rows]
  rw [replay, hlanded, replaceRow, replay, List.map_filterMap]
  exact List.filterMap_congr fun uid huid => rowNow?_concat_changed (mem_firsts.mp huid) row

/-- A deletion drops the row it is about. -/
theorem replay_concat_deleted (uid : String) :
    replay (news ++ [.deleted uid]) = dropRow uid (replay news) := by
  have hlanded : landed (news ++ [.deleted uid]) = landed news := by
    simp [landed, pageRows, News.rows]
  rw [replay, hlanded, dropRow, replay, List.filter_filterMap]
  refine List.filterMap_congr fun u hu => ?_
  rw [rowNow?_concat_deleted (mem_firsts.mp hu)]
  cases hnow : rowNow? news u with
  | none => simp
  | some row =>
      have huid : row.uid = u := uid_of_rowNow? hnow
      by_cases hu : uid = u
      · simp [Option.filter, hu, huid]
      · simp [Option.filter, hu, huid, Ne.symm hu]

/-- The projects of the replay are those that came, in the order in which they came first,
without those that were deleted since. -/
theorem map_uid_replay (news : List News) : (replay news).map (·.uid)
    = (firsts (landed news)).filter fun uid => !(sinceLanding uid news).any (·.deletes uid) := by
  rw [replay, List.map_filterMap, ← List.filterMap_eq_filter]
  refine List.filterMap_congr fun uid huid => ?_
  by_cases hgone : (sinceLanding uid news).any (·.deletes uid) = true
  · rw [rowNow?, if_pos hgone]
    simp [Option.guard, hgone]
  · obtain ⟨row, hrow⟩ := rowNow?_isSome (mem_firsts.mp huid) hgone
    rw [hrow, Option.map_some, uid_of_rowNow? hrow]
    simp [Option.guard, hgone]

-- `a` stays away once it was deleted, `b` keeps its place, and `c` has not come when it is
-- first said to have changed
example :
    let query : Query := ⟨"", [], none, none⟩
    let first : RowPage := ⟨[.bare "a" "old", .bare "b" "old"], none⟩
    let second : RowPage := ⟨[.bare "a" "again", .bare "c" "late", .bare "b" "again"], none⟩
    replay [.page query first, .changed (.bare "b" "new"), .deleted "a",
      .changed (.bare "c" "early"), .page query second] = [.bare "b" "new", .bare "c" "late"] := by
  rfl

end ProjectViews
