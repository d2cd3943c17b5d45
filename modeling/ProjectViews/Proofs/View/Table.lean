/-
What can be read of a table.

A snapshot is written as lines of cells: one for the headings, one for each row, and a last one.
Neither uids nor values are escaped, so a row is read back as one line, with a cell for each
column, exactly if nothing that it shows holds a tab or a line end.  Texts are shown as they are,
also in lists, and everything else is shown as JSON text, which holds neither: so what a value
shows is decided by the texts that are not inside an object, `Json.Shows`.

A row that shows a line end is read as several lines, between those of the rows before and behind
it, and these are read as if it were not there.  What a row shows has come with it, so tables are
read back as long as all rows that a view was told of can be.

A table without columns is an exception: it has a tab behind the first cell of every line that is
not the last one, and nothing behind the tab.
-/
import Mathlib.Data.List.Forall2
import ProjectViews.Proofs.Json.Printable
import ProjectViews.Proofs.Text.Cells
import ProjectViews.Proofs.View.Rows
import ProjectViews.View.Table

namespace ProjectViews

open Text (IsCell ofLines lines? reread)

/-! ### What a value shows -/

/-- A value shows a character: it is a text that holds it, or a list of which an item shows it. -/
inductive Json.Shows (c : Char) : Json → Prop
  | text {s : String} (h : c ∈ s.toList) : Shows c (.string s)
  | item {items : List Json} {j : Json} (mem : j ∈ items) (h : Shows c j) : Shows c (.array items)

namespace Table

mutual

/-- **A control character in the text of a value is one that the value shows.** -/
theorem mem_formatValue_iff {c : Char} (control : c.toNat < 32) :
    ∀ j : Json, c ∈ (formatValue j).toList ↔ j.Shows c
  | .null => iff_of_false (by simp [formatValue]) nofun
  | .string s => ⟨.text, fun | .text h => h⟩
  | .array items => by
      have hseparator : Printable ", ".toList := by decide
      rw [formatValue, Text.mem_join_iff (hseparator.not_mem control),
        mem_formatItems_iff control items]
      exact ⟨fun ⟨_, hmem, h⟩ => .item hmem h, fun | .item hmem h => ⟨_, hmem, h⟩⟩
  | .bool b => iff_of_false ((Json.printable_print _).not_mem control) nofun
  | .int i => iff_of_false ((Json.printable_print _).not_mem control) nofun
  | .double x => iff_of_false ((Json.printable_print _).not_mem control) nofun
  | .object members => iff_of_false ((Json.printable_print _).not_mem control) nofun

theorem mem_formatItems_iff {c : Char} (control : c.toNat < 32) : ∀ items : List Json,
    (∃ t ∈ formatItems items, c ∈ t.toList) ↔ ∃ j ∈ items, j.Shows c
  | [] => by simp [formatItems]
  | j :: rest => by
      simp only [formatItems, List.mem_cons, exists_eq_or_imp]
      exact or_congr (mem_formatValue_iff control j) (mem_formatItems_iff control rest)

end

theorem mem_format_iff {c : Char} (control : c.toNat < 32) (j : Option Json) :
    c ∈ (format j).toList ↔ ∃ k, j = some k ∧ k.Shows c := by
  cases j with
  | none => simp [format]
  | some j => simpa [format] using mem_formatValue_iff control j

-- a text in a list stands as it is, and a text in an object is escaped
example : formatValue (.array [.string "a\tb", .object [("k", .string "a\tb")]])
    = "a\tb, \x7b\"k\":\"a\\tb\"\x7d" := by
  decide +kernel

end Table

/-! ### What a row shows -/

namespace Row

/-- What a row has for a field.  Its name is not among its values. -/
def value? (r : Registry) (row : Row) : Field → Option Json
  | .name => some (.string row.name)
  | f => (r.get? f).bind fun d => row.valueAt d.valuePath

/-- The uid of a row, and what the row has for some fields. -/
def cells (r : Registry) (row : Row) (fields : List Field) : List String :=
  row.uid :: fields.map fun f => Table.format (row.value? r f)

/-- A row shows a character in its uid or in what it has for some fields. -/
def Shows (r : Registry) (row : Row) (fields : List Field) (c : Char) : Prop :=
  c ∈ row.uid.toList ∨ ∃ f ∈ fields, ∃ j, row.value? r f = some j ∧ j.Shows c

/-- A row that shows neither a tab nor a line end. -/
def Fits (r : Registry) (row : Row) (fields : List Field) : Prop :=
  ¬ row.Shows r fields '\t' ∧ ¬ row.Shows r fields '\n'

variable {r : Registry} {row : Row} {fields : List Field}

theorem shows_iff {c : Char} (control : c.toNat < 32) :
    row.Shows r fields c ↔ ∃ cell ∈ row.cells r fields, c ∈ cell.toList := by
  simp only [Shows, cells, List.mem_cons, exists_eq_or_imp, List.mem_map,
    exists_exists_and_eq_and, Table.mem_format_iff control]

theorem fits_iff : row.Fits r fields ↔ ∀ cell ∈ row.cells r fields, IsCell cell := by
  rw [Fits, shows_iff (by decide), shows_iff (by decide)]
  simp only [IsCell, not_exists, not_and, ← forall_and]

/-- What a row has for a field is what stands in the column of the field. -/
theorem format_value? {f : Field} {d : FieldDefinition} (h : r.get? f = some d) :
    Table.format (row.value? r f) = Table.cell row d := by
  have hfield : d.field = f := by simpa using List.find?_some h
  rw [Table.cell, hfield]
  cases f with
  | name => rfl
  | _ =>
      show Table.format ((r.get? _).bind _) = _
      rw [h]
      rfl

end Row

/-! ### A snapshot as lines of cells -/

/-- Registries of which a table can be made: every field is known, and every heading is a cell. -/
structure Registry.Tabular (r : Registry) : Prop where
  known : ∀ f, ∃ d, r.get? f = some d
  labels : ∀ f d, r.get? f = some d → IsCell d.label

theorem tabular_ownProjects : Registry.ownProjects.Tabular where
  known := by
    intro f
    cases f <;> exact ⟨_, rfl⟩
  labels := by
    intro f d h
    have hlabels : ∀ d ∈ Registry.ownProjects.definitions, IsCell d.label := by decide +kernel
    exact hlabels d (List.mem_reverse.mp (List.mem_of_find?_eq_some h))

namespace Table

/-- A line of one cell is written with an empty one behind it. -/
def widen : List String → List String
  | [first] => [first, ""]
  | cells => cells

theorem widen_ne_nil {cells : List String} (h : cells ≠ []) : widen cells ≠ [] := by
  rcases cells with _ | ⟨first, _ | ⟨second, rest⟩⟩
  · exact absurd rfl h
  · exact List.cons_ne_nil _ _
  · exact List.cons_ne_nil _ _

theorem widen_eq_self_iff {cells : List String} : widen cells = cells ↔ cells.length ≠ 1 := by
  rcases cells with _ | ⟨first, _ | ⟨second, rest⟩⟩
  · exact iff_of_true rfl (by decide)
  · exact iff_of_false (by simp [widen]) (by simp)
  · exact iff_of_true rfl (by simp)

theorem forall_mem_widen {P : String → Prop} (empty : P "") {cells : List String} :
    (∀ cell ∈ widen cells, P cell) ↔ ∀ cell ∈ cells, P cell := by
  rcases cells with _ | ⟨first, _ | ⟨second, rest⟩⟩
  · exact Iff.rfl
  · simp [widen, empty]
  · exact Iff.rfl

/-- A line is read as it was written exactly if its row fits. -/
theorem reread_row_iff {r : Registry} {row : Row} {fields : List Field} :
    reread (widen (row.cells r fields)) = [widen (row.cells r fields)] ↔ row.Fits r fields := by
  have hnonempty : widen (row.cells r fields) ≠ [] := widen_ne_nil (List.cons_ne_nil _ _)
  rw [Text.reread_eq_singleton_iff hnonempty, forall_mem_widen (by decide), Row.fits_iff]

theorem line_eq (first : String) (cells : List String) :
    line first cells = Text.join "\t" (widen (first :: cells)) ++ "\n" := by
  cases cells <;> rfl

/-- The headings of a table. -/
def headings (r : Registry) (s : Snapshot) : List String :=
  "uid" :: (columns r s).map (heading s)

/-- The last line of a table. -/
def summary (s : Snapshot) : String :=
  if !s.isFirstLoadComplete then "(projects did not load)"
  else if s.hasMorePages then Number.write s.rows.length ++ " projects shown, more available"
  else Number.write s.rows.length ++ " projects"

theorem footer_eq (s : Snapshot) : footer s = summary s ++ "\n" := by
  rw [footer, summary]
  split
  · rfl
  · split
    · rw [String.append_assoc]
      rfl
    · rw [String.append_assoc]
      rfl

theorem isCell_summary (s : Snapshot) : IsCell (summary s) := by
  have hnumber : ∀ text : String, Printable text.toList →
      IsCell (Number.write s.rows.length ++ text) := by
    intro text htext
    have hall : Printable (Number.write s.rows.length ++ text).toList := by
      rw [String.toList_append, Number.write, String.toList_ofList]
      exact (printable_writeDigits _).append htext
    exact ⟨hall.not_mem (by decide), hall.not_mem (by decide)⟩
  rw [summary]
  split
  · decide
  · split
    · exact hnumber _ (by decide)
    · exact hnumber _ (by decide)

/-- The lines that a snapshot has to say. -/
def lines (r : Registry) (s : Snapshot) : List (List String) :=
  headings r s :: s.rows.map (Row.cells r · s.visibleFields) ++ [[summary s]]

theorem forall_mem_lines {r : Registry} {s : Snapshot} {P : List String → Prop} :
    (∀ cells ∈ lines r s, P cells) ↔ P (headings r s) ∧
      (∀ row ∈ s.rows, P (row.cells r s.visibleFields)) ∧ P [summary s] := by
  rw [lines, List.forall_mem_append, List.forall_mem_cons, List.forall_mem_map,
    List.forall_mem_singleton, and_assoc]

/-- The lines that it is written as. -/
def written (r : Registry) (s : Snapshot) : List (List String) :=
  widen (headings r s) :: s.rows.map (fun row => widen (row.cells r s.visibleFields))
    ++ [[summary s]]

section Written

variable {r : Registry} (h : r.Tabular) (s : Snapshot)
include h

/-- There is a column for each visible field. -/
theorem field_columns : (columns r s).map (·.field) = s.visibleFields := by
  rw [columns, List.map_filterMap]
  refine (List.filterMap_congr fun f _ => ?_).trans List.filterMap_some
  obtain ⟨d, hd⟩ := h.known f
  rw [hd]
  exact congrArg some (by simpa using List.find?_some hd)

theorem length_headings : (headings r s).length = s.visibleFields.length + 1 := by
  rw [headings, List.length_cons, List.length_map, ← field_columns h s, List.length_map]

theorem cell_columns (row : Row) :
    row.uid :: (columns r s).map (cell row) = row.cells r s.visibleFields := by
  rw [columns, List.map_filterMap, Row.cells]
  congr 1
  refine (List.filterMap_congr fun f _ => ?_).trans (congrFun List.filterMap_eq_map' _)
  obtain ⟨d, hd⟩ := h.known f
  rw [hd, Row.format_value? hd]
  rfl

theorem concat_rowLine (rows : List Row) (rest : List (List String)) :
    concat (rows.map (rowLine r s)) ++ ofLines rest
      = ofLines (rows.map (fun row => widen (row.cells r s.visibleFields)) ++ rest) := by
  induction rows with
  | nil => exact String.empty_append
  | cons row rows ih =>
      rw [List.map_cons, concat, String.append_assoc, ih, rowLine, line_eq, cell_columns h s row]
      rfl

/-- **A snapshot is written line by line.** -/
theorem render_eq : render r s = ofLines (written r s) := by
  have hfooter : footer s = ofLines [[summary s]] := by
    rw [footer_eq]
    exact String.append_empty.symm
  rw [render, hfooter, String.append_assoc, concat_rowLine h s, header, line_eq]
  rfl

theorem isCell_headings : ∀ cell ∈ headings r s, IsCell cell := by
  intro cell hcell
  rcases List.mem_cons.mp hcell with rfl | hmem
  · decide
  · obtain ⟨d, hd, rfl⟩ := List.mem_map.mp hmem
    obtain ⟨f, -, hf⟩ := List.mem_filterMap.mp hd
    obtain ⟨htab, hend⟩ := h.labels f d hf
    rw [heading]
    split
    · rw [IsCell, String.toList_append, List.mem_append, List.mem_append]
      exact ⟨not_or.mpr ⟨htab, by decide⟩, not_or.mpr ⟨hend, by decide⟩⟩
    · exact ⟨htab, hend⟩

/-- **What is read of a table**: the headings, what is read of each row, and the last line. -/
theorem lines?_render : lines? (render r s) = some (widen (headings r s)
    :: (s.rows.map fun row => reread (widen (row.cells r s.visibleFields))).flatten
      ++ [[summary s]]) := by
  have hheadings : reread (widen (headings r s)) = [widen (headings r s)] :=
    (Text.reread_eq_singleton_iff (widen_ne_nil (List.cons_ne_nil _ _))).mpr
      ((forall_mem_widen (by decide)).mpr (isCell_headings h s))
  have hsummary : reread [summary s] = [[summary s]] :=
    (Text.reread_eq_singleton_iff (List.cons_ne_nil _ _)).mpr
      (List.forall_mem_singleton.mpr (isCell_summary s))
  rw [render_eq h s, Text.lines?_ofLines, written, List.flatMap_append, List.flatMap_cons,
    List.flatMap_map, List.flatMap_singleton, hheadings, hsummary, List.flatMap_def]
  rfl

theorem written_eq_lines (shown : s.visibleFields ≠ []) : written r s = lines r s := by
  have hlength := length_headings h s
  have hpositive := List.length_pos_iff.mpr shown
  have hheadings : widen (headings r s) = headings r s := widen_eq_self_iff.mpr (by omega)
  have hrow : ∀ row : Row, widen (row.cells r s.visibleFields) = row.cells r s.visibleFields := by
    intro row
    rw [widen_eq_self_iff, Row.cells, List.length_cons, List.length_map]
    omega
  rw [written, lines, hheadings]
  simp only [hrow]

theorem isCell_lines_iff : (∀ cells ∈ lines r s, ∀ cell ∈ cells, IsCell cell) ↔
    ∀ row ∈ s.rows, row.Fits r s.visibleFields := by
  simp only [forall_mem_lines, Row.fits_iff]
  exact ⟨fun hall => hall.2.1, fun hrows =>
    ⟨isCell_headings h s, hrows, List.forall_mem_singleton.mpr (isCell_summary s)⟩⟩

/-- **A table is read back exactly if it has a column and every row fits into it.** -/
theorem lines?_render_eq_iff : lines? (render r s) = some (lines r s) ↔
    s.visibleFields ≠ [] ∧ ∀ row ∈ s.rows, row.Fits r s.visibleFields := by
  have hnonempty : ∀ cells ∈ lines r s, cells ≠ [] := forall_mem_lines.mpr
    ⟨List.cons_ne_nil _ _, fun _ _ => List.cons_ne_nil _ _, List.cons_ne_nil _ _⟩
  have hread : s.visibleFields ≠ [] → (lines? (render r s) = some (lines r s) ↔
      ∀ row ∈ s.rows, row.Fits r s.visibleFields) := by
    intro hshown
    rw [render_eq h s, written_eq_lines h s hshown, Text.lines?_ofLines_eq_iff hnonempty,
      isCell_lines_iff h s]
  -- without a column the headings are read with an empty cell behind them
  have hshown : lines? (render r s) = some (lines r s) → s.visibleFields ≠ [] := by
    intro hlines hnone
    rw [lines?_render h s, lines] at hlines
    have hfirst : widen (headings r s) = headings r s :=
      (List.cons.inj (Option.some.inj hlines)).1
    exact widen_eq_self_iff.mp hfirst (by rw [length_headings h s, hnone]; rfl)
  exact ⟨fun hlines => ⟨hshown hlines, (hread (hshown hlines)).mp hlines⟩,
    fun ⟨shown, hrows⟩ => (hread shown).mpr hrows⟩

/-- It has a line for each row exactly if no row shows a line end. -/
theorem length_written_iff :
    ((written r s).flatMap reread).length = s.rows.length + 2 ↔
      ∀ row ∈ s.rows, ¬ row.Shows r s.visibleFields '\n' := by
  have hlength : (written r s).length = s.rows.length + 2 := by
    simp [written]
  have hheadings : ∀ cell ∈ widen (headings r s), '\n' ∉ cell.toList :=
    (forall_mem_widen (by decide)).mpr fun cell hcell => (isCell_headings h s cell hcell).2
  have hrow : ∀ row : Row, (∀ cell ∈ widen (row.cells r s.visibleFields), '\n' ∉ cell.toList) ↔
      ¬ row.Shows r s.visibleFields '\n' := by
    intro row
    rw [forall_mem_widen (by decide), Row.shows_iff (by decide)]
    simp only [not_exists, not_and]
  rw [← hlength, Text.length_flatMap_reread_iff, written, List.forall_mem_append,
    List.forall_mem_cons, List.forall_mem_map]
  simp only [hrow]
  exact ⟨fun hall => hall.1.2, fun hall => ⟨⟨hheadings, hall⟩,
    List.forall_mem_singleton.mpr (List.forall_mem_singleton.mpr (isCell_summary s).2)⟩⟩

end Written

end Table

/-! ### The rows that a view was told of -/

theorem sinceLanding_subset (uid : String) (news : List News) : sinceLanding uid news ⊆ news := by
  induction news with
  | nil => exact List.Subset.refl _
  | cons n rest ih =>
      rw [sinceLanding]
      split
      · exact List.subset_cons_self n rest
      · exact List.subset_cons_of_subset n ih

/-- A row has come with a page or with a change. -/
theorem mem_replay {news : List News} {row : Row} (h : row ∈ replay news) :
    row ∈ pageRows news ∨ .changed row ∈ news := by
  obtain ⟨uid, -, hrow⟩ := List.mem_filterMap.mp h
  rw [rowNow?] at hrow
  split at hrow
  · cases hrow
  rcases Option.or_eq_some_iff.mp hrow with hchange | ⟨-, hpage⟩
  · obtain ⟨n, hn, hchanged⟩ := List.mem_filterMap.mp (List.mem_of_getLast? hchange)
    refine Or.inr (sinceLanding_subset uid news ?_)
    cases n with
    | changed row' =>
        rw [News.change?] at hchanged
        split at hchanged
        · cases hchanged
          exact hn
        · cases hchanged
    | page query page => cases hchanged
    | deleted uid' => cases hchanged
  · exact Or.inl (List.mem_of_find?_eq_some hpage)

/-! ### The rule of tables -/

/-- What can be read of the table of a snapshot that was taken after some news of its
generation. -/
structure TableRule (r : Registry) (news : List News) (s : Snapshot) : Prop where
  /-- There is a column for each visible field, in their order, and each row has a cell for each
  column. -/
  columns : (Table.columns r s).map (·.field) = s.visibleFields ∧
    ∀ row ∈ s.rows, (row.cells r s.visibleFields).length = (Table.headings r s).length
  /-- Whatever the rows show, the first line has the headings, the last one says how many rows
  there are, and between them each row has lines of its own, in their order.  It has one line with
  its cells exactly if it shows neither a tab nor a line end. -/
  frame : ∃ parts : List (List (List String)),
    List.Forall₂ (fun row part => part ≠ [] ∧
      (part = [Table.widen (row.cells r s.visibleFields)] ↔ row.Fits r s.visibleFields))
      s.rows parts ∧
    lines? (Table.render r s)
      = some (Table.widen (Table.headings r s) :: parts.flatten ++ [[Table.summary s]])
  /-- There are two lines more than rows exactly if no row shows a line end. -/
  count : ∃ found, lines? (Table.render r s) = some found ∧
    (found.length = s.rows.length + 2 ↔ ∀ row ∈ s.rows, ¬ row.Shows r s.visibleFields '\n')
  /-- All lines are read as they should be exactly if there is a visible field and no row shows a
  tab or a line end. -/
  cells : lines? (Table.render r s) = some (Table.lines r s) ↔
    s.visibleFields ≠ [] ∧ ∀ row ∈ s.rows, row.Fits r s.visibleFields
  /-- So they are if there is a visible field and no row that the news brought shows one. -/
  told : s.visibleFields ≠ [] →
    (∀ row, row ∈ pageRows news ∨ .changed row ∈ news → row.Fits r s.visibleFields) →
    lines? (Table.render r s) = some (Table.lines r s)

theorem Registry.Tabular.tableRule {r : Registry} (h : r.Tabular) {news : List News} {s : Snapshot}
    (rows : s.rows = replay news) : TableRule r news s := by
  have hcells := Table.lines?_render_eq_iff h s
  refine ⟨⟨Table.field_columns h s, fun row _ => ?_⟩, ⟨_, ?_, Table.lines?_render h s⟩,
    ⟨(Table.written r s).flatMap reread, ?_, Table.length_written_iff h s⟩, hcells,
    fun shown told => hcells.mpr ⟨shown, fun row hrow => told row ?_⟩⟩
  · rw [Table.length_headings h s, Row.cells, List.length_cons, List.length_map]
  · rw [List.forall₂_map_right_iff, List.forall₂_same]
    exact fun row _ => ⟨Text.reread_ne_nil _, Table.reread_row_iff⟩
  · rw [Table.render_eq h s, Text.lines?_ofLines]
  · exact mem_replay (rows ▸ hrow)

/-- **The table of a view is read back as far as its rows fit into it, after every run.** -/
theorem run_tableRule (moves : List Move) :
    let s := (Store.empty .ownProjects).run moves
    TableRule .ownProjects (newsOf ((Store.empty .ownProjects).moments moves) s.state.generation)
      s.state.snapshot :=
  tabular_ownProjects.tableRule (reached_run .ownProjects moves).replayed.rows

/-- A row whose name holds a line end is read as two, and a name with a tab has a cell too many.  A
table of other projects can even be the same text. -/
theorem render_of_marks :
    let page (rows : List Row) : Move := .take 0 (.ok ⟨rows, none⟩)
    let shown (rows : List Row) : Snapshot := ((Store.empty .ownProjects).run
      [.enter 0 (.setUp "home" "" [.name] none), .goOn 0, page rows]).state.snapshot
    let one := shown [.bare "a1" "Water\nb2\tCensus", .bare "c3" "Roads"]
    let other := shown [.bare "a1" "Water", .bare "b2" "Census\nc3\tRoads"]
    let wide := shown [.bare "a1" "Water\tsurvey"]
    (one.rows.map (·.uid) = ["a1", "c3"] ∧
      lines? (Table.render .ownProjects one) = some [["uid", "Project name"], ["a1", "Water"],
        ["b2", "Census"], ["c3", "Roads"], ["2 projects"]] ∧
      lines? (Table.render .ownProjects one) ≠ some (Table.lines .ownProjects one)) ∧
    (other.rows.map (·.uid) = ["a1", "b2"] ∧
      Table.render .ownProjects other = Table.render .ownProjects one) ∧
    lines? (Table.render .ownProjects wide)
      = some [["uid", "Project name"], ["a1", "Water", "survey"], ["1 projects"]] := by
  decide +kernel

end ProjectViews
