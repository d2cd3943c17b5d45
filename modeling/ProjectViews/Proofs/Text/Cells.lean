/-
Texts of lines and cells.

Every line has its end, and the cells of a line have tabs between them.  Nothing is escaped, so
what is read back is what was written only if no cell holds a line end or a tab: no piece of a
text that is cut there holds one.  Cutting a text at one character is the same as cutting what
stands before one of its places and what stands behind it.  So a line with other cells is read as
lines of its own, and does not change how the lines around it are read.
-/
import Mathlib.Data.List.Infix
import ProjectViews.Proofs.Text.Pieces

namespace ProjectViews

namespace Text

/-! ### Cutting at one character -/

section Mark

variable {c : Char}

theorem pieces_of_not_mem {cs : List Char} (h : c ∉ cs) : pieces [c] cs = [cs] :=
  pieces_of_free fun hc => h ((List.singleton_infix_iff c cs).mp hc)

theorem pieces_of_not_mem_append {piece : List Char} (h : c ∉ piece) (rest : List Char) :
    pieces [c] (piece ++ c :: rest) = piece :: pieces [c] rest := by
  have hcut := pieces_append (List.cons_ne_nil c []) (closed_of_not_mem h) rest
  rwa [List.append_assoc] at hcut

/-- What stands before a cut and what stands behind it are cut on their own. -/
theorem pieces_append_cons (cs rest : List Char) :
    pieces [c] (cs ++ c :: rest) = pieces [c] cs ++ pieces [c] rest := by
  induction hn : cs.length using Nat.strongRecOn generalizing cs with
  | _ n ih =>
      by_cases hc : c ∈ cs
      · obtain ⟨front, back, rfl, hfront⟩ := List.eq_append_cons_of_mem hc
        have hlength : back.length < n := by
          rw [← hn, List.length_append, List.length_cons]
          omega
        rw [List.append_assoc, List.cons_append, pieces_of_not_mem_append hfront,
          pieces_of_not_mem_append hfront, ih _ hlength back rfl, List.cons_append]
      · rw [pieces_of_not_mem_append hc, pieces_of_not_mem hc]
        rfl

theorem pieces_ne_nil (cs : List Char) : pieces [c] cs ≠ [] := by
  by_cases hc : c ∈ cs
  · obtain ⟨front, back, rfl, hfront⟩ := List.eq_append_cons_of_mem hc
    rw [pieces_of_not_mem_append hfront]
    exact List.cons_ne_nil _ _
  · rw [pieces_of_not_mem hc]
    exact List.cons_ne_nil _ _

variable {separator : String} (mark : separator.toList = [c])
include mark

theorem split_append (a b : String) :
    split separator (a ++ separator ++ b) = split separator a ++ split separator b := by
  rw [split, split, split, String.toList_append, String.toList_append, mark, List.append_assoc,
    List.singleton_append, pieces_append_cons, List.map_append]

theorem split_ne_nil (s : String) : split separator s ≠ [] := by
  rw [split, mark]
  exact mt List.map_eq_nil_iff.mp (pieces_ne_nil _)

theorem split_of_not_mem {s : String} (h : c ∉ s.toList) : split separator s = [s] := by
  rw [split, mark, pieces_of_not_mem h, List.map_singleton, String.ofList_toList]

/-- A text is one piece only if it is not cut. -/
theorem length_split_eq_one_iff {s : String} :
    (split separator s).length = 1 ↔ c ∉ s.toList := by
  refine ⟨fun h hc => ?_, fun h => by rw [split_of_not_mem mark h]; rfl⟩
  obtain ⟨front, back, hs, hfront⟩ := List.eq_append_cons_of_mem hc
  rw [split, mark, hs, pieces_of_not_mem_append hfront, List.length_map, List.length_cons] at h
  exact pieces_ne_nil (c := c) back (List.eq_nil_of_length_eq_zero (by omega))

/-- The pieces of a text are free of what it is cut at, and hold nothing that the text does not
hold. -/
theorem mem_of_mem_split {s piece : String} (h : piece ∈ split separator s) :
    c ∉ piece.toList ∧ ∀ d ∈ piece.toList, d ∈ s.toList := by
  rw [split, mark] at h
  obtain ⟨cs, hcs, rfl⟩ := List.mem_map.mp h
  obtain ⟨hpart, hfree⟩ := infix_of_mem_pieces (List.cons_ne_nil c []) hcs
  rw [String.toList_ofList]
  exact ⟨fun hc => hfree ((List.singleton_infix_iff c cs).mpr hc), fun d hd => hpart.subset hd⟩

theorem split_join_of_not_mem {texts : List String} (nonempty : texts ≠ [])
    (h : ∀ t ∈ texts, c ∉ t.toList) : split separator (join separator texts) = texts := by
  have hseparator : separator ≠ "" := by
    rintro rfl
    cases mark
  refine Joinable.split_join hseparator ?_
  induction texts with
  | nil => exact absurd rfl nonempty
  | cons t rest ih =>
      have ht := h t List.mem_cons_self
      cases rest with
      | nil =>
          refine .last fun hc => ht ?_
          rw [mark] at hc
          exact (List.singleton_infix_iff c _).mp hc
      | cons u rest =>
          refine .cons (by rw [mark]; exact closed_of_not_mem ht) (ih (List.cons_ne_nil u rest) ?_)
          exact fun v hv => h v (List.mem_cons_of_mem t hv)

end Mark

/-- What is not in a separator is in joined texts if it is in one of them. -/
theorem mem_join_iff {separator : String} {c : Char} (h : c ∉ separator.toList)
    {texts : List String} :
    c ∈ (join separator texts).toList ↔ ∃ t ∈ texts, c ∈ t.toList := by
  induction texts with
  | nil => simp [join]
  | cons t rest ih =>
      cases rest with
      | nil => simp [join]
      | cons u rest =>
          rw [toList_join_cons t (List.cons_ne_nil u rest), List.mem_append, List.mem_append, ih,
            or_iff_left h]
          simp only [List.mem_cons, exists_eq_or_imp]

/-! ### Lines and cells -/

/-- A text that holds neither a tab nor a line end. -/
def IsCell (s : String) : Prop := '\t' ∉ s.toList ∧ '\n' ∉ s.toList

instance (s : String) : Decidable (IsCell s) := inferInstanceAs (Decidable (_ ∧ _))

/-- The text of some lines, each of which is given by its cells. -/
def ofLines : List (List String) → String
  | [] => ""
  | cells :: rest => join "\t" cells ++ "\n" ++ ofLines rest

/-- The lines of a text, if each of them has its end, and the cells of each. -/
def lines? (text : String) : Option (List (List String)) :=
  let found := split "\n" text
  if found.getLast? = some "" then some (found.dropLast.map (split "\t")) else none

/-- What a line is read as. -/
def reread (cells : List String) : List (List String) :=
  (split "\n" (join "\t" cells)).map (split "\t")

theorem lines?_append (line rest : String) : lines? (line ++ "\n" ++ rest)
    = (lines? rest).map ((split "\n" line).map (split "\t") ++ ·) := by
  have hrest : split "\n" rest ≠ [] := split_ne_nil rfl rest
  rw [lines?, lines?, split_append rfl]
  rw [List.getLast?_append_of_ne_nil _ hrest, List.dropLast_append_of_ne_nil hrest]
  split
  · rw [Option.map_some, List.map_append]
  · rfl

/-- **A text is read line by line.** -/
theorem lines?_ofLines (lines : List (List String)) :
    lines? (ofLines lines) = some (lines.flatMap reread) := by
  induction lines with
  | nil => rfl
  | cons cells rest ih =>
      rw [ofLines, lines?_append, ih, Option.map_some, List.flatMap_cons]
      rfl

/-- Nothing but cells is read. -/
theorem isCell_of_mem_split {text : String} {line : List String}
    (h : line ∈ (split "\n" text).map (split "\t")) : ∀ cell ∈ line, IsCell cell := by
  obtain ⟨part, hpart, rfl⟩ := List.mem_map.mp h
  intro cell hcell
  obtain ⟨htab, hmem⟩ := mem_of_mem_split (c := '\t') rfl hcell
  exact ⟨htab, fun hend => (mem_of_mem_split (c := '\n') rfl hpart).1 (hmem _ hend)⟩

/-- **A line is read as it was written exactly if it was written with cells.** -/
theorem reread_eq_singleton_iff {cells : List String} (nonempty : cells ≠ []) :
    reread cells = [cells] ↔ ∀ cell ∈ cells, IsCell cell := by
  constructor
  · intro h
    exact isCell_of_mem_split (show cells ∈ reread cells from h ▸ List.mem_singleton_self cells)
  · intro h
    have hend : '\n' ∉ (join "\t" cells).toList := by
      rw [mem_join_iff (by decide)]
      exact fun ⟨cell, hcell, hmem⟩ => (h cell hcell).2 hmem
    rw [reread, split_of_not_mem rfl hend, List.map_singleton,
      split_join_of_not_mem rfl nonempty fun cell hcell => (h cell hcell).1]

/-- It is read as one line exactly if no cell holds a line end. -/
theorem length_reread_eq_one_iff {cells : List String} :
    (reread cells).length = 1 ↔ ∀ cell ∈ cells, '\n' ∉ cell.toList := by
  rw [reread, List.length_map, length_split_eq_one_iff (c := '\n') rfl, mem_join_iff (by decide)]
  simp only [not_exists, not_and]

theorem reread_ne_nil (cells : List String) : reread cells ≠ [] :=
  mt List.map_eq_nil_iff.mp (split_ne_nil rfl _)

variable {lines : List (List String)}

/-- **Lines are read as they were written exactly if all of them were written with cells.** -/
theorem lines?_ofLines_eq_iff (nonempty : ∀ cells ∈ lines, cells ≠ []) :
    lines? (ofLines lines) = some lines ↔ ∀ cells ∈ lines, ∀ cell ∈ cells, IsCell cell := by
  rw [lines?_ofLines, Option.some.injEq]
  constructor
  · intro h cells hcells
    rw [← h] at hcells
    obtain ⟨_, -, hread⟩ := List.mem_flatMap.mp hcells
    exact isCell_of_mem_split hread
  · intro h
    calc lines.flatMap reread = lines.flatMap (fun cells => [cells]) :=
          List.flatMap_congr fun cells hcells =>
            (reread_eq_singleton_iff (nonempty cells hcells)).mpr (h cells hcells)
      _ = lines := List.flatMap_singleton' lines

/-- No line is lost. -/
theorem length_le_flatMap_reread (lines : List (List String)) :
    lines.length ≤ (lines.flatMap reread).length := by
  induction lines with
  | nil => exact Nat.le_refl _
  | cons cells rest ih =>
      have hpositive := List.length_pos_iff.mpr (reread_ne_nil cells)
      rw [List.flatMap_cons, List.length_append, List.length_cons]
      omega

/-- As many lines are read as were written exactly if no cell holds a line end. -/
theorem length_flatMap_reread_iff : (lines.flatMap reread).length = lines.length ↔
    ∀ cells ∈ lines, ∀ cell ∈ cells, '\n' ∉ cell.toList := by
  induction lines with
  | nil => simp
  | cons cells rest ih =>
      have hpositive := List.length_pos_iff.mpr (reread_ne_nil cells)
      have hleast := length_le_flatMap_reread rest
      rw [List.forall_mem_cons, ← length_reread_eq_one_iff, List.flatMap_cons, List.length_append,
        List.length_cons]
      constructor
      · intro h
        exact ⟨by omega, ih.mp (by omega)⟩
      · rintro ⟨hfirst, h⟩
        have hrest := ih.mpr h
        omega

end Text

end ProjectViews
