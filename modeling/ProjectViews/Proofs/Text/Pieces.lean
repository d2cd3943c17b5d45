/-
Cutting a text gives back what it was joined from.

A text that was joined is cut where it was joined, unless the separator already stands somewhere
before, and that it can do in two ways: inside a piece, or over the end of a piece and the start
of the separator behind it.  `Closed` excludes both.  So a text that is built from closed pieces,
with a last one that is free of the separator, is cut into these, and every text is built like
that: it is free of the separator, or it begins with a closed piece, `exists_closed`.  What is
proved of pieces is proved by going from the one case to the other.
-/
import ProjectViews.Text.Split

namespace ProjectViews

namespace Text

/-- When a separator is put behind a piece, it stands nowhere before. -/
def Closed (separator piece : List Char) : Prop :=
  ∀ front back, piece ++ separator = front ++ separator ++ back → back = []

section Pieces

variable {separator : List Char}

theorem closed_nil (separator : List Char) : Closed separator [] := by
  intro front back h
  have hlength := congrArg List.length h
  simp only [List.nil_append, List.length_append] at hlength
  exact List.eq_nil_of_length_eq_zero (by omega)

/-- A piece is closed when what is left of it is, and the separator does not stand at its front. -/
theorem closed_cons_iff {c : Char} {piece : List Char} : Closed separator (c :: piece) ↔
    ¬ separator <+: c :: (piece ++ separator) ∧ Closed separator piece := by
  constructor
  · intro h
    refine ⟨fun ⟨back, hback⟩ => ?_, fun front back hsplit => ?_⟩
    · have hlength := congrArg List.length hback
      obtain rfl := h [] back hback.symm
      simp only [List.append_nil, List.length_cons, List.length_append] at hlength
      omega
    · exact h (c :: front) back (by rw [List.cons_append, hsplit]; rfl)
  · rintro ⟨hfront, hpiece⟩ front back h
    cases front with
    | nil => exact absurd ⟨back, h.symm⟩ hfront
    | cons d front => exact hpiece front back (List.cons.inj h).2

private theorem piecesAfter_length (separator passed rest : List Char) :
    piecesAfter separator passed.length (passed ++ rest) = piecesAfter separator 0 rest := by
  induction passed with
  | nil => rfl
  | cons c passed ih => exact ih

/-- A text is cut behind a closed piece. -/
theorem pieces_append (nonempty : separator ≠ []) {piece : List Char}
    (closed : Closed separator piece) (rest : List Char) :
    pieces separator (piece ++ separator ++ rest) = piece :: pieces separator rest := by
  obtain ⟨s, separator, rfl⟩ := List.exists_cons_of_ne_nil nonempty
  induction piece with
  | nil =>
      have hafter : after? (s :: separator) (s :: (separator ++ rest)) = some rest :=
        after?_eq_some_iff.mpr rfl
      rw [List.nil_append, List.cons_append, pieces, piecesAfter, hafter]
      exact congrArg ([] :: ·) (piecesAfter_length (s :: separator) separator rest)
  | cons c piece ih =>
      obtain ⟨hfront, hclosed⟩ := closed_cons_iff.mp closed
      have hafter : after? (s :: separator) (c :: (piece ++ s :: separator ++ rest)) = none := by
        rw [Option.eq_none_iff_forall_not_mem]
        intro back hback
        have hstarts : s :: separator <+: c :: (piece ++ s :: separator) :=
          List.prefix_of_prefix_length_le ⟨back, (after?_eq_some_iff.mp hback).symm⟩
            ⟨rest, rfl⟩ (by simp only [List.length_cons, List.length_append]; omega)
        exact hfront hstarts
      rw [List.cons_append, List.cons_append, pieces, piecesAfter, hafter]
      exact congrArg (extendFirst c) (ih hclosed)

/-- A text without the separator is not cut. -/
theorem pieces_of_free {cs : List Char} (h : ¬ separator <:+: cs) :
    pieces separator cs = [cs] := by
  induction cs with
  | nil => rfl
  | cons c cs ih =>
      rw [List.infix_cons_iff, not_or] at h
      have hafter : after? separator (c :: cs) = none := by
        rw [Option.eq_none_iff_forall_not_mem]
        exact fun back hback => h.1 ⟨back, (after?_eq_some_iff.mp hback).symm⟩
      rw [pieces, piecesAfter, hafter]
      exact congrArg (extendFirst c) (ih h.2)

/-- Every text is without the separator, or begins with a closed piece and the separator. -/
theorem exists_closed (nonempty : separator ≠ []) (cs : List Char) : ¬ separator <:+: cs ∨
    ∃ piece rest, cs = piece ++ separator ++ rest ∧ Closed separator piece := by
  induction cs with
  | nil => exact Or.inl fun h => nonempty (List.infix_nil.mp h)
  | cons c cs ih =>
      by_cases hfront : separator <+: c :: cs
      · obtain ⟨rest, hrest⟩ := hfront
        exact Or.inr ⟨[], rest, hrest.symm, closed_nil separator⟩
      · rcases ih with hnone | ⟨piece, rest, rfl, hclosed⟩
        · exact Or.inl (mt List.infix_cons_iff.mp (not_or.mpr ⟨hfront, hnone⟩))
        · have hpiece : ¬ separator <+: c :: (piece ++ separator) :=
            fun hp => hfront (hp.trans ⟨rest, rfl⟩)
          exact Or.inr ⟨c :: piece, rest, rfl, closed_cons_iff.mpr ⟨hpiece, hclosed⟩⟩

/-- A closed piece is free of the separator. -/
theorem Closed.free (nonempty : separator ≠ []) {piece : List Char}
    (closed : Closed separator piece) : ¬ separator <:+: piece := by
  rintro ⟨front, back, rfl⟩
  have hback : back ++ separator = [] := closed front (back ++ separator) (by simp)
  exact nonempty (List.append_eq_nil_iff.mp hback).2

/-- A text without a character is closed for it. -/
theorem closed_of_not_mem {c : Char} {piece : List Char} (h : c ∉ piece) : Closed [c] piece := by
  induction piece with
  | nil => exact closed_nil [c]
  | cons d piece ih =>
      obtain ⟨hd, hpiece⟩ := not_or.mp (mt List.mem_cons.mpr h)
      exact closed_cons_iff.mpr ⟨fun hp => hd (List.cons_prefix_cons.mp hp).1, ih hpiece⟩

/-- Pieces stand in the text and are free of the separator. -/
theorem infix_of_mem_pieces (nonempty : separator ≠ []) {piece cs : List Char}
    (h : piece ∈ pieces separator cs) : piece <:+: cs ∧ ¬ separator <:+: piece := by
  induction hn : cs.length using Nat.strongRecOn generalizing cs with
  | _ n ih =>
      rcases exists_closed nonempty cs with hfree | ⟨first, rest, rfl, hclosed⟩
      · rw [pieces_of_free hfree, List.mem_singleton] at h
        subst h
        exact ⟨List.infix_rfl, hfree⟩
      · rw [pieces_append nonempty hclosed] at h
        rcases List.mem_cons.mp h with rfl | hrest
        · exact ⟨⟨[], separator ++ rest, by simp⟩, hclosed.free nonempty⟩
        · have hpositive := List.length_pos_iff.mpr nonempty
          have hlength : rest.length < n := by
            rw [← hn, List.length_append, List.length_append]
            omega
          obtain ⟨hpart, hfree⟩ := ih _ hlength hrest rfl
          exact ⟨hpart.trans (List.suffix_append _ _).isInfix, hfree⟩

end Pieces

/-- A text without a character is not cut there, and one with it is cut at its first place. -/
theorem cut?_cases (c : Char) (cs : List Char) : (c ∉ cs ∧ cut? [c] cs = none) ∨
    ∃ front rest, cs = front ++ c :: rest ∧ c ∉ front ∧ cut? [c] cs = some (front, rest) := by
  by_cases hc : c ∈ cs
  · obtain ⟨front, rest, rfl, hfront⟩ := List.eq_append_cons_of_mem hc
    exact Or.inr ⟨front, rest, rfl, hfront, cut?_of_not_mem hfront rest⟩
  · refine Or.inl ⟨hc, ?_⟩
    induction cs with
    | nil => rfl
    | cons d cs ih =>
        obtain ⟨hd, hcs⟩ := not_or.mp (mt List.mem_cons.mpr hc)
        simp [cut?, after?, hd, ih hcs]

/-- Texts that are found again when they are joined. -/
inductive Joinable (separator : String) : List String → Prop
  | last {s : String} (free : ¬ separator.toList <:+: s.toList) : Joinable separator [s]
  | cons {s : String} {rest : List String} (closed : Closed separator.toList s.toList)
      (joinable : Joinable separator rest) : Joinable separator (s :: rest)

section Join

variable {separator : String} {texts : List String}

theorem toList_join_cons (s : String) (h : texts ≠ []) : (join separator (s :: texts)).toList
    = s.toList ++ separator.toList ++ (join separator texts).toList := by
  obtain ⟨t, rest, rfl⟩ := List.exists_cons_of_ne_nil h
  rw [join, String.toList_append, String.toList_append]

theorem Joinable.ne_nil (h : Joinable separator texts) : texts ≠ [] := by
  cases h <;> exact List.cons_ne_nil _ _

/-- **What was joined is found again.** -/
theorem Joinable.split_join (nonempty : separator ≠ "") (h : Joinable separator texts) :
    split separator (join separator texts) = texts := by
  have hnonempty : separator.toList ≠ [] := mt String.toList_eq_nil_iff.mp nonempty
  rw [split]
  induction h with
  | @last s free =>
      rw [join, pieces_of_free free, List.map_singleton, String.ofList_toList]
  | @cons s rest closed joinable ih =>
      rw [toList_join_cons s joinable.ne_nil, pieces_append hnonempty closed, List.map_cons, ih,
        String.ofList_toList]

/-- **Every text is joined from what it is cut into.** -/
theorem joinable_split (nonempty : separator ≠ "") (s : String) :
    Joinable separator (split separator s) ∧ join separator (split separator s) = s := by
  have hnonempty : separator.toList ≠ [] := mt String.toList_eq_nil_iff.mp nonempty
  induction hn : s.toList.length using Nat.strongRecOn generalizing s with
  | _ n ih =>
      rcases exists_closed hnonempty s.toList with hfree | ⟨piece, rest, hs, hclosed⟩
      · rw [split, pieces_of_free hfree, List.map_singleton, String.ofList_toList]
        exact ⟨.last hfree, rfl⟩
      · have hlength : (String.ofList rest).toList.length < n := by
          have hpositive := List.length_pos_iff.mpr hnonempty
          rw [← hn, hs, String.toList_ofList, List.length_append, List.length_append]
          omega
        obtain ⟨hjoinable, hjoin⟩ := ih _ hlength (String.ofList rest) rfl
        have hsplit : split separator s
            = String.ofList piece :: split separator (String.ofList rest) := by
          rw [split, hs, pieces_append hnonempty hclosed, List.map_cons, split,
            String.toList_ofList]
        rw [hsplit]
        refine ⟨.cons (by rwa [String.toList_ofList]) hjoinable, ?_⟩
        rw [← String.toList_inj, toList_join_cons _ hjoinable.ne_nil, hjoin, hs,
          String.toList_ofList, String.toList_ofList]

end Join

end Text

end ProjectViews
