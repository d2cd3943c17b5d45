/-
What a reference comes to against an address of the web.

A reference that begins with a word is cut at its first mark, and what stands before is taken
apart at the slashes.  The pieces are carried out one after the other behind the segments of the
base: a piece of dots takes segments away or does nothing, and any other is added as it is
written.  So at each place of the result there is what was there in the base, or a piece, or
nothing, `resolve_cases`, and pieces without a meaning of their own are simply put behind the base.
-/
import ProjectViews.Proofs.Text.Percent
import ProjectViews.Proofs.Text.Pieces
import ProjectViews.Url.Reader

namespace ProjectViews

namespace Url

/-! ### Segments -/

/-- A piece of dots means something else than itself. -/
def IsDots (piece : List Char) : Prop := dots piece = ['.'] ∨ dots piece = ['.', '.']

theorem step_of_not_dots {piece : List Char} (h : ¬ IsDots piece) (found : List String)
    (isLast : Bool) :
    step found isLast piece = found ++ [String.ofList (Percent.encode inPath piece)] := by
  rw [step, if_neg fun hup => h (Or.inr hup), if_neg fun hhere => h (Or.inl hhere)]

/-- What can be at a place of a path where the base has nothing. -/
def Segment (pieces : List (List Char)) (segment : String) : Prop :=
  segment = "" ∨ ∃ piece ∈ pieces, ¬ IsDots piece ∧
    segment = String.ofList (Percent.encode inPath piece)

theorem up_cases {found : List String} {i : Nat} {segment : String}
    (h : (up found)[i]? = some segment) : found[i]? = some segment := by
  rw [up] at h
  split at h
  · split at h
    · exact h
    · rw [List.getElem?_dropLast] at h
      split at h
      · exact h
      · cases h
  · cases h

theorem getElem?_concat_cases {α : Type} {xs : List α} {x y : α} {i : Nat}
    (h : (xs ++ [x])[i]? = some y) : xs[i]? = some y ∨ y = x := by
  rw [List.getElem?_append] at h
  split at h
  · exact Or.inl h
  · exact Or.inr (List.mem_singleton.mp (List.mem_of_getElem? h))

theorem step_cases {found : List String} {isLast : Bool} {piece : List Char} {i : Nat}
    {segment : String} (h : (step found isLast piece)[i]? = some segment) :
    found[i]? = some segment ∨ Segment [piece] segment := by
  by_cases hdots : IsDots piece
  · rw [step] at h
    split at h
    · split at h
      · exact (getElem?_concat_cases h).imp up_cases Or.inl
      · exact Or.inl (up_cases h)
    · rw [if_pos (hdots.resolve_right ‹_›)] at h
      split at h
      · exact (getElem?_concat_cases h).imp_right Or.inl
      · exact Or.inl h
  · rw [step_of_not_dots hdots] at h
    exact (getElem?_concat_cases h).imp_right fun hpiece =>
      Or.inr ⟨piece, List.mem_singleton_self _, hdots, hpiece⟩

/-- **At each place of a path is what was there in the base, or a piece, or nothing.** -/
theorem resolve_cases {found : List String} {pieces : List (List Char)} {i : Nat}
    {segment : String} (h : (resolve found pieces)[i]? = some segment) :
    found[i]? = some segment ∨ Segment pieces segment := by
  induction pieces generalizing found with
  | nil => exact Or.inl h
  | cons piece rest ih =>
      have hfirst : ∀ {isLast}, (step found isLast piece)[i]? = some segment →
          found[i]? = some segment ∨ Segment (piece :: rest) segment := by
        intro isLast hstep
        refine (step_cases hstep).imp_right (Or.imp_right ?_)
        rintro ⟨other, hother, hsegment⟩
        exact ⟨other, List.mem_singleton.mp hother ▸ List.mem_cons_self, hsegment⟩
      cases rest with
      | nil => exact hfirst h
      | cons next rest =>
          rcases ih h with hstep | hempty | ⟨other, hother, hsegment⟩
          · exact hfirst hstep
          · exact Or.inr (Or.inl hempty)
          · exact Or.inr (Or.inr ⟨other, List.mem_cons_of_mem _ hother, hsegment⟩)

/-- **Pieces that mean themselves are put behind the base.** -/
theorem resolve_of_not_dots {pieces : List (List Char)} (h : ∀ piece ∈ pieces, ¬ IsDots piece)
    (found : List String) : resolve found pieces
      = found ++ pieces.map fun piece => String.ofList (Percent.encode inPath piece) := by
  induction pieces generalizing found with
  | nil => exact (List.append_nil found).symm
  | cons piece rest ih =>
      have hpiece := h piece List.mem_cons_self
      cases rest with
      | nil => exact step_of_not_dots hpiece found true
      | cons next rest =>
          rw [resolve, step_of_not_dots hpiece, ih fun p hp => h p (List.mem_cons_of_mem _ hp)]
          · rw [List.append_assoc]
            rfl
          · exact List.cons_ne_nil _ _

/-! ### Pieces of a path -/

theorem pathPieces_eq {cs : List Char} (h : '\\' ∉ cs) :
    pathPieces true cs = Text.pieces ['/'] cs := by
  rw [pathPieces]
  congr 1
  conv => rhs; rw [← List.map_id cs]
  refine List.map_congr_left fun c hc => ?_
  have hback : c ≠ '\\' := fun heq => h (heq ▸ hc)
  by_cases hslash : c = '/' <;> simp [isSlash, hslash, hback]

/-- What stands before the first place of a character. -/
def upTo (c : Char) (cs : List Char) : List Char := ((Text.cut? [c] cs).map Prod.fst).getD cs

theorem upTo_prefix (c : Char) (cs : List Char) : upTo c cs <+: cs ∧ c ∉ upTo c cs := by
  rw [upTo]
  rcases Text.cut?_cases c cs with ⟨hc, hnone⟩ | ⟨front, rest, rfl, hc, hsome⟩
  · rw [hnone]
    exact ⟨List.prefix_rfl, hc⟩
  · rw [hsome]
    exact ⟨List.prefix_append _ _, hc⟩

theorem upTo_cons {c d : Char} (h : d ≠ c) (cs : List Char) :
    upTo c (d :: cs) = d :: upTo c cs := by
  rw [upTo, upTo]
  rcases Text.cut?_cases c cs with ⟨-, hnone⟩ | ⟨front, rest, -, -, hsome⟩
  · simp [Text.cut?, Text.after?, h.symm, hnone]
  · simp [Text.cut?, Text.after?, h.symm, hsome]

theorem cutPath_fst (known : Bool) (cs : List Char) :
    (cutPath known cs).1 = upTo '?' (upTo '#' cs) := by
  rw [cutPath, upTo, upTo]
  cases Text.cut? ['#'] cs with
  | none =>
      dsimp only [Option.map_none, Option.getD_none]
      cases Text.cut? ['?'] cs <;> rfl
  | some parts =>
      dsimp only [Option.map_some, Option.getD_some]
      cases Text.cut? ['?'] parts.1 <;> rfl

/-- The path of a text is the text up to the first mark. -/
theorem cutPath_path (known : Bool) (cs : List Char) :
    (cutPath known cs).1 <+: cs ∧ '#' ∉ (cutPath known cs).1 ∧ '?' ∉ (cutPath known cs).1 := by
  rw [cutPath_fst]
  obtain ⟨hfront, hhash⟩ := upTo_prefix '#' cs
  obtain ⟨hpath, hmark⟩ := upTo_prefix '?' (upTo '#' cs)
  exact ⟨hpath.trans hfront, fun hc => hhash (hpath.subset hc), hmark⟩

/-- A text without marks is all path. -/
theorem cutPath_of_not_mem {known : Bool} {cs : List Char} (hash : '#' ∉ cs) (mark : '?' ∉ cs) :
    cutPath known cs = (cs, none, none) := by
  have hnone : ∀ {c}, c ∉ cs → Text.cut? [c] cs = none := by
    intro c hc
    rcases Text.cut?_cases c cs with ⟨-, hnone⟩ | ⟨front, rest, rfl, -, -⟩
    · exact hnone
    · exact absurd (List.mem_append_right _ List.mem_cons_self) hc
  rw [cutPath, hnone hash]
  dsimp only
  rw [hnone mark]

/-! ### References -/

theorem isKnown_of_isWeb {u : Url} (h : u.isWeb = true) :
    isKnown u.scheme = true ∧ u.scheme ≠ "file" := by
  rw [isWeb, Bool.or_eq_true, beq_iff_eq, beq_iff_eq] at h
  rcases h with h | h <;> rw [h] <;> exact ⟨rfl, by decide⟩

/-- **A reference that begins with a word is read behind the folder of the base.** -/
theorem join_of_word {base : Url} (web : base.isWeb = true) {segments : List String}
    (path : base.path = .segments segments) {s : String} {c : Char} {cs : List Char}
    (text : clean s = c :: cs) (noScheme : scheme? (c :: cs) = none)
    (word : c ∉ ['#', '?', '/', '\\']) :
    base.join s = .ok { base with
      path := .segments (readPath true segments.dropLast (cutPath true (c :: cs)).1)
      query := (cutPath true (c :: cs)).2.1
      fragment := (cutPath true (c :: cs)).2.2 } := by
  obtain ⟨hknown, hfile⟩ := isKnown_of_isWeb web
  simp only [List.mem_cons, List.not_mem_nil, or_false, not_or] at word
  obtain ⟨hhash, hmark, hslash, hback⟩ := word
  have hslashes : base.isOpaque = false := by rw [isOpaque, path]
  obtain ⟨rest, hrest⟩ : ∃ rest, (cutPath true (c :: cs)).1 = c :: rest := by
    rw [cutPath_fst, upTo_cons hhash, upTo_cons hmark]
    exact ⟨_, rfl⟩
  have hrelative : base.join s = readRelative base (c :: cs) := by
    rw [join, text, noScheme]
    dsimp only
    split
    · rename_i hcs
      exact absurd (List.cons.inj hcs).1 hhash
    · rw [hslashes, if_neg Bool.false_ne_true, if_neg hfile]
  rw [hrelative, readRelative, hknown]
  generalize cutPath true (c :: cs) = parts at hrest
  obtain ⟨front, query, fragment⟩ := parts
  obtain rfl : front = c :: rest := hrest
  dsimp only
  rw [if_neg (not_or.mpr ⟨hslash, hback⟩), path]
  rfl

/-! ### Addresses of the web -/

theorem readAbsolute_segments {scheme : String} {cs : List Char} {u : Url}
    (h : readAbsolute scheme cs = .ok u) : ∃ segments, u.path = .segments segments := by
  rw [readAbsolute] at h
  simp only [bind, Except.bind] at h
  split at h
  · cases h
  · obtain rfl := Except.ok.inj h
    exact ⟨_, rfl⟩

theorem readFile_scheme {cs : List Char} {u : Url} (h : readFile none cs = .ok u) :
    u.scheme = "file" := by
  rw [readFile] at h
  dsimp only at h
  split at h
  · obtain rfl := Except.ok.inj h
    rfl
  · obtain rfl := Except.ok.inj h
    rfl
  · simp only [bind, Except.bind] at h
    split at h
    · cases h
    · obtain rfl := Except.ok.inj h
      rfl

/-- The path of an address of the web is a list of segments. -/
theorem parse_segments {s : String} {u : Url} (h : parse s = .ok u) (web : u.isWeb = true) :
    ∃ segments, u.path = .segments segments := by
  obtain ⟨hknown, hfile⟩ := isKnown_of_isWeb web
  rw [parse] at h
  split at h
  · rename_i scheme rest hscheme
    rw [readScheme.eq_def] at h
    split at h
    · exact absurd (readFile_scheme h) hfile
    · split at h
      · exact readAbsolute_segments h
      · rename_i hunknown
        split at h
        · exact readAbsolute_segments h
        · obtain rfl := Except.ok.inj h
          exact absurd hknown hunknown
        · obtain rfl := Except.ok.inj h
          exact absurd hknown hunknown
  · cases h

end Url

end ProjectViews
