/-
Which organization a request is about.

The id of an organization is put into the path of its endpoints as it is.  That says which
organization is meant as long as the id means nothing in a path, `PlainId`: then it is one segment
there, and decoding that segment gives the id back.

And it says so only then.  What an id becomes in a path is never longer than the id, counted in
bytes, and it is shorter when a mark cuts the id, when a line end is dropped from it or when an
escape in it is decoded.  So if the endpoint of an organization is reached at all, the segment of
the id is too short for it, unless it is another word of the path, and these are plain.
-/
import ProjectViews.Proofs.Url.Reference
import ProjectViews.Server.Client

namespace ProjectViews

/-- An id that stands for itself in a path. -/
structure PlainId (id : String) : Prop where
  /-- Nothing in it cuts a path, or is dropped from one. -/
  unmarked : ∀ c ∈ id.toList, c ∉ ['/', '\\', '?', '#', '\t', '\n', '\r']
  /-- It is not written with escapes. -/
  unescaped : Percent.hasEscape id.toList = false
  /-- It does not stand for the place itself or the one above. -/
  named : id ≠ "." ∧ id ≠ ".."

/-! ### Plain pieces -/

theorem hasEscape_of_not_mem {cs : List Char} (h : '%' ∉ cs) : Percent.hasEscape cs = false := by
  induction cs with
  | nil => rfl
  | cons c cs ih =>
      obtain ⟨hc, hcs⟩ := not_or.mp (mt List.mem_cons.mpr h)
      rw [Percent.hasEscape, ih hcs, beq_false_of_ne (Ne.symm hc)]
      rfl

/-- Without escapes, dots are nothing but dots. -/
theorem dots_of_unescaped {piece : List Char} (h : Percent.hasEscape piece = false) :
    Url.dots piece = piece := by
  rw [Url.dots.eq_def]
  split
  case h_7 a b =>
    split
    · rename_i hboth
      obtain ⟨rfl | rfl, -⟩ := hboth <;> cases h
    · rfl
  case h_8 => rfl
  all_goals cases h

/-- A character of the words that stand in the paths of endpoints. -/
def IsWordChar (c : Char) : Prop := c.isAlphanum = true ∨ c = '_'

instance (c : Char) : Decidable (IsWordChar c) := inferInstanceAs (Decidable (_ ∨ _))

theorem not_isWordChar : ∀ c ∈ ['/', '\\', '?', '#', '\t', '\n', '\r'], ¬ IsWordChar c :=
  List.all_iff_forall_prop.mp (by decide)

theorem plainId_of_word {id : String} (h : ∀ c ∈ id.toList, IsWordChar c) : PlainId id where
  unmarked := fun c hc hmark => not_isWordChar c hmark (h c hc)
  unescaped := hasEscape_of_not_mem fun hc => absurd (h _ hc) (by decide)
  named := by
    refine ⟨?_, ?_⟩ <;> rintro rfl <;> exact absurd (h '.' (by decide)) (by decide)

namespace PlainId

variable {id : String}

theorem not_mem (h : PlainId id) :
    '/' ∉ id.toList ∧ '\\' ∉ id.toList ∧ '?' ∉ id.toList ∧ '#' ∉ id.toList :=
  ⟨fun hc => h.unmarked _ hc (by decide), fun hc => h.unmarked _ hc (by decide),
    fun hc => h.unmarked _ hc (by decide), fun hc => h.unmarked _ hc (by decide)⟩

theorem not_dots (h : PlainId id) : ¬ Url.IsDots id.toList := by
  rw [Url.IsDots, dots_of_unescaped h.unescaped]
  rintro (hdot | hdots)
  · exact h.named.1 (String.toList_inj.mp hdot)
  · exact h.named.2 (String.toList_inj.mp hdots)

/-- The segment of a plain id says the id. -/
theorem decode_encode (h : PlainId id) :
    Percent.decode (Percent.encode Url.inPath id.toList) = Utf8.encode id.toList := by
  rw [Percent.decode_encode Url.inPath_apart]
  rcases Percent.decode_cases id.toList with ⟨-, hdecode⟩ | ⟨hescape, -⟩
  · exact hdecode
  · cases h.unescaped.symm.trans hescape

end PlainId

/-! ### What becomes of an id in a path -/

namespace Url

/-- What counts as a slash in an address of the web becomes one. -/
def toSlash (c : Char) : Char := if isSlash true c then '/' else c

theorem toSlash_of_ne {c : Char} (h : c ≠ '\\') : toSlash c = c := by
  by_cases hslash : c = '/' <;> simp [toSlash, isSlash, hslash, h]

theorem map_toSlash {cs : List Char} (h : '\\' ∉ cs) : cs.map toSlash = cs := by
  conv => rhs; rw [← List.map_id cs]
  exact List.map_congr_left fun c hc => toSlash_of_ne fun heq => h (heq ▸ hc)

theorem length_encode_map_toSlash (cs : List Char) :
    (Utf8.encode (cs.map toSlash)).length = (Utf8.encode cs).length := by
  induction cs with
  | nil => rfl
  | cons c cs ih =>
      rw [List.map_cons, Utf8.encode_cons, Utf8.encode_cons, List.length_append,
        List.length_append, ih]
      by_cases hback : c = '\\'
      · rw [hback]
        rfl
      · rw [toSlash_of_ne hback]

theorem mem_of_mem_map_toSlash {c : Char} {cs : List Char} (h : c ∈ cs.map toSlash)
    (notSlash : c ≠ '/') : c ∈ cs := by
  obtain ⟨d, hd, rfl⟩ := List.mem_map.mp h
  by_cases hback : d = '\\'
  · exact absurd (by rw [hback]; rfl) notSlash
  · rwa [toSlash_of_ne hback]

/-- Whether a character is not dropped from an address. -/
def counts (c : Char) : Bool := !(c == '\t' || c == '\n' || c == '\r')

/-- Of a text that has neither spaces nor control characters at its ends nothing else is
dropped. -/
theorem clean_eq {s : String} {a z : Char} {middle : List Char}
    (h : s.toList = a :: (middle ++ [z])) (first : ¬ a.toNat ≤ 32) (last : ¬ z.toNat ≤ 32) :
    clean s = s.toList.filter counts := by
  have hfirst : s.toList.dropWhile (fun c => decide (c.toNat ≤ 32)) = s.toList := by
    rw [h, List.dropWhile_cons_of_neg (by simpa using first)]
  have hlast : s.toList.reverse.dropWhile (fun c => decide (c.toNat ≤ 32)) = s.toList.reverse := by
    rw [h, ← List.cons_append, List.reverse_concat,
      List.dropWhile_cons_of_neg (by simpa using last)]
  rw [clean, hfirst, hlast, List.reverse_reverse]
  rfl

end Url

/-- A part of a text without slashes lies on one side of each slash. -/
theorem infix_of_slash {piece front back : List Char} (h : piece <:+: front ++ '/' :: back)
    (noSlash : '/' ∉ piece) : piece <:+: front ∨ piece <:+: back := by
  obtain ⟨before, after, h⟩ := h
  rcases List.append_eq_append_iff.mp h with ⟨rest, hfront, -⟩ | ⟨rest, hpiece, hback⟩
  · exact Or.inl ⟨before, rest, hfront.symm⟩
  · cases rest with
    | nil => exact Or.inl ⟨before, [], by rw [hpiece, List.append_nil, List.append_nil]⟩
    | cons c rest =>
        obtain ⟨rfl, rfl⟩ := List.cons.inj hback
        rcases List.append_eq_append_iff.mp hpiece with ⟨mid, -, hmid⟩ | ⟨mid, -, hmid⟩
        · exact absurd (hmid ▸ List.mem_append_right _ List.mem_cons_self) noSlash
        · cases mid with
          | nil =>
              obtain rfl : '/' :: rest = piece := hmid
              exact absurd List.mem_cons_self noSlash
          | cons d mid =>
              obtain ⟨-, rfl⟩ := List.cons.inj hmid
              exact Or.inr ⟨mid, after, rfl⟩

namespace Client

/-! ### The address of an endpoint of an organization -/

/-- The words in front of the id of an organization. -/
def words : List Char := "api/v2/organizations".toList

theorem words_cons : ∃ rest, words = 'a' :: 'p' :: 'i' :: '/' :: rest :=
  ⟨"v2/organizations".toList, by decide +kernel⟩

theorem word_of_mem_words : ∀ c ∈ words, c = '/' ∨ IsWordChar c :=
  List.all_iff_forall_prop.mp (by decide +kernel)

/-- The leaves of the endpoints of organizations. -/
def IsLeaf (leaf : String) : Prop := leaf = "service_usage" ∨ leaf = "asset_usage"

theorem IsLeaf.word {leaf : String} (h : IsLeaf leaf) : ∀ c ∈ leaf.toList, IsWordChar c := by
  rcases h with rfl | rfl <;> exact List.all_iff_forall_prop.mp (by decide +kernel)

theorem toList_organizationPath (id leaf : String) : (organizationPath id leaf).toList
    = words ++ '/' :: (id.toList ++ '/' :: (leaf.toList ++ ['/'])) := by
  have hwords : words = "api/v2/organizations".toList := rfl
  have hpath : organizationPath id leaf
      = "api/v2/organizations/" ++ id ++ "/" ++ leaf ++ "/" := rfl
  rw [hpath, hwords]
  simp

/-- The text of the reference that is read for an endpoint of an organization. -/
def reference (id leaf : String) : List Char :=
  words ++ '/' :: (id.toList.filter Url.counts ++ '/' :: (leaf.toList ++ ['/']))

theorem counts_of_word {c : Char} (h : c = '/' ∨ IsWordChar c) : Url.counts c = true := by
  rcases h with rfl | hword
  · rfl
  · have hmark : c ∉ ['/', '\\', '?', '#', '\t', '\n', '\r'] := fun hc => not_isWordChar c hc hword
    simp only [List.mem_cons, List.not_mem_nil, or_false, not_or] at hmark
    simp [Url.counts, hmark]

theorem clean_organizationPath (id : String) {leaf : String} (h : IsLeaf leaf) :
    Url.clean (organizationPath id leaf) = reference id leaf := by
  obtain ⟨rest, hrest⟩ := words_cons
  have hends : (organizationPath id leaf).toList = 'a' :: ('p' :: 'i' :: '/' :: (rest
      ++ '/' :: (id.toList ++ '/' :: leaf.toList)) ++ ['/']) := by
    rw [toList_organizationPath, hrest]
    simp
  have hwords : words.filter Url.counts = words :=
    List.filter_eq_self.mpr fun c hc => counts_of_word (word_of_mem_words c hc)
  have hleaf : leaf.toList.filter Url.counts = leaf.toList :=
    List.filter_eq_self.mpr fun c hc => counts_of_word (Or.inr (h.word c hc))
  have hslash : Url.counts '/' = true := rfl
  rw [Url.clean_eq hends (by decide) (by decide), toList_organizationPath, reference]
  simp only [List.filter_append, List.filter_cons, hwords, hleaf, hslash, if_true, List.filter_nil]

/-- A server on the web has a folder, behind which its endpoints lie. -/
structure Hosted (c : Client) (base : List String) : Prop where
  web : c.server.isWeb = true
  path : c.server.path = .segments (base ++ [""])

theorem exists_hosted {registry : Registry} {address : String} {c : Client}
    (new : Client.new registry address = .ok c) (web : c.server.isWeb = true) :
    ∃ base, c.Hosted base := by
  rw [Client.new] at new
  cases hparse : Url.parse address with
  | error problem =>
      rw [hparse] at new
      cases new
  | ok url =>
      rw [hparse] at new
      obtain rfl := Except.ok.inj new
      have hweb : url.isWeb = true := web
      obtain ⟨segments, hsegments⟩ := Url.parse_segments hparse hweb
      have hfile : (url.scheme == "file") = false := beq_false_of_ne (Url.isKnown_of_isWeb hweb).2
      have hpath : url.withTrailingSlash.path
          = if segments.getLast? = some "" then .segments segments
            else .segments (segments ++ [""]) := by
        rw [Url.withTrailingSlash, hsegments, hfile]
        rfl
      by_cases hlast : segments.getLast? = some ""
      · obtain ⟨base, rfl⟩ := List.getLast?_eq_some_iff.mp hlast
        exact ⟨base, web, hpath.trans (if_pos hlast)⟩
      · exact ⟨segments, web, hpath.trans (if_neg hlast)⟩

section Endpoint

variable {c : Client} {base : List String} {id leaf : String}

/-- The address that is read for an endpoint of an organization. -/
theorem endpoint_organization (h : c.Hosted base) (isLeaf : IsLeaf leaf) :
    c.endpoint (organizationPath id leaf) = .ok { c.server with
      path := .segments (Url.readPath true base (Url.cutPath true (reference id leaf)).1)
      query := (Url.cutPath true (reference id leaf)).2.1
      fragment := (Url.cutPath true (reference id leaf)).2.2 } := by
  obtain ⟨rest, hrest⟩ := words_cons
  have hclean : Url.clean (organizationPath id leaf) = 'a' :: 'p' :: 'i' :: '/' :: (rest
      ++ '/' :: (id.toList.filter Url.counts ++ '/' :: (leaf.toList ++ ['/']))) := by
    rw [clean_organizationPath id isLeaf, reference, hrest]
    rfl
  have hreference : reference id leaf = _ := (clean_organizationPath id isLeaf).symm.trans hclean
  have hjoin := Url.join_of_word h.web h.path hclean rfl (by decide)
  rw [List.dropLast_concat, ← hreference] at hjoin
  rw [endpoint, hjoin]

theorem mem_reference (isLeaf : IsLeaf leaf) {char : Char} (h : char ∈ reference id leaf) :
    (char = '/' ∨ IsWordChar char) ∨ char ∈ id.toList := by
  simp only [reference, List.mem_append, List.mem_cons, List.not_mem_nil, or_false] at h
  rcases h with h | h | h | h | h | h
  · exact Or.inl (word_of_mem_words char h)
  · exact Or.inl (Or.inl h)
  · exact Or.inr (List.mem_filter.mp h).1
  · exact Or.inl (Or.inl h)
  · exact Or.inl (Or.inr (isLeaf.word char h))
  · exact Or.inl (Or.inl h)

/-- A plain id brings no marks into a path. -/
theorem not_mem_reference (plain : PlainId id) (isLeaf : IsLeaf leaf) :
    ∀ mark ∈ ['\\', '?', '#'], mark ∉ reference id leaf := by
  intro mark hmark h
  have hother : mark ∈ ['/', '\\', '?', '#', '\t', '\n', '\r'] := by
    simp only [List.mem_cons, List.not_mem_nil, or_false] at hmark
    rcases hmark with rfl | rfl | rfl <;> decide
  rcases mem_reference isLeaf h with (rfl | hword) | hid
  · exact absurd hmark (by decide)
  · exact not_isWordChar mark hother hword
  · exact plain.unmarked mark hid hother

/-- The pieces of a path that is built from words and a plain id. -/
theorem pieces_reference (plain : PlainId id) (isLeaf : IsLeaf leaf) :
    Url.pathPieces true (reference id leaf) = ["api".toList, "v2".toList,
      "organizations".toList, id.toList, leaf.toList, []] := by
  have hid : id.toList.filter Url.counts = id.toList := by
    refine List.filter_eq_self.mpr fun c hc => ?_
    have hmark := plain.unmarked c hc
    simp only [List.mem_cons, List.not_mem_nil, or_false, not_or] at hmark
    simp [Url.counts, hmark]
  have hleaf : '/' ∉ leaf.toList := fun hc => absurd (isLeaf.word _ hc) (by decide)
  have hwords : words
      = "api".toList ++ ['/'] ++ ("v2".toList ++ ['/'] ++ "organizations".toList) := by
    decide +kernel
  have htext : reference id leaf = "api".toList ++ '/' :: ("v2".toList ++ '/' ::
      ("organizations".toList ++ '/' :: (id.toList ++ '/' :: (leaf.toList ++ '/' :: [])))) := by
    rw [reference, hid, hwords]
    simp only [List.append_assoc, List.cons_append, List.nil_append]
  have hcut : ∀ {piece : List Char} (rest : List Char), '/' ∉ piece →
      Text.pieces ['/'] (piece ++ '/' :: rest) = piece :: Text.pieces ['/'] rest := by
    intro piece rest hpiece
    rw [List.append_cons]
    exact Text.pieces_append (by decide) (Text.closed_of_not_mem hpiece) rest
  rw [Url.pathPieces_eq (not_mem_reference plain isLeaf _ (by decide)), htext,
    hcut _ (by decide +kernel), hcut _ (by decide +kernel), hcut _ (by decide +kernel),
    hcut _ plain.not_mem.1, hcut _ hleaf]
  rfl

/-- **A plain id is one segment in the path of its endpoints, and they have no query.** -/
theorem endpoint_of_plain (h : c.Hosted base) (plain : PlainId id) (isLeaf : IsLeaf leaf) :
    c.endpoint (organizationPath id leaf) = .ok { c.server with
      path := .segments (base ++ ["api", "v2", "organizations",
        String.ofList (Percent.encode Url.inPath id.toList), leaf, ""])
      query := none
      fragment := none } := by
  have hmarks := not_mem_reference plain isLeaf
  have hpath : Url.cutPath true (reference id leaf) = (reference id leaf, none, none) :=
    Url.cutPath_of_not_mem (hmarks '#' (by decide)) (hmarks '?' (by decide))
  have hwords : ∀ word ∈ ["api", "v2", "organizations", "service_usage", "asset_usage"],
      word.toList.all (fun c => decide (IsWordChar c)) = true ∧
        String.ofList (Percent.encode Url.inPath word.toList) = word := by
    decide +kernel
  have hleaf : leaf ∈ ["api", "v2", "organizations", "service_usage", "asset_usage"] := by
    rcases isLeaf with rfl | rfl <;> decide
  have hdots : ∀ piece ∈ ["api".toList, "v2".toList, "organizations".toList, id.toList,
      leaf.toList, []], ¬ Url.IsDots piece := by
    have hword := fun word hword =>
      (plainId_of_word (List.all_iff_forall_prop.mp (hwords word hword).1)).not_dots
    simp only [List.forall_mem_cons]
    exact ⟨hword _ (by decide), hword _ (by decide), hword _ (by decide), plain.not_dots,
      hword _ hleaf, nofun, nofun⟩
  rw [endpoint_organization h isLeaf, hpath, Url.readPath, pieces_reference plain isLeaf,
    Url.resolve_of_not_dots hdots]
  simp only [List.map_cons, List.map_nil, (hwords _ hleaf).2, (hwords "api" (by decide)).2,
    (hwords "v2" (by decide)).2, (hwords "organizations" (by decide)).2]
  rfl

/-- A piece of a path has no marks in it, and is part of a word of the path or of what is left of
the id. -/
theorem piece_spec {piece : List Char} (isLeaf : IsLeaf leaf)
    (mem : piece ∈ Url.pathPieces true (Url.cutPath true (reference id leaf)).1) :
    ('/' ∉ piece ∧ '?' ∉ piece ∧ '#' ∉ piece) ∧ ((∀ c ∈ piece, IsWordChar c) ∨
      piece <:+: (id.toList.filter Url.counts).map Url.toSlash) := by
  obtain ⟨hpart, hfree⟩ := Text.infix_of_mem_pieces (List.cons_ne_nil _ _) mem
  have hslash : '/' ∉ piece := by
    intro hc
    obtain ⟨front, back, rfl⟩ := List.append_of_mem hc
    exact hfree ⟨front, back, by simp⟩
  obtain ⟨hcut, hmarks⟩ := Url.cutPath_path true (reference id leaf)
  have hpath : ∀ c ∈ piece, c ∈ (Url.cutPath true (reference id leaf)).1 := fun c hc =>
    Url.mem_of_mem_map_toSlash (hpart.subset hc) fun heq => hslash (heq ▸ hc)
  refine ⟨⟨hslash, fun hc => hmarks.2 (hpath _ hc), fun hc => hmarks.1 (hpath _ hc)⟩, ?_⟩
  have hmapped : piece <:+: words ++ '/' ::
      ((id.toList.filter Url.counts).map Url.toSlash ++ '/' :: (leaf.toList ++ ['/'])) := by
    have hall : piece <:+: (reference id leaf).map Url.toSlash :=
      hpart.trans (hcut.map Url.toSlash).isInfix
    have hwords : '\\' ∉ words := fun hc => absurd (word_of_mem_words _ hc) (by decide)
    have hleaf : '\\' ∉ leaf.toList := fun hc => absurd (isLeaf.word _ hc) (by decide)
    simpa [reference, Url.map_toSlash hwords, Url.map_toSlash hleaf, Url.toSlash_of_ne] using hall
  rcases infix_of_slash hmapped hslash with hfront | hback
  · exact .inl fun c hc => (word_of_mem_words c (hfront.subset hc)).resolve_left
      fun heq => hslash (heq ▸ hc)
  rcases infix_of_slash hback hslash with hmid | hlast
  · exact .inr hmid
  · refine .inl fun c hc => ?_
    rcases List.mem_append.mp (hlast.subset hc) with hleaf | hend
    · exact isLeaf.word c hleaf
    · exact absurd (List.mem_singleton.mp hend ▸ hc) hslash

/-- Part of what is left of an id says the id only if nothing was dropped, turned or decoded. -/
theorem eq_of_part {piece : List Char}
    (part : piece <:+: (id.toList.filter Url.counts).map Url.toSlash)
    (decodes : Percent.decode piece = Utf8.encode id.toList) :
    Percent.hasEscape piece = false ∧ piece = id.toList ∧
      id.toList.filter Url.counts = id.toList ∧ piece = id.toList.map Url.toSlash := by
  obtain ⟨hshort, hwhole⟩ := Utf8.length_encode_le part.sublist
  obtain ⟨hkept, hall⟩ := Utf8.length_encode_le
    (List.filter_sublist (p := Url.counts) (l := id.toList))
  rw [Url.length_encode_map_toSlash] at hshort hwhole
  have hlength := congrArg List.length decodes
  rcases Percent.decode_cases piece with ⟨hplain, hdecode⟩ | ⟨-, hless⟩
  · rw [hdecode] at hlength
    have hid : id.toList.filter Url.counts = id.toList := hall (by omega)
    have hpiece := hwhole (by omega)
    rw [hid] at hpiece
    exact ⟨hplain, Utf8.encode_inj.mp (hdecode.symm.trans decodes), hid, hpiece⟩
  · omega

/-- What stands in a path and says an id is a word of the path, and then so is the id, or it is the
whole id, and then that means nothing else. -/
theorem plainId_of_piece {piece : List Char} (isLeaf : IsLeaf leaf)
    (mem : piece ∈ Url.pathPieces true (Url.cutPath true (reference id leaf)).1)
    (notDots : ¬ Url.IsDots piece) (decodes : Percent.decode piece = Utf8.encode id.toList) :
    PlainId id := by
  obtain ⟨⟨hslash, hquestion, hhash⟩, hword | hpart⟩ := piece_spec isLeaf mem
  · have hplain := hasEscape_of_not_mem fun hc => absurd (hword '%' hc) (by decide)
    have hid : piece = id.toList := by
      rcases Percent.decode_cases piece with ⟨-, hdecode⟩ | ⟨hescape, -⟩
      · exact Utf8.encode_inj.mp (hdecode.symm.trans decodes)
      · cases hplain.symm.trans hescape
    exact plainId_of_word (hid ▸ hword)
  · obtain ⟨hplain, rfl, hkept, hturned⟩ := eq_of_part hpart decodes
    have hback : '\\' ∉ id.toList := fun hc =>
      hslash (hturned ▸ List.mem_map_of_mem (f := Url.toSlash) hc)
    have hcounts := List.filter_eq_self.mp hkept
    refine ⟨fun c hc hc' => ?_, hplain, ?_⟩
    · simp only [List.mem_cons, List.not_mem_nil, or_false] at hc'
      rcases hc' with rfl | rfl | rfl | rfl | rfl | rfl | rfl
      · exact hslash hc
      · exact hback hc
      · exact hquestion hc
      · exact hhash hc
      all_goals exact absurd (hcounts _ hc) (by decide)
    · rw [Url.IsDots, dots_of_unescaped hplain] at notDots
      refine ⟨?_, ?_⟩ <;> rintro rfl
      · exact notDots (Or.inl (by decide))
      · exact notDots (Or.inr (by decide))

/-- An address is that of an endpoint of an organization, and its segment says the id. -/
def Addresses (base : List String) (id leaf : String) (url : Url) : Prop :=
  ∃ segment, url.path
      = .segments (base ++ ["api", "v2", "organizations", segment, leaf, ""]) ∧
    Percent.decode segment.toList = Utf8.encode id.toList

/-- **Only a plain id reaches the endpoint of its organization.** -/
theorem plainId_of_addresses (h : c.Hosted base) (isLeaf : IsLeaf leaf) {url : Url}
    (endpoint : c.endpoint (organizationPath id leaf) = .ok url)
    (addresses : Addresses base id leaf url) : PlainId id := by
  obtain ⟨segment, hpath, hdecodes⟩ := addresses
  rw [endpoint_organization h isLeaf] at endpoint
  obtain rfl := Except.ok.inj endpoint
  have hresolved := Url.Path.segments.inj hpath
  have hplace : (Url.resolve base (Url.pathPieces true
      (Url.cutPath true (reference id leaf)).1))[base.length + 3]? = some segment := by
    rw [Url.readPath] at hresolved
    rw [hresolved]
    simp
  rcases Url.resolve_cases hplace with hbase | rfl | ⟨piece, hmem, hdots, rfl⟩
  · rw [List.getElem?_eq_none (by omega)] at hbase
    cases hbase
  · -- only the empty id is said by an empty segment
    rw [String.toList_empty] at hdecodes
    have hid : id.toList = [] := (Utf8.encode_inj.mp (show Utf8.encode [] = _ from hdecodes)).symm
    exact plainId_of_word fun c hc => absurd (hid ▸ hc) List.not_mem_nil
  · rw [String.toList_ofList, Percent.decode_encode Url.inPath_apart] at hdecodes
    exact plainId_of_piece isLeaf hmem hdots hdecodes

/-- Different ids have different addresses. -/
theorem Addresses.inj {id' : String} {url : Url} (h : Addresses base id leaf url)
    (h' : Addresses base id' leaf url) : id = id' := by
  obtain ⟨segment, hpath, hdecodes⟩ := h
  obtain ⟨segment', hpath', hdecodes'⟩ := h'
  have hsame := List.append_cancel_left (Url.Path.segments.inj (hpath.symm.trans hpath'))
  obtain rfl : segment = segment' := by simpa using hsame
  exact String.toList_inj.mp (Utf8.encode_inj.mp (hdecodes.symm.trans hdecodes'))

end Endpoint

end Client

/-! ### The rule of organizations -/

/-- A network that answers as it is told to and takes down what it is asked. -/
def Network.recording (answer : Request → Except String Response) :
    Network (StateM (List Request)) :=
  fun request => do
    modify (· ++ [request])
    return answer request

/-- The requests that a call sends, one after the other. -/
def requestsSent {α : Type} (call : Network (StateM (List Request)) → StateM (List Request) α)
    (answer : Request → Except String Response) : List Request :=
  ((call (Network.recording answer)).run []).2

namespace Client

variable {c : Client} {base : List String}

/-- What a call makes of an answer. -/
def result {α : Type} (value : Json.Tree → Option α) : Except String Response → Except Failure α
  | .ok response => response.read value
  | .error reason => .error (.transport reason)

/-- A request to the web is sent once. -/
theorem send_recording {α : Type} (value : Json.Tree → Option α) {request : Request}
    (web : request.url.isWeb = true) (answer : Request → Except String Response)
    (asked : List Request) : (send (Network.recording answer) value request).run asked
      = (result value (answer request), asked ++ [request]) := by
  rw [send, if_pos web]
  show (match answer request with
    | .ok response => pure (response.read value)
    | .error reason => pure (.error (.transport reason)) : StateM (List Request) _).run
      (asked ++ [request]) = _
  cases answer request <;> rfl

theorem requestsSent_fetchUsage {organization : Option String} {url : Url} (web : url.isWeb = true)
    (request : c.usageRequest organization = .ok ⟨url⟩)
    (answer : Request → Except String Response) :
    requestsSent (c.fetchUsage · organization) answer = [⟨url⟩] := by
  rw [requestsSent, fetchUsage, request, sendIfAny, send_recording _ web]
  rfl

theorem sendIfAny_recording {α : Type} (value : Json.Tree → Option α)
    (request : Except Failure Request) (answer : Request → Except String Response)
    (asked : List Request) : ∃ rest, (∀ r ∈ rest, request = .ok r) ∧
      ((sendIfAny (Network.recording answer) value request).run asked).2 = asked ++ rest := by
  have hnone : ∀ r ∈ ([] : List Request), request = .ok r := fun r hr =>
    absurd hr List.not_mem_nil
  cases request with
  | error failure => exact ⟨[], hnone, (List.append_nil asked).symm⟩
  | ok request =>
      by_cases web : request.url.isWeb = true
      · refine ⟨[request], fun r hr => by rw [List.mem_singleton.mp hr], ?_⟩
        rw [sendIfAny, send_recording value web]
      · refine ⟨[], hnone, ?_⟩
        rw [sendIfAny, send, if_neg web]
        exact (List.append_nil asked).symm

/-- When the usage of an organization cannot be had, one's own is asked for behind it. -/
theorem requestsSent_fetchProjectUsage {id : String} {page : UInt32} {order : Option Order}
    {url : Url} (web : url.isWeb = true)
    (request : c.projectUsageRequest (some id) page order = .ok ⟨url⟩)
    (answer : Request → Except String Response) :
    ∃ rest, (∀ r ∈ rest, c.projectUsageRequest none page order = .ok r) ∧
      requestsSent (c.fetchProjectUsage · (some id) page order) answer = ⟨url⟩ :: rest := by
  rw [requestsSent, fetchProjectUsage.eq_def]
  simp only [request, StateT.run_bind, send_recording _ web, List.nil_append]
  cases result (Page.ofTree? ProjectUsage.ofTree?) (answer ⟨url⟩) with
  | ok usage => exact ⟨[], fun r hr => absurd hr List.not_mem_nil, rfl⟩
  | error failure => exact sendIfAny_recording _ _ answer [⟨url⟩]

/-- The query of a request for a page of the usage by projects. -/
def projectUsageQuery (c : Client) (page : UInt32) (order : Option Order) : String :=
  let pairs := ("page", Number.write (if page < 1 then 1 else page).toNat) :: c.orderingPair order
  String.ofList (Form.encodePairs (pairs.map fun (name, value) => (name.toList, value.toList)))

/-- What holds of the address that is asked for something of an organization. -/
structure Reaches (c : Client) (base : List String) (id leaf : String) (query : Option String)
    (url : Url) : Prop where
  /-- It is one of the server. -/
  server : url.scheme = c.server.scheme ∧ url.authority = c.server.authority
  /-- It is the one of the organization when the id is plain, and only then. -/
  addresses : Addresses base id leaf url ↔ PlainId id
  /-- Then its query says what the call says, and nothing else. -/
  query : PlainId id → url.query = query ∧ url.fragment = none

theorem usagePath_some (id leaf : String) : usagePath (some id) leaf = organizationPath id leaf :=
  rfl

theorem exists_reaches (h : c.Hosted base) (id : String) {leaf : String} (isLeaf : IsLeaf leaf) :
    ∃ url, c.endpoint (organizationPath id leaf) = .ok url ∧ url.isWeb = true ∧
      Reaches c base id leaf none url := by
  refine ⟨_, endpoint_organization h isLeaf, h.web, ⟨rfl, rfl⟩, ⟨?_, fun hplain => ?_⟩, ?_⟩
  · exact plainId_of_addresses h isLeaf (endpoint_organization h isLeaf)
  · have hurl := (endpoint_organization h isLeaf).symm.trans (endpoint_of_plain h hplain isLeaf)
    rw [Except.ok.inj hurl]
    exact ⟨_, rfl, by rw [String.toList_ofList]; exact hplain.decode_encode⟩
  · intro hplain
    have hurl := (endpoint_organization h isLeaf).symm.trans (endpoint_of_plain h hplain isLeaf)
    rw [Except.ok.inj hurl]
    exact ⟨rfl, rfl⟩

/-- Where a client of a server on the web asks for what belongs to an organization.  The segments
of the server's own path are the base. -/
structure OrganizationRule (c : Client) (base : List String) : Prop where
  folder : c.server.path = .segments (base ++ [""])
  /-- The usage of an organization is asked for once. -/
  usage : ∀ id, ∃ url, Reaches c base id "service_usage" none url ∧
    ∀ answer, requestsSent (c.fetchUsage · (some id)) answer = [⟨url⟩]
  /-- The usage by projects is asked for once as well, and then only one's own. -/
  projectUsage : ∀ id page order, ∃ url,
    Reaches c base id "asset_usage" (some (c.projectUsageQuery page order)) url ∧
    ∀ answer, ∃ rest, (∀ r ∈ rest, c.projectUsageRequest none page order = .ok r) ∧
      requestsSent (c.fetchProjectUsage · (some id) page order) answer = ⟨url⟩ :: rest
  /-- Different plain ids are never asked for at one address. -/
  distinct : ∀ id id', PlainId id → PlainId id' → id ≠ id' →
    c.usageRequest (some id) ≠ c.usageRequest (some id') ∧
    ∀ page order, c.projectUsageRequest (some id) page order
      ≠ c.projectUsageRequest (some id') page order

/-- **A request is about the organization whose id was given exactly when that id is plain.** -/
theorem exists_organizationRule {registry : Registry} {address : String} {c : Client}
    (new : Client.new registry address = .ok c) (web : c.server.isWeb = true) :
    ∃ base, OrganizationRule c base := by
  obtain ⟨base, hosted⟩ := exists_hosted new web
  have husage : ∀ id, ∃ url, c.usageRequest (some id) = .ok ⟨url⟩ ∧ url.isWeb = true ∧
      Reaches c base id "service_usage" none url := by
    intro id
    obtain ⟨url, hurl, hweb, hreaches⟩ := exists_reaches hosted id (Or.inl rfl)
    refine ⟨url, ?_, hweb, hreaches⟩
    rw [usageRequest, usagePath_some, hurl]
    rfl
  have hproject : ∀ id page order, ∃ url, c.projectUsageRequest (some id) page order = .ok ⟨url⟩ ∧
      url.isWeb = true ∧
      Reaches c base id "asset_usage" (some (c.projectUsageQuery page order)) url := by
    intro id page order
    obtain ⟨url, hurl, hweb, hreaches⟩ := exists_reaches hosted id (Or.inr rfl)
    refine ⟨url.addQuery (("page", Number.write (if page < 1 then 1 else page).toNat)
      :: c.orderingPair order), ?_, hweb, hreaches.server, hreaches.addresses, fun hplain => ?_⟩
    · rw [projectUsageRequest, usagePath_some, hurl]
      rfl
    · obtain ⟨hquery, hfragment⟩ := hreaches.query hplain
      refine ⟨?_, hfragment⟩
      rw [Url.addQuery, List.isEmpty_cons, if_neg Bool.false_ne_true, hquery]
      rfl
  refine ⟨base, hosted.path, ?_, ?_, ?_⟩
  · intro id
    obtain ⟨url, hrequest, hweb, hreaches⟩ := husage id
    exact ⟨url, hreaches, requestsSent_fetchUsage hweb hrequest⟩
  · intro id page order
    obtain ⟨url, hrequest, hweb, hreaches⟩ := hproject id page order
    exact ⟨url, hreaches, requestsSent_fetchProjectUsage hweb hrequest⟩
  · intro id id' hplain hplain' hne
    refine ⟨fun hsame => hne ?_, fun page order hsame => hne ?_⟩
    · obtain ⟨url, hrequest, -, hreaches⟩ := husage id
      obtain ⟨url', hrequest', -, hreaches'⟩ := husage id'
      cases hrequest.symm.trans (hsame.trans hrequest')
      exact (hreaches.addresses.mpr hplain).inj (hreaches'.addresses.mpr hplain')
    · obtain ⟨url, hrequest, -, hreaches⟩ := hproject id page order
      obtain ⟨url', hrequest', -, hreaches'⟩ := hproject id' page order
      cases hrequest.symm.trans (hsame.trans hrequest')
      exact (hreaches.addresses.mpr hplain).inj (hreaches'.addresses.mpr hplain')

/-- It is about it for a client whose server has no path of its own. -/
theorem exists_organizationRule_root :
    ∃ c, Client.new .ownProjects "http://kf.example.org" = .ok c ∧ c.server.isWeb = true ∧
      ∃ base, OrganizationRule c base := by
  have hnew : ((Client.new .ownProjects "http://kf.example.org").toOption.map
      fun c => c.server.isWeb) = some true := by decide +kernel
  cases hc : Client.new .ownProjects "http://kf.example.org" with
  | error problem =>
      rw [hc] at hnew
      cases hnew
  | ok c =>
      rw [hc] at hnew
      have hweb : c.server.isWeb = true := Option.some.inj hnew
      exact ⟨c, rfl, hweb, exists_organizationRule hc hweb⟩

/-- An id that leads up in the path is not plain: another organization is asked, or none. -/
theorem usageRequest_climbing :
    let address (organization : Option String) : Option String := do
      let c ← (Client.new .ownProjects "http://kf.example.org").toOption
      let request ← (c.usageRequest organization).toOption
      request.url.write
    address (some "a/../b") = some "http://kf.example.org/api/v2/organizations/b/service_usage/" ∧
      address (some "b") = some "http://kf.example.org/api/v2/organizations/b/service_usage/" ∧
      address (some "..") = some "http://kf.example.org/api/v2/service_usage/" := by
  decide +kernel

end Client

end ProjectViews
