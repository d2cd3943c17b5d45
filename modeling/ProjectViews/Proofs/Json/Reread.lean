/-
A tree that was written is read back.

A reader of values does so with whatever ends the value behind it: nothing, or the comma,
bracket or brace of what the value stands in.  The induction is on the tree: the items of
an array and the members of an object are read one by one, and each by the reader for one
level less.  The bounds that the readers have on nesting and on the number of items are
lengths of texts, and a text has at least one character for every item and every level.

Not every tree is read back, since a string that no text can hold is written as the empty
one.  Trees without such strings are what values are written as.
-/
import ProjectViews.Proofs.Json.Words

namespace ProjectViews

namespace Json

open Reader

namespace Tree

/-- Trees whose strings and names are texts. -/
inductive OfTexts : Tree → Prop
  | null : OfTexts .null
  | bool (b : Bool) : OfTexts (.bool b)
  | number (n : Numeral) : OfTexts (.number n)
  | text (s : String) : OfTexts (.text s)
  | array {items : List Tree} (h : ∀ t ∈ items, OfTexts t) : OfTexts (.array items)
  | object {members : List (Option String × Tree)} (names : ∀ m ∈ members, m.1.isSome = true)
      (h : ∀ m ∈ members, OfTexts m.2) : OfTexts (.object members)

theorem OfTexts.record {members : List (String × Tree)} (h : ∀ m ∈ members, OfTexts m.2) :
    OfTexts (.record members) := by
  refine .object (fun m hm => ?_) fun m hm => ?_
  · obtain ⟨_, _, rfl⟩ := List.mem_map.mp hm
    rfl
  · obtain ⟨a, ha, rfl⟩ := List.mem_map.mp hm
    exact h a ha

end Tree

/-! ### What is behind a value -/

/-- Whether a text goes on with what ends a value. -/
def Ends (cs : List Char) : Prop := ∀ c ∈ cs.head?, c = ',' ∨ c = ']' ∨ c = '\x7d'

theorem Ends.nil : Ends [] := nofun

theorem Ends.endsNumber {cs : List Char} (h : Ends cs) : EndsNumber cs := by
  refine ⟨fun c hc => ?_, fun hc => ?_, fun hc => ?_, fun hc => ?_⟩
  · rcases h c hc with rfl | rfl | rfl <;> rfl
  all_goals exact absurd (h _ hc) (by decide)

theorem ends_printItems (ts : List Tree) (rest : List Char) :
    Ends (Tree.printItems ts ++ rest) := by
  cases ts with
  | nil =>
      rw [Tree.printItems]
      rintro c ⟨⟩
      exact Or.inr (Or.inl rfl)
  | cons t ts =>
      rw [Tree.printItems]
      rintro c ⟨⟩
      exact Or.inl rfl

theorem ends_printMembers (ms : List (Option String × Tree)) (rest : List Char) :
    Ends (Tree.printMembers ms ++ rest) := by
  cases ms with
  | nil =>
      rw [Tree.printMembers]
      rintro c ⟨⟩
      exact Or.inr (Or.inr rfl)
  | cons t ts =>
      rw [Tree.printMembers]
      rintro c ⟨⟩
      exact Or.inl rfl

/-! ### Lengths -/

theorem length_printItems (ts : List Tree) : ts.length < (Tree.printItems ts).length := by
  induction ts with
  | nil => simp [Tree.printItems]
  | cons t ts ih =>
      simp only [Tree.printItems, List.length_cons, List.length_append]
      omega

theorem length_item {t : Tree} {ts : List Tree} (h : t ∈ ts) :
    t.printChars.length < (Tree.printItems ts).length := by
  induction ts with
  | nil => cases h
  | cons u ts ih =>
      simp only [Tree.printItems, List.length_cons, List.length_append]
      rcases List.mem_cons.mp h with rfl | hrest
      · omega
      · have := ih hrest
        omega

theorem length_printMembers (ms : List (Option String × Tree)) :
    ms.length < (Tree.printMembers ms).length := by
  induction ms with
  | nil => simp [Tree.printMembers]
  | cons m ms ih =>
      simp only [Tree.printMembers, List.length_cons, List.length_append]
      omega

theorem length_member {m : Option String × Tree} {ms : List (Option String × Tree)} (h : m ∈ ms) :
    m.2.printChars.length < (Tree.printMembers ms).length := by
  induction ms with
  | nil => cases h
  | cons u ms ih =>
      simp only [Tree.printMembers, List.length_cons, List.length_append]
      rcases List.mem_cons.mp h with rfl | hrest
      · omega
      · have := ih hrest
        omega

/-! ### Arrays and objects -/

/-- A reader reads a tree back, whatever there is behind it. -/
def Reads (item : List Char → Option (Tree × List Char)) (t : Tree) : Prop :=
  ∀ rest, Ends rest → item (t.printChars ++ rest) = some (t, rest)

variable {item : List Char → Option (Tree × List Char)}

theorem items_printItems {ts : List Tree} (h : ∀ t ∈ ts, Reads item t) {fuel : Nat}
    (hfuel : ts.length < fuel) (rest : List Char) :
    items item fuel (Tree.printItems ts ++ rest) = some (ts, rest) := by
  induction ts generalizing fuel with
  | nil =>
      obtain ⟨fuel, rfl⟩ : ∃ n, fuel = n + 1 := ⟨fuel - 1, by omega⟩
      rw [Tree.printItems]
      rfl
  | cons t ts ih =>
      obtain ⟨fuel, rfl⟩ : ∃ n, fuel = n + 1 := ⟨fuel - 1, by omega⟩
      rw [List.length_cons] at hfuel
      have hitem := h t List.mem_cons_self _ (ends_printItems ts rest)
      have hitems :=
        ih (fun u hu => h u (List.mem_cons_of_mem _ hu)) (show ts.length < fuel by omega)
      rw [Tree.printItems, List.cons_append, List.append_assoc]
      show (item _).bind _ = _
      rw [hitem]
      show (items item fuel _).bind _ = _
      rw [hitems]
      rfl

theorem member_print {m : Option String × Tree} (hname : m.1.isSome = true)
    (h : Reads item m.2) {rest : List Char} (hrest : Ends rest) :
    member item (quote (m.1.getD "") ++ ':' :: (m.2.printChars ++ rest)) = some (m, rest) := by
  obtain ⟨_ | name, t⟩ := m
  · cases hname
  have htext : quote name ++ ':' :: (t.printChars ++ rest)
      = '"' :: (name.toList.flatMap escape ++ '"' :: ':' :: (t.printChars ++ rest)) := by
    simp [quote]
  rw [Option.getD_some, htext]
  show (stringBody _).bind _ = _
  rw [stringBody_escapes]
  show (item _).bind _ = _
  rw [h rest hrest]
  rfl

theorem members_printMembers {ms : List (Option String × Tree)}
    (names : ∀ m ∈ ms, m.1.isSome = true) (h : ∀ m ∈ ms, Reads item m.2) {fuel : Nat}
    (hfuel : ms.length < fuel) (rest : List Char) :
    members item fuel (Tree.printMembers ms ++ rest) = some (ms, rest) := by
  induction ms generalizing fuel with
  | nil =>
      obtain ⟨fuel, rfl⟩ : ∃ n, fuel = n + 1 := ⟨fuel - 1, by omega⟩
      rw [Tree.printMembers]
      rfl
  | cons m ms ih =>
      obtain ⟨fuel, rfl⟩ : ∃ n, fuel = n + 1 := ⟨fuel - 1, by omega⟩
      rw [List.length_cons] at hfuel
      have hmember := member_print (names m List.mem_cons_self) (h m List.mem_cons_self)
        (ends_printMembers ms rest)
      have hmembers := ih (fun u hu => names u (List.mem_cons_of_mem _ hu))
        (fun u hu => h u (List.mem_cons_of_mem _ hu)) (show ms.length < fuel by omega)
      rw [Tree.printMembers, List.cons_append, List.append_assoc, List.cons_append,
        List.append_assoc]
      show (member item _).bind _ = _
      rw [hmember]
      show (members item fuel _).bind _ = _
      rw [hmembers]
      rfl

/-- An array is read back, if nothing begins with a closing bracket for the reader. -/
theorem arrayBody_print {t : Tree} {ts : List Tree} (h : ∀ u ∈ t :: ts, Reads item u)
    (hclose : ∀ cs rest, skipSpace cs = ']' :: rest → item cs = none) (rest : List Char) :
    arrayBody item (t.printChars ++ (Tree.printItems ts ++ rest)) = some (t :: ts, rest) := by
  have hitem := h t List.mem_cons_self _ (ends_printItems ts rest)
  have hfuel : ts.length < (t.printChars ++ (Tree.printItems ts ++ rest)).length := by
    have hlength := length_printItems ts
    simp only [List.length_append]
    omega
  have hitems := items_printItems (fun u hu => h u (List.mem_cons_of_mem _ hu)) hfuel rest
  rw [arrayBody]
  split
  · rename_i hskip
    rw [hclose _ _ hskip] at hitem
    cases hitem
  · show (item _).bind _ = _
    rw [hitem]
    show (items item _ _).bind _ = _
    rw [hitems]
    rfl

/-- An object is read back. -/
theorem objectBody_print {m : Option String × Tree} {ms : List (Option String × Tree)}
    (names : ∀ u ∈ m :: ms, u.1.isSome = true) (h : ∀ u ∈ m :: ms, Reads item u.2)
    (rest : List Char) :
    objectBody item (quote (m.1.getD "")
        ++ ':' :: (m.2.printChars ++ (Tree.printMembers ms ++ rest))) = some (m :: ms, rest) := by
  have hmember := member_print (names m List.mem_cons_self) (h m List.mem_cons_self)
    (ends_printMembers ms rest)
  have hfuel : ms.length < (quote (m.1.getD "")
      ++ ':' :: (m.2.printChars ++ (Tree.printMembers ms ++ rest))).length := by
    have hlength := length_printMembers ms
    simp only [List.length_append, List.length_cons]
    omega
  have hmembers := members_printMembers (fun u hu => names u (List.mem_cons_of_mem _ hu))
    (fun u hu => h u (List.mem_cons_of_mem _ hu)) hfuel rest
  show (member item _).bind _ = _
  rw [hmember]
  show (members item _ _).bind _ = _
  rw [hmembers]
  rfl

/-! ### Values -/

/-- No value begins with a closing bracket. -/
theorem value_bracket (levels : Nat) {cs rest : List Char} (h : skipSpace cs = ']' :: rest) :
    value levels cs = none := by
  cases levels with
  | zero => rfl
  | succ levels =>
      rw [value, h]
      rfl

/-- Whatever does not begin like another value is read as a number. -/
theorem value_other (levels : Nat) {c : Char} (hspace : isSpace c = false)
    (hc : c ∉ ['n', 't', 'f', '"', '[', '\x7b']) (cs : List Char) :
    value (levels + 1) (c :: cs)
      = (numeral (c :: cs)).map fun (n, rest) => (.number n, rest) := by
  have hskip : skipSpace (c :: cs) = c :: cs := by
    rw [skipSpace, List.dropWhile_cons, hspace]
    rfl
  rw [value, hskip]
  split <;> first | rfl | simp_all

/-- A digit is no blank, and no other value begins with one. -/
theorem digit_other : ∀ d : Number.Digit,
    isSpace d.char = false ∧ d.char ∉ ['n', 't', 'f', '"', '[', '\x7b'] := by decide

theorem value_number (levels : Nat) (n : Numeral) {rest : List Char} (h : EndsNumber rest) :
    value (levels + 1) (n.print ++ rest) = some (.number n, rest) := by
  have hread := numeral_print n h
  obtain ⟨c, cs, htext, hc⟩ := n.print_eq_cons
  rw [htext, List.cons_append] at hread ⊢
  have hother : isSpace c = false ∧ c ∉ ['n', 't', 'f', '"', '[', '\x7b'] := by
    rcases hc with rfl | ⟨d, rfl⟩
    · decide
    · exact digit_other d
  rw [value_other levels hother.1 hother.2, hread]
  rfl

/-- A tree is read back, by a reader with more levels than the tree has characters. -/
theorem reads_value {t : Tree} (h : t.OfTexts) {levels : Nat}
    (hlevels : t.printChars.length ≤ levels) : Reads (value (levels + 1)) t := by
  induction h generalizing levels with
  | null => exact fun rest _ => by rw [Tree.printChars]; rfl
  | bool b => exact fun rest _ => by cases b <;> rw [Tree.printChars] <;> rfl
  | number n =>
      intro rest hrest
      rw [Tree.printChars, value_number levels n hrest.endsNumber]
  | text s =>
      intro rest _
      have htext : (Tree.text s).printChars ++ rest
          = '"' :: (s.toList.flatMap escape ++ '"' :: rest) := by
        simp [Tree.text, Tree.printChars, quote]
      rw [htext]
      show (stringBody _).map _ = _
      rw [stringBody_escapes]
      rfl
  | @array items _ ih =>
      intro rest _
      cases items with
      | nil => rw [Tree.printChars]; rfl
      | cons t ts =>
          rw [Tree.printChars, List.length_cons, List.length_append] at hlevels
          obtain ⟨levels, rfl⟩ : ∃ n, levels = n + 1 := ⟨levels - 1, by omega⟩
          have hreads : ∀ u ∈ t :: ts, Reads (value (levels + 1)) u := by
            intro u hu
            refine ih u hu ?_
            rcases List.mem_cons.mp hu with rfl | hmem
            · omega
            · have hitem := length_item hmem
              omega
          rw [Tree.printChars, List.cons_append, List.append_assoc]
          show (arrayBody (value (levels + 1)) _).map _ = _
          rw [arrayBody_print hreads (fun _ _ => value_bracket (levels + 1))]
          rfl
  | @object members names _ ih =>
      intro rest _
      cases members with
      | nil => rw [Tree.printChars]; rfl
      | cons m ms =>
          rw [Tree.printChars, List.length_cons, List.length_append, List.length_cons,
            List.length_append] at hlevels
          obtain ⟨levels, rfl⟩ : ∃ n, levels = n + 1 := ⟨levels - 1, by omega⟩
          have hreads : ∀ u ∈ m :: ms, Reads (value (levels + 1)) u.2 := by
            intro u hu
            refine ih u hu ?_
            rcases List.mem_cons.mp hu with rfl | hmem
            · omega
            · have hmember := length_member hmem
              omega
          rw [Tree.printChars, List.cons_append, List.append_assoc, List.cons_append,
            List.append_assoc]
          show (objectBody (value (levels + 1)) _).map _ = _
          rw [objectBody_print names hreads]
          rfl

/-- **A tree that was written is read back.** -/
theorem Tree.parse_print {t : Tree} (h : t.OfTexts) : Tree.parse t.print = some t := by
  have hread := reads_value h (Nat.le_refl _) [] Ends.nil
  rw [List.append_nil] at hread
  rw [Tree.parse, Tree.print, String.toList_ofList, Tree.parseChars, hread]
  rfl

end Json

end ProjectViews
