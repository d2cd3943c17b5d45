/-
Free-form values that were written are read back, if their doubles are.

A value that was read is in a normal form: an integer fits into 64 bits, and an object is sorted
by its names.  A value is read from more than one text, and only the one that is written is sure
to be in that form, so what is shown is that a value once read is written and read again as
itself; and it takes no more nesting to write it than the text had from which it was read.

The one exception are doubles.  A double is written as the shortest decimal to which it is the
nearest double, and is read step by step, so it may be read as one next to it.  Whether that
happens can be told for each double of a value by itself, whatever is around it.
-/
import Mathlib.Data.List.Induction
import Mathlib.Data.String.Basic
import ProjectViews.Proofs.Json.Reread
import ProjectViews.Proofs.Number.Stepwise

namespace ProjectViews

/-- The text that is written for a double is read as the double. -/
def Number.Double.Kept (x : Number.Double) : Prop :=
  Json.parse (Json.double x).print = some (.double x)

namespace Json

/-! ### Dictionaries -/

section Dictionary

variable {α : Type}

/-- A dictionary is sorted by its names, and no name stands twice. -/
def Sorted (d : List (String × α)) : Prop := d.Pairwise fun a b => a.1 < b.1

theorem mem_insertMember {name : String} {value : α} {d : List (String × α)} {e : String × α}
    (h : e ∈ insertMember name value d) : e = (name, value) ∨ e ∈ d := by
  induction d with
  | nil => exact Or.inl (List.mem_singleton.mp h)
  | cons first rest ih =>
      rw [insertMember] at h
      split at h
      · exact List.mem_cons.mp h
      · split at h
        · exact (List.mem_cons.mp h).imp_right (List.mem_cons_of_mem _)
        · rcases List.mem_cons.mp h with rfl | hrest
          · exact Or.inr List.mem_cons_self
          · exact (ih hrest).imp_right (List.mem_cons_of_mem _)

theorem Sorted.insertMember {d : List (String × α)} (h : Sorted d) (name : String) (value : α) :
    Sorted (insertMember name value d) := by
  induction d with
  | nil => exact List.pairwise_singleton _ _
  | cons first rest ih =>
      obtain ⟨hfirst, hrest⟩ := List.pairwise_cons.mp h
      rw [Json.insertMember]
      split
      · rename_i hlt
        refine List.pairwise_cons.mpr ⟨fun e he => ?_, h⟩
        rcases List.mem_cons.mp he with rfl | hmem
        · exact hlt
        · exact lt_trans hlt (hfirst e hmem)
      · split
        · rename_i heq
          exact List.pairwise_cons.mpr ⟨fun e he => heq ▸ hfirst e he, hrest⟩
        · rename_i hlt hne
          refine List.pairwise_cons.mpr ⟨fun e he => ?_, ih hrest⟩
          rcases mem_insertMember he with rfl | hmem
          · exact lt_of_le_of_ne (not_lt.mp hlt) fun heq => hne heq.symm
          · exact hfirst e hmem

/-- An entry whose name comes after all others is the last one. -/
theorem insertMember_last {d : List (String × α)} {name : String} (h : ∀ e ∈ d, e.1 < name)
    (value : α) : insertMember name value d = d ++ [(name, value)] := by
  induction d with
  | nil => rfl
  | cons first rest ih =>
      have hlt := h first List.mem_cons_self
      rw [insertMember, if_neg hlt.not_gt, if_neg (fun heq => hlt.ne heq.symm),
        ih fun e he => h e (List.mem_cons_of_mem _ he)]
      rfl

theorem dictionary_concat (members : List (String × α)) (e : String × α) :
    dictionary (members ++ [e]) = insertMember e.1 e.2 (dictionary members) := by
  rw [dictionary, List.foldl_append]
  rfl

theorem sorted_dictionary (members : List (String × α)) : Sorted (dictionary members) := by
  induction members using List.reverseRecOn with
  | nil => exact List.Pairwise.nil
  | append_singleton members e ih =>
      rw [dictionary_concat]
      exact ih.insertMember e.1 e.2

theorem mem_dictionary {members : List (String × α)} {e : String × α}
    (h : e ∈ dictionary members) : e ∈ members := by
  induction members using List.reverseRecOn with
  | nil => exact h
  | append_singleton members last ih =>
      rw [dictionary_concat] at h
      rcases mem_insertMember h with rfl | hmem
      · exact List.mem_append_right _ List.mem_cons_self
      · exact List.mem_append_left _ (ih hmem)

/-- Members that are a dictionary are their own dictionary. -/
theorem Sorted.dictionary_eq {d : List (String × α)} (h : Sorted d) : dictionary d = d := by
  induction d using List.reverseRecOn with
  | nil => rfl
  | append_singleton d e ih =>
      obtain ⟨hd, -, hlast⟩ := List.pairwise_append.mp h
      rw [dictionary_concat, ih hd,
        insertMember_last fun a ha => hlast a ha e List.mem_cons_self]

end Dictionary

/-! ### Numbers -/

namespace Numeral

/-- A number is written as an integer of 64 bits, and not as a negative zero. -/
def IsWord (n : Numeral) : Prop :=
  n.isWhole = true ∧
    if n.negative then 0 < n.whole ∧ n.whole ≤ 2 ^ 63 else n.whole < UInt64.size

instance (n : Numeral) : Decidable n.IsWord := inferInstanceAs (Decidable (_ ∧ _))

/-- The integer that a number is, if it is written without a point and an exponent. -/
def integer (n : Numeral) : Int := if n.negative then -n.whole else n.whole

theorem integer_ofInt (i : Int) : (ofInt i).integer = i := by
  by_cases h : i < 0
  · have hnegative : (ofInt i).negative = true := decide_eq_true h
    rw [integer, if_pos hnegative]
    exact (Int.eq_neg_natAbs_of_nonpos (le_of_lt h)).symm
  · have hnegative : ¬ (ofInt i).negative = true := fun hneg => h (of_decide_eq_true hneg)
    rw [integer, if_neg hnegative]
    exact Int.natAbs_of_nonneg (not_lt.mp h)

/-- An integer of 64 bits is written in one way only. -/
theorem IsWord.ofInt_integer {n : Numeral} (h : n.IsWord) : ofInt n.integer = n := by
  obtain ⟨negative, whole, fraction, exponent⟩ := n
  obtain ⟨hwhole, hword⟩ := h
  obtain ⟨hfraction, hexponent⟩ := Bool.and_eq_true_iff.mp hwhole
  obtain rfl : fraction = [] := List.isEmpty_iff.mp hfraction
  obtain rfl : exponent = none := Option.isNone_iff_eq_none.mp hexponent
  cases negative with
  | true =>
      have hpos : 0 < whole := hword.1
      simp only [ofInt, integer, if_true, Int.natAbs_neg, Int.natAbs_natCast, mk.injEq,
        decide_eq_true_eq, and_true]
      omega
  | false =>
      simp only [ofInt, integer, Bool.false_eq_true, if_false, Int.natAbs_natCast, mk.injEq,
        decide_eq_false_iff_not, and_true]
      omega

end Numeral

/-- What is kept of a double is decided by the number that is written for it. -/
theorem kept_iff {x : Number.Double} :
    x.Kept ↔ ofNumeral? (numeralOf x) = some (.double x) := by
  have hwritten : Tree.parse (Json.double x).print = some (.number (numeralOf x)) :=
    Tree.parse_print (.number _)
  rw [Number.Double.Kept, parse, hwritten]
  rfl

/-- An integer of 64 bits is read as it. -/
theorem ofNumeral?_of_isWord {n : Numeral} (h : n.IsWord) :
    ofNumeral? n = some (.int n.integer) := by
  obtain ⟨hwhole, hword⟩ := h
  by_cases hnegative : n.negative = true
  · rw [if_pos hnegative] at hword
    rw [ofNumeral?, if_neg (fun h => h.2.1 hnegative), if_pos ⟨hwhole, hnegative, hword⟩,
      Numeral.integer, if_pos hnegative]
  · rw [if_neg hnegative] at hword
    rw [ofNumeral?, if_pos ⟨hwhole, hnegative, hword⟩, Numeral.integer, if_neg hnegative]

/-- Any other number is read step by step. -/
theorem ofNumeral?_of_not_isWord {n : Numeral} (h : ¬ n.IsWord) :
    ofNumeral? n = n.leading.stepwise?.map fun m => .double ⟨n.negative, m⟩ := by
  rw [ofNumeral?, if_neg, if_neg]
  · rintro ⟨hwhole, hnegative, hinteger⟩
    exact h ⟨hwhole, by rwa [if_pos hnegative]⟩
  · rintro ⟨hwhole, hnegative, hnatural⟩
    exact h ⟨hwhole, by rwa [if_neg hnegative]⟩

/-- A number is read as an integer if it is one of 64 bits, and as a double if not. -/
theorem ofNumeral?_cases {n : Numeral} {j : Json} (h : ofNumeral? n = some j) :
    (n.IsWord ∧ j = .int n.integer) ∨ (¬ n.IsWord ∧ ∃ x, j = .double x) := by
  by_cases hword : n.IsWord
  · exact Or.inl ⟨hword, Option.some.inj (h.symm.trans (ofNumeral?_of_isWord hword))⟩
  · rw [ofNumeral?_of_not_isWord hword] at h
    obtain ⟨m, -, rfl⟩ := Option.map_eq_some_iff.mp h
    exact Or.inr ⟨hword, _, rfl⟩

/-! ### Values in normal form -/

/-- A double stands somewhere in a value. -/
inductive HasDouble (x : Number.Double) : Json → Prop where
  | double : HasDouble x (.double x)
  | item {items : List Json} {j : Json} (mem : j ∈ items) (h : HasDouble x j) :
      HasDouble x (.array items)
  | member {members : List (String × Json)} {e : String × Json} (mem : e ∈ members)
      (h : HasDouble x e.2) : HasDouble x (.object members)

/-- The integers of a value fit into 64 bits, and its objects are dictionaries. -/
inductive Normal : Json → Prop where
  | null : Normal .null
  | bool (b : Bool) : Normal (.bool b)
  | int {i : Int} (word : (Numeral.ofInt i).IsWord) : Normal (.int i)
  | double (x : Number.Double) : Normal (.double x)
  | string (s : String) : Normal (.string s)
  | array {items : List Json} (h : ∀ j ∈ items, Normal j) : Normal (.array items)
  | object {members : List (String × Json)} (sorted : Sorted members)
      (h : ∀ e ∈ members, Normal e.2) : Normal (.object members)

theorem ofItems?_toTrees_iff {js : List Json} :
    ofItems? (toTrees js) = some js ↔ ∀ j ∈ js, ofTree? j.toTree = some j := by
  induction js with
  | nil => exact ⟨fun _ j hj => absurd hj List.not_mem_nil, fun _ => rfl⟩
  | cons j rest ih =>
      rw [List.forall_mem_cons, ← ih, toTrees, ofItems?]
      constructor
      · intro h
        split at h
        · rename_i x xs hx hxs
          cases h
          exact ⟨hx, hxs⟩
        · cases h
      · rintro ⟨hfirst, hrest⟩
        rw [hfirst, hrest]

theorem ofMembers?_toMembers_iff {d : List (String × Json)} :
    ofMembers? (toMembers d) = some d ↔ ∀ e ∈ d, ofTree? e.2.toTree = some e.2 := by
  induction d with
  | nil => exact ⟨fun _ e he => absurd he List.not_mem_nil, fun _ => rfl⟩
  | cons e rest ih =>
      rw [List.forall_mem_cons, ← ih, toMembers]
      conv_lhs => unfold ofMembers?
      constructor
      · intro h
        split at h
        · rename_i name x xs hname hx hxs
          cases h
          exact ⟨hx, hxs⟩
        · cases h
      · rintro ⟨hfirst, hrest⟩
        rw [hfirst, hrest]

/-- The members that are read from those of a dictionary have its names. -/
theorem names_of_ofMembers?_toMembers {d es : List (String × Json)}
    (h : ofMembers? (toMembers d) = some es) : es.map (·.1) = d.map (·.1) := by
  induction d generalizing es with
  | nil =>
      cases h
      rfl
  | cons e rest ih =>
      rw [toMembers] at h
      unfold ofMembers? at h
      split at h
      · rename_i name x xs hname hx hxs
        cases h
        cases hname
        rw [List.map_cons, List.map_cons, ih hxs]
      · cases h

theorem Sorted.of_names {α β : Type} {d : List (String × α)} {d' : List (String × β)}
    (h : Sorted d) (names : d'.map (·.1) = d.map (·.1)) : Sorted d' := by
  have hnames : (d.map (·.1)).Pairwise (· < ·) := List.pairwise_map.mpr h
  rw [← names] at hnames
  exact List.pairwise_map.mp hnames

/-- An object is read back exactly if its members are. -/
theorem ofTree?_object_iff {d : List (String × Json)} (sorted : Sorted d) :
    ofTree? (.object (toMembers d)) = some (.object d) ↔
      ∀ e ∈ d, ofTree? e.2.toTree = some e.2 := by
  rw [← ofMembers?_toMembers_iff, ofTree?]
  constructor
  · intro h
    obtain ⟨es, hes, hd⟩ := Option.map_eq_some_iff.mp h
    cases hd
    have hsorted : Sorted es := sorted.of_names (names_of_ofMembers?_toMembers hes)
    rw [hsorted.dictionary_eq] at hes ⊢
    exact hes
  · intro h
    rw [h, Option.map_some, sorted.dictionary_eq]

/-- **A value in normal form is read back exactly if each double in it is.** -/
theorem Normal.reread_iff {j : Json} (h : j.Normal) :
    ofTree? j.toTree = some j ↔ ∀ x, j.HasDouble x → x.Kept := by
  induction h with
  | null => exact iff_of_true rfl nofun
  | bool b => exact iff_of_true rfl nofun
  | @int i word =>
      have hread : ofNumeral? (.ofInt i) = some (.int i) := by
        rw [ofNumeral?_of_isWord word, Numeral.integer_ofInt]
      exact iff_of_true hread nofun
  | double x =>
      rw [toTree, ofTree?, ← kept_iff]
      constructor
      · intro hkept y hy
        cases hy
        exact hkept
      · exact fun h => h x .double
  | string s => exact iff_of_true rfl nofun
  | @array items h ih =>
      rw [toTree, ofTree?, Option.map_eq_some_iff]
      simp only [array.injEq, exists_eq_right, ofItems?_toTrees_iff]
      constructor
      · rintro hreread x (- | ⟨mem, hx⟩)
        exact (ih _ mem).mp (hreread _ mem) x hx
      · exact fun hkept j hj => (ih j hj).mpr fun x hx => hkept x (.item hj hx)
  | @object members sorted h ih =>
      rw [toTree, ofTree?_object_iff sorted]
      constructor
      · rintro hreread x (- | - | ⟨mem, hx⟩)
        exact (ih _ mem).mp (hreread _ mem) x hx
      · exact fun hkept e he => (ih e he).mpr fun x hx => hkept x (.member he hx)

/-! ### Values that were read -/

/-- A value is in normal form, and writing it takes no more than some levels of nesting. -/
structure Settled (levels : Nat) (j : Json) : Prop where
  normal : j.Normal
  nesting : j.toTree.nesting ≤ levels

theorem Settled.mono {levels levels' : Nat} {j : Json} (h : Settled levels j)
    (le : levels ≤ levels') : Settled levels' j := ⟨h.normal, h.nesting.trans le⟩

theorem settled_of_ofNumeral? {n : Numeral} {j : Json} (h : ofNumeral? n = some j) :
    Settled 0 j := by
  rcases ofNumeral?_cases h with ⟨word, rfl⟩ | ⟨-, x, rfl⟩
  · exact ⟨.int (by rwa [word.ofInt_integer]), le_refl _⟩
  · exact ⟨.double x, le_refl _⟩

theorem nestingOfItems_toTrees {js : List Json} {levels : Nat}
    (h : ∀ j ∈ js, j.toTree.nesting ≤ levels) : Tree.nestingOfItems (toTrees js) ≤ levels := by
  induction js with
  | nil => exact Nat.zero_le _
  | cons j rest ih =>
      obtain ⟨hfirst, hrest⟩ := List.forall_mem_cons.mp h
      rw [toTrees, Tree.nestingOfItems]
      exact Nat.max_le.mpr ⟨hfirst, ih hrest⟩

theorem nestingOfMembers_toMembers {d : List (String × Json)} {levels : Nat}
    (h : ∀ e ∈ d, e.2.toTree.nesting ≤ levels) :
    Tree.nestingOfMembers (toMembers d) ≤ levels := by
  induction d with
  | nil => exact Nat.zero_le _
  | cons e rest ih =>
      obtain ⟨hfirst, hrest⟩ := List.forall_mem_cons.mp h
      rw [toMembers, Tree.nestingOfMembers]
      exact Nat.max_le.mpr ⟨hfirst, ih hrest⟩

/-- An array of settled values is settled, one level up. -/
theorem settled_array {items : List Json} {levels : Nat} (h : ∀ j ∈ items, Settled levels j) :
    Settled (levels + 1) (.array items) := by
  refine ⟨.array fun j hj => (h j hj).normal, ?_⟩
  rw [toTree, Tree.nesting]
  exact Nat.succ_le_succ (nestingOfItems_toTrees fun j hj => (h j hj).nesting)

/-- An object of settled values is settled, one level up. -/
theorem settled_object {members : List (String × Json)} {levels : Nat}
    (h : ∀ e ∈ members, Settled levels e.2) :
    Settled (levels + 1) (.object (dictionary members)) := by
  have hentries : ∀ e ∈ dictionary members, Settled levels e.2 := fun e he =>
    h e (mem_dictionary he)
  refine ⟨.object (sorted_dictionary members) fun e he => (hentries e he).normal, ?_⟩
  rw [toTree, Tree.nesting]
  exact Nat.succ_le_succ (nestingOfMembers_toMembers fun e he => (hentries e he).nesting)

mutual

/-- **A value that was read is in normal form, and is written with no more nesting.** -/
theorem settled_of_ofTree? : ∀ {t : Tree} {j : Json}, ofTree? t = some j → Settled t.nesting j
  | .null, j, h => by
      cases h
      exact ⟨.null, le_refl _⟩
  | .bool b, j, h => by
      cases h
      exact ⟨.bool b, le_refl _⟩
  | .number n, j, h => settled_of_ofNumeral? h
  | .string s, j, h => by
      obtain ⟨s, rfl, rfl⟩ := Option.map_eq_some_iff.mp h
      exact ⟨.string s, le_refl _⟩
  | .array items, j, h => by
      rw [ofTree?] at h
      obtain ⟨js, hjs, rfl⟩ := Option.map_eq_some_iff.mp h
      rw [Tree.nesting]
      exact settled_array (settled_of_ofItems? hjs)
  | .object members, j, h => by
      rw [ofTree?] at h
      obtain ⟨es, hes, rfl⟩ := Option.map_eq_some_iff.mp h
      rw [Tree.nesting]
      exact settled_object (settled_of_ofMembers? hes)

theorem settled_of_ofItems? : ∀ {ts : List Tree} {js : List Json}, ofItems? ts = some js →
    ∀ j ∈ js, Settled (Tree.nestingOfItems ts) j
  | [], js, h => by
      cases h
      exact fun _ hj => absurd hj List.not_mem_nil
  | t :: rest, js, h => by
      rw [ofItems?] at h
      split at h
      · rename_i x xs hx hxs
        cases h
        rw [Tree.nestingOfItems]
        refine List.forall_mem_cons.mpr ⟨(settled_of_ofTree? hx).mono (le_max_left _ _), ?_⟩
        exact fun j hj => (settled_of_ofItems? hxs j hj).mono (le_max_right _ _)
      · cases h

theorem settled_of_ofMembers? : ∀ {ms : List (Option String × Tree)} {es : List (String × Json)},
    ofMembers? ms = some es → ∀ e ∈ es, Settled (Tree.nestingOfMembers ms) e.2
  | [], es, h => by
      cases h
      exact fun _ he => absurd he List.not_mem_nil
  | (name, t) :: rest, es, h => by
      unfold ofMembers? at h
      split at h
      · rename_i name x xs hx hxs
        cases h
        rw [Tree.nestingOfMembers]
        refine List.forall_mem_cons.mpr ⟨(settled_of_ofTree? hx).mono (le_max_left _ _), ?_⟩
        exact fun e he => (settled_of_ofMembers? hxs e he).mono (le_max_right _ _)
      · cases h

end

/-! ### Where doubles come from -/

/-- A number stands somewhere in a tree. -/
inductive Tree.HasNumber (n : Numeral) : Tree → Prop where
  | number : HasNumber n (.number n)
  | item {items : List Tree} {t : Tree} (mem : t ∈ items) (h : HasNumber n t) :
      HasNumber n (.array items)
  | member {members : List (Option String × Tree)} {m : Option String × Tree} (mem : m ∈ members)
      (h : HasNumber n m.2) : HasNumber n (.object members)

theorem exists_of_ofItems? {ts : List Tree} {js : List Json} (h : ofItems? ts = some js) :
    ∀ j ∈ js, ∃ t ∈ ts, ofTree? t = some j := by
  induction ts generalizing js with
  | nil =>
      cases h
      exact fun j hj => absurd hj List.not_mem_nil
  | cons t rest ih =>
      rw [ofItems?] at h
      split at h
      · rename_i x xs hx hxs
        cases h
        refine List.forall_mem_cons.mpr ⟨⟨t, List.mem_cons_self, hx⟩, fun j hj => ?_⟩
        obtain ⟨u, hu, hread⟩ := ih hxs j hj
        exact ⟨u, List.mem_cons_of_mem _ hu, hread⟩
      · cases h

/-- A member is read from one with its name. -/
theorem exists_of_ofMembers? {ms : List (Option String × Tree)} {es : List (String × Json)}
    (h : ofMembers? ms = some es) :
    ∀ e ∈ es, ∃ m ∈ ms, m.1 = some e.1 ∧ ofTree? m.2 = some e.2 := by
  induction ms generalizing es with
  | nil =>
      cases h
      exact fun e he => absurd he List.not_mem_nil
  | cons m rest ih =>
      obtain ⟨name, t⟩ := m
      unfold ofMembers? at h
      split at h
      · rename_i name x xs hx hxs
        cases h
        refine List.forall_mem_cons.mpr ⟨⟨_, List.mem_cons_self, rfl, hx⟩, fun e he => ?_⟩
        obtain ⟨m, hm, hread⟩ := ih hxs e he
        exact ⟨m, List.mem_cons_of_mem _ hm, hread⟩
      · cases h

/-- A double was written in a tree, as a number that is no integer of 64 bits. -/
def Tree.HasSource (t : Tree) (x : Number.Double) : Prop :=
  ∃ n, t.HasNumber n ∧ ¬ n.IsWord ∧ ofNumeral? n = some (.double x)

theorem Tree.HasSource.item {items : List Tree} {t : Tree} {x : Number.Double} (mem : t ∈ items)
    (h : t.HasSource x) : (Tree.array items).HasSource x := by
  obtain ⟨n, hn, hsource⟩ := h
  exact ⟨n, .item mem hn, hsource⟩

theorem Tree.HasSource.member {members : List (Option String × Tree)} {m : Option String × Tree}
    {x : Number.Double} (mem : m ∈ members) (h : m.2.HasSource x) :
    (Tree.object members).HasSource x := by
  obtain ⟨n, hn, hsource⟩ := h
  exact ⟨n, .member mem hn, hsource⟩

/-- **A double of a value that was read was written in the text.** -/
theorem HasDouble.source {x : Number.Double} {j : Json} (hx : j.HasDouble x) {t : Tree}
    (h : ofTree? t = some j) : t.HasSource x := by
  induction hx generalizing t with
  | double =>
      cases t with
      | number n =>
          rcases ofNumeral?_cases (n := n) h with ⟨-, hi⟩ | ⟨hword, -⟩
          · cases hi
          · exact ⟨n, .number, hword, h⟩
      | _ => simp [ofTree?] at h
  | item mem hx ih =>
      cases t with
      | array ts =>
          rw [ofTree?] at h
          obtain ⟨js, hjs, hitems⟩ := Option.map_eq_some_iff.mp h
          cases hitems
          obtain ⟨t, ht, hread⟩ := exists_of_ofItems? hjs _ mem
          exact (ih hread).item ht
      | number n =>
          rcases ofNumeral?_cases (n := n) h with ⟨-, hi⟩ | ⟨-, y, hi⟩ <;> cases hi
      | _ => simp [ofTree?] at h
  | member mem hx ih =>
      cases t with
      | object ms =>
          rw [ofTree?] at h
          obtain ⟨es, hes, hmembers⟩ := Option.map_eq_some_iff.mp h
          cases hmembers
          obtain ⟨m, hm, -, hread⟩ := exists_of_ofMembers? hes _ (mem_dictionary mem)
          exact (ih hread).member hm
      | number n =>
          rcases ofNumeral?_cases (n := n) h with ⟨-, hi⟩ | ⟨-, y, hi⟩ <;> cases hi
      | _ => simp [ofTree?] at h

/-! ### Texts -/

mutual

/-- A value is written with strings that are texts. -/
theorem ofTexts_toTree : ∀ j : Json, j.toTree.OfTexts
  | .null => by rw [toTree]; exact .null
  | .bool b => by rw [toTree]; exact .bool b
  | .int i => by rw [toTree]; exact .number _
  | .double x => by rw [toTree]; exact .number _
  | .string s => by rw [toTree]; exact .text s
  | .array items => by rw [toTree]; exact .array (ofTexts_toTrees items)
  | .object members => by
      rw [toTree]
      exact .object (fun m hm => (ofTexts_toMembers members m hm).1)
        fun m hm => (ofTexts_toMembers members m hm).2

theorem ofTexts_toTrees : ∀ (js : List Json), ∀ t ∈ toTrees js, t.OfTexts
  | [] => by rw [toTrees]; exact fun _ h => absurd h List.not_mem_nil
  | j :: rest => by
      rw [toTrees]
      intro t ht
      rcases List.mem_cons.mp ht with rfl | hmem
      · exact ofTexts_toTree j
      · exact ofTexts_toTrees rest t hmem

theorem ofTexts_toMembers : ∀ (ms : List (String × Json)),
    ∀ m ∈ toMembers ms, m.1.isSome = true ∧ m.2.OfTexts
  | [] => by rw [toMembers]; exact fun _ h => absurd h List.not_mem_nil
  | (name, j) :: rest => by
      rw [toMembers]
      intro m hm
      rcases List.mem_cons.mp hm with rfl | hmem
      · exact ⟨rfl, ofTexts_toTree j⟩
      · exact ofTexts_toMembers rest m hmem

end

end Json

end ProjectViews
