/-
Ways to write values as JSON and to read them.

Reading forgives what writing never does: fields that are left out, records written as arrays,
objects with members in any order, numbers and times in more than one spelling.  So a text that
is read is not the text that is written, and what can be asked is that it comes to rest: a value
once read is written as a text that is read as the same value.  `Codec.Stable` says this of the
trees.  It is shown for the parts that records are made of, and for a record it follows from its
parts.
-/
import ProjectViews.Proofs.Json.Free
import ProjectViews.Proofs.Json.Settings
import ProjectViews.Project.Row

namespace ProjectViews

namespace Json

/-- A way to read values from JSON and to write them. -/
structure Codec (α : Type) where
  read : Tree → Option α
  write : α → Tree

namespace Codec

variable {α : Type}

/-- The value of a JSON text. -/
def decode? (c : Codec α) (text : String) : Option α := (Tree.parse text).bind c.read

/-- A value as JSON text. -/
def encode (c : Codec α) (v : α) : String := (c.write v).print

/-- What was read is written and read again as the same value exactly if the doubles that it holds
are kept, and these were written in the text. -/
structure Stable (c : Codec α) (holds : α → Number.Double → Prop) : Prop where
  reread : ∀ {t : Tree} {v : α}, c.read t = some v →
    (c.read (c.write v) = some v ↔ ∀ x, holds v x → x.Kept)
  source : ∀ {t : Tree} {v : α} {x : Number.Double}, c.read t = some v → holds v x → t.HasSource x
  ofTexts : ∀ v, (c.write v).OfTexts

/-- Values that hold no doubles are always read back. -/
theorem Stable.of_reread {c : Codec α}
    (reread : ∀ {t : Tree} {v : α}, c.read t = some v → c.read (c.write v) = some v)
    (ofTexts : ∀ v, (c.write v).OfTexts) : c.Stable fun _ _ => False where
  reread h := iff_of_true (reread h) fun _ => False.elim
  source _ := False.elim
  ofTexts := ofTexts

theorem Stable.congr {c : Codec α} {holds holds' : α → Number.Double → Prop} (h : c.Stable holds)
    (same : ∀ v x, holds v x ↔ holds' v x) : c.Stable holds' where
  reread hread := (h.reread hread).trans (forall_congr' fun x => imp_congr_left (same _ x))
  source hread hx := h.source hread ((same _ _).mpr hx)
  ofTexts := h.ofTexts

/-- **What was decoded is encoded and decoded again as the same value exactly if its doubles are
kept.** -/
theorem Stable.decode?_encode_iff {c : Codec α} {holds : α → Number.Double → Prop}
    (h : c.Stable holds) {text : String} {v : α} (decoded : c.decode? text = some v) :
    c.decode? (c.encode v) = some v ↔ ∀ x, holds v x → x.Kept := by
  obtain ⟨t, -, hread⟩ := Option.bind_eq_some_iff.mp decoded
  rw [← h.reread hread, decode?, encode, Tree.parse_print (h.ofTexts v)]
  rfl

end Codec

/-! ### Words and strings -/

@[simp] theorem word?_ofWord (n : UInt64) : word? (ofWord n) = some n := by
  have hlt : n.toNat < UInt64.size := n.toNat_lt
  have hword : word? (ofWord n)
      = if n.toNat < UInt64.size then some (UInt64.ofNat n.toNat) else none := by
    simp [word?, ofWord, Tree.nat, Numeral.ofInt, Numeral.isWhole]
  rw [hword, if_pos hlt, UInt64.ofNat_toNat]

/-- A text that may be missing is read back from null or from itself. -/
theorem optional_orNull_text (s : Option String) :
    optional string? (some (.orNull (s.map .text))) = some s := by
  cases s <;> rfl

/-! ### Dictionaries of strings -/

theorem mapM_named? (d : List (String × String)) :
    (d.map fun e => ((some e.1 : Option String), Tree.text e.2)).mapM (named? string?)
      = some d := by
  induction d with
  | nil => rfl
  | cons e rest ih =>
      rw [List.map_cons, List.mapM_cons, ih]
      rfl

/-- A sorted dictionary is read back. -/
theorem strings?_ofStrings {d : List (String × String)} (h : Sorted d) :
    strings? (ofStrings d) = some d := by
  have hrecord : ofStrings d
      = .object (d.map fun e => ((some e.1 : Option String), Tree.text e.2)) := by
    rw [ofStrings, Tree.record, List.map_map]
    rfl
  rw [hrecord, strings?, mapM_named?, Option.map_some, h.dictionary_eq]

/-- What was read is a sorted dictionary. -/
theorem sorted_of_strings? {t : Tree} {d : List (String × String)} (h : strings? t = some d) :
    Sorted d := by
  unfold strings? at h
  split at h
  · obtain ⟨members, -, rfl⟩ := Option.map_eq_some_iff.mp h
    exact sorted_dictionary members
  · cases h

theorem ofTexts_ofStrings (d : List (String × String)) : (ofStrings d).OfTexts :=
  .record (List.forall_mem_map.mpr fun e _ => .text e.2)

/-! ### Lists -/

section List

variable {α : Type} {read : Tree → Option α} {write : α → Tree}

/-- What was read as a list was read item by item. -/
theorem exists_of_list? {t : Tree} {xs : List α} (h : list? read t = some xs) :
    ∃ items, t = .array items ∧ ∀ x ∈ xs, ∃ item ∈ items, read item = some x := by
  unfold list? at h
  split at h
  · rename_i items
    refine ⟨items, rfl, ?_⟩
    induction items generalizing xs with
    | nil =>
        cases h
        exact fun x hx => absurd hx List.not_mem_nil
    | cons item rest ih =>
        rw [List.mapM_cons] at h
        obtain ⟨x, hx, h⟩ := Option.bind_eq_some_iff.mp h
        obtain ⟨xs, hxs, h⟩ := Option.bind_eq_some_iff.mp h
        cases h
        refine List.forall_mem_cons.mpr ⟨⟨item, List.mem_cons_self, hx⟩, fun y hy => ?_⟩
        obtain ⟨item, hitem, hread⟩ := ih hxs y hy
        exact ⟨item, List.mem_cons_of_mem _ hitem, hread⟩
  · cases h

end List

/-- Lists are stable if their items are. -/
theorem Codec.Stable.list {α : Type} {c : Codec α} {holds : α → Number.Double → Prop}
    (h : c.Stable holds) : Codec.Stable ⟨list? c.read, fun xs => .array (xs.map c.write)⟩
      fun xs x => ∃ v ∈ xs, holds v x where
  reread {t xs} hread := by
    obtain ⟨items, -, hitems⟩ := exists_of_list? hread
    have hiff : ∀ v ∈ xs, (c.read (c.write v) = some v ↔ ∀ x, holds v x → x.Kept) := by
      intro v hv
      obtain ⟨item, -, hitem⟩ := hitems v hv
      exact h.reread hitem
    dsimp only
    rw [list?_map_iff]
    constructor
    · rintro hreread x ⟨v, hv, hx⟩
      exact (hiff v hv).mp (hreread v hv) x hx
    · exact fun hkept v hv => (hiff v hv).mpr fun x hx => hkept x ⟨v, hv, hx⟩
  source {t xs x} hread := by
    rintro ⟨v, hv, hx⟩
    obtain ⟨items, rfl, hitems⟩ := exists_of_list? hread
    obtain ⟨item, hmem, hitem⟩ := hitems v hv
    exact (h.source hitem hx).item hmem
  ofTexts xs := .array_map xs h.ofTexts

/-! ### Fields -/

section Fields

variable {α : Type} {read : Tree → Option α} {x : Option Tree}

theorem exists_of_required {a : α} (h : required read x = some a) :
    ∃ t, x = some t ∧ read t = some a := by
  cases x with
  | none => cases h
  | some t => exact ⟨t, rfl, h⟩

theorem exists_of_orElse {default a : α} (h : orElse default read x = some a) :
    a = default ∨ ∃ t, read t = some a := by
  cases x with
  | none => exact Or.inl (Option.some.inj h).symm
  | some t => exact Or.inr ⟨t, h⟩

theorem exists_of_optional {a : α} (h : optional read x = some (some a)) :
    ∃ t, read t = some a := by
  unfold optional at h
  split at h
  · cases h
  · rename_i t _
    obtain ⟨b, hb, hab⟩ := Option.map_eq_some_iff.mp h
    cases hab
    exact ⟨t, hb⟩
  · cases h

/-- The value of a field is part of the record. -/
theorem Tree.HasSource.field {names : List String} {t u : Tree} {f : Fields} {name : String}
    {x : Number.Double} (fields : fields? names t = some f) (found : f name = some u)
    (h : u.HasSource x) : t.HasSource x := by
  have hmem : ∀ {members}, fieldsOf members name = some u → ∃ m ∈ members, m.2 = u := by
    intro members hfield
    obtain ⟨m, hm, rfl⟩ := Option.map_eq_some_iff.mp hfield
    exact ⟨m, List.mem_of_find?_eq_some hm, rfl⟩
  cases t with
  | object members =>
      rw [fields?, Option.ite_none_right_eq_some] at fields
      obtain ⟨-, hf⟩ := fields
      cases hf
      obtain ⟨m, hm, rfl⟩ := hmem found
      exact h.member hm
  | array items =>
      rw [fields?, Option.ite_none_right_eq_some] at fields
      obtain ⟨-, hf⟩ := fields
      cases hf
      obtain ⟨m, hm, rfl⟩ := hmem found
      exact h.item (List.of_mem_zip hm).2
  | _ => cases fields

end Fields

end Json

/-! ### Rows -/

namespace Row

/-- No value of a row has the name of its fixed part. -/
def KeptApart (values : List (String × Json)) : Prop :=
  ∀ e ∈ values, e.1 ≠ "uid" ∧ e.1 ≠ "name"

theorem mem_toMembers {values : List (String × Json)} {m : Option String × Json.Tree}
    (h : m ∈ Json.toMembers values) : ∃ e ∈ values, m.1 = some e.1 := by
  induction values with
  | nil =>
      rw [Json.toMembers] at h
      exact absurd h List.not_mem_nil
  | cons e rest ih =>
      rw [Json.toMembers] at h
      rcases List.mem_cons.mp h with rfl | hmem
      · exact ⟨e, List.mem_cons_self, rfl⟩
      · obtain ⟨e, he, hname⟩ := ih hmem
        exact ⟨e, List.mem_cons_of_mem _ he, hname⟩

/-- The fixed part of a row and its values are told apart when it is read back. -/
theorem ofTree?_toTree_iff {levels : Nat} {r : Row} (apart : KeptApart r.values) :
    ofTree? levels r.toTree = some r ↔
      Json.read? levels (.object (Json.toMembers r.values)) = some (.object r.values) := by
  have hnames : ∀ m ∈ Json.toMembers r.values, m.1.isSome = true ∧
      m.1 ≠ some "uid" ∧ m.1 ≠ some "name" := by
    intro m hm
    obtain ⟨e, he, hname⟩ := mem_toMembers hm
    rw [hname]
    exact ⟨rfl, fun h => (apart e he).1 (Option.some.inj h),
      fun h => (apart e he).2 (Option.some.inj h)⟩
  have hextra : extraMembers ((some "uid", .text r.uid) :: (some "name", .text r.name)
      :: Json.toMembers r.values) = Json.toMembers r.values := by
    show (Json.toMembers r.values).filter _ = _
    refine List.filter_eq_self.mpr fun m hm => ?_
    simp [hnames m hm]
  have hunambiguous : Json.unambiguous ["uid", "name"] ((some "uid", .text r.uid)
      :: (some "name", .text r.name) :: Json.toMembers r.values) = true := by
    have huid : (Json.toMembers r.values).filter (fun m => m.1 == some "uid") = [] :=
      List.filter_eq_nil_iff.mpr fun m hm => by simp [(hnames m hm).2.1]
    have hname : (Json.toMembers r.values).filter (fun m => m.1 == some "name") = [] :=
      List.filter_eq_nil_iff.mpr fun m hm => by simp [(hnames m hm).2.2]
    have hall : (Json.toMembers r.values).all (·.1.isSome) = true :=
      List.all_eq_true.mpr fun m hm => (hnames m hm).1
    simp [Json.unambiguous, huid, hname, hall]
  rw [toTree, ofTree?, if_pos hunambiguous, hextra]
  constructor
  · intro h
    split at h
    · rename_i uid name values _ _ hvalues
      cases h
      exact hvalues
    · cases h
  · intro h
    rw [h]
    rfl

/-- A double stands somewhere in the values of a row. -/
def HasDouble (r : Row) (x : Number.Double) : Prop := ∃ e ∈ r.values, e.2.HasDouble x

theorem hasDouble_iff {r : Row} {x : Number.Double} :
    r.HasDouble x ↔ (Json.object r.values).HasDouble x := by
  constructor
  · rintro ⟨e, he, hx⟩
    exact .member he hx
  · intro h
    cases h with
    | member he hx => exact ⟨_, he, hx⟩

/-- What was read as a row has a uid, a name and values. -/
theorem exists_of_ofTree? {levels : Nat} {t : Json.Tree} {r : Row} (h : ofTree? levels t = some r) :
    ∃ members, t = .object members ∧
      Json.read? levels (.object (extraMembers members)) = some (.object r.values) := by
  unfold ofTree? at h
  split at h
  · rename_i members
    split at h
    · split at h
      · rename_i hvalues
        cases h
        exact ⟨members, rfl, hvalues⟩
      · cases h
    · cases h
  · cases h

/-- The values of a row that was read are kept apart from its fixed part. -/
theorem keptApart_of_ofTree? {members : List (Option String × Json.Tree)}
    {values : List (String × Json)}
    (h : Json.ofTree? (.object (extraMembers members)) = some (.object values)) :
    KeptApart values := by
  rw [Json.ofTree?] at h
  obtain ⟨es, hes, hvalues⟩ := Option.map_eq_some_iff.mp h
  cases hvalues
  intro e he
  obtain ⟨m, hm, hname, -⟩ := Json.exists_of_ofMembers? hes e (Json.mem_dictionary he)
  have hextra := (List.mem_filter.mp hm).2
  rw [hname] at hextra
  simpa using hextra

/-- How rows are read and written. -/
def codec (levels : Nat) : Json.Codec Row := ⟨ofTree? levels, toTree⟩

/-- Rows are stable, however deeply they may be nested. -/
theorem codec_stable (levels : Nat) : (codec levels).Stable HasDouble where
  reread {t r} h := by
    obtain ⟨members, -, hvalues⟩ := exists_of_ofTree? h
    rw [Json.read?, Option.ite_none_right_eq_some] at hvalues
    obtain ⟨hlevels, hvalues⟩ := hvalues
    have hsettled := Json.settled_of_ofTree? hvalues
    have hnesting := hsettled.nesting.trans hlevels
    have hreread := hsettled.normal.reread_iff
    rw [Json.toTree] at hnesting hreread
    show ofTree? levels r.toTree = some r ↔ _
    rw [ofTree?_toTree_iff (keptApart_of_ofTree? hvalues), Json.read?, if_pos hnesting, hreread]
    exact forall_congr' fun x => imp_congr_left hasDouble_iff.symm
  source {t r x} h hx := by
    obtain ⟨members, rfl, hvalues⟩ := exists_of_ofTree? h
    rw [Json.read?, Option.ite_none_right_eq_some] at hvalues
    obtain ⟨n, hn, hsource⟩ := (hasDouble_iff.mp hx).source hvalues.2
    cases hn with
    | member hm hn => exact ⟨n, .member (List.mem_filter.mp hm).1 hn, hsource⟩
  ofTexts r := by
    refine .object (fun m hm => ?_) fun m hm => ?_
    · rcases List.mem_cons.mp hm with rfl | hm
      · rfl
      · rcases List.mem_cons.mp hm with rfl | hm
        · rfl
        · exact (Json.ofTexts_toMembers r.values m hm).1
    · rcases List.mem_cons.mp hm with rfl | hm
      · exact .text r.uid
      · rcases List.mem_cons.mp hm with rfl | hm
        · exact .text r.name
        · exact (Json.ofTexts_toMembers r.values m hm).2

end Row

end ProjectViews
