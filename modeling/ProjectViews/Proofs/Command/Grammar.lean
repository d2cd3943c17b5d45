/-
What phrases mean, and that a view takes whatever they mean.

A phrase for a filter is a field, a colon and a condition, and perhaps another colon and a
value, where only the value may hold colons.  A phrase for an order is a field, perhaps with a
minus sign in front of it.  Names are told apart by their letters alone, so that no phrase means
two things: `FilterPhrase` and `OrderPhrase` say what the phrases for one filter and for one
order are, and reading finds exactly these.

Reading asks the registry what a view asks it again, and a filter that lacks its text is not
read at all.  So a view over the same registry refuses nothing that was read, and each filter
that was read is one fragment of the search.
-/
import Mathlib.Data.List.TakeWhile
import ProjectViews.Command.Phrase
import ProjectViews.Proofs.Search.Active
import ProjectViews.Proofs.View.Intact

namespace ProjectViews

/-! ### Trimming -/

namespace Text

/-- A text is another one with blanks around it, which neither begins nor ends with one. -/
structure Surrounds (cs inner : List Char) : Prop where
  /-- Around it there are blanks only. -/
  around : ∃ front back, cs = front ++ inner ++ back ∧
    (∀ c ∈ front, isBlank c = true) ∧ ∀ c ∈ back, isBlank c = true
  /-- It begins with no blank. -/
  first : ∀ c, inner.head? = some c → isBlank c = false
  /-- It ends with no blank. -/
  last : ∀ c, inner.getLast? = some c → isBlank c = false

/-- What is left behind the blanks that a text starts with. -/
theorem trimLeft_eq_iff {cs rest : List Char} : trimLeft cs = rest ↔
    (∃ front, cs = front ++ rest ∧ ∀ c ∈ front, isBlank c = true) ∧
      ∀ c, rest.head? = some c → isBlank c = false := by
  constructor
  · rintro rfl
    refine ⟨⟨cs.takeWhile isBlank, List.takeWhile_append_dropWhile.symm,
      fun c hc => List.mem_takeWhile_imp hc⟩, fun c hc => ?_⟩
    have hhead := List.head?_dropWhile_not isBlank cs
    rw [trimLeft] at hc
    rw [hc] at hhead
    simpa using hhead
  · rintro ⟨⟨front, rfl, hfront⟩, hfirst⟩
    rw [trimLeft, List.dropWhile_append_of_pos hfront]
    cases rest with
    | nil => rfl
    | cons c rest =>
        rw [List.dropWhile_cons_of_neg]
        rw [hfirst c rfl]
        exact Bool.false_ne_true

theorem trimRight_eq_iff {cs rest : List Char} : trimRight cs = rest ↔
    (∃ back, cs = rest ++ back ∧ ∀ c ∈ back, isBlank c = true) ∧
      ∀ c, rest.getLast? = some c → isBlank c = false := by
  have hreverse : trimRight cs = rest ↔ trimLeft cs.reverse = rest.reverse := by
    rw [← List.reverse_inj, trimRight, List.reverse_reverse]
    rfl
  rw [hreverse, trimLeft_eq_iff, List.head?_reverse]
  refine and_congr_left fun _ => ?_
  constructor
  · rintro ⟨front, heq, hfront⟩
    refine ⟨front.reverse, ?_, fun c hc => hfront c (List.mem_reverse.mp hc)⟩
    rw [← List.reverse_inj, heq, List.reverse_append, List.reverse_reverse]
  · rintro ⟨back, rfl, hback⟩
    exact ⟨back.reverse, List.reverse_append, fun c hc => hback c (List.mem_reverse.mp hc)⟩

/-- **Trimming takes away the blanks around a text, and all of them.** -/
theorem trimChars_eq_iff {cs inner : List Char} : trimChars cs = inner ↔ Surrounds cs inner := by
  rw [trimChars, trimRight_eq_iff]
  constructor
  · rintro ⟨⟨back, hleft, hback⟩, hlast⟩
    obtain ⟨⟨front, hcs, hfront⟩, hfirst⟩ := trimLeft_eq_iff.mp hleft
    rw [← List.append_assoc] at hcs
    refine ⟨⟨front, back, hcs, hfront, hback⟩, fun c hc => hfirst c ?_, hlast⟩
    rw [List.head?_append, hc]
    rfl
  · rintro ⟨⟨front, back, rfl, hfront, hback⟩, hfirst, hlast⟩
    cases inner with
    | nil =>
        -- nothing but blanks
        have hall : trimLeft (front ++ [] ++ back) = [] := by
          rw [trimLeft, List.append_nil, List.dropWhile_append_of_pos hfront,
            List.dropWhile_eq_nil_iff]
          exact hback
        exact ⟨⟨[], hall, by simp⟩, hlast⟩
    | cons c inner =>
        refine ⟨⟨back, trimLeft_eq_iff.mpr ⟨⟨front, List.append_assoc _ _ _, hfront⟩, ?_⟩, hback⟩,
          hlast⟩
        exact fun d hd => hfirst d hd

end Text

namespace Phrase

/-! ### Names -/

/-- A text is a name with blanks around it, whatever the case of its letters. -/
def Names (typed name : String) : Prop :=
  ∃ inner, Text.Surrounds typed.toList inner ∧ Text.sameLetters name (String.ofList inner) = true

theorem names_iff {typed name : String} :
    Names typed name ↔ Text.sameLetters name (Text.trim typed) = true := by
  constructor
  · rintro ⟨inner, hinner, hsame⟩
    rw [Text.trim, Text.trimChars_eq_iff.mpr hinner]
    exact hsame
  · intro hsame
    exact ⟨Text.trimChars typed.toList, Text.trimChars_eq_iff.mp rfl, hsame⟩

/-- In a table of names that differ in their letters, a text names at most one entry. -/
theorem find?_eq_some_iff_names {α : Type} {all : List α} {text : α → String}
    (complete : ∀ a, a ∈ all)
    (distinct : ∀ a b, Text.sameLetters (text a) (text b) = true → a = b) {typed : String} {a : α} :
    all.find? (fun a => Text.sameLetters (text a) (Text.trim typed)) = some a ↔
      Names typed (text a) := by
  rw [names_iff]
  constructor
  · intro h
    exact List.find?_some (p := fun a => Text.sameLetters (text a) (Text.trim typed)) h
  · intro h
    cases hfind : all.find? (fun a => Text.sameLetters (text a) (Text.trim typed)) with
    | none => exact absurd h (List.find?_eq_none.mp hfind a (complete a))
    | some b =>
        have hb := List.find?_some hfind
        rw [Text.sameLetters, beq_iff_eq] at h hb
        rw [distinct b a (beq_iff_eq.mpr (hb.trans h.symm))]

theorem parse?_field_iff {typed : String} {f : Field} :
    Field.parse? typed = some f ↔ Names typed f.text := by
  refine find?_eq_some_iff_names Field.mem_all fun a b => ?_
  have hall : ∀ a ∈ Field.all, ∀ b ∈ Field.all,
      Text.sameLetters a.text b.text = true → a = b := by decide +kernel
  exact hall a (Field.mem_all a) b (Field.mem_all b)

theorem parse?_condition_iff {typed : String} {c : Condition} :
    Condition.parse? typed = some c ↔ Names typed c.text := by
  refine find?_eq_some_iff_names Condition.mem_all fun a b => ?_
  have hall : ∀ a ∈ Condition.all, ∀ b ∈ Condition.all,
      Text.sameLetters a.text b.text = true → a = b := by decide +kernel
  exact hall a (Condition.mem_all a) b (Condition.mem_all b)

theorem field_eq_ok_iff {typed : String} {f : Field} : field typed = .ok f ↔ Names typed f.text := by
  rw [← parse?_field_iff, field]
  cases Field.parse? typed with
  | none => simp
  | some g => simp

/-! ### Colons -/

/-- A part of a phrase that may be missing, with the colon in front of it. -/
def tail : Option String → String
  | none => ""
  | some s => ":" ++ s

/-- Every text is cut at its first colon in one way. -/
theorem exists_cut (typed : String) :
    ∃ (front : String) (rest : Option String), ':' ∉ front.toList ∧ typed = front ++ tail rest := by
  by_cases h : ':' ∈ typed.toList
  · obtain ⟨front, rest, hsplit, hfront⟩ := List.eq_append_cons_of_mem h
    refine ⟨String.ofList front, some (String.ofList rest), by simpa using hfront, ?_⟩
    apply String.toList_injective
    rw [hsplit]
    simp [tail]
  · exact ⟨typed, none, h, (String.append_empty).symm⟩

theorem cut?_eq_none {c : Char} {cs : List Char} (h : c ∉ cs) : Text.cut? [c] cs = none := by
  induction cs with
  | nil => rfl
  | cons d cs ih =>
      obtain ⟨hd, hcs⟩ := not_or.mp (mt List.mem_cons.mpr h)
      simp [Text.cut?, Text.after?, hd, ih hcs]

theorem atColon_append {front : String} (h : ':' ∉ front.toList) (rest : Option String) :
    atColon (front ++ tail rest) = (front, rest) := by
  cases rest with
  | none =>
      have hcut : Text.cutAt ":" (front ++ tail none) = none := by
        rw [tail, String.append_empty, Text.cutAt, Option.map_eq_none_iff]
        exact cut?_eq_none h
      rw [atColon, hcut, tail, String.append_empty]
  | some s =>
      have hcut : Text.cutAt ":" (front ++ tail (some s)) = some (front, s) := by
        have hlist : (front ++ tail (some s)).toList = front.toList ++ ':' :: s.toList := by
          simp [tail]
        rw [Text.cutAt, hlist]
        show (Text.cut? [':'] (front.toList ++ ':' :: s.toList)).map _ = _
        rw [Text.cut?_of_not_mem h]
        simp
      rw [atColon, hcut]

/-! ### Phrases for filters -/

/-- A phrase is one for a filter. -/
structure FilterPhrase (r : Registry) (typed : String) (f : Filter) : Prop where
  /-- It is a name of the field, a colon and a name of the condition, then another colon and the
  value if there is one. -/
  shape : ∃ field condition : String, ':' ∉ field.toList ∧ ':' ∉ condition.toList ∧
    typed = field ++ ":" ++ condition ++ tail f.value ∧
    Names field f.field.text ∧ Names condition f.condition.text
  /-- The registry knows the field and does not exclude it. -/
  admitted : r.Admits f.field
  /-- The value is there, and not empty, if the condition needs one. -/
  value : f.condition.requiresValue = true → ∃ s, f.value = some s ∧ s ≠ ""

/-- A filter is not inert when it has the text that its condition needs. -/
theorem isInert_eq_false_iff {f : Filter} : f.isInert = false ↔
    (f.condition.requiresValue = true → ∃ s, f.value = some s ∧ s ≠ "") := by
  unfold Filter.isInert
  cases f.condition.requiresValue with
  | false => simp
  | true =>
      cases f.value with
      | none => simp
      | some s => simp

/-- Behind the field there is a condition, and perhaps a value. -/
theorem condition_append_eq_ok_iff {g : Field} {name : String} (h : ':' ∉ name.toList)
    {value : Option String} {f : Filter} : condition g (name ++ tail value) = .ok f ↔
      f.field = g ∧ f.value = value ∧ Names name f.condition.text ∧ f.isInert = false := by
  unfold condition
  rw [atColon_append h]
  dsimp only
  cases hparse : Condition.parse? name with
  | none =>
      refine iff_of_false (by simp) ?_
      rintro ⟨-, -, hnames, -⟩
      rw [parse?_condition_iff.mpr hnames] at hparse
      cases hparse
  | some c =>
      dsimp only
      constructor
      · intro hok
        split at hok
        · cases hok
        · rename_i hinert
          cases hok
          exact ⟨rfl, rfl, parse?_condition_iff.mp hparse, by simpa using hinert⟩
      · rintro ⟨rfl, rfl, hnames, hinert⟩
        rw [parse?_condition_iff.mpr hnames] at hparse
        cases hparse
        rw [show (⟨f.field, f.condition, f.value⟩ : Filter) = f from rfl, hinert]
        rfl

/-- **Reading a phrase gives a filter just when it is a phrase for it.** -/
theorem filter_eq_ok_iff {r : Registry} {typed : String} {f : Filter} :
    filter r typed = .ok f ↔ FilterPhrase r typed f := by
  constructor
  · intro h
    obtain ⟨name, rest, hname, htyped⟩ := exists_cut typed
    rw [filter, htyped, atColon_append hname] at h
    dsimp only at h
    cases hfield : field name with
    | error problem =>
        rw [hfield] at h
        cases h
    | ok g =>
        rw [hfield] at h
        simp only [bind, Except.bind] at h
        split at h
        · cases h
        · rename_i hadmitted
          cases rest with
          | none => cases h
          | some rest =>
              obtain ⟨name', value, hname', hrest⟩ := exists_cut rest
              rw [hrest] at h
              obtain ⟨hg, hvalue, hnames, hinert⟩ := (condition_append_eq_ok_iff hname').mp h
              subst hg
              subst hvalue
              refine ⟨⟨name, name', hname, hname', ?_, field_eq_ok_iff.mp hfield, hnames⟩,
                Registry.admits_iff.mpr (by simpa using hadmitted), isInert_eq_false_iff.mp hinert⟩
              rw [htyped, hrest, tail]
              simp only [String.append_assoc]
  · rintro ⟨⟨name, name', hname, hname', htyped, hfield, hcondition⟩, hadmitted, hvalue⟩
    have hcut : typed = name ++ tail (some (name' ++ tail f.value)) := by
      rw [htyped, tail]
      simp only [String.append_assoc]
    rw [filter, hcut, atColon_append hname]
    simp only [field_eq_ok_iff.mpr hfield, bind, Except.bind, Registry.admits_iff.mp hadmitted,
      Bool.false_eq_true, if_false]
    exact (condition_append_eq_ok_iff hname').mpr
      ⟨rfl, rfl, hcondition, isInert_eq_false_iff.mpr hvalue⟩

/-! ### Phrases for orders -/

/-- A text is a name with the sign of a direction in front of it. -/
def Signed : Direction → (text name : String) → Prop
  | .ascending, text, name => text = name ∧ ∀ rest, text ≠ "-" ++ rest
  | .descending, text, name => text = "-" ++ name

/-- A phrase is one for an order. -/
structure OrderPhrase (r : Registry) (typed : String) (o : Order) : Prop where
  /-- Between blanks it is a name of the field with the sign of the direction. -/
  shape : ∃ inner name, Text.Surrounds typed.toList inner ∧
    Signed o.direction (String.ofList inner) name ∧ Names name o.field.text
  /-- The field can be ordered by. -/
  orderable : r.isOrderable o.field = true

theorem afterStart?_eq_some_iff {lead s rest : String} :
    Text.afterStart? lead s = some rest ↔ s = lead ++ rest := by
  rw [Text.afterStart?, Option.map_eq_some_iff]
  constructor
  · rintro ⟨cs, hcs, rfl⟩
    apply String.toList_injective
    rw [Text.after?_eq_some_iff.mp hcs]
    simp
  · rintro rfl
    exact ⟨rest.toList, Text.after?_eq_some_iff.mpr (by simp), by simp⟩

/-- Every text has the sign of one direction. -/
theorem exists_signed (text : String) : ∃ d name, Signed d text name := by
  cases h : Text.afterStart? "-" text with
  | some rest => exact ⟨.descending, rest, afterStart?_eq_some_iff.mp h⟩
  | none =>
      refine ⟨.ascending, text, rfl, fun rest hrest => ?_⟩
      rw [afterStart?_eq_some_iff.mpr hrest] at h
      cases h

theorem order_eq_of_signed {r : Registry} {typed name : String} {d : Direction}
    (h : Signed d (Text.trim typed) name) : order r typed =
      (field name).bind fun f =>
        if r.isOrderable f then .ok ⟨f, d⟩ else .error (.unorderableField f) := by
  cases d with
  | ascending =>
      obtain ⟨htext, hnot⟩ := h
      have hnone : Text.afterStart? "-" (Text.trim typed) = none := by
        rw [Option.eq_none_iff_forall_ne_some]
        exact fun rest hrest => hnot rest (afterStart?_eq_some_iff.mp hrest)
      simp only [order, hnone, ← htext]
      rfl
  | descending =>
      simp only [order, afterStart?_eq_some_iff.mpr h]
      rfl

/-- **Reading a phrase gives an order just when it is a phrase for it.** -/
theorem order_eq_ok_iff {r : Registry} {typed : String} {o : Order} :
    order r typed = .ok o ↔ OrderPhrase r typed o := by
  constructor
  · intro h
    obtain ⟨d, name, hsigned⟩ := exists_signed (Text.trim typed)
    rw [order_eq_of_signed hsigned] at h
    cases hfield : field name with
    | error problem =>
        rw [hfield] at h
        cases h
    | ok g =>
        rw [hfield, Except.bind] at h
        split at h
        · rename_i horderable
          cases h
          exact ⟨⟨_, name, Text.trimChars_eq_iff.mp rfl, hsigned, field_eq_ok_iff.mp hfield⟩,
            horderable⟩
        · cases h
  · rintro ⟨⟨inner, name, hinner, hsigned, hnames⟩, horderable⟩
    rw [← Text.trimChars_eq_iff.mpr hinner] at hsigned
    rw [order_eq_of_signed hsigned, field_eq_ok_iff.mpr hnames, Except.bind, if_pos horderable]

/-! ### Writing phrases -/

/-- A filter as it can be typed. -/
def write (f : Filter) : String := f.field.text ++ ":" ++ f.condition.text ++ tail f.value

/-- The name of a field names it, and holds no colon. -/
theorem names_field_text (f : Field) : Names f.text f.text ∧ ':' ∉ f.text.toList := by
  have hall : ∀ f ∈ Field.all, Text.sameLetters f.text (Text.trim f.text) = true ∧
      ':' ∉ f.text.toList := by decide +kernel
  obtain ⟨hsame, hcolon⟩ := hall f (Field.mem_all f)
  exact ⟨names_iff.mpr hsame, hcolon⟩

theorem names_condition_text (c : Condition) : Names c.text c.text ∧ ':' ∉ c.text.toList := by
  have hall : ∀ c ∈ Condition.all, Text.sameLetters c.text (Text.trim c.text) = true ∧
      ':' ∉ c.text.toList := by decide +kernel
  obtain ⟨hsame, hcolon⟩ := hall c (Condition.mem_all c)
  exact ⟨names_iff.mpr hsame, hcolon⟩

/-- **What is written is read back, whatever the value holds.** -/
theorem filter_write {r : Registry} {f : Filter} (admitted : r.Admits f.field)
    (complete : f.isInert = false) : filter r (write f) = .ok f := by
  obtain ⟨hfield, hfieldColon⟩ := names_field_text f.field
  obtain ⟨hcondition, hconditionColon⟩ := names_condition_text f.condition
  exact filter_eq_ok_iff.mpr ⟨⟨f.field.text, f.condition.text, hfieldColon, hconditionColon, rfl,
    hfield, hcondition⟩, admitted, isInert_eq_false_iff.mp complete⟩

/-! ### Asking for what was read -/

theorem isActive_of_filter {r : Registry} {typed : String} {f : Filter}
    (h : filter r typed = .ok f) : Search.isActive r f = true := by
  obtain ⟨-, admitted, value⟩ := filter_eq_ok_iff.mp h
  rw [Search.isActive, isInert_eq_false_iff.mpr value, Registry.admits_iff.mp admitted]
  rfl

/-- Every filter that was read is one fragment. -/
theorem fragments_of_read {r : Registry} {filters : List Filter}
    (h : ∀ f ∈ filters, ∃ typed, filter r typed = .ok f) :
    Search.fragments r filters = filters.map (Search.write r) := by
  have hfragment : ∀ f ∈ filters, Search.fragment? r f = some (Search.write r f) := by
    intro f hf
    obtain ⟨typed, hread⟩ := h f hf
    rw [Search.fragment?_eq, if_pos (isActive_of_filter hread)]
  rw [Search.fragments, List.filterMap_congr hfragment, List.filterMap_eq_map']

end Phrase

/-! ### A view takes what was read -/

namespace Operation

variable {r : Registry} {s : ViewState} {uid : String}

/-- A view that is set up takes filters on fields that are admitted. -/
theorem commit_setFilters {filters : List Filter} (admitted : ∀ f ∈ filters, r.Admits f.field)
    (huid : s.uid = some uid) : (setFilters filters).commit r s =
      .reset { s with filters := filters } fun g q => .save uid (.fetch g q) := by
  have hnone : filters.find? (fun f => r.isExcluded f.field) = none := by
    rw [List.find?_eq_none]
    intro f hf
    rw [Registry.admits_iff.mp (admitted f hf)]
    exact Bool.false_ne_true
  rw [commit, hnone, huid]

/-- A view that is set up takes an order by a field that can be ordered by. -/
theorem commit_setOrder {order : Order} (orderable : r.isOrderable order.field = true)
    (huid : s.uid = some uid) : (setOrder order).commit r s =
      .reset { s with order := some order } fun g q => .save uid (.fetch g q) := by
  rw [commit, if_pos orderable, huid]

end Operation

/-- An operation that is not forbidden when it commits is never refused. -/
theorem Store.not_refused_of_allowed {s : Store} {task : Nat} {op : Operation}
    (free : s.stage? task = none) (allowed : ¬ op.Forbidden s.registry s.state)
    {later : List Move} (hlater : ∀ op, .enter task op ∉ later) (v : Violation) :
    .finished task (.refused v) ∉ (s.play (.enter task op :: later)).2 := by
  rw [play_cons, List.mem_append, not_or]
  refine ⟨List.not_mem_nil, not_refused_of_run hlater ?_ v⟩
  intro events w hstage
  cases op.verdict s.registry s.state with
  | refused forbidden => exact allowed forbidden
  | granted _ next =>
      rw [step, enter, free, stage?_put_self] at hstage
      injection hstage with hstage
      injection hstage with _ hnext
      exact next w hnext

/-! ### The rule of phrases -/

/-- A store has taken an operation on its view, and it is not refused whatever happens later. -/
structure Taken (s : Store) (task : Nat) (op : Operation) : Prop where
  /-- The view asks anew. -/
  renewed : (s.enter task op).state.generation = s.state.generation + 1
  /-- The operation returns no violation. -/
  granted : ∀ later, (∀ op, .enter task op ∉ later) → ∀ v,
    .finished task (.refused v) ∉ (s.play (.enter task op :: later)).2

theorem Store.taken_of_allowed {s : Store} {task : Nat} {op : Operation}
    (free : s.stage? task = none) (allowed : ¬ op.Forbidden s.registry s.state)
    (renews : op.renews = true) : Taken s task op where
  renewed := by
    cases op.verdict s.registry s.state with
    | refused forbidden => exact absurd forbidden allowed
    | granted _ _ generation =>
        rw [if_pos renews] at generation
        rw [enter, free]
        exact generation
  granted := fun _ hlater => not_refused_of_allowed free allowed hlater

/-- What holds of the phrases over a registry. -/
structure PhraseRule (r : Registry) : Prop where
  /-- Reading gives a filter just for the phrases that are one for it. -/
  filters : ∀ typed f, Phrase.filter r typed = .ok f ↔ Phrase.FilterPhrase r typed f
  /-- Reading gives an order just for the phrases that are one for it. -/
  orders : ∀ typed o, Phrase.order r typed = .ok o ↔ Phrase.OrderPhrase r typed o
  /-- A filter on an admitted field that has the text it needs is read back as it is written. -/
  written : ∀ f, r.Admits f.field →
    (f.condition.requiresValue = true → ∃ s, f.value = some s ∧ s ≠ "") →
    Phrase.filter r (Phrase.write f) = .ok f
  /-- A store whose view is set up takes all filters that were read, and shows them. -/
  filtersTaken : ∀ s : Store, s.registry = r → s.state.uid ≠ none → ∀ filters,
    (∀ f ∈ filters, ∃ typed, Phrase.filter r typed = .ok f) → ∀ task, s.stage? task = none →
    (s.enter task (.setFilters filters)).state.filters = filters ∧
      Taken s task (.setFilters filters)
  /-- It takes every order that was read, and shows it. -/
  orderTaken : ∀ s : Store, s.registry = r → s.state.uid ≠ none → ∀ typed order,
    Phrase.order r typed = .ok order → ∀ task, s.stage? task = none →
    (s.enter task (.setOrder order)).state.order = some order ∧ Taken s task (.setOrder order)
  /-- Filters that were read are one fragment of the search each, in their order. -/
  fragments : ∀ filters, (∀ f ∈ filters, ∃ typed, Phrase.filter r typed = .ok f) →
    Search.fragments r filters = filters.map (Search.write r)

/-- **Phrases mean what their grammar says, and a view takes whatever they mean.** -/
theorem phraseRule (r : Registry) : PhraseRule r where
  filters := fun _ _ => Phrase.filter_eq_ok_iff
  orders := fun _ _ => Phrase.order_eq_ok_iff
  written := fun _ admitted value =>
    Phrase.filter_write admitted (Phrase.isInert_eq_false_iff.mpr value)
  filtersTaken := by
    rintro s rfl hset filters hread task free
    obtain ⟨uid, huid⟩ := Option.ne_none_iff_exists'.mp hset
    have hadmitted : ∀ f ∈ filters, s.registry.Admits f.field := by
      intro f hf
      obtain ⟨typed, htyped⟩ := hread f hf
      exact (Phrase.filter_eq_ok_iff.mp htyped).admitted
    refine ⟨?_, Store.taken_of_allowed free ?_ rfl⟩
    · rw [Store.enter, free, Operation.commit_setFilters hadmitted huid]
      rfl
    · rintro (⟨f, hf, hnot⟩ | hnone)
      · exact hnot (hadmitted f hf)
      · exact hset hnone
  orderTaken := by
    rintro s rfl hset typed order hread task free
    obtain ⟨uid, huid⟩ := Option.ne_none_iff_exists'.mp hset
    have horderable := (Phrase.order_eq_ok_iff.mp hread).orderable
    refine ⟨?_, Store.taken_of_allowed free ?_ rfl⟩
    · rw [Store.enter, free, Operation.commit_setOrder horderable huid]
      rfl
    · rintro (hnot | hnone)
      · rw [horderable] at hnot
        cases hnot
      · exact hset hnone
  fragments := fun _ => Phrase.fragments_of_read

-- blanks and case do not matter for the names, and everything counts in the value
example : Phrase.filter .ownProjects " NAME :StartsWith: a:\"b\" "
    = .ok ⟨.name, .startsWith, some " a:\"b\" "⟩ := by
  decide +kernel

end ProjectViews
