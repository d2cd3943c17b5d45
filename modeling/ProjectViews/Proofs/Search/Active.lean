/-
What a search asks, and that nothing else can be read from it.

A filter is active when it has the text that its condition needs and the registry admits its
field.  Each active filter is one fragment of the search, in the order of the filters, and
the others are none; `fragments_eq` says so, for every registry.

A registry is readable when the names that the server filters by are plain and belong to
different fields.  Then a search can be read back, and so two lists of filters make the same
search only when they ask the same.  The base query of a view does not get in the way, since
it is the same text in front of both.
-/
import ProjectViews.Proofs.Search.Reading

namespace ProjectViews

/-- The name that the server filters by. -/
def Registry.filteringName (r : Registry) (f : Field) : String :=
  match r.get? f with
  | some d => d.filteringName
  | none => ""

/-- A filter without a text that its condition does not compare with. -/
def Filter.core (f : Filter) : Filter :=
  { f with value := if f.condition.requiresValue then f.value else none }

namespace Search

variable {r : Registry}

/-- Whether a filter asks anything of the server. -/
def isActive (r : Registry) (f : Filter) : Bool := !f.isInert && !r.isExcluded f.field

/-- What a list of filters asks of the server: its active filters, as far as that matters. -/
def active (r : Registry) (filters : List Filter) : List Filter :=
  (filters.filter (isActive r)).map Filter.core

/-- The fragment of an active filter. -/
def write (r : Registry) (f : Filter) : String :=
  ask f.condition (r.filteringName f.field) (quote (f.value.getD ""))

/-- What the fragment of an active filter says. -/
def termOf (r : Registry) (f : Filter) : Term := ⟨r.filteringName f.field, f.condition, f.value⟩

/-! ### Fragments are those of the active filters -/

/-- A condition that needs no text makes nothing of one. -/
theorem ask_of_not_requires {c : Condition} (h : c.requiresValue = false)
    (name given given' : String) : ask c name given = ask c name given' := by
  cases c <;> first | rfl | cases h

/-- A condition that needs a text is put with it. -/
theorem operand_of_requires {c : Condition} (h : c.requiresValue = true) (given : String) :
    c.operand given = some given := by
  cases c <;> first | rfl | cases h

/-- An active filter has the text that its condition needs. -/
theorem exists_value {f : Filter} (h : f.isInert = false) (needs : f.condition.requiresValue = true) :
    ∃ s, f.value = some s := by
  cases hvalue : f.value with
  | some s => exact ⟨s, rfl⟩
  | none => simp [Filter.isInert, needs, hvalue] at h

theorem write_core (r : Registry) (f : Filter) : write r f.core = write r f := by
  cases hneeds : f.condition.requiresValue with
  | true => rw [Filter.core, hneeds]; rfl
  | false => exact ask_of_not_requires hneeds _ _ _

/-- A filter that has the text it needs asks with that text in quotes. -/
theorem ask_given {f : Filter} (h : f.isInert = false) (name : String) :
    ask f.condition name (match f.value with
      | some s => quote s
      | none => "") = ask f.condition name (quote (f.value.getD "")) := by
  cases hneeds : f.condition.requiresValue with
  | true =>
      obtain ⟨s, hs⟩ := exists_value h hneeds
      rw [hs]
      rfl
  | false => exact ask_of_not_requires hneeds _ _ _

theorem fragment?_eq (r : Registry) (f : Filter) :
    fragment? r f = if isActive r f then some (write r f) else none := by
  unfold fragment? isActive write Registry.isExcluded Registry.filteringName
  cases r.get? f.field with
  | none => simp
  | some d =>
      cases hinert : f.isInert with
      | true => simp
      | false =>
          cases hexcluded : d.isExcluded with
          | true => simp [hexcluded]
          | false =>
              simp only [hexcluded, Bool.false_or, Bool.false_eq_true, if_false, Bool.not_false,
                Bool.and_self, if_true]
              exact congrArg some (ask_given hinert d.filteringName)

/-- **The fragments of a search are those of its active filters, in their order.** -/
theorem fragments_eq (r : Registry) (filters : List Filter) :
    fragments r filters = (active r filters).map (write r) := by
  induction filters with
  | nil => rfl
  | cons f rest ih =>
      unfold fragments active at ih ⊢
      rw [List.filterMap_cons, fragment?_eq]
      cases hactive : isActive r f with
      | true =>
          rw [if_pos rfl, List.filter_cons_of_pos hactive, List.map_cons, List.map_cons,
            write_core, ih]
      | false =>
          rw [if_neg Bool.false_ne_true,
            List.filter_cons_of_neg (Bool.eq_false_iff.mp hactive), ih]

theorem isExcluded_of_mem_active {filters : List Filter} :
    ∀ f ∈ active r filters, r.isExcluded f.field = false := by
  intro f hf
  obtain ⟨g, hg, rfl⟩ := List.mem_map.mp hf
  have hactive : isActive r g = true := (List.mem_filter.mp hg).2
  simp only [isActive, Bool.and_eq_true, Bool.not_eq_true'] at hactive
  exact hactive.2

/-! ### Readable registries -/

/-- A registry whose names can be read and told apart. -/
structure Readable (r : Registry) : Prop where
  plain : ∀ f, r.isExcluded f = false → Plain (r.filteringName f).toList
  distinct : ∀ f g, r.isExcluded f = false → r.isExcluded g = false →
    r.filteringName f = r.filteringName g → f = g

theorem readable_ownProjects : Readable .ownProjects where
  plain := by
    intro f
    cases f <;> decide
  distinct := by
    have hall : ∀ f ∈ Field.all, ∀ g ∈ Field.all,
        Registry.ownProjects.isExcluded f = false → Registry.ownProjects.isExcluded g = false →
        Registry.ownProjects.filteringName f = Registry.ownProjects.filteringName g → f = g := by
      decide
    exact fun f g => hall f (Field.mem_all f) g (Field.mem_all g)

namespace Readable

variable (h : Readable r)
include h

/-- The fragment of an active filter says what the filter asks. -/
theorem reads_write {f : Filter} (hf : isActive r f = true) :
    Reads (write r f.core) (termOf r f.core) := by
  obtain ⟨hinert, hadmitted⟩ : f.isInert = false ∧ r.isExcluded f.field = false := by
    simpa [isActive] using hf
  intro rest
  have hvalue : (if f.condition.requiresValue then f.condition.operand (f.value.getD "") else none)
      = f.core.value := by
    cases hneeds : f.condition.requiresValue with
    | true =>
        obtain ⟨s, hs⟩ := exists_value hinert hneeds
        rw [Filter.core, hneeds, hs]
        exact operand_of_requires hneeds s
    | false =>
        rw [Filter.core, hneeds]
        rfl
  rw [write_core, write, term?_ask (h.plain f.field hadmitted), hvalue]
  rfl

/-- The fragments of a search are read back as what the active filters ask. -/
theorem forall₂_reads (filters : List Filter) :
    List.Forall₂ Reads (fragments r filters) ((active r filters).map (termOf r)) := by
  rw [fragments_eq, active, List.map_map, List.map_map, List.forall₂_map_left_iff,
    List.forall₂_map_right_iff, List.forall₂_same]
  intro f hf
  exact h.reads_write (List.mem_filter.mp hf).2

/-- Filters of admitted fields that say the same are the same. -/
theorem map_termOf_inj {fs gs : List Filter} (hf : ∀ f ∈ fs, r.isExcluded f.field = false)
    (hg : ∀ g ∈ gs, r.isExcluded g.field = false) (same : fs.map (termOf r) = gs.map (termOf r)) :
    fs = gs := by
  induction fs generalizing gs with
  | nil =>
      cases gs with
      | nil => rfl
      | cons g gs => cases same
  | cons f fs ih =>
      cases gs with
      | nil => cases same
      | cons g gs =>
          rw [List.map_cons, List.map_cons, List.cons.injEq, termOf, termOf, Term.mk.injEq] at same
          obtain ⟨⟨hname, hcondition, hvalue⟩, hrest⟩ := same
          have hfield : f.field = g.field :=
            h.distinct _ _ (hf f List.mem_cons_self) (hg g List.mem_cons_self) hname
          have hhead : f = g := by
            cases f
            cases g
            simp_all
          rw [hhead, ih (fun f' hf' => hf f' (List.mem_cons_of_mem _ hf'))
            (fun g' hg' => hg g' (List.mem_cons_of_mem _ hg')) hrest]

end Readable

/-! ### Base queries -/

/-- What a search is made of, when something is asked beyond the base query. -/
def enclose (base asked : String) : String :=
  if base.isEmpty then asked else "(" ++ base ++ ") AND (" ++ asked ++ ")"

theorem query_eq (r : Registry) (base : String) (filters : List Filter) :
    query r base filters
      = if (Text.join " AND " (fragments r filters)).isEmpty then Text.trim base
        else enclose (Text.trim base) (Text.join " AND " (fragments r filters)) := rfl

/-- Something that is asked beyond the base query is seen. -/
theorem length_lt_enclose (base : String) {asked : String} (h : ¬ asked.isEmpty = true) :
    base.length < (enclose base asked).length := by
  unfold enclose
  split
  · rename_i hbase
    rw [String.isEmpty_iff.mp hbase]
    exact Nat.pos_of_ne_zero (mt String.length_eq_zero_iff.mp (mt String.isEmpty_iff.mpr h))
  · have hopen : "(".length = 1 := rfl
    simp only [String.length_append, hopen]
    omega

theorem enclose_inj {base asked asked' : String} (h : enclose base asked = enclose base asked') :
    asked = asked' := by
  unfold enclose at h
  split at h
  · exact h
  · exact (String.append_right_inj _).mp ((String.append_left_inj _).mp h)

/-- The same search with the same base query asks the same beyond it. -/
theorem join_eq_of_query_eq {base : String} {filters filters' : List Filter}
    (same : query r base filters = query r base filters') :
    Text.join " AND " (fragments r filters) = Text.join " AND " (fragments r filters') := by
  rw [query_eq, query_eq] at same
  generalize Text.join " AND " (fragments r filters) = asked at same ⊢
  generalize Text.join " AND " (fragments r filters') = asked' at same ⊢
  by_cases h : asked.isEmpty = true
  · by_cases h' : asked'.isEmpty = true
    · rw [String.isEmpty_iff.mp h, String.isEmpty_iff.mp h']
    · rw [if_pos h, if_neg h'] at same
      exact absurd (congrArg String.length same) (Nat.ne_of_lt (length_lt_enclose _ h'))
  · by_cases h' : asked'.isEmpty = true
    · rw [if_neg h, if_pos h'] at same
      exact absurd (congrArg String.length same.symm) (Nat.ne_of_lt (length_lt_enclose _ h))
    · rw [if_neg h, if_neg h'] at same
      exact enclose_inj same

/-! ### The rule of searches -/

/-- That a search says what the active filters ask, and nothing else. -/
structure SearchRule (r : Registry) : Prop where
  /-- The joined fragments are read back as what the active filters ask, in their order: the
  name the server filters by, the condition, and the text that it compares with. -/
  reads : ∀ filters, read? (Text.join " AND " (fragments r filters))
    = some ((active r filters).map (termOf r))
  /-- With any base query, two lists of filters make the same search just when their active
  filters agree, one by one, in field, condition and the text that it compares with. -/
  agrees : ∀ base filters filters', query r base filters = query r base filters' ↔
    active r filters = active r filters'

theorem Readable.rule (h : Readable r) : SearchRule r where
  reads := fun filters => read?_join (h.forall₂_reads filters)
  agrees := by
    intro base filters filters'
    constructor
    · intro same
      have hread := read?_join (h.forall₂_reads filters)
      rw [join_eq_of_query_eq same, read?_join (h.forall₂_reads filters')] at hread
      exact (h.map_termOf_inj isExcluded_of_mem_active isExcluded_of_mem_active
        (Option.some.inj hread)).symm
    · intro same
      rw [query, query, fragments_eq, fragments_eq, same]

/-- **No text that a filter compares with can get out of its quotes.** -/
theorem ownProjects_searchRule : SearchRule .ownProjects := readable_ownProjects.rule

end Search

end ProjectViews
