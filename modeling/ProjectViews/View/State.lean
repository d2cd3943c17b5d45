/-
The state of a view: its filters, its order, its visible fields and the rows that
have been loaded so far.

Rows belong to a generation.  A new generation begins whenever the question to the
server changes or is asked again: the rows and the cursor of the old one are dropped,
and what the server still answers to the old one is of no interest.  Within a
generation pages are appended, and a uid that was seen once in the generation is not
taken again, even if its row has been deleted since.
-/
import ProjectViews.Project.Failure
import ProjectViews.Project.Registry
import ProjectViews.Project.Row
import ProjectViews.View.Settings

namespace ProjectViews

/-- A request for one page of projects. -/
structure Query where
  baseQuery : String
  filters : List Filter
  order : Option Order
  /-- Without a cursor the first page is meant. -/
  cursor : Option Cursor
deriving DecidableEq, Repr, Inhabited

/-- One page of projects, and the cursor of the page after it, if there is one. -/
structure RowPage where
  rows : List Row
  next : Option Cursor
deriving Repr, Inhabited

/-- What a view tells those who watch it. -/
inductive Event where
  | stateChanged (generation : Nat)
  | rowsReset (generation : Nat)
  | firstLoadComplete (generation : Nat)
  | error (message : String)
deriving DecidableEq, Repr, Inhabited

/-- What a view shows at one moment. -/
structure Snapshot where
  viewUid : Option String
  generation : Nat
  visibleFields : List Field
  filters : List Filter
  order : Option Order
  rows : List Row
  cursor : Option Cursor
  isLoading : Bool
  isFirstLoadComplete : Bool
deriving Repr, Inhabited

namespace Snapshot

/-- Whether there is a further page to load. -/
def hasMorePages (s : Snapshot) : Bool := s.cursor.isSome

/-- The row of a project, when it is loaded. -/
def row? (s : Snapshot) (uid : String) : Option Row := s.rows.find? fun r => r.uid == uid

end Snapshot

/-- The elements of a list without repetitions, each at its first place. -/
def firsts {α : Type} [DecidableEq α] (xs : List α) : List α :=
  xs.foldl (fun found x => if x ∈ found then found else found ++ [x]) []

/-- Adding the new ones of some elements one by one keeps those found so far. -/
theorem mem_foldl_firsts {α : Type} [DecidableEq α] (xs : List α) (found : List α) (x : α) :
    x ∈ xs.foldl (fun found x => if x ∈ found then found else found ++ [x]) found ↔
      x ∈ found ∨ x ∈ xs := by
  induction xs generalizing found with
  | nil => simp
  | cons y rest ih =>
      rw [List.foldl_cons, ih]
      by_cases hy : y ∈ found
      · rw [if_pos hy, List.mem_cons]
        constructor
        · exact fun h => h.imp_right Or.inr
        · rintro (h | rfl | h)
          · exact Or.inl h
          · exact Or.inl hy
          · exact Or.inr h
      · rw [if_neg hy, List.mem_append, List.mem_singleton, List.mem_cons, or_assoc]

theorem nodup_foldl_firsts {α : Type} [DecidableEq α] (xs : List α) {found : List α}
    (h : found.Nodup) :
    (xs.foldl (fun found x => if x ∈ found then found else found ++ [x]) found).Nodup := by
  induction xs generalizing found with
  | nil => exact h
  | cons x rest ih =>
      rw [List.foldl_cons]
      by_cases hx : x ∈ found
      · rw [if_pos hx]
        exact ih h
      · rw [if_neg hx]
        refine ih (List.nodup_append.mpr ⟨h, by simp, ?_⟩)
        rintro a ha b hb rfl
        exact hx (List.mem_singleton.mp hb ▸ ha)

@[simp] theorem mem_firsts {α : Type} [DecidableEq α] {xs : List α} {x : α} :
    x ∈ firsts xs ↔ x ∈ xs := by
  rw [firsts, mem_foldl_firsts]
  simp

theorem nodup_firsts {α : Type} [DecidableEq α] (xs : List α) : (firsts xs).Nodup :=
  nodup_foldl_firsts xs List.nodup_nil

/-- The fields that a view filters by, in the order of its filters. -/
def Snapshot.highlightedFields (s : Snapshot) : List Field :=
  firsts (s.filters.map (·.field))

/-- The state of a view. -/
structure ViewState where
  uid : Option String
  baseQuery : String
  defaultFields : List Field
  visibleFields : List Field
  filters : List Filter
  order : Option Order
  rows : List Row
  /-- Every uid seen in this generation, also of rows deleted since. -/
  seen : List String
  cursor : Option Cursor
  isLoading : Bool
  isFirstLoadComplete : Bool
  /-- It has no bound here.  A counter of 64 bits comes to the same for the first 2^64 generations
  of a view, and they begin one at a time. -/
  generation : Nat
deriving Repr

namespace ViewState

/-- A view before it is set up. -/
def initial : ViewState where
  uid := none
  baseQuery := ""
  defaultFields := []
  visibleFields := []
  filters := []
  order := none
  rows := []
  seen := []
  cursor := none
  isLoading := false
  isFirstLoadComplete := false
  generation := 0

instance : Inhabited ViewState := ⟨initial⟩

/-- The request for a page of the view as it is now. -/
def query (s : ViewState) (cursor : Option Cursor) : Query :=
  ⟨s.baseQuery, s.filters, s.order, cursor⟩

/-- The view at the start of a new generation, which waits for its first page. -/
def beginGeneration (s : ViewState) : ViewState :=
  { s with
    generation := s.generation + 1
    rows := []
    seen := []
    cursor := none
    isLoading := true
    isFirstLoadComplete := false }

/-- The rows of a page whose uids were not seen before, each uid once. -/
def newRows (seen : List String) : List Row → List Row
  | [] => []
  | r :: rest => if r.uid ∈ seen then newRows seen rest else r :: newRows (r.uid :: seen) rest

theorem newRows_sublist (rows : List Row) (seen : List String) :
    (newRows seen rows).Sublist rows := by
  induction rows generalizing seen with
  | nil => exact List.Sublist.slnil
  | cons r rest ih =>
      rw [newRows]
      by_cases h : r.uid ∈ seen
      · rw [if_pos h]
        exact (ih seen).cons r
      · rw [if_neg h]
        exact (ih (r.uid :: seen)).cons_cons r

/-- The view with the new rows of a page at its end. -/
def appendPage (s : ViewState) (page : List Row) : ViewState :=
  let new := newRows s.seen page
  { s with rows := s.rows ++ new, seen := new.map (·.uid) ++ s.seen }

/-- What the view would remember now. -/
def settings (s : ViewState) : ViewSettings := ⟨some s.visibleFields, s.filters, s.order⟩

/-- What the view shows now. -/
def snapshot (s : ViewState) : Snapshot where
  viewUid := s.uid
  generation := s.generation
  visibleFields := s.visibleFields
  filters := s.filters
  order := s.order
  rows := s.rows
  cursor := s.cursor
  isLoading := s.isLoading
  isFirstLoadComplete := s.isFirstLoadComplete

/-- The fields of a list that the registry does not exclude, each at its first
place. -/
def admitted (r : Registry) (fields : List Field) : List Field :=
  firsts (fields.filter fun f => !r.isExcluded f)

/-- The view with the remembered settings that the registry still allows. -/
def restore (r : Registry) (s : ViewState) (saved : ViewSettings) : ViewState :=
  { s with
    visibleFields := match saved.fields with
      | some fields => admitted r fields
      | none => s.visibleFields
    filters := saved.filters.filter fun f => !r.isExcluded f.field
    order := saved.order.filter fun o => r.isOrderable o.field }

end ViewState

end ProjectViews
