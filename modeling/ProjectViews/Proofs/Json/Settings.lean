/-
Settings that were written are read back.

What is optional is left out when it is missing, so an empty list of fields is told apart
from none, and so is a filter with an empty text from one without.
-/
import ProjectViews.Proofs.Json.Reread
import ProjectViews.View.Settings

namespace ProjectViews

/-! ### Names -/

theorem Field.ofTree?_toTree (f : Field) : Field.ofTree? f.toTree = some f := by
  cases f <;> rfl

theorem Condition.ofText?_text (c : Condition) : Condition.ofText? c.text = some c := by
  cases c <;> rfl

theorem Direction.ofText?_text (d : Direction) : Direction.ofText? d.text = some d := by
  cases d <;> rfl

/-! ### Records -/

theorem Filter.ofTree?_toTree (f : Filter) : Filter.ofTree? f.toTree = some f := by
  obtain ⟨field, condition, value⟩ := f
  cases value with
  | none =>
      show (Field.ofTree? field.toTree).bind _ = _
      rw [Field.ofTree?_toTree]
      show (Condition.ofText? condition.text).bind _ = _
      rw [Condition.ofText?_text]
      rfl
  | some s =>
      show (Field.ofTree? field.toTree).bind _ = _
      rw [Field.ofTree?_toTree]
      show (Condition.ofText? condition.text).bind _ = _
      rw [Condition.ofText?_text]
      rfl

theorem Order.ofTree?_toTree (o : Order) : Order.ofTree? o.toTree = some o := by
  show (Field.ofTree? o.field.toTree).bind _ = _
  rw [Field.ofTree?_toTree]
  show (Direction.ofText? o.direction.text).bind _ = _
  rw [Direction.ofText?_text]
  rfl

/-- A list is read back exactly if its items are. -/
theorem Json.list?_map_iff {α : Type} {read : Json.Tree → Option α} {write : α → Json.Tree}
    {xs : List α} : Json.list? read (.array (xs.map write)) = some xs ↔
      ∀ x ∈ xs, read (write x) = some x := by
  show (xs.map write).mapM read = some xs ↔ _
  induction xs with
  | nil => exact iff_of_true rfl fun x hx => absurd hx List.not_mem_nil
  | cons x xs ih =>
      rw [List.map_cons, List.mapM_cons, List.forall_mem_cons, ← ih]
      constructor
      · intro h
        obtain ⟨y, hy, h⟩ := Option.bind_eq_some_iff.mp h
        obtain ⟨ys, hys, h⟩ := Option.bind_eq_some_iff.mp h
        cases h
        exact ⟨hy, hys⟩
      · rintro ⟨hfirst, hrest⟩
        rw [hfirst, hrest]
        rfl

namespace ViewSettings

/-- The visible fields of settings are read back, or that there are none. -/
theorem optional_fields (fields : Option (List Field)) :
    Json.optional (Json.list? Field.ofTree?) (fields.map fun fs => .array (fs.map Field.toTree))
      = some fields := by
  cases fields with
  | none => rfl
  | some fs =>
      show (Json.list? Field.ofTree? _).map some = _
      rw [Json.list?_map_iff.mpr fun f _ => f.ofTree?_toTree]
      rfl

theorem optional_order (order : Option Order) :
    Json.optional Order.ofTree? (order.map Order.toTree) = some order := by
  cases order with
  | none => rfl
  | some o =>
      show (Order.ofTree? _).map some = _
      rw [Order.ofTree?_toTree]
      rfl

/-- What is left out is missing, and everything else is under its name. -/
theorem fields?_toTree (s : ViewSettings) :
    ∃ f, Json.fields? ["fields", "filters", "order"] s.toTree = some f ∧
      f "fields" = s.fields.map (fun fs => .array (fs.map Field.toTree)) ∧
      f "filters" = some (.array (s.filters.map Filter.toTree)) ∧
      f "order" = s.order.map Order.toTree := by
  obtain ⟨_ | fields, filters, _ | order⟩ := s
  all_goals exact ⟨_, rfl, rfl, rfl, rfl⟩

theorem ofTree?_toTree (s : ViewSettings) : ofTree? s.toTree = some s := by
  obtain ⟨f, hf, hfields, hfilters, horder⟩ := s.fields?_toTree
  rw [ofTree?, hf]
  show (Json.optional _ (f "fields")).bind _ = _
  rw [hfields, optional_fields]
  show (Json.orElse _ _ (f "filters")).bind _ = _
  rw [hfilters, Json.orElse, Json.list?_map_iff.mpr fun f _ => f.ofTree?_toTree]
  show (Json.optional _ (f "order")).bind _ = _
  rw [horder, optional_order]
  rfl

end ViewSettings

/-! ### Texts -/

theorem Filter.ofTexts_toTree (f : Filter) : f.toTree.OfTexts := by
  refine .record (List.forall_mem_append.mpr ⟨?_, ?_⟩)
  · exact List.forall_mem_cons.mpr ⟨.text _, List.forall_mem_singleton.mpr (.text _)⟩
  · cases f.value with
    | none => exact List.forall_mem_nil _
    | some s => exact List.forall_mem_singleton.mpr (.text s)

theorem Order.ofTexts_toTree (o : Order) : o.toTree.OfTexts :=
  .record (List.forall_mem_cons.mpr ⟨.text _, List.forall_mem_singleton.mpr (.text _)⟩)

theorem Json.Tree.OfTexts.array_map {α : Type} {write : α → Json.Tree} (xs : List α)
    (h : ∀ x, (write x).OfTexts) : (Json.Tree.array (xs.map write)).OfTexts :=
  .array (List.forall_mem_map.mpr fun x _ => h x)

namespace ViewSettings

theorem ofTexts_toTree (s : ViewSettings) : s.toTree.OfTexts := by
  refine .record (List.forall_mem_append.mpr ⟨List.forall_mem_append.mpr ⟨?_, ?_⟩, ?_⟩)
  · cases s.fields with
    | none => exact List.forall_mem_nil _
    | some fields => exact List.forall_mem_singleton.mpr (.array_map fields fun f => .text f.text)
  · exact List.forall_mem_singleton.mpr (.array_map s.filters Filter.ofTexts_toTree)
  · cases s.order with
    | none => exact List.forall_mem_nil _
    | some order => exact List.forall_mem_singleton.mpr order.ofTexts_toTree

/-- **Settings that were written are read back.** -/
theorem parse_print (s : ViewSettings) : parse s.print = some s := by
  rw [parse, print, Json.Tree.parse_print s.ofTexts_toTree]
  exact s.ofTree?_toTree

end ViewSettings

end ProjectViews
