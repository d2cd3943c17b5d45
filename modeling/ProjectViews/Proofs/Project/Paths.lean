/-
A path means the chain of names that it spells.

The separator of paths is two underscores, of which one can come from the end of a name.  So names
are found again in a path when none of them holds the separator and none but the last one ends
with an underscore, `Spelled`.  Every text is joined from such names in exactly one way, so that
each path spells one chain.
-/
import Mathlib.Logic.ExistsUnique
import ProjectViews.Project.Row
import ProjectViews.Proofs.Text.Pieces

namespace ProjectViews

/-! ### Chains of names -/

/-- The separator of paths can come from two underscores in a name or from one at its end. -/
theorem closed_underscores_iff {name : List Char} : Text.Closed ['_', '_'] name ↔
    ¬ ['_', '_'] <:+: name ∧ name.getLast? ≠ some '_' := by
  induction name with
  | nil => exact iff_of_true (Text.closed_nil _) ⟨by decide, nofun⟩
  | cons c name ih =>
      rw [Text.closed_cons_iff, ih, List.infix_cons_iff]
      cases name with
      | nil =>
          have hstarts : ['_', '_'] <+: c :: ([] ++ ['_', '_']) ↔ c = '_' := by
            simp [List.cons_prefix_cons, eq_comm (a := '_')]
          rw [hstarts]
          simp
      | cons d name =>
          have hstarts : ['_', '_'] <+: c :: (d :: name ++ ['_', '_'])
              ↔ ['_', '_'] <+: c :: d :: name := by simp [List.cons_prefix_cons]
          rw [hstarts, List.getLast?_cons_cons, not_or, and_assoc]

/-- Chains of names that a path can spell: no name holds two underscores in a row, and none but
the last ends with one. -/
structure Spelled (names : List String) : Prop where
  nonempty : names ≠ []
  whole : ∀ name ∈ names, ¬ ['_', '_'] <:+: name.toList
  ends : ∀ name ∈ names.dropLast, name.toList.getLast? ≠ some '_'

theorem spelled_iff {names : List String} : Spelled names ↔ Text.Joinable "__" names := by
  constructor
  · intro h
    induction names with
    | nil => exact absurd rfl h.nonempty
    | cons name rest ih =>
        cases rest with
        | nil => exact .last (h.whole name List.mem_cons_self)
        | cons next rest =>
            have hname : Text.Closed ['_', '_'] name.toList := closed_underscores_iff.mpr
              ⟨h.whole name List.mem_cons_self, h.ends name List.mem_cons_self⟩
            exact .cons hname <| ih
              { nonempty := List.cons_ne_nil _ _
                whole := fun other hother => h.whole other (List.mem_cons_of_mem _ hother)
                ends := fun other hother => h.ends other (List.mem_cons_of_mem _ hother) }
  · intro h
    induction h with
    | @last name free =>
        refine ⟨List.cons_ne_nil _ _, fun other hother => ?_, nofun⟩
        rw [List.mem_singleton.mp hother]
        exact free
    | @cons name rest closed joinable ih =>
        obtain ⟨hwhole, hend⟩ := closed_underscores_iff.mp closed
        refine ⟨List.cons_ne_nil _ _, ?_, ?_⟩
        · rintro other (_ | ⟨_, hother⟩)
          · exact hwhole
          · exact ih.whole other hother
        · rw [List.dropLast_cons_of_ne_nil ih.nonempty]
          rintro other (_ | ⟨_, hother⟩)
          · exact hend
          · exact ih.ends other hother

/-- **Every path spells exactly one chain of names.** -/
theorem existsUnique_spelled (path : String) :
    ∃! names, Spelled names ∧ Text.join "__" names = path := by
  obtain ⟨hjoinable, hjoin⟩ := Text.joinable_split (show "__" ≠ "" by decide) path
  refine ⟨Text.split "__" path, ⟨spelled_iff.mpr hjoinable, hjoin⟩, ?_⟩
  rintro names ⟨hspelled, rfl⟩
  exact ((spelled_iff.mp hspelled).split_join (by decide)).symm

/-! ### Where a chain leads to -/

/-- A chain of names leads from a value to another through nested objects. -/
inductive Leads : Json → List String → Json → Prop
  | here {j : Json} : Leads j [] j
  | through {members : List (String × Json)} {name : String} {rest : List String} {j k : Json}
      (member : Json.lookup? name members = some j) (leads : Leads j rest k) :
      Leads (.object members) (name :: rest) k

theorem follow_eq_some_iff {names : List String} {j k : Json} :
    Row.follow j names = some k ↔ Leads j names k := by
  constructor
  · intro h
    induction names generalizing j with
    | nil =>
        obtain rfl := Option.some.inj h
        exact .here
    | cons name rest ih =>
        rw [Row.follow] at h
        split at h
        · rename_i next hnext
          cases j with
          | object members => exact .through hnext (ih h)
          | _ => cases hnext
        · cases h
  · intro h
    induction h with
    | here => rfl
    | through member leads ih =>
        rw [Row.follow, Json.get?, member]
        exact ih

/-! ### The rule of paths -/

/-- What a row has under the path that a chain of names is joined to. -/
structure PathRule (row : Row) (names : List String) : Prop where
  /-- An attribute of that name is the one that is meant. -/
  flat : ∀ v, Json.lookup? (Text.join "__" names) row.values = some v →
    row.valueAt (Text.join "__" names) = some v
  /-- When there is none, it is what the chain leads to. -/
  nested : Json.lookup? (Text.join "__" names) row.values = none →
    ∀ v, row.valueAt (Text.join "__" names) = some v ↔ Leads (.object row.values) names v

/-- **A path means the chain that it spells, in every row.** -/
theorem pathRule_of_spelled (row : Row) {names : List String} (spelled : Spelled names) :
    PathRule row names := by
  have hsplit : Text.split "__" (Text.join "__" names) = names :=
    (spelled_iff.mp spelled).split_join (by decide)
  refine ⟨fun v hflat => ?_, fun hnone v => ?_⟩
  · rw [Row.valueAt, hflat]
  · rw [Row.valueAt, hnone, hsplit]
    exact follow_eq_some_iff

/-- A name may begin with an underscore, and the last may end with one. -/
theorem pathRule_deployment :
    Spelled ["owner", "_deployment_status_"] ∧
      PathRule ⟨"a1", "Survey", [("owner", .object [("_deployment_status_", .null)])]⟩
        ["owner", "_deployment_status_"] := by
  have hspelled : Spelled ["owner", "_deployment_status_"] :=
    ⟨by decide, by decide +kernel, by decide +kernel⟩
  exact ⟨hspelled, pathRule_of_spelled _ hspelled⟩

/-- But no other name may end with one: it would be found in front of the next. -/
example : Text.split "__" (Text.join "__" ["owner_", "status"]) = ["owner", "_status"] := by
  decide +kernel

end ProjectViews
