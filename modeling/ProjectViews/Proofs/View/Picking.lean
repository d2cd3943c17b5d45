/-
What is picked is told by the history of the selection alone.

A selection keeps a set of uids and the generation they belong to, and both are changed by
looks as well: whatever is asked of it, it first forgets what the snapshot at hand does not
show, or everything if the snapshot is of another generation.  Which projects are picked after
any number of calls can be said without either.  It is those that the last pick listed and its
snapshot showed, as long as nothing was cleared since and every snapshot that was looked at
since is of the same generation and shows them too.  That is `Picked`.

The snapshots are arbitrary here, in any order and of any generations; nothing is said of the
view they come from.  One call settles what becomes of each uid, which is `pickedFrom_concat`,
and the generation that the selection keeps is that of the last pick for as long as anything is
left of it.
-/
import Mathlib.Data.List.Induction
import ProjectViews.Proofs.View.Pruning

namespace ProjectViews

/-- A call of a selection together with the snapshot that it is handed. -/
structure Meeting where
  snapshot : Snapshot
  call : Call

/-- Whether a call picks projects instead of those picked before. -/
def Call.picks : Call → Bool
  | set _ => true
  | clear | sync | selectedRows | affordance => false

/-- A project that was picked from a snapshot is still picked after some later calls. -/
structure StillPicked (uid : String) (first : Snapshot) (later : List Meeting) : Prop where
  /-- No other pick has taken the place of that one. -/
  last : ∀ m ∈ later, m.call.picks = false
  /-- Nothing has been cleared. -/
  kept : ∀ m ∈ later, m.call ≠ .clear
  /-- Whatever was looked at is of the same generation and shows the project. -/
  met : ∀ m ∈ later, m.call.looks = true →
    m.snapshot.generation = first.generation ∧ ∃ row ∈ m.snapshot.rows, row.uid = uid

/-- By a history of calls a project is picked, and was picked from this snapshot. -/
def PickedFrom (history : List Meeting) (first : Snapshot) (uid : String) : Prop :=
  ∃ earlier uids later, history = earlier ++ ⟨first, .set uids⟩ :: later ∧ uid ∈ uids ∧
    (∃ row ∈ first.rows, row.uid = uid) ∧ StillPicked uid first later

/-- By a history of calls a project is picked. -/
def Picked (history : List Meeting) (uid : String) : Prop :=
  ∃ first, PickedFrom history first uid

/-- The selection after a history of calls, the first call first. -/
def Selection.after (history : List Meeting) : Selection :=
  history.foldl (fun s m => (s.call m.snapshot m.call).2) .empty

@[simp] theorem Selection.after_concat (history : List Meeting) (m : Meeting) :
    after (history ++ [m]) = ((after history).call m.snapshot m.call).2 := by
  rw [after, List.foldl_append]
  rfl

/-! ### One more call -/

theorem Snapshot.shows_iff_exists {s : Snapshot} {uid : String} :
    s.shows uid = true ↔ ∃ row ∈ s.rows, row.uid = uid := by
  rw [shows_iff, List.mem_map]

/-- What a further call makes of a project that is still picked. -/
theorem stillPicked_concat {uid : String} {first : Snapshot} {later : List Meeting}
    {m : Meeting} : StillPicked uid first (later ++ [m]) ↔
      StillPicked uid first later ∧ m.call.looks = true ∧
        m.snapshot.generation = first.generation ∧ m.snapshot.shows uid = true := by
  rw [Snapshot.shows_iff_exists]
  constructor
  · rintro ⟨last, kept, met⟩
    have hm : m ∈ later ++ [m] := List.mem_append_right _ List.mem_cons_self
    have hlooks : m.call.looks = true := by
      have hpicks := last m hm
      have hclear := kept m hm
      cases hcall : m.call with
      | set uids => simp [hcall, Call.picks] at hpicks
      | clear => exact absurd hcall hclear
      | sync => rfl
      | selectedRows => rfl
      | affordance => rfl
    exact ⟨⟨fun b hb => last b (List.mem_append_left _ hb),
      fun b hb => kept b (List.mem_append_left _ hb),
      fun b hb => met b (List.mem_append_left _ hb)⟩, hlooks, met m hm hlooks⟩
  · rintro ⟨still, hlooks, hmet⟩
    have hother : m.call.picks = false ∧ m.call ≠ .clear := by
      cases hcall : m.call with
      | set uids => simp [hcall, Call.looks] at hlooks
      | clear => simp [hcall, Call.looks] at hlooks
      | sync => exact ⟨rfl, by simp⟩
      | selectedRows => exact ⟨rfl, by simp⟩
      | affordance => exact ⟨rfl, by simp⟩
    refine ⟨?_, ?_, ?_⟩
    · intro b hb
      rcases List.mem_append.mp hb with hb | hb
      · exact still.last b hb
      · exact List.mem_singleton.mp hb ▸ hother.1
    · intro b hb
      rcases List.mem_append.mp hb with hb | hb
      · exact still.kept b hb
      · exact List.mem_singleton.mp hb ▸ hother.2
    · intro b hb
      rcases List.mem_append.mp hb with hb | hb
      · exact still.met b hb
      · exact List.mem_singleton.mp hb ▸ fun _ => hmet

/-- A project is picked after one more call if that call picks it, or if it was picked before
and the call is a look at a snapshot of its generation that shows it. -/
theorem pickedFrom_concat {history : List Meeting} {m : Meeting} {first : Snapshot}
    {uid : String} : PickedFrom (history ++ [m]) first uid ↔
      (∃ uids, m = ⟨first, .set uids⟩ ∧ uid ∈ uids ∧ first.shows uid = true) ∨
      PickedFrom history first uid ∧ m.call.looks = true ∧
        m.snapshot.generation = first.generation ∧ m.snapshot.shows uid = true := by
  constructor
  · rintro ⟨earlier, uids, later, hsplit, hlisted, hshown, still⟩
    rcases List.eq_nil_or_concat later with rfl | ⟨rest, last, rfl⟩
    · obtain ⟨-, hm⟩ := List.append_inj' hsplit rfl
      exact Or.inl ⟨uids, List.singleton_inj.mp hm, hlisted, Snapshot.shows_iff_exists.mpr hshown⟩
    · rw [List.concat_eq_append] at hsplit still
      rw [← List.cons_append, ← List.append_assoc] at hsplit
      obtain ⟨hhistory, hm⟩ := List.append_inj' hsplit rfl
      rw [← List.singleton_inj.mp hm, stillPicked_concat] at still
      exact Or.inr ⟨⟨earlier, uids, rest, hhistory, hlisted, hshown, still.1⟩, still.2⟩
  · rintro (⟨uids, rfl, hlisted, hshown⟩ | ⟨⟨earlier, uids, later, hsplit, hlisted, hshown, still⟩,
      hlook⟩)
    · exact ⟨history, uids, [], rfl, hlisted, Snapshot.shows_iff_exists.mp hshown,
        by simp, by simp, by simp⟩
    · refine ⟨earlier, uids, later ++ [m], ?_, hlisted, hshown,
        stillPicked_concat.mpr ⟨still, hlook⟩⟩
      rw [hsplit, List.append_assoc, List.cons_append]

namespace Selection

/-- As long as anything is left of a pick, the selection belongs to its generation. -/
theorem generation_after {history : List Meeting} {first : Snapshot} {uid : String}
    (h : PickedFrom history first uid) :
    (after history).generation = some first.generation := by
  induction history using List.reverseRecOn with
  | nil =>
      obtain ⟨earlier, uids, later, hsplit, -⟩ := h
      simp at hsplit
  | append_singleton history m ih =>
      rw [after_concat]
      rcases pickedFrom_concat.mp h with ⟨uids, rfl, -⟩ | ⟨-, hlooks, hsame, -⟩
      · rfl
      · rw [call_of_looks hlooks, generation_sync, hsame]

/-- **What is selected after a history of calls is what is picked by it.** -/
theorem mem_after {history : List Meeting} {uid : String} :
    uid ∈ (after history).uids ↔ Picked history uid := by
  induction history using List.reverseRecOn with
  | nil =>
      constructor
      · intro h
        cases h
      · rintro ⟨first, earlier, uids, later, hsplit, -⟩
        simp at hsplit
  | append_singleton history m ih =>
      rw [after_concat]
      cases hlooks : m.call.looks with
      | false =>
          cases hcall : m.call with
          | set uids =>
              have hmem : uid ∈ ((after history).call m.snapshot (.set uids)).2.uids ↔
                  uid ∈ uids ∧ m.snapshot.shows uid = true := by
                show uid ∈ firsts (uids.filter m.snapshot.shows) ↔ _
                rw [mem_firsts, List.mem_filter]
              rw [hmem]
              constructor
              · intro hpicked
                refine ⟨m.snapshot, pickedFrom_concat.mpr (Or.inl ⟨uids, ?_, hpicked⟩)⟩
                rw [← hcall]
              · rintro ⟨first, h⟩
                rcases pickedFrom_concat.mp h with ⟨uids', rfl, hpicked⟩ | ⟨-, hlook, -⟩
                · cases hcall
                  exact hpicked
                · simp [hlooks] at hlook
          | clear =>
              constructor
              · intro h
                cases h
              · rintro ⟨first, h⟩
                rcases pickedFrom_concat.mp h with ⟨uids', rfl, -⟩ | ⟨-, hlook, -⟩
                · cases hcall
                · simp [hlooks] at hlook
          | sync => simp [hcall, Call.looks] at hlooks
          | selectedRows => simp [hcall, Call.looks] at hlooks
          | affordance => simp [hcall, Call.looks] at hlooks
      | true =>
          rw [call_of_looks hlooks]
          constructor
          · intro h
            obtain ⟨hmem, hshown⟩ := mem_uids_sync h
            obtain ⟨first, hpicked⟩ := ih.mp hmem
            -- of another generation nothing would have been left
            have hsame : m.snapshot.generation = first.generation := by
              by_contra hother
              rw [uids_sync_of_other] at h
              · cases h
              · rw [generation_after hpicked]
                exact fun hc => hother (Option.some.inj hc).symm
            exact ⟨first, pickedFrom_concat.mpr (Or.inr ⟨hpicked, hlooks, hsame, hshown⟩)⟩
          · rintro ⟨first, h⟩
            rcases pickedFrom_concat.mp h with ⟨uids, rfl, -⟩ | ⟨hpicked, -, hsame, hshown⟩
            · cases hlooks
            · rw [uids_sync_of_same (by rw [generation_after hpicked, hsame]), List.mem_filter]
              exact ⟨ih.mpr ⟨first, hpicked⟩, hshown⟩

end Selection

/-- Whether a project is picked by a history can be found out. -/
instance (history : List Meeting) (uid : String) : Decidable (Picked history uid) :=
  decidable_of_iff _ Selection.mem_after

/-! ### Looking twice -/

namespace Selection

/-- A snapshot that was met leaves nothing to forget. -/
theorem sync_sync (s : Selection) (snapshot : Snapshot) :
    (s.sync snapshot).sync snapshot = s.sync snapshot := by
  have huids : ((s.sync snapshot).sync snapshot).uids = (s.sync snapshot).uids := by
    rw [uids_sync_of_same (s.generation_sync snapshot), List.filter_eq_self]
    exact fun uid h => (mem_uids_sync h).2
  exact sync_congr huids

/-- After a look a second one at the same snapshot gives what it would have given in its place,
and changes nothing. -/
theorem call_call_of_looks {c c' : Call} (hc : c.looks = true) (hc' : c'.looks = true)
    (s : Selection) (snapshot : Snapshot) :
    (s.call snapshot c).2.call snapshot c' = ((s.call snapshot c').1, (s.call snapshot c).2) := by
  have hsame : (s.sync snapshot).call snapshot c' = s.call snapshot c' :=
    call_congr_of_looks hc' (s.sync_sync snapshot)
  rw [call_of_looks hc, hsame]
  exact Prod.ext rfl (call_of_looks hc' s snapshot)

end Selection

theorem Affordance.rows_ofRows (rows : List Row) : (ofRows rows).rows = rows := by
  match rows with
  | [] => rfl
  | [row] => rfl
  | row :: next :: rest => rfl

/-- The kind of an affordance goes by the number of its rows. -/
theorem Affordance.kind_ofRows (rows : List Row) :
    (ofRows rows = .none ↔ rows.length = 0) ∧
      ((∃ row, ofRows rows = .single row) ↔ rows.length = 1) ∧
      ((∃ rows', ofRows rows = .bulk rows') ↔ 2 ≤ rows.length) := by
  match rows with
  | [] => simp [ofRows]
  | [row] => simp [ofRows]
  | row :: next :: rest => simp [ofRows]

/-! ### The rule of histories -/

/-- The rows of a snapshot that are picked once it has been met, in its order. -/
def pickedRows (history : List Meeting) (s : Snapshot) : List Row :=
  s.rows.filter fun row => decide (Picked (history ++ [⟨s, .sync⟩]) row.uid)

/-- What holds of a selection after a history of calls. -/
structure HistoryRule (history : List Meeting) : Prop where
  /-- Selected are the projects that are picked by the history. -/
  selected : ∀ uid, (Selection.after history).contains uid = true ↔ Picked history uid
  /-- The selected rows of a snapshot are those of its rows that are picked once it has been
  met, in its order. -/
  rows : ∀ s, ((Selection.after history).call s .selectedRows).1 = .rows (pickedRows history s)
  /-- The affordance is about the same rows, and goes by their number. -/
  affordance : ∀ s, ∃ a, ((Selection.after history).call s .affordance).1 = .affordance a ∧
    a.rows = pickedRows history s ∧ (a = .none ↔ (pickedRows history s).length = 0) ∧
    ((∃ row, a = .single row) ↔ (pickedRows history s).length = 1) ∧
    ((∃ rows, a = .bulk rows) ↔ 2 ≤ (pickedRows history s).length)
  /-- A look at a snapshot that has just been looked at, in this way or another, gives what it
  would have given before, and leaves the selection as it is. -/
  again : ∀ s c c', c.looks = true → c'.looks = true →
    let t := (Selection.after history).call s c
    t.2.call s c' = (((Selection.after history).call s c').1, t.2)

/-- **Whatever is called in whatever order, what is selected is told by the last pick and by
what was cleared and looked at since.** -/
theorem selection_historyRule (history : List Meeting) : HistoryRule history := by
  have hrows : ∀ s, ((Selection.after history).sync s).rowsOf s = pickedRows history s := by
    intro s
    refine List.filter_congr fun row _ => ?_
    rw [Bool.eq_iff_iff, decide_eq_true_iff, ← Selection.mem_after, Selection.after_concat]
    exact List.contains_iff_mem
  refine ⟨?_, ?_, ?_, ?_⟩
  · intro uid
    exact List.contains_iff_mem.trans Selection.mem_after
  · intro s
    exact congrArg Answer.rows (hrows s)
  · intro s
    refine ⟨.ofRows (pickedRows history s), ?_, Affordance.rows_ofRows _, Affordance.kind_ofRows _⟩
    exact congrArg (fun rows => Answer.affordance (.ofRows rows)) (hrows s)
  · intro s c c' hc hc'
    exact Selection.call_call_of_looks hc hc' _ s

-- `b` has left the view by the first look and is not picked again when it returns, and `clear`
-- does not make the selection forget its generation
example :
    let early : Snapshot := { (default : Snapshot) with rows := [.bare "a" "", .bare "b" ""] }
    let late : Snapshot := { (default : Snapshot) with rows := [.bare "a" ""] }
    ((Selection.after [⟨early, .set ["b", "a", "c"]⟩, ⟨late, .sync⟩, ⟨early, .affordance⟩]).uids,
      Selection.after [⟨early, .set ["a"]⟩, ⟨early, .clear⟩]) = (["a"], ⟨[], some 0⟩) := by
  decide

end ProjectViews
