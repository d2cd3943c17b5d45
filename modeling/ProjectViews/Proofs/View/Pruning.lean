/-
Pruning a selection late is as good as pruning it early.

A selection only forgets a project when it meets a snapshot without its row.  Until then
it holds on to what is gone, and of two selections the one that has met more snapshots
holds less.  From outside they cannot be told apart, as long as they meet the snapshots in
the order in which these were taken.

Two facts about a view make it so, and `Chronicle` states them of its snapshots.
Generations only count up, so a selection that belongs to an older one is dropped sooner or
later all the same.  And a row that has left the view does not come back as long as the
generation lasts, so that what an earlier snapshot would have pruned is pruned by every
later one.  Nothing further on is said of stores.
-/
import ProjectViews.Proofs.View.Provenance
import ProjectViews.Proofs.View.Rows
import ProjectViews.View.Selection
import Mathlib.Data.List.Perm.Basic

namespace ProjectViews

/-! ### Rows that are gone stay away -/

/-- A move within a generation forgets no uid that was seen, and loads no row for it. -/
theorem Passage.seen {s t : Store} {m : Move} (p : Passage s m t)
    (same : t.state.generation = s.state.generation) {uid : String} (seen : uid ∈ s.state.seen) :
    uid ∈ t.state.seen ∧
      (uid ∉ s.state.rows.map (·.uid) → uid ∉ t.state.rows.map (·.uid)) := by
  cases p with
  | rests generation loading question seen' cursor rows noPage errands =>
      refine ⟨seen' ▸ seen, ?_⟩
      intro gone hmem
      obtain ⟨row, hrow, rfl⟩ := List.mem_map.mp hmem
      rw [rows] at hrow
      obtain ⟨row', hrow', huid⟩ := exists_of_mem_rowsAfter hrow
      exact gone (huid ▸ List.mem_map_of_mem hrow')
  | begins generation loading rows seen' cursor free news errands => omega
  | continues state idle more free news errands =>
      rw [state]
      exact ⟨seen, id⟩
  | stale move errand old state news errands =>
      rw [state]
      exact ⟨seen, id⟩
  | fails move errand state news errands =>
      rw [state]
      exact ⟨seen, id⟩
  | @page task query page move errand state news errands =>
      rw [state]
      refine ⟨List.mem_append_right _ seen, ?_⟩
      intro gone hmem
      obtain ⟨row, hrow, rfl⟩ := List.mem_map.mp hmem
      rcases List.mem_append.mp hrow with hold | hnew
      · exact gone (List.mem_map_of_mem hold)
      · exact (find?_of_mem_newRows hnew).2 seen

/-- Nor does any run that stays in the generation. -/
theorem seen_run {s : Store} {moves : List Move}
    (same : (s.run moves).state.generation = s.state.generation) {uid : String}
    (seen : uid ∈ s.state.seen) : uid ∈ (s.run moves).state.seen ∧
      (uid ∉ s.state.rows.map (·.uid) → uid ∉ (s.run moves).state.rows.map (·.uid)) := by
  induction moves generalizing s with
  | nil => exact ⟨seen, id⟩
  | cons m rest ih =>
      have hpassage := (effect_step s m).passage
      have hstep := hpassage.generation_cases
      have hrest : (s.step m).1.state.generation ≤ (s.run (m :: rest)).state.generation :=
        generation_le_run (s.step m).1 rest
      have hsame : (s.step m).1.state.generation = s.state.generation := by omega
      obtain ⟨hseen, hgone⟩ := hpassage.seen hsame seen
      obtain ⟨hseen', hgone'⟩ := ih (same.trans hsame.symm) hseen
      exact ⟨hseen', fun gone => hgone' (hgone gone)⟩

/-! ### The snapshots of a view -/

/-- Whether a snapshot shows the row of a project. -/
def Snapshot.shows (s : Snapshot) (uid : String) : Bool := (s.row? uid).isSome

theorem Snapshot.shows_iff {s : Snapshot} {uid : String} :
    s.shows uid = true ↔ uid ∈ s.rows.map (·.uid) := by
  rw [shows, row?, List.find?_isSome, List.mem_map]
  simp

/-- Snapshots that were taken of one view, one after the other. -/
structure Chronicle (view : Nat → Snapshot) : Prop where
  /-- Generations only count up. -/
  counts : ∀ {i j : Nat}, i ≤ j → (view i).generation ≤ (view j).generation
  /-- A row that has left the view stays away as long as the generation lasts. -/
  gone : ∀ {i j k : Nat}, i ≤ j → j ≤ k → (view k).generation = (view i).generation →
    ∀ uid, (view i).shows uid = true → (view k).shows uid = true → (view j).shows uid = true
  /-- No project has two rows. -/
  nodup : ∀ i, ((view i).rows.map (·.uid)).Nodup

/-- What a view shows after so many moves of a run. -/
def Store.view (r : Registry) (moves : List Move) (i : Nat) : Snapshot :=
  ((Store.empty r).run (moves.take i)).state.snapshot

/-- Of two moments of a run the later one is reached from the earlier one. -/
theorem run_take_of_le (s : Store) (moves : List Move) {i j : Nat} (h : i ≤ j) :
    ∃ between, s.run (moves.take j) = (s.run (moves.take i)).run between := by
  refine ⟨(moves.take j).drop i, ?_⟩
  have htake : (moves.take j).take i = moves.take i := by
    rw [List.take_take, Nat.min_eq_left h]
  have hsplit : moves.take j = moves.take i ++ (moves.take j).drop i := by
    rw [← htake, List.take_append_drop]
  rw [← Store.run_append, ← hsplit]

/-- **The snapshots that are taken in the course of a run are a chronicle.** -/
theorem chronicle_view (r : Registry) (moves : List Move) : Chronicle (Store.view r moves) where
  counts := by
    intro i j hij
    obtain ⟨between, hbetween⟩ := run_take_of_le (.empty r) moves hij
    show _ ≤ ((Store.empty r).run (moves.take j)).state.generation
    rw [hbetween]
    exact generation_le_run _ between
  gone := by
    intro i j k hij hjk same uid hi hk
    obtain ⟨before, hbefore⟩ := run_take_of_le (.empty r) moves hij
    obtain ⟨after, hafter⟩ := run_take_of_le (.empty r) moves hjk
    have hreached := reached_run r (moves.take i)
    unfold Store.view at same hi hk ⊢
    rw [hbefore] at hafter ⊢
    rw [hafter] at same hk
    generalize (Store.empty r).run (moves.take i) = s at hreached same hi hk ⊢
    -- the generation is the same throughout
    have hfirst : s.state.generation ≤ (s.run before).state.generation :=
      generation_le_run s before
    have hlast : (s.run before).state.generation ≤ ((s.run before).run after).state.generation :=
      generation_le_run (s.run before) after
    have hsame : ((s.run before).run after).state.generation = s.state.generation := same
    have hseen : uid ∈ (s.run before).state.seen :=
      (seen_run (by omega) (hreached.seen_of_mem_rows (Snapshot.shows_iff.mp hi))).1
    rw [Snapshot.shows_iff] at hk ⊢
    by_contra hgone
    exact (seen_run (by omega) hseen).2 hgone hk
  nodup := by
    intro i
    exact (reached_run r (moves.take i)).nodup_rows

/-! ### What a selection holds on to -/

namespace Selection

/-- Whatever it meets, a selection belongs to the generation of it from then on. -/
@[simp] theorem generation_sync (s : Selection) (snapshot : Snapshot) :
    (s.sync snapshot).generation = some snapshot.generation := by
  unfold sync
  split
  · rename_i h
    exact h
  · rfl

theorem uids_sync_of_same {s : Selection} {snapshot : Snapshot}
    (h : s.generation = some snapshot.generation) :
    (s.sync snapshot).uids = s.uids.filter snapshot.shows := by
  rw [sync, if_pos h]
  rfl

theorem uids_sync_of_other {s : Selection} {snapshot : Snapshot}
    (h : s.generation ≠ some snapshot.generation) : (s.sync snapshot).uids = [] := by
  rw [sync, if_neg h]

/-- A selection keeps nothing but what it had and what the snapshot shows. -/
theorem mem_uids_sync {s : Selection} {snapshot : Snapshot} {uid : String}
    (h : uid ∈ (s.sync snapshot).uids) : uid ∈ s.uids ∧ snapshot.shows uid = true := by
  by_cases hsame : s.generation = some snapshot.generation
  · rw [uids_sync_of_same hsame] at h
    exact List.mem_filter.mp h
  · rw [uids_sync_of_other hsame] at h
    cases h

theorem uids_sync_of_nil {s : Selection} (h : s.uids = []) (snapshot : Snapshot) :
    (s.sync snapshot).uids = [] := by
  rw [List.eq_nil_iff_forall_not_mem]
  intro uid huid
  have hmem := (mem_uids_sync huid).1
  rw [h] at hmem
  cases hmem

/-- What is left of two selections is the same if the same projects are. -/
theorem sync_congr {s t : Selection} {snapshot : Snapshot}
    (h : (s.sync snapshot).uids = (t.sync snapshot).uids) : s.sync snapshot = t.sync snapshot :=
  congrArg₂ Selection.mk h ((s.generation_sync snapshot).trans (t.generation_sync snapshot).symm)

end Selection

variable {view : Nat → Snapshot}

/-- A selection that last met a snapshot of the view by some moment: all it holds on to was
shown then. -/
def Rooted (view : Nat → Snapshot) (moment : Nat) (s : Selection) : Prop :=
  s.uids = [] ∨ ∃ i ≤ moment, s.generation = some (view i).generation ∧
    ∀ uid ∈ s.uids, (view i).shows uid = true

theorem rooted_set (view : Nat → Snapshot) (moment : Nat) (uids : List String) :
    Rooted view moment (.set (view moment) uids) := by
  refine Or.inr ⟨moment, Nat.le_refl _, rfl, ?_⟩
  intro uid huid
  rw [Selection.set, mem_firsts, List.mem_filter] at huid
  exact huid.2

theorem rooted_sync (view : Nat → Snapshot) (moment : Nat) (s : Selection) :
    Rooted view moment (s.sync (view moment)) :=
  Or.inr ⟨moment, Nat.le_refl _, s.generation_sync _, fun _ huid => (Selection.mem_uids_sync huid).2⟩

/-- **What a selection would have pruned earlier it prunes later.** -/
theorem Chronicle.uids_sync_sync (chron : Chronicle view) {s : Selection} {i j k : Nat}
    (h : Rooted view i s) (hij : i ≤ j) (hjk : j ≤ k) :
    ((s.sync (view j)).sync (view k)).uids = (s.sync (view k)).uids := by
  rcases h with hnil | ⟨root, hroot, hgeneration, hshown⟩
  · rw [Selection.uids_sync_of_nil hnil,
      Selection.uids_sync_of_nil (Selection.uids_sync_of_nil hnil _)]
  have hrj := chron.counts (Nat.le_trans hroot hij)
  have hjk' := chron.counts hjk
  by_cases hk : (view k).generation = (view root).generation
  · -- the generation has lasted all the time
    have hj : (view j).generation = (view root).generation := by omega
    rw [Selection.uids_sync_of_same (by rw [Selection.generation_sync, hj, hk]),
      Selection.uids_sync_of_same (by rw [hgeneration, hj]),
      Selection.uids_sync_of_same (by rw [hgeneration, hk]), List.filter_filter]
    refine List.filter_congr fun uid huid => ?_
    have hgone := chron.gone (Nat.le_trans hroot hij) hjk hk uid (hshown uid huid)
    cases hlate : (view k).shows uid with
    | false => rfl
    | true => rw [hgone hlate]; rfl
  · have hother : s.generation ≠ some (view k).generation := by
      rw [hgeneration]
      exact fun hc => hk (Option.some.inj hc).symm
    rw [Selection.uids_sync_of_other hother]
    by_cases hj : (view j).generation = (view k).generation
    · -- it has been dropped by then
      refine Selection.uids_sync_of_nil (Selection.uids_sync_of_other ?_) _
      rw [hj]
      exact hother
    · refine Selection.uids_sync_of_other ?_
      rw [Selection.generation_sync]
      exact fun hc => hj (Option.some.inj hc)

/-! ### Calls -/

/-- A call of a selection. -/
inductive Call where
  | set (uids : List String)
  | clear
  | sync
  | selectedRows
  | affordance

/-- Whether a call only looks at what is selected. -/
def Call.looks : Call → Bool
  | sync | selectedRows | affordance => true
  | set _ | clear => false

/-- What a call gives back. -/
inductive Answer where
  | nothing
  | rows (rows : List Row)
  | affordance (affordance : Affordance)

/-- A call, known by a number, with a snapshot that was taken after so many moves of a run. -/
structure Visit where
  number : Nat
  moment : Nat
  call : Call

/-- What comes of a call: what it gives back, and how many projects are selected right after
it. -/
structure Upshot where
  visit : Visit
  answer : Answer
  size : Nat

namespace Selection

/-- What a call gives back, and the selection after it. -/
def call (s : Selection) (snapshot : Snapshot) : Call → Answer × Selection
  | .set uids => (.nothing, set snapshot uids)
  | .clear => (.nothing, s.clear)
  | .sync => (.nothing, s.sync snapshot)
  | .selectedRows =>
    let (rows, s) := s.selectedRows snapshot
    (.rows rows, s)
  | .affordance =>
    let (a, s) := s.affordance snapshot
    (.affordance a, s)

/-- What comes of a list of calls. -/
def upshots (view : Nat → Snapshot) (s : Selection) : List Visit → List Upshot
  | [] => []
  | v :: rest =>
    let (answer, s) := s.call (view v.moment) v.call
    ⟨v, answer, s.size⟩ :: upshots view s rest

theorem upshots_cons (view : Nat → Snapshot) (s : Selection) (v : Visit) (rest : List Visit) :
    s.upshots view (v :: rest)
      = ⟨v, (s.call (view v.moment) v.call).1, (s.call (view v.moment) v.call).2.size⟩
        :: (s.call (view v.moment) v.call).2.upshots view rest := rfl

/-- A look leaves the selection as it is after meeting the snapshot. -/
theorem call_of_looks {c : Call} (h : c.looks = true) (s : Selection) (snapshot : Snapshot) :
    (s.call snapshot c).2 = s.sync snapshot := by
  cases c with
  | set uids => cases h
  | clear => cases h
  | sync => rfl
  | selectedRows => rfl
  | affordance => rfl

/-- What comes of a look depends on what is left after it alone. -/
theorem call_congr_of_looks {c : Call} (h : c.looks = true) {s t : Selection}
    {snapshot : Snapshot} (same : s.sync snapshot = t.sync snapshot) :
    s.call snapshot c = t.call snapshot c := by
  cases c with
  | set uids => cases h
  | clear => cases h
  | sync => exact congrArg (Answer.nothing, ·) same
  | selectedRows => simp only [call, selectedRows, same]
  | affordance => simp only [call, affordance, selectedRows, same]

end Selection

/-! ### Two selections, one of which has met more snapshots -/

/-- From some moment on, whatever the two selections meet, the same is left of both. -/
structure Agree (view : Nat → Snapshot) (moment : Nat) (s t : Selection) : Prop where
  left : Rooted view moment s
  right : Rooted view moment t
  sync : ∀ k, moment ≤ k → (s.sync (view k)).uids = (t.sync (view k)).uids

namespace Agree

variable {s t : Selection} {moment : Nat}

theorem refl (h : Rooted view moment s) : Agree view moment s s := ⟨h, h, fun _ _ => rfl⟩

/-- They agree all the same if one of them meets one snapshot more. -/
theorem sync_left (h : Agree view moment s t) (chron : Chronicle view) {k : Nat}
    (hk : moment ≤ k) : Agree view k (s.sync (view k)) t where
  left := rooted_sync view k s
  right := h.right.imp id fun ⟨i, hi, hrest⟩ => ⟨i, Nat.le_trans hi hk, hrest⟩
  sync := by
    intro j hj
    rw [chron.uids_sync_sync h.left hk hj]
    exact h.sync j (Nat.le_trans hk hj)

/-- The same call comes to the same for both, and they agree after it. -/
theorem call (h : Agree view moment s t) {k : Nat} (hk : moment ≤ k) (c : Call) :
    (s.call (view k) c).1 = (t.call (view k) c).1 ∧
      (s.call (view k) c).2.size = (t.call (view k) c).2.size ∧
      Agree view k (s.call (view k) c).2 (t.call (view k) c).2 := by
  cases hlooks : c.looks with
  | true =>
      have hsync : s.sync (view k) = t.sync (view k) := Selection.sync_congr (h.sync k hk)
      have hcall := Selection.call_congr_of_looks hlooks hsync
      rw [hcall, Selection.call_of_looks hlooks]
      exact ⟨rfl, rfl, refl (rooted_sync view k t)⟩
  | false =>
      cases c with
      | set uids => exact ⟨rfl, rfl, refl (rooted_set view k uids)⟩
      | clear =>
          refine ⟨rfl, rfl, Or.inl rfl, Or.inl rfl, fun j _ => ?_⟩
          show (s.clear.sync (view j)).uids = (t.clear.sync (view j)).uids
          rw [Selection.uids_sync_of_nil rfl, Selection.uids_sync_of_nil rfl]
      | sync => cases hlooks
      | selectedRows => cases hlooks
      | affordance => cases hlooks

end Agree

/-- The calls are made with snapshots in the order in which these were taken. -/
def Chronological (visits : List Visit) : Prop :=
  visits.Pairwise fun v w => v.moment ≤ w.moment

instance (visits : List Visit) : Decidable (Chronological visits) :=
  inferInstanceAs (Decidable (visits.Pairwise fun v w => v.moment ≤ w.moment))

/-- Whether a call is made when only some of the looks are: all others are. -/
def Visit.stays (keep : Nat → Bool) (v : Visit) : Bool := keep v.number || !v.call.looks

/-- **Leaving looks out does not change what comes of the other calls.** -/
theorem Agree.upshots (chron : Chronicle view) (keep : Nat → Bool) {visits : List Visit}
    (order : Chronological visits) {moment : Nat} {s t : Selection} (h : Agree view moment s t)
    (later : ∀ v ∈ visits, moment ≤ v.moment) :
    t.upshots view (visits.filter (Visit.stays keep))
      = (s.upshots view visits).filter fun u => u.visit.stays keep := by
  induction visits generalizing moment s t with
  | nil => rfl
  | cons v rest ih =>
      obtain ⟨hnext, hrest⟩ := List.pairwise_cons.mp order
      have hv : moment ≤ v.moment := later v List.mem_cons_self
      cases hstays : v.stays keep with
      | true =>
          obtain ⟨hanswer, hsize, hagree⟩ := h.call hv v.call
          rw [List.filter_cons_of_pos hstays, Selection.upshots_cons, Selection.upshots_cons,
            List.filter_cons, if_pos hstays, ih hrest hagree hnext, hanswer, hsize]
      | false =>
          -- only a look can be left out
          have hlooks : v.call.looks = true := by
            simpa using (Bool.or_eq_false_iff.mp hstays).2
          have hout : ¬ v.stays keep = true := Bool.eq_false_iff.mp hstays
          rw [List.filter_cons_of_neg hout, Selection.upshots_cons, List.filter_cons,
            if_neg hout, Selection.call_of_looks hlooks]
          exact ih hrest (h.sync_left chron hv) hnext

/-! ### The rows of a selection -/

namespace Selection

theorem nodup_call {s : Selection} (h : s.uids.Nodup) (snapshot : Snapshot) (c : Call) :
    (s.call snapshot c).2.uids.Nodup := by
  cases hlooks : c.looks with
  | true =>
      rw [call_of_looks hlooks]
      by_cases hsame : s.generation = some snapshot.generation
      · rw [uids_sync_of_same hsame]
        exact h.filter _
      · rw [uids_sync_of_other hsame]
        exact List.nodup_nil
  | false =>
      cases c with
      | set uids => exact nodup_firsts _
      | clear => exact List.nodup_nil
      | sync => cases hlooks
      | selectedRows => cases hlooks
      | affordance => cases hlooks

/-- The rows that are selected belong to different projects, and there is one for each project
that is selected once the snapshot has been met. -/
theorem rows_of_selectedRows {s : Selection} (h : s.uids.Nodup) {snapshot : Snapshot}
    (nodup : (snapshot.rows.map (·.uid)).Nodup) :
    ((s.selectedRows snapshot).1.map (·.uid)).Nodup ∧
      (s.selectedRows snapshot).1.length = (s.selectedRows snapshot).2.size := by
  have hsync : (s.sync snapshot).uids.Nodup := nodup_call h snapshot .sync
  have hrows : (((s.sync snapshot).rowsOf snapshot).map (·.uid)).Nodup :=
    nodup.sublist (List.filter_sublist.map _)
  have hmem : ∀ uid, uid ∈ ((s.sync snapshot).rowsOf snapshot).map (·.uid)
      ↔ uid ∈ (s.sync snapshot).uids := by
    intro uid
    constructor
    · intro huid
      obtain ⟨row, hrow, rfl⟩ := List.mem_map.mp huid
      exact List.contains_iff_mem.mp (List.mem_filter.mp hrow).2
    · intro huid
      obtain ⟨row, hrow, rfl⟩ := List.mem_map.mp (Snapshot.shows_iff.mp (mem_uids_sync huid).2)
      exact List.mem_map_of_mem (List.mem_filter.mpr ⟨hrow, List.contains_iff_mem.mpr huid⟩)
  have hperm := (List.perm_ext_iff_of_nodup hrows hsync).mpr hmem
  refine ⟨hrows, ?_⟩
  show ((s.sync snapshot).rowsOf snapshot).length = (s.sync snapshot).uids.length
  rw [← hperm.length_eq, List.length_map]

theorem rows_of_mem_upshots {s : Selection} (h : s.uids.Nodup) (chron : Chronicle view)
    {visits : List Visit} {u : Upshot} (hu : u ∈ s.upshots view visits) {rows : List Row}
    (answer : u.answer = .rows rows) : (rows.map (·.uid)).Nodup ∧ rows.length = u.size := by
  induction visits generalizing s with
  | nil => cases hu
  | cons v rest ih =>
      rw [upshots_cons] at hu
      rcases List.mem_cons.mp hu with rfl | hrest
      · cases hcall : v.call with
        | selectedRows =>
            simp only [hcall] at answer ⊢
            cases answer
            exact rows_of_selectedRows h (chron.nodup v.moment)
        | set uids => simp [hcall, call] at answer
        | clear => simp [hcall, call] at answer
        | sync => simp [hcall, call] at answer
        | affordance => simp [hcall, call] at answer
      · exact ih (nodup_call h (view v.moment) v.call) hrest

end Selection

/-! ### The rule of pruning -/

/-- What holds of the calls of a selection, made with snapshots of a view in the course of a
run. -/
structure PruningRule (view : Nat → Snapshot) (visits : List Visit) : Prop where
  /-- Whichever looks are left out, what comes of all other calls is the same: what they give
  back, and how many projects are selected after them. -/
  lazy : ∀ keep : Nat → Bool,
    Selection.empty.upshots view (visits.filter (Visit.stays keep))
      = (Selection.empty.upshots view visits).filter fun u => u.visit.stays keep
  /-- The rows that are given back belong to different projects, and there are as many as
  projects are selected right after the call. -/
  rows : ∀ u ∈ Selection.empty.upshots view visits, ∀ rows, u.answer = .rows rows →
    (rows.map (·.uid)).Nodup ∧ rows.length = u.size

/-- **Whether a selection is pruned late or early cannot be told from outside, as long as it
meets the snapshots of a run in the order in which they were taken.** -/
theorem run_pruningRule (r : Registry) (moves : List Move) (visits : List Visit)
    (order : Chronological visits) : PruningRule (Store.view r moves) visits := by
  have hchron := chronicle_view r moves
  have hagree : Agree (Store.view r moves) 0 .empty .empty := .refl (Or.inl rfl)
  refine ⟨?_, ?_⟩
  · intro keep
    exact hagree.upshots hchron keep order fun v _ => Nat.zero_le _
  · intro u hu rows answer
    exact Selection.rows_of_mem_upshots List.nodup_nil hchron hu answer

/-- A row is deleted while it is selected, and the server sends it once more with the next
page, before and after which the selection is looked at. -/
theorem pruningRule_of_returning_row :
    Chronological [⟨0, 4, .set ["a", "b"]⟩, ⟨1, 6, .sync⟩, ⟨2, 10, .selectedRows⟩,
      ⟨3, 10, .affordance⟩] ∧
    PruningRule (Store.view ⟨[]⟩
      [.enter 0 (.setUp "view" "" [] none), .goOn 0,
       .take 0 (.ok ⟨[.bare "a" "", .bare "b" ""], some ⟨"next"⟩⟩), .goOn 0,
       .enter 1 (.projectDeleted "a"), .goOn 1, .enter 2 .fetchMore, .goOn 2,
       .take 2 (.ok ⟨[.bare "a" "", .bare "c" ""], none⟩), .goOn 2])
      [⟨0, 4, .set ["a", "b"]⟩, ⟨1, 6, .sync⟩, ⟨2, 10, .selectedRows⟩, ⟨3, 10, .affordance⟩] :=
  ⟨by decide, run_pruningRule _ _ _ (by decide)⟩

end ProjectViews
