/-
Deleting markers that have expired changes no answer.

Markers are kept in memory or in a database.  Both delete a marker on sight when it has expired,
and a database can be purged, which deletes all that have.  `kept?` says what is left of what was
written under a name, whatever is asked and whenever: both places hold just that, so their answers
agree, and a purge counts just the names that are left with a marker that has expired.

What was deleted had expired at some time that was asked about.  As long as nobody asks about an
earlier time, it has expired for all who ask later, since a marker that has expired stays so.  So
the answers are then those of a place that never deletes anything, `lastWritten?`.
-/
import ProjectViews.Proofs.Usage.Markers
import Mathlib.Data.List.Induction
import Mathlib.Data.List.Nodup

namespace ProjectViews

/-- What can be asked of a place for markers. -/
inductive MarkerCall where
  | write (marker : Marker)
  | read (name : String) (now : Instant)
  /-- Everything that has expired is to be deleted. -/
  | purge (now : Instant)

/-- What a place for markers answers. -/
inductive MarkerAnswer where
  | written (result : Except MarkerError Unit)
  | found (value : Except MarkerError (Option String))
  | purged (count : Except StorageError Nat)

/-- The time that a call is about. -/
def MarkerCall.time? : MarkerCall → Option Instant
  | write _ => none
  | read _ now | purge now => some now

/-- The times that calls are about do not go backwards. -/
def Forwards (calls : List MarkerCall) : Prop :=
  (calls.filterMap MarkerCall.time?).Pairwise fun a b => a.le b = true

namespace MarkerStore

/-- What a call comes to.  Only a database is purged. -/
def call (s : MarkerStore) : MarkerCall → MarkerStore × MarkerAnswer
  | .write m => ((s.write m).1, .written (s.write m).2)
  | .read name now => ((s.read name now).1, .found (s.read name now).2)
  | .purge now =>
    match s.place with
    | .memory _ => (s, .purged (.ok 0))
    | .database c => ({ s with place := .database (c.purge now).1 }, .purged (c.purge now).2)

/-- A place for markers after some calls. -/
def after (s : MarkerStore) (calls : List MarkerCall) : MarkerStore :=
  calls.foldl (fun s c => (s.call c).1) s

/-- What a place for markers answers to calls, one after the other. -/
def answers (s : MarkerStore) : List MarkerCall → List MarkerAnswer
  | [] => []
  | c :: rest => (s.call c).2 :: (s.call c).1.answers rest

end MarkerStore

/-! ### What is left of what was written -/

/-- What is left under a name after a call, of what was left before. -/
def keptAfter (name : String) (kept : Option Marker) : MarkerCall → Option Marker
  | .write m => if m.name = name then some m else kept
  | .read other now => if other = name then Marker.live kept now else kept
  | .purge now => Marker.live kept now

/-- What is left under a name after calls. -/
def kept? (name : String) (calls : List MarkerCall) : Option Marker :=
  calls.foldl (keptAfter name) none

/-- What was written last under a name. -/
def lastWritten? (name : String) (calls : List MarkerCall) : Option Marker :=
  calls.foldl (fun last call =>
    match call with
    | .write m => if m.name = name then some m else last
    | _ => last) none

/-- One instant is before another: it has fewer seconds, or as many and fewer nanoseconds. -/
def Instant.Before (a b : Instant) : Prop :=
  a.seconds < b.seconds ∨ (a.seconds = b.seconds ∧ a.nanos < b.nanos)

instance (a b : Instant) : Decidable (a.Before b) := inferInstanceAs (Decidable (_ ∨ _))

/-- The answer of a place that never deletes anything: what was written last under a name, as long
as its expiry is still to come. -/
def lastingAnswer (calls : List MarkerCall) (name : String) (now : Instant) : Option String :=
  (lastWritten? name calls).bind fun m => if now.Before m.expiresAt then some m.value else none

/-- A marker has expired when its expiry is not still to come. -/
theorem Marker.isExpired_iff {m : Marker} {now : Instant} :
    m.isExpired now = true ↔ ¬ now.Before m.expiresAt := by
  rw [isExpired, Instant.le_iff, Instant.Before]
  omega

/-- What counts of a marker that was found is its value, until it expires. -/
theorem Marker.map_value_live (found : Option Marker) (now : Instant) :
    (Marker.live found now).map (·.value)
      = found.bind fun m => if now.Before m.expiresAt then some m.value else none := by
  cases found with
  | none => rfl
  | some m =>
      cases hexpired : m.isExpired now with
      | true =>
          rw [live_of_expired hexpired, Option.bind_some, if_neg (isExpired_iff.mp hexpired)]
          rfl
      | false =>
          have hbefore : now.Before m.expiresAt :=
            not_not.mp (mt isExpired_iff.mpr (Bool.eq_false_iff.mp hexpired))
          rw [live_of_not_expired hexpired, Option.bind_some, if_pos hbefore]
          rfl

theorem kept?_concat (name : String) (calls : List MarkerCall) (c : MarkerCall) :
    kept? name (calls ++ [c]) = keptAfter name (kept? name calls) c := by
  rw [kept?, List.foldl_append]
  rfl

/-- Who has expired stays so. -/
theorem Marker.isExpired_of_le {m : Marker} {now later : Instant} (h : m.isExpired now = true)
    (le : now.le later = true) : m.isExpired later = true :=
  Instant.le_trans h le

/-- What has been dropped would not count later. -/
theorem Marker.live_live (found : Option Marker) {now later : Instant}
    (le : now.le later = true) :
    Marker.live (Marker.live found now) later = Marker.live found later := by
  cases found with
  | none => rfl
  | some m =>
      cases hnow : m.isExpired now with
      | true =>
          rw [live_of_expired hnow, live_of_expired (isExpired_of_le hnow le)]
          rfl
      | false => rw [live_of_not_expired hnow]

/-- **For who does not ask about an earlier time, nothing was deleted.** -/
theorem live_kept? (name : String) {calls : List MarkerCall} {now : Instant}
    (h : ∀ time ∈ calls.filterMap MarkerCall.time?, time.le now = true) :
    Marker.live (kept? name calls) now = Marker.live (lastWritten? name calls) now := by
  induction calls using List.reverseRecOn with
  | nil => rfl
  | append_singleton calls c ih =>
      rw [List.filterMap_append] at h
      have hbefore := ih fun time htime => h time (List.mem_append_left _ htime)
      have hlast : lastWritten? name (calls ++ [c])
          = match c with
            | .write m => if m.name = name then some m else lastWritten? name calls
            | _ => lastWritten? name calls := by
        rw [lastWritten?, List.foldl_append]
        cases c <;> rfl
      rw [kept?_concat, hlast]
      cases c with
      | write m =>
          simp only [keptAfter]
          split
          · rfl
          · exact hbefore
      | read other time =>
          have htime : time.le now = true :=
            h time (List.mem_append_right _ (by simp [MarkerCall.time?]))
          simp only [keptAfter]
          split
          · rw [Marker.live_live _ htime, hbefore]
          · exact hbefore
      | purge time =>
          have htime : time.le now = true :=
            h time (List.mem_append_right _ (by simp [MarkerCall.time?]))
          simp only [keptAfter]
          rw [Marker.live_live _ htime, hbefore]

/-! ### Purging -/

namespace Database

/-- No name stands twice. -/
def Named (d : Database) : Prop := (d.markers.map (·.name)).Nodup

theorem Named.setMarker {d : Database} (h : d.Named) (m : Marker) : (d.setMarker m).Named := by
  unfold Named Database.setMarker
  by_cases hset : (d.marker? m.name).isSome
  · rw [if_pos hset]
    have hnames : (d.markers.map fun old => if old.name == m.name then m else old).map (·.name)
        = d.markers.map (·.name) := by
      rw [List.map_map]
      refine List.map_congr_left fun old _ => ?_
      by_cases hold : old.name = m.name
      · simp [hold]
      · simp [hold]
    exact hnames ▸ h
  · rw [if_neg hset]
    have habsent : ∀ old ∈ d.markers, old.name ≠ m.name := by
      rw [marker?, Option.not_isSome_iff_eq_none, List.find?_eq_none] at hset
      intro old hold
      simpa using hset old hold
    rw [List.map_append, List.nodup_append]
    refine ⟨h, by simp, ?_⟩
    intro a ha b hb
    obtain ⟨old, hold, rfl⟩ := List.mem_map.mp ha
    obtain rfl : b = m.name := by simpa using hb
    exact habsent old hold

theorem Named.filter {d : Database} (h : d.Named) (p : Marker → Bool) :
    Database.Named { d with markers := d.markers.filter p } :=
  List.Nodup.sublist (List.filter_sublist.map _) h

/-- Where no name stands twice, a marker is found under its name. -/
theorem Named.marker?_eq_some {d : Database} (h : d.Named) {name : String} {m : Marker} :
    d.marker? name = some m ↔ m ∈ d.markers ∧ m.name = name := by
  constructor
  · intro hfound
    exact ⟨List.mem_of_find?_eq_some hfound, by simpa using List.find?_some hfound⟩
  · rintro ⟨hmem, rfl⟩
    cases hfound : d.marker? m.name with
    | none =>
        rw [marker?, List.find?_eq_none] at hfound
        exact absurd (hfound m hmem) (by simp)
    | some other =>
        have hother : other.name = m.name := by simpa using List.find?_some hfound
        rw [List.inj_on_of_nodup_map h (List.mem_of_find?_eq_some hfound) hmem hother]

/-- Dropping markers that have expired leaves under each name what counts. -/
theorem Named.marker?_filter {d : Database} (h : d.Named) (now : Instant) (name : String) :
    Database.marker? { d with markers := d.markers.filter fun m => !m.isExpired now } name
      = Marker.live (d.marker? name) now := by
  refine Option.ext fun m => ?_
  rw [(h.filter _).marker?_eq_some, Marker.live, Option.filter_eq_some_iff, h.marker?_eq_some,
    List.mem_filter]
  tauto

end Database

namespace Connection

variable {c : Connection}

/-- Purging clears what has expired of some markers, and counts it. -/
theorem purgeAll_spec (isOpen : c.isOpen = true) (writable : c.isReadOnly = false)
    (now : Instant) (ms : List Marker) :
    purgeAll now ms c
      = ({ c with tables := { c.tables with
            markers := c.tables.markers.filter fun x =>
              !ms.any fun m => m.isExpired now && m.name == x.name } },
         .ok (ms.countP (·.isExpired now))) := by
  induction ms generalizing c with
  | nil =>
      have hall : c.tables.markers.filter (fun _ => true) = c.tables.markers := by simp
      simp only [purgeAll, List.any_nil, Bool.not_false, hall, List.countP_nil]
  | cons m rest ih =>
      rw [purgeAll]
      cases hexpired : m.isExpired now with
      | false =>
          rw [if_neg (by simp), ih isOpen writable]
          simp [hexpired]
      | true =>
          rw [if_pos rfl, clearMarker, change_of_open isOpen writable]
          dsimp only
          rw [ih (c := { c with tables := c.tables.clearMarker m.name }) isOpen writable]
          have hfilter : (c.tables.clearMarker m.name).markers.filter
                (fun x => !rest.any fun m => m.isExpired now && m.name == x.name)
              = c.tables.markers.filter fun x =>
                  !(m :: rest).any fun m => m.isExpired now && m.name == x.name := by
            rw [Database.clearMarker, List.filter_filter]
            refine List.filter_congr fun x _ => ?_
            by_cases hname : x.name = m.name
            · simp [hexpired, hname]
            · have hne : (m.name == x.name) = false := by simpa using fun e => hname e.symm
              simp [hexpired, hname, hne]
          have hcount : (m :: rest).countP (·.isExpired now)
              = rest.countP (·.isExpired now) + 1 := List.countP_cons_of_pos hexpired
          rw [hcount, ← hfilter]
          rfl

/-- **Purging drops all that has expired, and counts it.** -/
theorem purge_spec (isOpen : c.isOpen = true) (writable : c.isReadOnly = false)
    (named : c.tables.Named) (now : Instant) :
    c.purge now
      = ({ c with tables := { c.tables with
            markers := c.tables.markers.filter fun m => !m.isExpired now } },
         .ok (c.tables.markers.countP (·.isExpired now))) := by
  rw [purge, look_of_open isOpen]
  dsimp only
  rw [purgeAll_spec isOpen writable]
  have hfilter : c.tables.markers.filter
        (fun x => !c.tables.markers.any fun m => m.isExpired now && m.name == x.name)
      = c.tables.markers.filter fun m => !m.isExpired now := by
    refine List.filter_congr fun x hx => ?_
    -- A marker of this name that has expired is this one.
    congr 1
    rw [Bool.eq_iff_iff, List.any_eq_true]
    constructor
    · rintro ⟨m, hm, hexpired⟩
      rw [Bool.and_eq_true, beq_iff_eq] at hexpired
      rw [← List.inj_on_of_nodup_map named hm hx hexpired.2]
      exact hexpired.1
    · intro hexpired
      exact ⟨x, hx, by simp [hexpired]⟩
  rw [hfilter]

/-- Finding a marker does not make a name stand twice. -/
theorem named_marker (named : c.tables.Named) (name : String) (now : Instant) :
    (c.marker name now).1.tables.Named := by
  unfold marker look
  by_cases hopen : c.isOpen = true
  · simp only [if_pos hopen]
    cases c.tables.marker? name with
    | none => exact named
    | some m =>
        dsimp only
        split
        · unfold clearMarker change
          split
          · exact named.filter _
          · exact named
        · exact named
  · simp only [if_neg hopen]
    exact named

end Connection

/-! ### What a place for markers keeps -/

namespace MarkerStore

variable {s : MarkerStore} {kept : String → Option Marker}

/-- Markers are kept, and can be read and written. -/
structure Keeps (s : MarkerStore) (kept : String → Option Marker) : Prop where
  works : s.Works
  held : ∀ name, s.marker? name = kept name

/-- Markers are kept in a database. -/
def InTables (s : MarkerStore) : Prop := ∃ c, s.place = .database c ∧ c.tables.Named

theorem InTables.write (h : s.InTables) (m : Marker) : (s.write m).1.InTables := by
  obtain ⟨c, hplace, named⟩ := h
  unfold MarkerStore.write
  split
  · exact ⟨c, hplace, named⟩
  · simp only [hplace]
    have hset : (c.setMarker m).1.tables.Named := by
      unfold Connection.setMarker Connection.change
      split
      · exact named.setMarker m
      · exact named
    split
    · rename_i heq
      exact ⟨_, rfl, by rw [heq] at hset; exact hset⟩
    · rename_i heq
      exact ⟨_, rfl, by rw [heq] at hset; exact hset⟩

theorem InTables.read (h : s.InTables) (name : String) (now : Instant) :
    (s.read name now).1.InTables := by
  obtain ⟨c, hplace, named⟩ := h
  unfold MarkerStore.read
  split
  · exact ⟨c, hplace, named⟩
  · simp only [hplace]
    have hmarker := Connection.named_marker named name now
    split
    · rename_i heq
      exact ⟨_, rfl, by rw [heq] at hmarker; exact hmarker⟩
    · rename_i heq
      exact ⟨_, rfl, by rw [heq] at hmarker; exact hmarker⟩

/-- Writing puts a marker under its name, and goes well. -/
theorem Keeps.write (h : s.Keeps kept) (m : Marker) :
    (s.call (.write m)).1.Keeps (fun name => keptAfter name (kept name) (.write m)) ∧
      (s.call (.write m)).2 = .written (.ok ()) := by
  have hwrites := writes_of_works h.works m
  refine ⟨⟨hwrites.works, fun name => ?_⟩, congrArg MarkerAnswer.written hwrites.done⟩
  rw [keptAfter, ← h.held name]
  exact (hwrites.held name).trans (by simp only [eq_comm])

/-- Reading finds what counts of what is kept under a name, and keeps no more of it. -/
theorem Keeps.read (h : s.Keeps kept) (name : String) (now : Instant) :
    (s.call (.read name now)).1.Keeps (fun other => keptAfter other (kept other) (.read name now)) ∧
      (s.call (.read name now)).2 = .found (.ok ((Marker.live (kept name) now).map (·.value))) := by
  have hreads := reads_of_works h.works name now
  have hfound := hreads.found
  rw [h.held name] at hfound
  refine ⟨⟨hreads.works, fun other => ?_⟩, congrArg MarkerAnswer.found hfound⟩
  refine (hreads.held other).trans ?_
  rw [keptAfter, h.held name, h.held other]
  by_cases hother : other = name
  · rw [if_pos hother, if_pos hother.symm, hother]
  · rw [if_neg hother, if_neg fun e => hother e.symm]

/-- Under these names, and no others, stands a marker whose expiry is not still to come. -/
structure Expired (s : MarkerStore) (now : Instant) (names : List String) : Prop where
  distinct : names.Nodup
  present : ∀ name, name ∈ names ↔ ∃ m, s.marker? name = some m ∧ ¬ now.Before m.expiresAt

/-- A purge of a database drops what has expired, and counts the names of that. -/
theorem Keeps.purge (h : s.Keeps kept) (tables : s.InTables) (now : Instant) :
    (s.call (.purge now)).1.Keeps (fun name => keptAfter name (kept name) (.purge now)) ∧
      (s.call (.purge now)).1.InTables ∧
      ∃ names, s.Expired now names ∧ (s.call (.purge now)).2 = .purged (.ok names.length) := by
  obtain ⟨c, hplace, named⟩ := tables
  have hworks : c.isOpen = true ∧ c.isReadOnly = false := by
    have := h.works.place
    rwa [hplace] at this
  have hcall : s.call (.purge now)
      = ({ s with place := .database (c.purge now).1 }, .purged (c.purge now).2) := by
    simp only [call, hplace]
  rw [hcall, Connection.purge_spec hworks.1 hworks.2 named now]
  have hmarker : ∀ name, s.marker? name = c.tables.marker? name := by
    intro name
    rw [MarkerStore.marker?, hplace]
    rfl
  refine ⟨⟨⟨h.works.reads, h.works.writes, hworks⟩, fun name => ?_⟩, ?_, ?_⟩
  · rw [keptAfter, ← h.held name, hmarker]
    exact named.marker?_filter now name
  · exact ⟨_, rfl, named.filter _⟩
  · refine ⟨(c.tables.markers.filter (·.isExpired now)).map (·.name), ⟨?_, fun name => ?_⟩, ?_⟩
    · exact List.Nodup.sublist (List.filter_sublist.map _) named
    · simp only [List.mem_map, List.mem_filter, hmarker, named.marker?_eq_some,
        Marker.isExpired_iff]
      tauto
    · rw [List.length_map, List.countP_eq_length_filter]

theorem after_concat (s : MarkerStore) (calls : List MarkerCall) (c : MarkerCall) :
    s.after (calls ++ [c]) = ((s.after calls).call c).1 := by
  rw [after, List.foldl_append]
  rfl

/-- A call leaves in a database what is left after it. -/
theorem Keeps.call (h : s.Keeps kept) (tables : s.InTables) (c : MarkerCall) :
    (s.call c).1.Keeps (fun name => keptAfter name (kept name) c) ∧ (s.call c).1.InTables := by
  cases c with
  | write m => exact ⟨(h.write m).1, tables.write m⟩
  | read name now => exact ⟨(h.read name now).1, tables.read name now⟩
  | purge now => exact ⟨(h.purge tables now).1, (h.purge tables now).2.1⟩

/-- A database that held no markers holds what is left of those that were written since. -/
theorem Keeps.after (h : s.Keeps fun _ => none) (tables : s.InTables) (calls : List MarkerCall) :
    (s.after calls).Keeps (fun name => kept? name calls) ∧ (s.after calls).InTables := by
  induction calls using List.reverseRecOn with
  | nil => exact ⟨h, tables⟩
  | append_singleton calls c ih =>
      rw [after_concat]
      simp only [kept?_concat]
      exact ih.1.call ih.2 c

/-- Two places that keep the same answer the same, as long as neither is purged. -/
theorem answers_eq_of_keeps {t : MarkerStore} {calls : List MarkerCall}
    (hcalls : ∀ now, .purge now ∉ calls) (hs : s.Keeps kept) (ht : t.Keeps kept) :
    s.answers calls = t.answers calls := by
  induction calls generalizing s t kept with
  | nil => rfl
  | cons c rest ih =>
      have hrest : ∀ now, .purge now ∉ rest := fun now hmem =>
        hcalls now (List.mem_cons_of_mem _ hmem)
      rw [answers, answers]
      cases c with
      | write m =>
          rw [(hs.write m).2, (ht.write m).2, ih hrest (hs.write m).1 (ht.write m).1]
      | read name now =>
          rw [(hs.read name now).2, (ht.read name now).2,
            ih hrest (hs.read name now).1 (ht.read name now).1]
      | purge now => exact absurd List.mem_cons_self (hcalls now)

theorem inMemory_keeps : inMemory.Keeps fun _ => none := ⟨works_inMemory, fun _ => rfl⟩

/-- A database that works and in which there is no marker. -/
theorem inDatabase_keeps {c : Connection} (isOpen : c.isOpen = true)
    (writable : c.isReadOnly = false) (markers : c.tables.markers = []) :
    (inDatabase c).Keeps (fun _ => none) ∧ (inDatabase c).InTables := by
  refine ⟨⟨⟨rfl, rfl, isOpen, writable⟩, fun name => ?_⟩, c, rfl, ?_⟩
  · have hnone : c.tables.marker? name = none := by rw [Database.marker?, markers]; rfl
    exact hnone
  · rw [Database.Named, markers]
    exact List.nodup_nil

end MarkerStore

/-- What deleting markers comes to, in a database that held none at first. -/
structure ExpiryRule (c : Connection) : Prop where
  /-- A place in memory and a database give the same answers. -/
  agree : ∀ calls : List MarkerCall, (∀ now, .purge now ∉ calls) →
    (MarkerStore.inDatabase c).answers calls = MarkerStore.inMemory.answers calls
  /-- What is read is what was written last, as long as its expiry is still to come, as if nothing
  had been deleted by reading or by purging before. -/
  invisible : ∀ (earlier : List MarkerCall) (name : String) (now : Instant),
    Forwards (earlier ++ [.read name now]) →
    (((MarkerStore.inDatabase c).after earlier).call (.read name now)).2
      = .found (.ok (lastingAnswer earlier name now))
  /-- The answer to a purge is the number of names under which a marker has expired. -/
  counted : ∀ (earlier : List MarkerCall) (now : Instant),
    ∃ names, ((MarkerStore.inDatabase c).after earlier).Expired now names ∧
      (((MarkerStore.inDatabase c).after earlier).call (.purge now)).2
        = .purged (.ok names.length)

/-- **Deleting markers that have expired cannot be seen.** -/
theorem expiryRule {c : Connection} (isOpen : c.isOpen = true) (writable : c.isReadOnly = false)
    (markers : c.tables.markers = []) : ExpiryRule c := by
  obtain ⟨hkeeps, htables⟩ := MarkerStore.inDatabase_keeps isOpen writable markers
  refine ⟨?_, ?_, ?_⟩
  · intro calls hcalls
    exact MarkerStore.answers_eq_of_keeps hcalls hkeeps MarkerStore.inMemory_keeps
  · intro earlier name now forwards
    have hbefore : ∀ time ∈ earlier.filterMap MarkerCall.time?, time.le now = true := by
      intro time htime
      rw [Forwards, List.filterMap_append, List.pairwise_append] at forwards
      exact forwards.2.2 time htime now (by simp [MarkerCall.time?])
    rw [((hkeeps.after htables earlier).1.read name now).2, live_kept? name hbefore,
      Marker.map_value_live]
    rfl
  · intro earlier now
    have hafter := hkeeps.after htables earlier
    exact (hafter.1.purge hafter.2 now).2.2

theorem expiryRule_new_database : ExpiryRule Connection.inMemory :=
  expiryRule rfl rfl rfl

end ProjectViews
