/-
Rehearsals: a view store played against a scripted server and a place for settings.

The server gives the answers of its script one by one, and empty pages after the last.
An answer may be held back until it is released, and so may saving.  After each step
every operation runs until it has ended or waits for something that is held back, or
for its turn to save: an operation that was waiting runs on before those that it lets
go on in turn.

A rehearsal may change to a new store over the same server and settings; what the old
one has begun goes on.
-/
import ProjectViews.Storage.Connection
import ProjectViews.View.Selection
import ProjectViews.View.Store

namespace ProjectViews

/-- An answer of a script, perhaps held back under a name. -/
structure Reply where
  answer : Except Failure RowPage
  hold : Option String

/-- Where settings are kept. -/
inductive SettingsPlace where
  | nowhere
  /-- Texts in memory by view; loading or saving may fail, and the saves with the given
  numbers are held back. -/
  | memory (texts : List (String × String)) (failsToLoad failsToSave : Bool) (held : List Nat)
  | database (connection : Connection)
deriving Repr, Inhabited

namespace SettingsPlace

/-- The text kept for a view. -/
def text? : SettingsPlace → String → Option String
  | nowhere, _ => none
  | memory texts _ _ _, view => Json.lookup? view texts
  | database c, view =>
    match c.viewSettings view with
    | (_, .ok text) => text
    | (_, .error _) => none

/-- The settings kept for a view, when they can be loaded and read. -/
def load (p : SettingsPlace) (view : String) : Option ViewSettings :=
  match p with
  | memory _ true _ _ => none
  | _ => (p.text? view).bind ViewSettings.parse

/-- The place with a text kept for a view, and whether that worked. -/
def save (p : SettingsPlace) (view text : String) : SettingsPlace × Bool :=
  match p with
  | nowhere => (p, true)
  | memory texts failsToLoad failsToSave held =>
    if failsToSave then (p, false)
    else (memory (Json.insertMember view text texts) failsToLoad failsToSave held, true)
  | database c =>
    match c.saveViewSettings view text with
    | (c, .ok _) => (database c, true)
    | (c, .error _) => (database c, false)

/-- Whether settings can be saved: there is a place for them, and it does not refuse. -/
def Works : SettingsPlace → Prop
  | nowhere => False
  | memory _ _ failsToSave _ => failsToSave = false
  | database c => c.isOpen = true ∧ c.isReadOnly = false

theorem text?_database (c : Connection) (view : String) :
    (database c).text? view = if c.isOpen then c.tables.settings? view else none := by
  cases hopen : c.isOpen <;> simp [text?, Connection.viewSettings, Connection.look, hopen]

/-- A place that works keeps the text, and goes on working. -/
theorem save_of_works {p : SettingsPlace} (h : p.Works) (view text : String) :
    (p.save view text).2 = true ∧ (p.save view text).1.Works ∧
      (p.save view text).1.text? view = some text := by
  cases p with
  | nowhere => exact h.elim
  | memory texts failsToLoad failsToSave held =>
      have hsave : failsToSave = false := h
      subst hsave
      exact ⟨rfl, rfl, Json.lookup?_insertMember_self view text texts⟩
  | database c =>
      have hsave : (database c).save view text
          = (database { c with tables := c.tables.saveSettings view text }, true) := by
        rw [save, Connection.saveViewSettings, Connection.change, h.1, h.2]
        rfl
      rw [hsave]
      refine ⟨rfl, h, ?_⟩
      rw [text?_database, if_pos h.1, Database.settings?_saveSettings_self]

/-- The texts of other views are still there, whether saving works or not. -/
theorem text?_save_of_ne (p : SettingsPlace) {view other : String} (h : other ≠ view)
    (text : String) : (p.save view text).1.text? other = p.text? other := by
  cases p with
  | nowhere => rfl
  | memory texts failsToLoad failsToSave held =>
      cases failsToSave with
      | true => rfl
      | false => exact Json.lookup?_insertMember_of_ne h text texts
  | database c =>
      rw [save, Connection.saveViewSettings, Connection.change]
      by_cases hc : (c.isOpen && !c.isReadOnly) = true
      · rw [if_pos hc, text?_database, text?_database, Database.settings?_saveSettings_of_ne _ h]
      · rw [if_neg hc]

/-- Whether the save with a number is held back. -/
def holds (p : SettingsPlace) (number : Nat) : Bool :=
  match p with
  | memory _ _ _ held => held.contains number
  | _ => false

end SettingsPlace

/-- What is held back: an answer to an operation of a store, or its saving. -/
inductive Held where
  | answer (store task : Nat) (answer : Except Failure RowPage)
  | save (store task : Nat) (view : String) (settings : ViewSettings)

/-- What happened during a step. -/
structure Log where
  events : List Event
  requests : List Query
  saves : List String
  finished : List (Nat × Result)
deriving Inhabited

/-- A rehearsal. -/
structure Rehearsal where
  registry : Registry
  script : List Reply
  place : SettingsPlace
  /-- How often saving has been asked for. -/
  saveCount : Nat
  stores : List Store
  held : List (String × Held)
  selection : Selection
  marks : List (String × Snapshot)
  log : Log

namespace Rehearsal

/-- The start of a rehearsal. -/
def begin (registry : Registry) (script : List Reply) (place : SettingsPlace) : Rehearsal where
  registry := registry
  script := script
  place := place
  saveCount := 0
  stores := [.empty registry]
  held := []
  selection := .empty
  marks := []
  log := default

/-- The number of the store that is in use. -/
def current (r : Rehearsal) : Nat := r.stores.length - 1

/-- A store by its number. -/
def store (r : Rehearsal) (i : Nat) : Store := (r.stores[i]?).getD default

/-- The rehearsal with a store changed. -/
def setStore (r : Rehearsal) (i : Nat) (s : Store) : Rehearsal :=
  { r with stores := r.stores.set i s }

/-- What the store in use shows now. -/
def snapshot (r : Rehearsal) : Snapshot := (r.store r.current).state.snapshot

/-- Takes note of an event of a store, if it is the one in use. -/
def note (r : Rehearsal) (i : Nat) (e : Event) : Rehearsal :=
  if i = r.current then { r with log := { r.log with events := r.log.events ++ [e] } } else r

/-- Takes note of the end of an operation. -/
def finish (r : Rehearsal) (task : Nat) (result : Result) : Rehearsal :=
  { r with log := { r.log with finished := r.log.finished ++ [(task, result)] } }

/-- Gives an answer to an operation, which ends with it. -/
def deliver (r : Rehearsal) (i task : Nat) (answer : Except Failure RowPage) : Rehearsal :=
  let (s, outputs) := (r.store i).answered task answer
  outputs.foldl (fun r o =>
    match o with
    | .event e => r.note i e
    | .finished task result => r.finish task result
    | _ => r) (r.setStore i s)

/-- Puts a request to the server. -/
def ask (r : Rehearsal) (i task : Nat) (query : Query) : Rehearsal :=
  let r := { r with log := { r.log with requests := r.log.requests ++ [query] } }
  match r.script with
  | [] => r.deliver i task (.ok ⟨[], none⟩)
  | reply :: rest =>
    let r := { r with script := rest }
    match reply.hold with
    | some name => { r with held := r.held ++ [(name, .answer i task reply.answer)] }
    | none => r.deliver i task reply.answer

/-- Saves settings, and takes the operation that saves them on. -/
def completeSave (r : Rehearsal) (i task : Nat) (view : String) (settings : ViewSettings) :
    Rehearsal :=
  let text := settings.print
  let (place, worked) := r.place.save view text
  let kept := match place with
    | .memory _ _ _ _ => worked
    | _ => false
  let r := { r with
    place := place
    log := { r.log with saves := if kept then r.log.saves ++ [text] else r.log.saves } }
  let (s, outputs) := (r.store i).saved task
  outputs.foldl (fun r o =>
    match o with
    | .event e => r.note i e
    | .request task query => r.ask i task query
    | .finished task result => r.finish task result
    | .save _ _ _ => r) (r.setStore i s)

/-- Hands settings over to be saved. -/
def handOver (r : Rehearsal) (i task : Nat) (view : String) (settings : ViewSettings) :
    Rehearsal :=
  let number := r.saveCount
  let r := { r with saveCount := number + 1 }
  if r.place.holds number then
    { r with held := r.held ++ [("save:" ++ Number.write number, .save i task view settings)] }
  else r.completeSave i task view settings

/-- Carries out what a step of a store asks for. -/
def carryOut (r : Rehearsal) (i : Nat) (outputs : List Output) : Rehearsal :=
  outputs.foldl (fun r o =>
    match o with
    | .event e => r.note i e
    | .request task query => r.ask i task query
    | .save task view settings => r.handOver i task view settings
    | .finished task result => r.finish task result) r

/-- Lets the operations of a store that have their turn to save take it, for at most
`fuel` of them. -/
def takeTurns (i : Nat) : (fuel : Nat) → Rehearsal → Rehearsal
  | 0, r => r
  | fuel + 1, r =>
    match (r.store i).nextInLine with
    | none => r
    | some task =>
      let (s, outputs) := (r.store i).takeTurn task
      takeTurns i fuel ((r.setStore i s).carryOut i outputs)

/-- Lets every operation of a store that can go on do so. -/
def settle (r : Rehearsal) (i : Nat) : Rehearsal := takeTurns i ((r.store i).line.length + 1) r

/-- Starts an operation of the store in use. -/
def start (r : Rehearsal) (task : Nat) (op : Operation) : Rehearsal :=
  let i := r.current
  let (s, outputs) := (r.store i).start task op
  ((r.setStore i s).carryOut i outputs).settle i

/-- Sets the view of the store in use up with the settings kept for it. -/
def setUp (r : Rehearsal) (task : Nat) (view baseQuery : String) (fields : List Field) :
    Rehearsal :=
  r.start task (.setUp view baseQuery fields (r.place.load view))

/-- Releases what is held back under a name, and says whether there was anything. -/
def release (r : Rehearsal) (name : String) : Rehearsal × Bool :=
  match r.held.find? fun h => h.1 == name with
  | none => (r, false)
  | some (_, held) =>
    let r := { r with held := r.held.eraseP fun h => h.1 == name }
    match held with
    | .answer i task answer => ((r.deliver i task answer).settle i, true)
    | .save i task view settings => ((r.completeSave i task view settings).settle i, true)

/-- Changes to a new store. -/
def newStore (r : Rehearsal) : Rehearsal :=
  { r with stores := r.stores ++ [.empty r.registry] }

/-- Keeps the present snapshot under a name. -/
def mark (r : Rehearsal) (name : String) : Rehearsal :=
  { r with marks := (name, r.snapshot) :: r.marks }

/-- The snapshot kept under a name. -/
def marked? (r : Rehearsal) (name : String) : Option Snapshot := Json.lookup? name r.marks

/-- Closes the database that settings are kept in. -/
def closeStorage (r : Rehearsal) : Rehearsal :=
  match r.place with
  | .database c => { r with place := .database { c with isOpen := false } }
  | _ => r

/-- The rehearsal before its next step: nothing has happened yet. -/
def nextStep (r : Rehearsal) : Rehearsal := { r with log := default }

end Rehearsal

end ProjectViews
