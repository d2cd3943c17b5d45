/-
The store of a view: its state and the operations on it that have not ended yet.

An operation commits first, and from then on it stands somewhere.  It may be ready to
go on by itself; it may have asked the server for a page and wait for the answer; it
may have handed the settings over to be saved and wait until they are; or it may want
to save and wait for its turn, because only one operation saves at a time and turns are
taken in the order in which they were asked for.

A step is what one operation does while it has the view or the line to itself: it
commits, tells the watchers and goes on, hands the settings over, learns that they are
saved, or takes an answer in.  Between two steps of an operation any other may make
steps of its own.  Which step comes next is decided outside: by the server, by whoever
keeps the settings, and by whoever uses the view.  When operations are only left alone
where they must wait, the steps that follow each other without a wait are made in one
go.
-/
import ProjectViews.View.Operation

namespace ProjectViews

/-- Where an operation stands. -/
inductive Stage where
  /-- It goes on by itself: it has something to tell the watchers and something to do
  next. -/
  | ready (events : List Event) (next : Next)
  /-- It waits for its turn to save. -/
  | queued (uid : String) (after : AfterSave)
  /-- It has handed the settings over for a view. -/
  | saving (uid : String) (settings : ViewSettings) (after : AfterSave)
  /-- It has asked the server for a page of a generation. -/
  | fetching (generation : Nat) (query : Query)
deriving Repr, Inhabited

/-- What a step gives to the outside. -/
inductive Output where
  | event (event : Event)
  /-- An operation asks the server. -/
  | request (task : Nat) (query : Query)
  /-- An operation hands settings over to be saved for a view. -/
  | save (task : Nat) (uid : String) (settings : ViewSettings)
  /-- An operation has ended. -/
  | finished (task : Nat) (result : Result)
deriving Repr, Inhabited

/-- A view and its unfinished operations. -/
structure Store where
  registry : Registry
  state : ViewState
  /-- The unfinished operations, by number. -/
  tasks : List (Nat × Stage)
  /-- The operations that want to save, in their turn.  It is the turn of the first
  one. -/
  line : List Nat
deriving Repr

namespace Store

/-- A store whose view is not set up yet. -/
def empty (registry : Registry) : Store := ⟨registry, .initial, [], []⟩

instance : Inhabited Store := ⟨empty ⟨[]⟩⟩

/-- Where an operation stands, when it is unfinished. -/
def stage? (s : Store) (task : Nat) : Option Stage :=
  (s.tasks.find? fun t => t.1 == task).map (·.2)

/-- The store without an operation that has ended. -/
def leave (s : Store) (task : Nat) : Store :=
  { s with tasks := s.tasks.filter fun t => t.1 != task }

/-- The store with an operation at a new place. -/
def put (s : Store) (task : Nat) (stage : Stage) : Store :=
  { s.leave task with tasks := (s.leave task).tasks ++ [(task, stage)] }

@[simp] theorem leave_state (s : Store) (task : Nat) : (s.leave task).state = s.state := rfl

@[simp] theorem leave_line (s : Store) (task : Nat) : (s.leave task).line = s.line := rfl

@[simp] theorem put_state (s : Store) (task : Nat) (stage : Stage) :
    (s.put task stage).state = s.state := rfl

/-- An operation that has left stands nowhere, and the others stay where they were. -/
theorem stage?_leave (s : Store) (task u : Nat) :
    (s.leave task).stage? u = if u = task then none else s.stage? u := by
  unfold stage? leave
  rw [List.find?_filter]
  by_cases hu : u = task
  · subst hu
    rw [if_pos rfl, Option.map_eq_none_iff, List.find?_eq_none]
    intro t _
    simp
  · rw [if_neg hu]
    congr 2
    funext t
    by_cases ht : t.1 = u
    · simp [ht, hu]
    · simp [ht]

/-- An operation that was put somewhere stands there, and the others stay where they
were. -/
theorem stage?_put (s : Store) (task u : Nat) (stage : Stage) :
    (s.put task stage).stage? u = if u = task then some stage else s.stage? u := by
  have hleave := stage?_leave s task u
  have happend : (s.put task stage).stage? u
      = ((s.leave task).stage? u).or (if u = task then some stage else none) := by
    unfold stage? put
    rw [List.find?_append]
    by_cases hu : u = task
    · cases (s.leave task).tasks.find? fun t => t.1 == u <;> simp [hu]
    · have hne : (task == u) = false := by simpa using fun h => hu h.symm
      cases (s.leave task).tasks.find? fun t => t.1 == u <;> simp [hu, hne]
  rw [happend, hleave]
  by_cases hu : u = task
  · simp [hu]
  · simp [hu]

@[simp] theorem stage?_leave_self (s : Store) (task : Nat) :
    (s.leave task).stage? task = none := by
  rw [stage?_leave, if_pos rfl]

@[simp] theorem stage?_put_self (s : Store) (task : Nat) (stage : Stage) :
    (s.put task stage).stage? task = some stage := by
  rw [stage?_put, if_pos rfl]

/-! ### Steps -/

/-- An operation commits.  A number that is in use is not given to another one. -/
def enter (s : Store) (task : Nat) (op : Operation) : Store :=
  match s.stage? task with
  | some _ => s
  | none =>
    let c := op.commit s.registry s.state
    { s with state := c.state }.put task (.ready c.events c.next)

/-- An operation that is ready tells the watchers and does what comes next: it ends, it
asks the server, or it joins the line of those that want to save. -/
def goOn (s : Store) (task : Nat) : Store × List Output :=
  match s.stage? task with
  | some (.ready events next) =>
    let told := events.map .event
    match next with
    | .done result => (s.leave task, told ++ [.finished task result])
    | .fetch generation query =>
      (s.put task (.fetching generation query), told ++ [.request task query])
    | .save uid after => ({ s.put task (.queued uid after) with line := s.line ++ [task] }, told)
  | _ => (s, [])

/-- An operation whose turn it is hands the settings over, as they are by now. -/
def takeTurn (s : Store) (task : Nat) : Store × List Output :=
  match s.stage? task with
  | some (.queued uid after) =>
    if s.line.head? = some task then
      (s.put task (.saving uid s.state.settings after), [.save task uid s.state.settings])
    else (s, [])
  | _ => (s, [])

/-- Saving has returned to an operation, whether it worked or not: the next one in line
has its turn. -/
def endTurn (s : Store) (task : Nat) : Store :=
  match s.stage? task with
  | some (.saving _ _ after) => { s with line := s.line.drop 1 }.put task (.ready [] after.next)
  | _ => s

/-- An operation takes the answer of the server in. -/
def take (s : Store) (task : Nat) (answer : Except Failure RowPage) : Store :=
  match s.stage? task with
  | some (.fetching generation _) =>
    let (state, events, outcome) := s.state.receive generation answer
    { s with state := state }.put task (.ready events (.done (.fetched outcome)))
  | _ => s

/-! ### Steps without a wait between them -/

/-- Takes an operation that is ready on to where it waits next, or to its end. -/
def runOn (s : Store) (task : Nat) : Store × List Output :=
  let (s, out) := s.goOn task
  let (s, more) := s.takeTurn task
  (s, out ++ more)

/-- Starts an operation. -/
def start (s : Store) (task : Nat) (op : Operation) : Store × List Output :=
  (s.enter task op).runOn task

/-- Saving has returned to an operation, which goes on. -/
def saved (s : Store) (task : Nat) : Store × List Output := (s.endTurn task).runOn task

/-- The server has answered an operation, which goes on. -/
def answered (s : Store) (task : Nat) (answer : Except Failure RowPage) : Store × List Output :=
  (s.take task answer).runOn task

/-- The operation that has its turn to save but has not taken it yet. -/
def nextInLine (s : Store) : Option Nat :=
  match s.line with
  | [] => none
  | task :: _ =>
    match s.stage? task with
    | some (.queued _ _) => some task
    | _ => none

end Store

end ProjectViews
