/-
What an operation of a session comes to.

A session runs one operation at a time, with whatever effects its network has.  So what an
operation comes to is said under any assumption about what the server answers, with `SatisfiesM`:
it is what its commit says it is, with the settings saved and the answer taken in where it asks
for that, which is `Ends`.  Two steps of a session can be put behind the other, because at the end
of each there is nothing under way, `Quiet`.

Whether settings can be saved makes no difference to the view, so the database does not occur in
what is said here.
-/
import Mathlib
import ProjectViews.Proofs.View.Solo
import ProjectViews.View.Session

namespace ProjectViews

/-- How an operation ends that has committed, when requests are answered as assumed. -/
inductive Ends (answers : Query → Except Failure RowPage → Prop) (c : Commit) :
    ViewState → Result → Prop
  /-- There was nothing left to do. -/
  | done {result : Result} (next : c.next = .done result) : Ends answers c c.state result
  /-- There were only the settings to be saved. -/
  | saved {uid : String} (next : c.next = .save uid .finish) : Ends answers c c.state .fieldsSet
  /-- The server was asked. -/
  | answered {generation : Nat} {query : Query} {answer : Except Failure RowPage}
      (errand : c.next.errand? = some (generation, query)) (answered : answers query answer) :
      Ends answers c (c.state.receive generation answer).1
        (.fetched (c.state.receive generation answer).2.2)

namespace Session

/-- No operation is under way. -/
structure Quiet (s : Session) : Prop where
  free : s.store.stage? 0 = none
  line : s.store.line = []

/-- What a session is when an operation has ended that has committed so. -/
structure Performed (answers : Query → Except Failure RowPage → Prop) (client : Client)
    (registry : Registry) (c : Commit) (t : Session × Option Result) : Prop where
  quiet : t.1.Quiet
  client : t.1.client = client
  registry : t.1.store.registry = registry
  ends : ∃ result, t.2 = some result ∧ Ends answers c t.1.store.state result

section Carrying

variable {m : Type → Type} [Monad m] (network : Network m) (fuel : Nat) (s : Session)
  (outputs : List Output)

end Carrying

section Performing

variable {m : Type → Type} [Monad m] [LawfulMonad m] {network : Network m}
  {answers : Query → Except Failure RowPage → Prop} {c : Commit} {store : Store} {fuel : Nat}

end Performing

end Session

end ProjectViews
