/-
A view is set up again as it was left.

The settings of a view go through three hands until a new view has them again.  They are
written and read as text, which gives them back.  They are kept in a place, which returns
the text that it was given last.  And they are sorted out by the registry, which has
nothing to object to: what a view is set to is permitted at any time, whatever has been
restored, set or refused before, and what is permitted is let through unchanged.
-/
import ProjectViews.Proofs.Json.Settings
import ProjectViews.Proofs.View.Saving
import ProjectViews.Proofs.View.Validity

namespace ProjectViews

/-! ### What is kept -/

namespace SettingsPlace

/-- Whether there is anything that texts are kept in. -/
def Keeps : SettingsPlace → Prop
  | nowhere => False
  | memory _ _ _ _ | database _ => True

/-- Whether the texts that are kept can be loaded. -/
def Answers : SettingsPlace → Prop
  | nowhere => True
  | memory _ failsToLoad _ _ => failsToLoad = false
  | database c => c.isOpen = true

variable {p : SettingsPlace} {view text : String}

theorem works_of_saved (h : p.Keeps) (saved : (p.save view text).2 = true) : p.Works := by
  cases p with
  | nowhere => exact h
  | memory texts failsToLoad failsToSave held =>
      cases failsToSave with
      | false => rfl
      | true => cases saved
  | database c =>
      rw [save, Connection.saveViewSettings, Connection.change] at saved
      by_cases hc : (c.isOpen && !c.isReadOnly) = true
      · show c.isOpen = true ∧ c.isReadOnly = false
        simpa using hc
      · rw [if_neg hc] at saved
        cases saved

theorem load_of_text? (h : p.Answers) (htext : p.text? view = some text) :
    p.load view = ViewSettings.parse text := by
  cases p with
  | nowhere => cases htext
  | memory texts failsToLoad failsToSave held =>
      obtain rfl : failsToLoad = false := h
      show ((memory texts false failsToSave held).text? view).bind _ = _
      rw [htext]
      rfl
  | database c =>
      show ((database c).text? view).bind _ = _
      rw [htext]
      rfl

end SettingsPlace

/-- A place keeps a text for a view: it was saved there with success, and only texts of
other views have been saved since, and it can be loaded. -/
structure Kept (place kept : SettingsPlace) (view text : String) : Prop where
  keeps : place.Keeps
  saved : (place.save view text).2 = true
  since : ∃ saves : List Save, (∀ save ∈ saves, view ≠ save.uid) ∧
    kept = (place.save view text).1.keep saves
  answers : kept.Answers

/-- Settings that are kept are loaded. -/
theorem Kept.load {place kept : SettingsPlace} {view : String} {settings : ViewSettings}
    (h : Kept place kept view settings.print) : kept.load view = some settings := by
  obtain ⟨saves, hothers, hkept⟩ := h.since
  have htext : kept.text? view = some settings.print := by
    rw [hkept, SettingsPlace.text?_keep_of_ne _ hothers]
    exact (SettingsPlace.save_of_works (SettingsPlace.works_of_saved h.keeps h.saved) _ _).2.2
  rw [SettingsPlace.load_of_text? h.answers htext, ViewSettings.parse_print]

/-! ### What is let through -/

/-- A list without repetitions has nothing to drop. -/
theorem firsts_of_nodup {α : Type} [DecidableEq α] {xs : List α} (h : xs.Nodup) :
    firsts xs = xs := by
  suffices hfold : ∀ found : List α, (found ++ xs).Nodup →
      xs.foldl (fun found x => if x ∈ found then found else found ++ [x]) found = found ++ xs from
    hfold [] h
  clear h
  induction xs with
  | nil => simp
  | cons x xs ih =>
      intro found hnodup
      have hx : x ∉ found := fun hmem =>
        (List.nodup_append.mp hnodup).2.2 x hmem x List.mem_cons_self rfl
      rw [List.foldl_cons, if_neg hx, ih (found ++ [x]) (by simpa using hnodup)]
      simp

theorem Showable.admitted_eq {r : Registry} {fields : List Field} (h : Showable r fields) :
    ViewState.admitted r fields = fields := by
  have hfilter : fields.filter (fun f => !r.isExcluded f) = fields :=
    List.filter_eq_self.mpr fun f hf => by rw [Registry.admits_iff.mp (h.2 f hf)]; rfl
  rw [ViewState.admitted, hfilter, firsts_of_nodup h.1]

/-- What a view was set to is restored as it was. -/
theorem Permitted.settings_restore {r : Registry} {s : ViewState} (h : Permitted r s)
    (fresh : ViewState) : (fresh.restore r s.settings).settings = s.settings := by
  have hfields : ViewState.admitted r s.visibleFields = s.visibleFields := h.visible.admitted_eq
  have hfilters : s.filters.filter (fun f => !r.isExcluded f.field) = s.filters :=
    List.filter_eq_self.mpr fun f hf => by rw [Registry.admits_iff.mp (h.filters f hf)]; rfl
  have horder : s.order.filter (fun o => r.isOrderable o.field) = s.order := by
    cases ho : s.order with
    | none => rfl
    | some o => exact Option.filter_eq_some_iff.mpr ⟨rfl, h.order o ho⟩
  show (⟨some (ViewState.admitted r s.visibleFields), _, _⟩ : ViewSettings) = _
  rw [hfields]
  exact congrArg₂ (ViewSettings.mk (some s.visibleFields)) hfilters horder

/-! ### Setting up -/

/-- Without a new operation the settings stay. -/
theorem Effect.settings {s : Store} {m : Move} {t : Store × List Output} (e : Effect s m t)
    (hm : ∀ u op, m ≠ .enter u op) : t.1.state.settings = s.state.settings := by
  rcases e.state_cases with hstate | ⟨u, op, rfl, -, -⟩ | ⟨_, _, _, _, -, -, hstate⟩
  · rw [hstate]
  · exact absurd rfl (hm u op)
  · rw [hstate]
    exact (s.state.receive_keeps _ _).2.2.2

theorem settings_run {s : Store} {later : List Move} (hlater : ∀ u op, .enter u op ∉ later) :
    (s.run later).state.settings = s.state.settings := by
  induction later generalizing s with
  | nil => rfl
  | cons m rest ih =>
      have hrest := @ih (s.step m).1 fun u op hc => hlater u op (List.mem_cons_of_mem _ hc)
      exact hrest.trans
        ((effect_step s m).settings fun u op hc => hlater u op (hc ▸ List.mem_cons_self))

/-- An operation that asks the server at once does so when it is started. -/
theorem start_of_fetch {s : Store} {task : Nat} {op : Operation} {state : ViewState}
    {events : List Event} {generation : Nat} {query : Query} (free : s.stage? task = none)
    (commit : op.commit s.registry s.state = ⟨state, events, .fetch generation query⟩) :
    (s.start task op).1.state = state ∧
      (s.start task op).2 = events.map .event ++ [.request task query] := by
  have henter : s.enter task op
      = { s with state := state }.put task (.ready events (.fetch generation query)) := by
    rw [Store.enter, free, commit]
  have hgoOn : (s.enter task op).goOn task
      = ((s.enter task op).put task (.fetching generation query),
          events.map .event ++ [.request task query]) := by
    rw [Store.goOn, henter, Store.stage?_put_self]
  have hturn : ((s.enter task op).put task (.fetching generation query)).takeTurn task
      = ((s.enter task op).put task (.fetching generation query), []) := by
    rw [Store.takeTurn, Store.stage?_put_self]
  have hstart : s.start task op = ((s.enter task op).put task (.fetching generation query),
      events.map .event ++ [.request task query]) := by
    simp only [Store.start, Store.runOn, hgoOn, hturn, List.append_nil]
  rw [hstart, henter]
  exact ⟨rfl, rfl⟩

/-- A new store that is set up restores the settings and asks for the first page. -/
theorem start_setUp (r : Registry) (task : Nat) (view baseQuery : String) (fields : List Field)
    (saved : ViewSettings) : ∃ base : ViewState,
    let fresh := (Store.empty r).start task (.setUp view baseQuery fields (some saved))
    fresh.1.state.settings = (base.restore r saved).settings ∧
      fresh.2 = [.event (.rowsReset 1), .event (.stateChanged 1),
        .request task ⟨baseQuery, (base.restore r saved).filters,
          (base.restore r saved).order, none⟩] := by
  refine ⟨{ ViewState.initial with
    uid := some view
    baseQuery := baseQuery
    defaultFields := ViewState.admitted r fields
    visibleFields := ViewState.admitted r fields }, ?_⟩
  obtain ⟨hstate, hout⟩ :=
    @start_of_fetch (.empty r) task (.setUp view baseQuery fields (some saved)) _ _ _ _ rfl rfl
  exact ⟨by rw [hstate]; rfl, hout⟩

/-! ### The rule of restarts -/

/-- What a new store over the same registry has of the settings of a store, when it is set up
with what was kept. -/
structure RestartRule (r : Registry) (s : Store) : Prop where
  /-- The first thing it does is to ask for what the filters and the order say. -/
  asked : ∀ place kept view, Kept place kept view s.state.settings.print →
    ∀ task baseQuery fields,
      ((Store.empty r).start task (.setUp view baseQuery fields (kept.load view))).2
        = [.event (.rowsReset 1), .event (.stateChanged 1),
            .request task ⟨baseQuery, s.state.filters, s.state.order, none⟩]
  /-- And as long as nothing else is started it shows the same fields, in their order, and
  has the same filters and the same order, whatever it is told to show by default. -/
  shown : ∀ place kept view, Kept place kept view s.state.settings.print →
    ∀ task baseQuery fields later, (∀ u op, .enter u op ∉ later) →
      let fresh := (Store.empty r).start task (.setUp view baseQuery fields (kept.load view))
      let now := (fresh.1.run later).state
      now.visibleFields = s.state.visibleFields ∧ now.filters = s.state.filters ∧
        now.order = s.state.order

/-- **A view is set up again as it was left, after every run.** -/
theorem run_restartRule (r : Registry) (moves : List Move) :
    RestartRule r ((Store.empty r).run moves) := by
  have hpermitted := (reached_run r moves).permitted
  generalize (Store.empty r).run moves = s at hpermitted
  have hsettings := hpermitted.settings_restore
  refine ⟨?_, ?_⟩
  · intro place kept view hkept task baseQuery fields
    obtain ⟨base, -, hout⟩ := start_setUp r task view baseQuery fields s.state.settings
    have hfilters : (base.restore r s.state.settings).filters = s.state.filters :=
      congrArg ViewSettings.filters (hsettings base)
    have horder : (base.restore r s.state.settings).order = s.state.order :=
      congrArg ViewSettings.order (hsettings base)
    rw [hkept.load, hout, hfilters, horder]
  · intro place kept view hkept task baseQuery fields later hlater fresh now
    obtain ⟨base, hfresh, -⟩ := start_setUp r task view baseQuery fields s.state.settings
    have hnow : now.settings = s.state.settings := by
      show (fresh.1.run later).state.settings = _
      rw [settings_run hlater, ← hsettings base, ← hfresh, ← hkept.load]
    exact ⟨Option.some.inj (congrArg ViewSettings.fields hnow),
      congrArg ViewSettings.filters hnow, congrArg ViewSettings.order hnow⟩

/-- A view that was left without any field to show is not given the default ones again. -/
example :
    let s := (Store.empty .ownProjects).run
      [.enter 0 (.setUp "view" "q" [.name] none), .enter 1 (.hideField .name)]
    let place := ((SettingsPlace.memory [] false false []).save "view" s.state.settings.print).1
    let fresh := (Store.empty .ownProjects).start 0 (.setUp "view" "q" [.name] (place.load "view"))
    s.state.visibleFields = [] ∧ fresh.1.state.visibleFields = [] := by
  decide

end ProjectViews
