/-
What goes over the wire comes to rest.

The server and the program exchange pages of projects and of their usage, usage reports,
subscriptions and organizations; view settings, filters, orders, cursors and rows are kept or
passed on.  `Wire` lists them all, each with the way it is written and read.  Whatever text one
of them was decoded from, encoding it gives a text that is decoded to the same value: what was
left out and has a value of its own is then there, what was null may be left out, a time is in
universal time, and a row has its uid and its name first.

This holds up to the doubles among the free-form values of a row.  A number that is no integer of 64
bits is read step by step, and so is the shortest decimal that is written for it, which need not
give the same double.  Rows with no such numbers always come to rest, and so do those whose doubles
take few digits.
-/
import ProjectViews.Page
import ProjectViews.Proofs.Json.Codec
import ProjectViews.Proofs.Time.Format
import ProjectViews.Usage.ProjectUsage
import ProjectViews.Usage.Report
import ProjectViews.Usage.Subscription

namespace ProjectViews

open Json

/-! ### Usage -/

theorem Instant.ofTree?_toTree {t : Tree} {a : Instant} (h : ofTree? t = some a) :
    ofTree? a.toTree = some a := by
  obtain ⟨s, -, hparse⟩ := Option.bind_eq_some_iff.mp h
  rw [ofTree?, toTree, Tree.text, string?, Option.bind_some]
  exact parse_print (isReckoned_of_parse hparse)

theorem SubmissionCounts.ofTree?_toTree (c : SubmissionCounts) : ofTree? c.toTree = some c := by
  rw [ofTree?]
  refine Option.bind_eq_some_iff.mpr ⟨_, rfl, ?_⟩
  refine Option.bind_eq_some_iff.mpr ⟨_, word?_ofWord c.currentMonth, ?_⟩
  refine Option.bind_eq_some_iff.mpr ⟨_, word?_ofWord c.currentYear, ?_⟩
  refine Option.bind_eq_some_iff.mpr ⟨_, word?_ofWord c.allTime, ?_⟩
  rfl

theorem LanguageTotals.ofTree?_toTree (l : LanguageTotals) : ofTree? l.toTree = some l := by
  rw [ofTree?]
  refine Option.bind_eq_some_iff.mpr ⟨_, rfl, ?_⟩
  refine Option.bind_eq_some_iff.mpr ⟨_, word?_ofWord l.secondsMonth, ?_⟩
  refine Option.bind_eq_some_iff.mpr ⟨_, word?_ofWord l.charactersMonth, ?_⟩
  refine Option.bind_eq_some_iff.mpr ⟨_, word?_ofWord l.secondsYear, ?_⟩
  refine Option.bind_eq_some_iff.mpr ⟨_, word?_ofWord l.charactersYear, ?_⟩
  refine Option.bind_eq_some_iff.mpr ⟨_, word?_ofWord l.secondsAllTime, ?_⟩
  refine Option.bind_eq_some_iff.mpr ⟨_, word?_ofWord l.charactersAllTime, ?_⟩
  rfl

theorem SubmissionCounts.ofTexts_toTree (c : SubmissionCounts) : c.toTree.OfTexts := by
  refine .record ?_
  simp only [List.forall_mem_cons]
  exact ⟨.number _, .number _, .number _, List.forall_mem_nil _⟩

theorem LanguageTotals.ofTexts_toTree (l : LanguageTotals) : l.toTree.OfTexts := by
  refine .record ?_
  simp only [List.forall_mem_cons]
  exact ⟨.number _, .number _, .number _, .number _, .number _, .number _, List.forall_mem_nil _⟩

/-- The end of the billing period is left out when there is none, and everything else is under its
name. -/
theorem UsageReport.fields?_toTree (u : UsageReport) : ∃ f,
    fields? ["current_month_start", "current_year_start", "billing_period_end",
      "total_submission_count", "total_storage_bytes", "total_nlp_usage"] u.toTree = some f ∧
    f "current_month_start" = some u.monthStart.toTree ∧
    f "current_year_start" = some u.yearStart.toTree ∧
    f "billing_period_end" = u.billingPeriodEnd.map Instant.toTree ∧
    f "total_submission_count" = some u.submissions.toTree ∧
    f "total_storage_bytes" = some (ofWord u.storageBytes) ∧
    f "total_nlp_usage" = some u.language.toTree := by
  obtain ⟨_, _, _ | a, _, _, _⟩ := u
  all_goals exact ⟨_, rfl, rfl, rfl, rfl, rfl, rfl, rfl⟩

/-- The times of a report are in universal time when it is read back, and nothing else changes. -/
theorem UsageReport.ofTree?_toTree {t : Tree} {u : UsageReport} (h : ofTree? t = some u) :
    ofTree? u.toTree = some u := by
  rw [ofTree?] at h
  obtain ⟨f, -, h⟩ := Option.bind_eq_some_iff.mp h
  obtain ⟨monthStart, hmonth, h⟩ := Option.bind_eq_some_iff.mp h
  obtain ⟨yearStart, hyear, h⟩ := Option.bind_eq_some_iff.mp h
  obtain ⟨billingPeriodEnd, hend, h⟩ := Option.bind_eq_some_iff.mp h
  obtain ⟨submissions, -, h⟩ := Option.bind_eq_some_iff.mp h
  obtain ⟨storageBytes, -, h⟩ := Option.bind_eq_some_iff.mp h
  obtain ⟨language, -, h⟩ := Option.bind_eq_some_iff.mp h
  cases h
  have hinstant : ∀ {x a}, required Instant.ofTree? x = some a →
      required Instant.ofTree? (some a.toTree) = some a := by
    intro x a h
    obtain ⟨_, -, h⟩ := exists_of_required h
    rw [required, Instant.ofTree?_toTree h]
  have hend' : optional Instant.ofTree? (billingPeriodEnd.map Instant.toTree)
      = some billingPeriodEnd := by
    cases billingPeriodEnd with
    | none => rfl
    | some a =>
        obtain ⟨_, hend⟩ := exists_of_optional hend
        rw [Option.map_some, Json.optional, Instant.ofTree?_toTree hend, Option.map_some]
        exact nofun
  obtain ⟨f, hf, hmonth', hyear', hperiod, hsubmissions, hstorage, hlanguage⟩ :=
    UsageReport.fields?_toTree
      ⟨monthStart, yearStart, billingPeriodEnd, submissions, storageBytes, language⟩
  rw [ofTree?, hf]
  refine Option.bind_eq_some_iff.mpr ⟨f, rfl, ?_⟩
  rw [hmonth', hyear', hperiod, hsubmissions, hstorage, hlanguage]
  refine Option.bind_eq_some_iff.mpr ⟨_, hinstant hmonth, ?_⟩
  refine Option.bind_eq_some_iff.mpr ⟨_, hinstant hyear, ?_⟩
  refine Option.bind_eq_some_iff.mpr ⟨_, hend', ?_⟩
  refine Option.bind_eq_some_iff.mpr ⟨_, submissions.ofTree?_toTree, ?_⟩
  refine Option.bind_eq_some_iff.mpr ⟨_, word?_ofWord storageBytes, ?_⟩
  refine Option.bind_eq_some_iff.mpr ⟨_, language.ofTree?_toTree, ?_⟩
  rfl

theorem UsageReport.ofTexts_toTree (u : UsageReport) : u.toTree.OfTexts := by
  refine .record (List.forall_mem_append.mpr ⟨List.forall_mem_append.mpr ⟨?_, ?_⟩, ?_⟩)
  · exact List.forall_mem_cons.mpr ⟨.text _, List.forall_mem_singleton.mpr (.text _)⟩
  · cases u.billingPeriodEnd with
    | none => exact List.forall_mem_nil _
    | some a => exact List.forall_mem_singleton.mpr (.text _)
  · simp only [List.forall_mem_cons]
    exact ⟨u.submissions.ofTexts_toTree, .number _, u.language.ofTexts_toTree,
      List.forall_mem_nil _⟩

theorem ProjectLanguage.ofTree?_toTree (l : ProjectLanguage) : ofTree? l.toTree = some l := by
  rw [ofTree?]
  refine Option.bind_eq_some_iff.mpr ⟨_, rfl, ?_⟩
  refine Option.bind_eq_some_iff.mpr ⟨_, word?_ofWord l.seconds, ?_⟩
  refine Option.bind_eq_some_iff.mpr ⟨_, word?_ofWord l.characters, ?_⟩
  rfl

theorem ProjectUsage.ofTree?_toTree (u : ProjectUsage) : ofTree? u.toTree = some u := by
  rw [ofTree?]
  refine Option.bind_eq_some_iff.mpr ⟨_, rfl, ?_⟩
  refine Option.bind_eq_some_iff.mpr ⟨u.link, rfl, ?_⟩
  refine Option.bind_eq_some_iff.mpr ⟨u.uid, rfl, ?_⟩
  refine Option.bind_eq_some_iff.mpr ⟨u.name, rfl, ?_⟩
  refine Option.bind_eq_some_iff.mpr ⟨_, u.languageMonth.ofTree?_toTree, ?_⟩
  refine Option.bind_eq_some_iff.mpr ⟨_, u.languageAllTime.ofTree?_toTree, ?_⟩
  refine Option.bind_eq_some_iff.mpr ⟨_, word?_ofWord u.storageBytes, ?_⟩
  refine Option.bind_eq_some_iff.mpr ⟨_, word?_ofWord u.submissionsMonth, ?_⟩
  refine Option.bind_eq_some_iff.mpr ⟨_, word?_ofWord u.submissionsAllTime, ?_⟩
  refine Option.bind_eq_some_iff.mpr ⟨u.deploymentStatus, rfl, ?_⟩
  rfl

theorem ProjectLanguage.ofTexts_toTree (l : ProjectLanguage) : l.toTree.OfTexts :=
  .record (List.forall_mem_cons.mpr ⟨.number _, List.forall_mem_singleton.mpr (.number _)⟩)

/-- How usage by projects is read and written. -/
def ProjectUsage.codec : Codec ProjectUsage := ⟨ProjectUsage.ofTree?, ProjectUsage.toTree⟩

theorem ProjectUsage.codec_stable : ProjectUsage.codec.Stable fun _ _ => False := by
  refine .of_reread (fun _ => ProjectUsage.ofTree?_toTree _) fun u => .record ?_
  simp only [List.forall_mem_cons]
  exact ⟨.text _, .text _, .text _, u.languageMonth.ofTexts_toTree,
    u.languageAllTime.ofTexts_toTree, .number _, .number _, .number _, .text _,
    List.forall_mem_nil _⟩

theorem Organization.ofTree?_toTree (o : Organization) : ofTree? o.toTree = some o := rfl

theorem Organization.ofTexts_toTree (o : Organization) : o.toTree.OfTexts :=
  .record (List.forall_mem_cons.mpr ⟨.text _, List.forall_mem_singleton.mpr (.text _)⟩)

/-! ### Subscriptions -/

/-- The metadata of a product is sorted when it is read back. -/
theorem Product.ofTree?_toTree {t : Tree} {p : Product} (h : ofTree? t = some p) :
    ofTree? p.toTree = some p := by
  rw [ofTree?] at h
  obtain ⟨f, -, h⟩ := Option.bind_eq_some_iff.mp h
  obtain ⟨name, -, h⟩ := Option.bind_eq_some_iff.mp h
  obtain ⟨metadata, hmetadata, h⟩ := Option.bind_eq_some_iff.mp h
  cases h
  have hsorted : Sorted metadata := by
    rcases exists_of_orElse hmetadata with rfl | ⟨_, hread⟩
    · exact List.Pairwise.nil
    · exact sorted_of_strings? hread
  rw [ofTree?]
  refine Option.bind_eq_some_iff.mpr ⟨_, rfl, ?_⟩
  refine Option.bind_eq_some_iff.mpr ⟨name, rfl, ?_⟩
  refine Option.bind_eq_some_iff.mpr ⟨_, strings?_ofStrings hsorted, ?_⟩
  rfl

theorem Price.ofTree?_toTree {t : Tree} {p : Price} (h : ofTree? t = some p) :
    ofTree? p.toTree = some p := by
  rw [ofTree?] at h
  obtain ⟨f, -, h⟩ := Option.bind_eq_some_iff.mp h
  obtain ⟨interval, -, h⟩ := Option.bind_eq_some_iff.mp h
  obtain ⟨product, hproduct, h⟩ := Option.bind_eq_some_iff.mp h
  cases h
  have hreread : Product.ofTree? product.toTree = some product := by
    rcases exists_of_orElse hproduct with rfl | ⟨_, hread⟩
    · rfl
    · exact Product.ofTree?_toTree hread
  have hinterval : optional intervalOfTree?
      (some (.orNull (interval.map fun s => .record [("interval", .text s)]))) = some interval := by
    cases interval <;> rfl
  rw [ofTree?]
  refine Option.bind_eq_some_iff.mpr ⟨_, rfl, ?_⟩
  refine Option.bind_eq_some_iff.mpr ⟨_, hinterval, ?_⟩
  refine Option.bind_eq_some_iff.mpr ⟨_, hreread, ?_⟩
  rfl

theorem Product.ofTexts_toTree (p : Product) : p.toTree.OfTexts :=
  .record (List.forall_mem_cons.mpr ⟨.text _, List.forall_mem_singleton.mpr (ofTexts_ofStrings _)⟩)

theorem Price.ofTexts_toTree (p : Price) : p.toTree.OfTexts := by
  refine .record (List.forall_mem_cons.mpr ⟨?_, List.forall_mem_singleton.mpr
    p.product.ofTexts_toTree⟩)
  cases p.interval with
  | none => exact .null
  | some s => exact .record (List.forall_mem_singleton.mpr (.text s))

namespace Subscription

/-- How the price of a subscribed item is written. -/
def itemToTree (p : Price) : Tree := .record [("price", p.toTree)]

theorem itemOfTree?_itemToTree {t : Tree} {p : Price} (h : itemOfTree? t = some p) :
    itemOfTree? (itemToTree p) = some p := by
  obtain ⟨f, -, h⟩ := Option.bind_eq_some_iff.mp h
  obtain ⟨_, -, h⟩ := exists_of_required h
  exact Price.ofTree?_toTree h

/-- How subscriptions are read and written. -/
def codec : Codec Subscription := ⟨ofTree?, toTree⟩

theorem codec_stable : codec.Stable fun _ _ => False := by
  refine .of_reread (fun {t s} h => ?_) fun s => ?_
  · unfold codec at h
    dsimp only at h
    rw [ofTree?] at h
    obtain ⟨f, -, h⟩ := Option.bind_eq_some_iff.mp h
    obtain ⟨prices, hprices, h⟩ := Option.bind_eq_some_iff.mp h
    cases h
    have hreread : Json.list? itemOfTree? (.array (prices.map itemToTree)) = some prices := by
      rcases exists_of_orElse hprices with rfl | ⟨_, hread⟩
      · rfl
      · obtain ⟨items, -, hitems⟩ := exists_of_list? hread
        refine Json.list?_map_iff.mpr fun p hp => ?_
        obtain ⟨item, -, hitem⟩ := hitems p hp
        exact itemOfTree?_itemToTree hitem
    show ofTree? _ = _
    rw [ofTree?]
    refine Option.bind_eq_some_iff.mpr ⟨_, rfl, ?_⟩
    refine Option.bind_eq_some_iff.mpr ⟨_, hreread, ?_⟩
    rfl
  · refine .record (List.forall_mem_singleton.mpr (.array_map s.prices fun p => ?_))
    exact .record (List.forall_mem_singleton.mpr p.ofTexts_toTree)

end Subscription

/-! ### Pages -/

/-- How pages are read and written, by how their items are. -/
def Page.codec {α : Type} (item : Codec α) : Codec (Page α) :=
  ⟨Page.ofTree? item.read, Page.toTree item.write⟩

/-- A page is read back exactly if its results are. -/
theorem Page.ofTree?_toTree_iff {α : Type} {read : Tree → Option α} {write : α → Tree}
    {p : Page α} : ofTree? read (p.toTree write) = some p ↔
      Json.list? read (.array (p.results.map write)) = some p.results := by
  rw [ofTree?]
  constructor
  · intro h
    obtain ⟨f, hf, h⟩ := Option.bind_eq_some_iff.mp h
    obtain ⟨count, -, h⟩ := Option.bind_eq_some_iff.mp h
    obtain ⟨next, -, h⟩ := Option.bind_eq_some_iff.mp h
    obtain ⟨previous, -, h⟩ := Option.bind_eq_some_iff.mp h
    obtain ⟨results, hresults, h⟩ := Option.bind_eq_some_iff.mp h
    cases h
    cases hf
    exact hresults
  · intro h
    refine Option.bind_eq_some_iff.mpr ⟨_, rfl, ?_⟩
    refine Option.bind_eq_some_iff.mpr ⟨_, word?_ofWord p.count, ?_⟩
    refine Option.bind_eq_some_iff.mpr ⟨_, optional_orNull_text p.next, ?_⟩
    refine Option.bind_eq_some_iff.mpr ⟨_, optional_orNull_text p.previous, ?_⟩
    refine Option.bind_eq_some_iff.mpr ⟨_, h, ?_⟩
    rfl

/-- The results of a page that was read are a list in its text. -/
theorem Page.exists_of_ofTree? {α : Type} {read : Tree → Option α} {t : Tree} {p : Page α}
    (h : ofTree? read t = some p) : ∃ f u,
      fields? ["count", "next", "previous", "results"] t = some f ∧ f "results" = some u ∧
        Json.list? read u = some p.results := by
  rw [ofTree?] at h
  obtain ⟨f, hf, h⟩ := Option.bind_eq_some_iff.mp h
  obtain ⟨count, -, h⟩ := Option.bind_eq_some_iff.mp h
  obtain ⟨next, -, h⟩ := Option.bind_eq_some_iff.mp h
  obtain ⟨previous, -, h⟩ := Option.bind_eq_some_iff.mp h
  obtain ⟨results, hresults, h⟩ := Option.bind_eq_some_iff.mp h
  cases h
  obtain ⟨u, hfound, hread⟩ := exists_of_required hresults
  exact ⟨f, u, hf, hfound, hread⟩

/-- Pages are stable if their items are. -/
theorem Page.codec_stable {α : Type} {item : Codec α} {holds : α → Number.Double → Prop}
    (h : item.Stable holds) :
    (Page.codec item).Stable fun p x => ∃ v ∈ p.results, holds v x where
  reread {t p} hread := by
    obtain ⟨f, u, -, -, hresults⟩ := exists_of_ofTree? hread
    exact ofTree?_toTree_iff.trans (h.list.reread hresults)
  source {t p x} hread hx := by
    obtain ⟨f, u, hfields, hfound, hresults⟩ := exists_of_ofTree? hread
    exact (h.list.source hresults hx).field hfields hfound
  ofTexts p := by
    have hlink : ∀ s : Option String, (Tree.orNull (s.map .text)).OfTexts := by
      intro s
      cases s with
      | none => exact .null
      | some s => exact .text s
    refine .record ?_
    simp only [List.forall_mem_cons]
    exact ⟨.number _, hlink _, hlink _, .array_map p.results h.ofTexts, List.forall_mem_nil _⟩

/-! ### All that goes over the wire -/

/-- What is sent, received or kept as JSON. -/
inductive Wire where
  | usageReport
  | projects
  | projectUsages
  | subscription
  | subscriptions
  | organization
  | settings
  | filter
  | order
  | cursor
  | row

namespace Wire

/-- The values of a kind. -/
def Value : Wire → Type
  | usageReport => UsageReport
  | projects => Page Row
  | projectUsages => Page ProjectUsage
  | subscription => Subscription
  | subscriptions => Page Subscription
  | organization => Organization
  | settings => ViewSettings
  | filter => Filter
  | order => Order
  | cursor => Cursor
  | row => Row

/-- How the values of a kind are read and written.  Two levels of nesting are taken by the page
around a row. -/
def codec : (w : Wire) → Codec w.Value
  | usageReport => ⟨UsageReport.ofTree?, UsageReport.toTree⟩
  | projects => Page.codec (Row.codec (nestingLimit - 2))
  | projectUsages => Page.codec ProjectUsage.codec
  | subscription => Subscription.codec
  | subscriptions => Page.codec Subscription.codec
  | organization => ⟨Organization.ofTree?, Organization.toTree⟩
  | settings => ⟨ViewSettings.ofTree?, ViewSettings.toTree⟩
  | filter => ⟨Filter.ofTree?, Filter.toTree⟩
  | order => ⟨Order.ofTree?, Order.toTree⟩
  | cursor => ⟨fun t => (string? t).map Cursor.mk, fun c => .text c.token⟩
  | row => Row.codec nestingLimit

/-- A double stands somewhere among the free-form values.  Only rows have such values. -/
def HasDouble : (w : Wire) → w.Value → Number.Double → Prop
  | projects, (p : Page Row), x => ∃ r ∈ p.results, r.HasDouble x
  | row, (r : Row), x => r.HasDouble x
  | _, _, _ => False

/-- Every kind is stable. -/
theorem stable (w : Wire) : w.codec.Stable w.HasDouble := by
  cases w with
  | usageReport => exact .of_reread UsageReport.ofTree?_toTree UsageReport.ofTexts_toTree
  | projects => exact Page.codec_stable (Row.codec_stable _)
  | projectUsages =>
      exact (Page.codec_stable ProjectUsage.codec_stable).congr fun p x => by simp [HasDouble]
  | subscription => exact Subscription.codec_stable
  | subscriptions =>
      exact (Page.codec_stable Subscription.codec_stable).congr fun p x => by simp [HasDouble]
  | organization =>
      exact .of_reread (fun _ => Organization.ofTree?_toTree _) Organization.ofTexts_toTree
  | settings => exact .of_reread (fun _ => ViewSettings.ofTree?_toTree _) ViewSettings.ofTexts_toTree
  | filter => exact .of_reread (fun _ => Filter.ofTree?_toTree _) Filter.ofTexts_toTree
  | order => exact .of_reread (fun _ => Order.ofTree?_toTree _) Order.ofTexts_toTree
  | cursor => exact .of_reread (fun _ => rfl) fun c => .text c.token
  | row => exact Row.codec_stable _

/-- A row with one number besides its uid is read by reading the number. -/
theorem read_of_number {n : Numeral} {x : Number.Double} (h : ofNumeral? n = some (.double x)) :
    row.codec.read (.object [(some "n", .number n), (some "uid", .text "p")])
      = some (⟨"p", "", [("n", .double x)]⟩ : Row) := by
  have hvalues : Json.read? nestingLimit
      (.object (Row.extraMembers [(some "n", .number n), (some "uid", .text "p")]))
        = some (.object [("n", .double x)]) := by
    show Json.ofTree? (.object [(some "n", .number n)]) = _
    simp only [Json.ofTree?, ofMembers?, h]
    rfl
  have hread : Row.ofTree? nestingLimit (.object [(some "n", .number n), (some "uid", .text "p")])
      = some ⟨"p", "", [("n", .double x)]⟩ := by
    rw [Row.ofTree?, if_pos (by simp [unambiguous]), hvalues]
    rfl
  exact hread

/-- What becomes of a value that was decoded from a text when it is encoded and decoded again. -/
structure RereadRule (w : Wire) (text : String) (v : w.Value) : Prop where
  /-- It is the same value exactly if each double among its free-form values is kept. -/
  reread : w.codec.decode? (w.codec.encode v) = some v ↔ ∀ x, w.HasDouble v x → x.Kept
  /-- Such a double was written in the text, as a number that is no integer of 64 bits. -/
  source : ∀ x, w.HasDouble v x → ∃ t, Tree.parse text = some t ∧ t.HasSource x
  /-- So it is the same value if all numbers of the text are such integers. -/
  integers : (∀ t n, Tree.parse text = some t → t.HasNumber n → n.IsWord) →
    w.codec.decode? (w.codec.encode v) = some v
  /-- A double is kept if it is written with at most 53 bits of digits and a power of ten up to the
  twenty-second. -/
  short : ∀ x, w.HasDouble v x → (numeralOf x).scientific.coefficient < 2 ^ 53 →
    -22 ≤ (numeralOf x).scientific.exponent → (numeralOf x).scientific.exponent ≤ 22 → x.Kept

/-- **What was decoded is encoded as a text that is decoded to the same value, up to the doubles
that are not kept.** -/
theorem rereadRule_of_decoded (w : Wire) {text : String} {v : w.Value}
    (decoded : w.codec.decode? text = some v) : RereadRule w text v := by
  obtain ⟨t, hparse, hread⟩ := Option.bind_eq_some_iff.mp decoded
  have reread := w.stable.decode?_encode_iff decoded
  have source : ∀ x, w.HasDouble v x → t.HasSource x := fun x => w.stable.source hread
  refine ⟨reread, fun x hx => ⟨t, hparse, source x hx⟩, fun hwords => ?_, ?_⟩
  · refine reread.mpr fun x hx => ?_
    obtain ⟨n, hn, hword, -⟩ := source x hx
    exact absurd (hwords t n hparse hn) hword
  · intro x hx coefficient low high
    obtain ⟨n, -, -, hn⟩ := source x hx
    exact kept_iff.mpr
      (ofNumeral?_numeralOf (canonical_of_ofNumeral? hn) coefficient low high)

/-- A row whose uid comes last, behind a number with an escape in its name.  The number is no
integer, but short. -/
theorem rereadRule_row : ∃ r : Row,
    row.codec.decode? "\x7b\"\\u006e\": 12.5, \"uid\": \"p\"\x7d" = some r ∧
      row.codec.decode? (row.codec.encode r) = some r := by
  let n : Numeral := ⟨false, 12, [5], none⟩
  let x : Number.Double := ⟨false, ⟨0x19000000000000, -49⟩⟩
  have hnumber : ofNumeral? n = some (.double x) := by
    have hstep : n.leading.stepwise? = some x.magnitude := by decide +kernel
    rw [ofNumeral?_of_not_isWord (by decide), hstep]
    rfl
  have decoded : row.codec.decode? "\x7b\"\\u006e\": 12.5, \"uid\": \"p\"\x7d"
      = some (⟨"p", "", [("n", .double x)]⟩ : Row) :=
    Option.bind_eq_some_iff.mpr ⟨.object [(some "n", .number n), (some "uid", .text "p")], rfl,
      read_of_number hnumber⟩
  have rule := rereadRule_of_decoded row decoded
  refine ⟨_, decoded, rule.reread.mpr fun y hy => ?_⟩
  have hx : y = x := by
    obtain ⟨e, he, hy⟩ := hy
    cases List.mem_singleton.mp he
    cases hy
    rfl
  rw [hx] at hy ⊢
  exact rule.short x hy (by decide +kernel) (by decide +kernel) (by decide +kernel)

/-- A row that is not read back.  Its one number is an integer, but needs 67 bits; the double that it
is read as is written with sixteen digits, and they are read as the next double. -/
theorem decode_encode_ne : ∃ r : Row,
    row.codec.decode? "\x7b\"n\": 99622463907656828081, \"uid\": \"p\"\x7d" = some r ∧
      row.codec.decode? (row.codec.encode r) ≠ some r := by
  let n : Numeral := .ofInt 99622463907656828081
  let x : Number.Double := ⟨false, ⟨0x159a285c68043c, 14⟩⟩
  have hnumber : ofNumeral? n = some (.double x) := by
    have hstep : n.leading.stepwise? = some x.magnitude := by decide +kernel
    rw [ofNumeral?_of_not_isWord (by decide), hstep]
    rfl
  have hlost : ¬ x.Kept := by
    have hnext : (numeralOf x).leading.stepwise? ≠ some x.magnitude := by decide +kernel
    rw [kept_iff, ofNumeral?_of_not_isWord (by decide +kernel)]
    intro h
    obtain ⟨m, hm, hx⟩ := Option.map_eq_some_iff.mp h
    exact hnext (hm.trans (congrArg (some ∘ Number.Double.magnitude) (Json.double.inj hx)))
  have decoded : row.codec.decode? "\x7b\"n\": 99622463907656828081, \"uid\": \"p\"\x7d"
      = some (⟨"p", "", [("n", .double x)]⟩ : Row) :=
    Option.bind_eq_some_iff.mpr ⟨.object [(some "n", .number n), (some "uid", .text "p")], rfl,
      read_of_number hnumber⟩
  refine ⟨_, decoded, fun hreread => hlost ?_⟩
  exact (row.stable.decode?_encode_iff decoded).mp hreread x ⟨_, List.mem_cons_self, .double⟩

end Wire

end ProjectViews
