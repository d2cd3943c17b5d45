/-
The gate: how a person is told that a plan's limits are exceeded.

The first time in a day that limits are found exceeded they are told by a modal that
blocks the view; a marker that expires after a day remembers it.  At other times, and
once the modal is dismissed, a banner takes its place, until it is dismissed for the
rest of the session.  Without billing there is no modal.  Warnings have a banner of
their own.

Finding out takes two steps, because the markers may have to be waited for: the
markers are consulted first, and the decision is settled afterwards.  In between the
person may dismiss what is shown.
-/
import ProjectViews.Project.Failure
import ProjectViews.Usage.Limits
import ProjectViews.Usage.Markers

namespace ProjectViews

/-- What is shown about limits. -/
structure Decision where
  showModal : Bool
  showExceededBanner : Bool
  showWarningBanner : Bool
  interval : Interval
  limits : Exceeding
deriving DecidableEq, Repr

namespace Decision

/-- Nothing is shown. -/
def nothing : Decision := ⟨false, false, false, .month, ⟨[], []⟩⟩

instance : Inhabited Decision := ⟨nothing⟩

end Decision

/-- A gate: how it is set, what it shows, and whether its banner was dismissed. -/
structure Gate where
  organization : Option String
  /-- The limits that hold without a subscription. -/
  fallback : PlanLimits
  billingEnabled : Bool
  decision : Decision
  bannerDismissed : Bool
deriving Repr

namespace Gate

/-- A gate at the start of a session. -/
def new (billingEnabled : Bool) (organization : Option String) (fallback : PlanLimits) : Gate :=
  ⟨organization, fallback, billingEnabled, .nothing, false⟩

instance : Inhabited Gate := ⟨new true none .unlimited⟩

/-- The name of the marker that remembers the modal. -/
def markerName : String := "overLimitsMarker"

/-- The marker that remembers a modal shown at a time, unless time ends within a day. -/
def markerAt? (now : Instant) : Option Marker :=
  now.nextDay?.map fun tomorrow => ⟨markerName, "true", tomorrow⟩

/-- Consults the markers: whether this is the first time in a day that limits are
exceeded, which is then remembered.  Markers that cannot be read count as missing, and
one that cannot be written is done without.  There is no answer when a marker is due
that would outlast time. -/
def consult (markers : MarkerStore) (limits : Exceeding) (now : Instant) :
    Option (MarkerStore × Bool) :=
  if limits.isExceeded then
    let (markers, found) := markers.read markerName now
    match found with
    | .ok (some _) => some (markers, false)
    | _ => (markerAt? now).map fun marker => ((markers.write marker).1, true)
  else some (markers, false)

/-- Settles what is shown, once it is known whether this is the first time in a day. -/
def settle (g : Gate) (limits : Exceeding) (interval : Interval) (isFirst : Bool) : Gate :=
  let showModal := isFirst && g.billingEnabled
  { g with
    decision :=
      { showModal := showModal
        showExceededBanner := limits.isExceeded && !showModal && !g.bannerDismissed
        showWarningBanner := limits.isWarning
        interval := interval
        limits := limits } }

/-- Consults the markers about limits and settles what is shown. -/
def apply (g : Gate) (markers : MarkerStore) (limits : Exceeding) (interval : Interval)
    (now : Instant) : Option (MarkerStore × Gate) :=
  (consult markers limits now).map fun (markers, isFirst) =>
    (markers, g.settle limits interval isFirst)

/-- What is asked of the usage service. -/
inductive Ask where
  | usage (organization : Option String)
  | subscription
deriving DecidableEq, Repr, Inhabited

/-- The limits that a report exceeds or nears, and the interval they are for.  A
subscription that could not be fetched counts as none. -/
def assess (g : Gate) (report : UsageReport) (subscription : Except Failure (Option Subscription)) :
    Exceeding × Interval :=
  let subscription := match subscription with
    | .ok s => s
    | .error _ => none
  let interval := Interval.ofSubscription subscription
  (Exceeding.ofReport report (PlanLimits.ofSubscription subscription g.fallback) interval,
    interval)

/-- Fetches a usage report and the subscription, and settles what is shown about them.
Without a report nothing changes. -/
def mount (g : Gate) (markers : MarkerStore) (now : Instant)
    (report : Except Failure UsageReport)
    (subscription : Except Failure (Option Subscription)) :
    Option (List Ask × MarkerStore × Gate × Except Failure Decision) :=
  match report with
  | .error failure => some ([.usage g.organization], markers, g, .error failure)
  | .ok report =>
    let (limits, interval) := g.assess report subscription
    (g.apply markers limits interval now).map fun (markers, g) =>
      ([.usage g.organization, .subscription], markers, g, .ok g.decision)

/-- The modal is dismissed: the banner takes its place. -/
def dismissModal (g : Gate) : Gate :=
  if g.decision.showModal then
    { g with
      decision :=
        { g.decision with
          showModal := false
          showExceededBanner := g.decision.limits.isExceeded && !g.bannerDismissed } }
  else g

/-- The banner is dismissed for the rest of the session. -/
def dismissBanner (g : Gate) : Gate :=
  { g with bannerDismissed := true, decision := { g.decision with showExceededBanner := false } }

end Gate

end ProjectViews
