/-
Limits: how usage compares with what a plan allows.

A plan limits up to four figures; a figure without a limit is unlimited.  A figure
that reaches its limit is exceeded, except that nothing used of nothing allowed is
not.  Below that it is a warning from four fifths of the limit on, where the product
is the one that double-precision arithmetic gives.  Storage is the same in every
interval, the other figures are those of the interval in which the plan is billed.
-/
import ProjectViews.Usage.LimitText
import ProjectViews.Usage.Report
import ProjectViews.Usage.Subscription

namespace ProjectViews

/-- What a plan can limit. -/
inductive Metric where
  | storage
  | submission
  | transcribedSpeech
  | translatedText
deriving DecidableEq, Repr, Inhabited

namespace Metric

/-- All metrics, in their fixed order. -/
def all : List Metric := [storage, submission, transcribedSpeech, translatedText]

/-- The name of a metric. -/
def label : Metric → String
  | storage => "storage"
  | submission => "submission"
  | transcribedSpeech => "automated transcription"
  | translatedText => "machine translation"

/-- The metric with exactly this name. -/
def ofLabel? (s : String) : Option Metric := all.find? fun m => m.label == s

/-- The name under which the metadata of a product limits a metric. -/
def metadataKey : Metric → String
  | storage => "storage_bytes_limit"
  | submission => "submission_limit"
  | transcribedSpeech => "nlp_seconds_limit"
  | translatedText => "nlp_character_limit"

end Metric

/-- The interval at which a plan is billed. -/
inductive Interval where
  | month
  | year
deriving DecidableEq, Repr, Inhabited

namespace Interval

/-- The name of an interval. -/
def text : Interval → String
  | month => "month"
  | year => "year"

/-- The interval that a text names: blanks around it and the case of its letters do
not matter. -/
def parse? (s : String) : Option Interval :=
  [month, year].find? fun i => Text.sameLetters i.text (Text.trim s)

end Interval

/-- How severe it is that a figure is near its limit. -/
inductive Threshold where
  | warning
  | exceeded
deriving DecidableEq, Repr, Inhabited

/-- The name of a threshold. -/
def Threshold.text : Threshold → String
  | warning => "warning"
  | exceeded => "exceeded"

/-- A figure that is near its limit or beyond it. -/
structure UsageLimit where
  metric : Metric
  threshold : Threshold
  interval : Interval
  usage : UInt64
  limit : UInt64
deriving DecidableEq, Repr, Inhabited

/-- What a plan allows of each metric; without a limit it allows everything. -/
structure PlanLimits where
  storageBytes : Option UInt64
  submissions : Option UInt64
  languageSeconds : Option UInt64
  languageCharacters : Option UInt64
deriving DecidableEq, Repr, Inhabited

namespace PlanLimits

/-- The plan that allows everything. -/
def unlimited : PlanLimits := ⟨none, none, none, none⟩

/-- The limit of a metric. -/
def limit? (p : PlanLimits) : Metric → Option UInt64
  | .storage => p.storageBytes
  | .submission => p.submissions
  | .transcribedSpeech => p.languageSeconds
  | .translatedText => p.languageCharacters

/-- The limit of one metric in the metadata of a product. -/
def read? (metadata : List (String × String)) (m : Metric) : Option UInt64 :=
  (Json.lookup? m.metadataKey metadata).bind LimitText.parse?

/-- The limits in the metadata of a product. -/
def ofMetadata (metadata : List (String × String)) : PlanLimits where
  storageBytes := read? metadata .storage
  submissions := read? metadata .submission
  languageSeconds := read? metadata .transcribedSpeech
  languageCharacters := read? metadata .translatedText

/-- The limits of the first product of a subscription, or `fallback` without one. -/
def ofSubscription (subscription : Option Subscription) (fallback : PlanLimits) : PlanLimits :=
  match subscription.bind (·.prices.head?) with
  | some price => ofMetadata price.product.metadata
  | none => fallback

end PlanLimits

/-- The interval at which the first product of a subscription is billed, a month
unless it says so. -/
def Interval.ofSubscription (subscription : Option Subscription) : Interval :=
  (((subscription.bind (·.prices.head?)).bind (·.interval)).bind Interval.parse?).getD .month

/-- The figure of a report that is compared with the limit of a metric. -/
def UsageReport.figure (u : UsageReport) : Metric → Interval → UInt64
  | .storage, _ => u.storageBytes
  | .submission, .month => u.submissions.currentMonth
  | .submission, .year => u.submissions.currentYear
  | .transcribedSpeech, .month => u.language.secondsMonth
  | .transcribedSpeech, .year => u.language.secondsYear
  | .translatedText, .month => u.language.charactersMonth
  | .translatedText, .year => u.language.charactersYear

/-- The double nearest to four fifths: the part of a limit from which on a figure is a
warning. -/
def warningRatio : Number.Magnitude := Number.Magnitude.nearest 4 5

/-- Whether a figure has reached the part of a limit that is a warning. -/
def reachesWarning (usage limit : UInt64) : Bool :=
  ((Number.Magnitude.ofNat limit.toNat).mul warningRatio).le (Number.Magnitude.ofNat usage.toNat)

/-- How near a figure is to its limit. -/
def Threshold.classify (usage limit : UInt64) : Option Threshold :=
  if limit ≤ usage ∧ (0 < limit ∨ 0 < usage) then some exceeded
  else if 0 < limit ∧ reachesWarning usage limit then some warning
  else none

/-- The figures that are near their limits or beyond them. -/
structure Exceeding where
  exceeded : List UsageLimit
  warning : List UsageLimit
deriving DecidableEq, Repr, Inhabited

namespace Exceeding

/-- Whether a limit is exceeded. -/
def isExceeded (e : Exceeding) : Bool := !e.exceeded.isEmpty

/-- Whether a figure is near its limit. -/
def isWarning (e : Exceeding) : Bool := !e.warning.isEmpty

/-- What is to be said about one metric. -/
def limitOf (u : UsageReport) (p : PlanLimits) (i : Interval) (m : Metric) : Option UsageLimit :=
  match p.limit? m with
  | some limit =>
    (Threshold.classify (u.figure m i) limit).map fun t => ⟨m, t, i, u.figure m i, limit⟩
  | none => none

/-- All that is to be said about a report, in the order of the metrics. -/
def entries (u : UsageReport) (p : PlanLimits) (i : Interval) : List UsageLimit :=
  Metric.all.filterMap (limitOf u p i)

/-- The figures of a report that are near their limits or beyond them. -/
def ofReport (u : UsageReport) (p : PlanLimits) (i : Interval) : Exceeding where
  exceeded := (entries u p i).filter (·.threshold == .exceeded)
  warning := (entries u p i).filter (·.threshold == .warning)

end Exceeding

end ProjectViews
