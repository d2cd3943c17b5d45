/-
Usage reports: how much of the service an account has used.

Submissions and language processing are counted for the current month, the current
year and all time; storage is counted once.  A figure that the server leaves out is
zero.
-/
import ProjectViews.Json.Record
import ProjectViews.Time.Format

namespace ProjectViews

/-- Reading an instant from JSON. -/
def Instant.ofTree? (t : Json.Tree) : Option Instant := (Json.string? t).bind Instant.parse

/-- An instant as JSON. -/
def Instant.toTree (a : Instant) : Json.Tree := .text a.print

/-- How many submissions came in. -/
structure SubmissionCounts where
  currentMonth : UInt64
  currentYear : UInt64
  allTime : UInt64
deriving DecidableEq, Repr, Inhabited

/-- Reading submission counts from JSON. -/
def SubmissionCounts.ofTree? (t : Json.Tree) : Option SubmissionCounts := do
  let f ← Json.fields? ["current_month", "current_year", "all_time"] t
  let currentMonth ← Json.orElse 0 Json.word? (f "current_month")
  let currentYear ← Json.orElse 0 Json.word? (f "current_year")
  let allTime ← Json.orElse 0 Json.word? (f "all_time")
  pure ⟨currentMonth, currentYear, allTime⟩

/-- Submission counts as JSON. -/
def SubmissionCounts.toTree (c : SubmissionCounts) : Json.Tree :=
  .record
    [("current_month", Json.ofWord c.currentMonth),
     ("current_year", Json.ofWord c.currentYear),
     ("all_time", Json.ofWord c.allTime)]

/-- How much speech was transcribed and how much text was translated. -/
structure LanguageTotals where
  secondsMonth : UInt64
  charactersMonth : UInt64
  secondsYear : UInt64
  charactersYear : UInt64
  secondsAllTime : UInt64
  charactersAllTime : UInt64
deriving DecidableEq, Repr, Inhabited

/-- Reading language totals from JSON. -/
def LanguageTotals.ofTree? (t : Json.Tree) : Option LanguageTotals := do
  let f ← Json.fields?
    ["asr_seconds_current_month", "mt_characters_current_month", "asr_seconds_current_year",
     "mt_characters_current_year", "asr_seconds_all_time", "mt_characters_all_time"] t
  let secondsMonth ← Json.orElse 0 Json.word? (f "asr_seconds_current_month")
  let charactersMonth ← Json.orElse 0 Json.word? (f "mt_characters_current_month")
  let secondsYear ← Json.orElse 0 Json.word? (f "asr_seconds_current_year")
  let charactersYear ← Json.orElse 0 Json.word? (f "mt_characters_current_year")
  let secondsAllTime ← Json.orElse 0 Json.word? (f "asr_seconds_all_time")
  let charactersAllTime ← Json.orElse 0 Json.word? (f "mt_characters_all_time")
  pure ⟨secondsMonth, charactersMonth, secondsYear, charactersYear, secondsAllTime,
    charactersAllTime⟩

/-- Language totals as JSON. -/
def LanguageTotals.toTree (l : LanguageTotals) : Json.Tree :=
  .record
    [("asr_seconds_current_month", Json.ofWord l.secondsMonth),
     ("mt_characters_current_month", Json.ofWord l.charactersMonth),
     ("asr_seconds_current_year", Json.ofWord l.secondsYear),
     ("mt_characters_current_year", Json.ofWord l.charactersYear),
     ("asr_seconds_all_time", Json.ofWord l.secondsAllTime),
     ("mt_characters_all_time", Json.ofWord l.charactersAllTime)]

/-- What an account has used of the service in its current billing period. -/
structure UsageReport where
  monthStart : Instant
  yearStart : Instant
  billingPeriodEnd : Option Instant
  submissions : SubmissionCounts
  storageBytes : UInt64
  language : LanguageTotals
deriving Repr, Inhabited

namespace UsageReport

/-- Reading a usage report from JSON. -/
def ofTree? (t : Json.Tree) : Option UsageReport := do
  let f ← Json.fields?
    ["current_month_start", "current_year_start", "billing_period_end",
     "total_submission_count", "total_storage_bytes", "total_nlp_usage"] t
  let monthStart ← Json.required Instant.ofTree? (f "current_month_start")
  let yearStart ← Json.required Instant.ofTree? (f "current_year_start")
  let billingPeriodEnd ← Json.optional Instant.ofTree? (f "billing_period_end")
  let submissions ← Json.required SubmissionCounts.ofTree? (f "total_submission_count")
  let storageBytes ← Json.orElse 0 Json.word? (f "total_storage_bytes")
  let language ← Json.required LanguageTotals.ofTree? (f "total_nlp_usage")
  pure ⟨monthStart, yearStart, billingPeriodEnd, submissions, storageBytes, language⟩

/-- A usage report as JSON; an absent end of the billing period is left out. -/
def toTree (u : UsageReport) : Json.Tree :=
  .record
    ([("current_month_start", u.monthStart.toTree), ("current_year_start", u.yearStart.toTree)]
      ++ (match u.billingPeriodEnd with
        | some a => [("billing_period_end", a.toTree)]
        | none => [])
      ++ [("total_submission_count", u.submissions.toTree),
          ("total_storage_bytes", Json.ofWord u.storageBytes),
          ("total_nlp_usage", u.language.toTree)])

end UsageReport

end ProjectViews
