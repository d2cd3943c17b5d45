/-
Notices: limits and usage as text for a person.
-/
import ProjectViews.Text.Split
import ProjectViews.Usage.Gate
import ProjectViews.Usage.ProjectUsage

namespace ProjectViews

/-- A number with its digits. -/
def writeWord (n : UInt64) : String := Number.write n.toNat

/-- A figure and its limit. -/
def UsageLimit.describe (l : UsageLimit) : String :=
  l.metric.label ++ " (" ++ writeWord l.usage ++ "/" ++ writeWord l.limit ++ ")"

/-- Figures and their limits. -/
def describeLimits (limits : List UsageLimit) : String :=
  Text.join ", " (limits.map UsageLimit.describe)

/-- The lines that tell what is shown about limits. -/
def Decision.notices (d : Decision) : List String :=
  let plan := d.interval.text ++ " plan limits"
  let exceeded := describeLimits d.limits.exceeded
  (if d.showModal then ["You have exceeded your " ++ plan ++ ": " ++ exceeded]
    else if d.showExceededBanner then ["Over " ++ plan ++ ": " ++ exceeded]
    else [])
  ++ (if d.showWarningBanner then
      ["Approaching " ++ plan ++ ": " ++ describeLimits d.limits.warning]
    else [])
  ++ (if d.limits.exceeded.isEmpty ∧ d.limits.warning.isEmpty then
      ["Usage is within the " ++ plan]
    else [])

/-- The headings of the usage by projects. -/
def ProjectUsage.headings : List String :=
  ["uid", "name", "submissions (month)", "storage bytes", "asr seconds (month)",
   "mt characters (month)"]

/-- What is told of the usage of one project. -/
def ProjectUsage.cells (u : ProjectUsage) : List String :=
  [u.uid, u.name, writeWord u.submissionsMonth, writeWord u.storageBytes,
   writeWord u.languageMonth.seconds, writeWord u.languageMonth.characters]

/-- The lines of a page of the usage by projects. -/
def Page.usageLines (p : Page ProjectUsage) : List String :=
  Text.join "\t" ProjectUsage.headings
    :: p.results.map (fun u => Text.join "\t" u.cells)
    ++ [Number.write p.results.length ++ " of " ++ writeWord p.count ++ " projects"]

end ProjectViews
