/-
Usage of the service by single projects.
-/
import ProjectViews.Page

namespace ProjectViews

/-- Language processing for one project. -/
structure ProjectLanguage where
  seconds : UInt64
  characters : UInt64
deriving DecidableEq, Repr, Inhabited

/-- Reading the language processing of a project from JSON. -/
def ProjectLanguage.ofTree? (t : Json.Tree) : Option ProjectLanguage := do
  let f ← Json.fields? ["total_nlp_asr_seconds", "total_nlp_mt_characters"] t
  let seconds ← Json.orElse 0 Json.word? (f "total_nlp_asr_seconds")
  let characters ← Json.orElse 0 Json.word? (f "total_nlp_mt_characters")
  pure ⟨seconds, characters⟩

/-- The language processing of a project as JSON. -/
def ProjectLanguage.toTree (l : ProjectLanguage) : Json.Tree :=
  .record
    [("total_nlp_asr_seconds", Json.ofWord l.seconds),
     ("total_nlp_mt_characters", Json.ofWord l.characters)]

/-- What one project has used of the service. -/
structure ProjectUsage where
  link : String
  uid : String
  name : String
  languageMonth : ProjectLanguage
  languageAllTime : ProjectLanguage
  storageBytes : UInt64
  submissionsMonth : UInt64
  submissionsAllTime : UInt64
  deploymentStatus : String
deriving DecidableEq, Repr, Inhabited

namespace ProjectUsage

/-- Reading the usage of a project from JSON. -/
def ofTree? (t : Json.Tree) : Option ProjectUsage := do
  let f ← Json.fields?
    ["asset", "uid", "asset__name", "nlp_usage_current_month", "nlp_usage_all_time",
     "storage_bytes", "submission_count_current_month", "submission_count_all_time",
     "deployment_status"] t
  let link ← Json.required Json.string? (f "asset")
  let uid ← Json.required Json.string? (f "uid")
  let name ← Json.required Json.string? (f "asset__name")
  let languageMonth ←
    Json.orElse ⟨0, 0⟩ ProjectLanguage.ofTree? (f "nlp_usage_current_month")
  let languageAllTime ← Json.orElse ⟨0, 0⟩ ProjectLanguage.ofTree? (f "nlp_usage_all_time")
  let storageBytes ← Json.orElse 0 Json.word? (f "storage_bytes")
  let submissionsMonth ← Json.orElse 0 Json.word? (f "submission_count_current_month")
  let submissionsAllTime ← Json.orElse 0 Json.word? (f "submission_count_all_time")
  let deploymentStatus ← Json.orElse "" Json.string? (f "deployment_status")
  pure ⟨link, uid, name, languageMonth, languageAllTime, storageBytes, submissionsMonth,
    submissionsAllTime, deploymentStatus⟩

/-- The usage of a project as JSON. -/
def toTree (u : ProjectUsage) : Json.Tree :=
  .record
    [("asset", .text u.link),
     ("uid", .text u.uid),
     ("asset__name", .text u.name),
     ("nlp_usage_current_month", u.languageMonth.toTree),
     ("nlp_usage_all_time", u.languageAllTime.toTree),
     ("storage_bytes", Json.ofWord u.storageBytes),
     ("submission_count_current_month", Json.ofWord u.submissionsMonth),
     ("submission_count_all_time", Json.ofWord u.submissionsAllTime),
     ("deployment_status", .text u.deploymentStatus)]

end ProjectUsage

/-- An organization by name. -/
structure Organization where
  id : String
  name : String
deriving DecidableEq, Repr, Inhabited

namespace Organization

/-- Reading an organization from JSON. -/
def ofTree? (t : Json.Tree) : Option Organization := do
  let f ← Json.fields? ["id", "name"] t
  let id ← Json.required Json.string? (f "id")
  let name ← Json.orElse "" Json.string? (f "name")
  pure ⟨id, name⟩

/-- An organization as JSON. -/
def toTree (o : Organization) : Json.Tree := .record [("id", .text o.id), ("name", .text o.name)]

end Organization

end ProjectViews
