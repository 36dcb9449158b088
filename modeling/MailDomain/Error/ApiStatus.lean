import MailDomain.Json.Decode

/-!
# Status objects

With a status object the API server explains why a request failed, or says that it succeeded.
Everything in a status object may be missing.

## Main definitions

* `ApiStatus` — a status object, with `text` and `detail` as its two wordings.
* `ApiStatus.ListInfo`, `ApiStatus.Cause`, `ApiStatus.Details` — parts of a status object.
* `ApiStatus.decode` — its JSON form.
-/

set_option relaxedAutoImplicit false
set_option autoImplicit false

namespace MailDomain

open Json (Decoder RecordField Mismatch)

namespace ApiStatus

/-- Whether a status object tells of a success or of a failure. -/
inductive Summary
  | success
  | failure
  deriving DecidableEq, Repr

/-- What a status object says about a list of objects. -/
structure ListInfo where
  /-- What a request for the rest of the list has to give to be continued there. -/
  more : Option String := none
  remainingItemCount : Option Int := none
  resourceVersion : Option String := none
  selfLink : Option String := none
  deriving DecidableEq, Repr

/-- One of the causes of a failure, by its field. -/
structure Cause where
  reason : String := ""
  message : String := ""
  field : String := ""
  deriving DecidableEq, Repr

/-- The object that a failure is about, the causes of the failure, and how long to wait before
trying again. -/
structure Details where
  name : String := ""
  group : String := ""
  kind : String := ""
  uid : String := ""
  causes : List Cause := []
  retryAfterSeconds : Int := 0
  deriving DecidableEq, Repr

end ApiStatus

/-- The status object with which the API server explains what came of a request. -/
structure ApiStatus where
  summary : Option ApiStatus.Summary := none
  code : UInt16 := 0
  message : String := ""
  metadata : Option ApiStatus.ListInfo := none
  reason : String := ""
  details : Option ApiStatus.Details := none
  deriving DecidableEq, Repr

namespace ApiStatus

/-! ## Wordings -/

/-- The name of a summary in JSON. -/
def Summary.name : Summary → String
  | .success => "Success"
  | .failure => "Failure"

/-- The message and the reason of a status, which is its short form. -/
def text (s : ApiStatus) : String := s.message ++ ": " ++ s.reason

/-- A record with the given name and fields, each of these with its own name and value. -/
def recordText (name : String) (fields : List (String × String)) : String :=
  let written := fields.map fun f => f.1 ++ ": " ++ f.2
  name ++ " \x7b " ++ ", ".intercalate written ++ " \x7d"

/-- The form of a value that may be absent, which `write` writes if it is there. -/
def optionText {α : Type} (write : α → String) : Option α → String
  | none => "None"
  | some a => "Some(" ++ write a ++ ")"

/-- All that is said about a list of objects, field by field. -/
def ListInfo.detail (m : ListInfo) : String :=
  recordText "ListMeta" [
    ("continue_", Text.optional m.more),
    ("remaining_item_count", optionText toString m.remainingItemCount),
    ("resource_version", Text.optional m.resourceVersion),
    ("self_link", Text.optional m.selfLink)]

/-- All of a cause, field by field. -/
def Cause.detail (c : Cause) : String :=
  recordText "StatusCause" [
    ("reason", Text.quoted c.reason),
    ("message", Text.quoted c.message),
    ("field", Text.quoted c.field)]

/-- All of the details, field by field. -/
def Details.detail (d : Details) : String :=
  recordText "StatusDetails" [
    ("name", Text.quoted d.name),
    ("group", Text.quoted d.group),
    ("kind", Text.quoted d.kind),
    ("uid", Text.quoted d.uid),
    ("causes", "[" ++ ", ".intercalate (d.causes.map Cause.detail) ++ "]"),
    ("retry_after_seconds", toString d.retryAfterSeconds)]

/-- All of a status, field by field, which is its long form. -/
def detail (s : ApiStatus) : String :=
  recordText "Status" [
    ("status", optionText Summary.name s.summary),
    ("code", toString s.code.toNat),
    ("message", Text.quoted s.message),
    ("metadata", optionText ListInfo.detail s.metadata),
    ("reason", Text.quoted s.reason),
    ("details", optionText Details.detail s.details)]

/-! ## Reading -/

/-- Reads the name of a summary. Any other text is a mismatch. -/
def Summary.ofName (s : String) : Except Mismatch Summary :=
  if s = Summary.success.name then .ok .success
  else if s = Summary.failure.name then .ok .failure
  else .error (.unknownWord s Summary.success.name Summary.failure.name)

/-- Reads a summary, which may be null. Its name may also be the only member of an object and
lead to null. -/
def Summary.decode : Decoder (Option Summary)
  | .null => .ok none
  | .str s => (Summary.ofName s).map some
  | .obj ((s, d) :: ms) e => do
    let x ← Summary.ofName (← Json.orFault s)
    match d, ms, e with
    | .null, [], .closed => return some x
    | .null, _, _ => throw .noWord
    | d, _, _ => throw (d.mismatch "unit")
  | .unreadable f => .error (.fault f)
  | .broken f _ => .error (.fault f)
  | _ => .error .noWord

/-- Reads what is said about a list of objects, from an object or from an array. -/
def ListInfo.decode : Decoder ListInfo := fun d => do
  let count : Decoder Int :=
    Json.integer "i64" (-9223372036854775808) 9223372036854775807
  let ms ← Json.presentMembers "ListMeta" [
    Json.perhaps "continue" Json.text, Json.perhaps "remainingItemCount" count,
    Json.perhaps "resourceVersion" Json.text, Json.perhaps "selfLink" Json.text] d
  return {
    more := ← Json.present? "continue" Json.text ms
    remainingItemCount := ← Json.present? "remainingItemCount" count ms
    resourceVersion := ← Json.present? "resourceVersion" Json.text ms
    selfLink := ← Json.present? "selfLink" Json.text ms }

/-- The field `name` that has the value `default` when it is missing. -/
def fieldOr {α : Type} (name : String) (read : Decoder α) (default : α) : RecordField α :=
  { name, read, absent := some default, past := some default }

/-- The field `name` that is an empty text when it is missing. -/
def textField (name : String) : RecordField String := fieldOr name Json.text ""

/-- Reads a cause of a failure, from an object or from an array. -/
def Cause.decode : Decoder Cause
  | .obj ms e => do
    let ms ← Json.recordMembers
      [(textField "reason").expectation, (textField "message").expectation,
        (textField "field").expectation] ms e
    return {
      reason := ← (textField "reason").ofMembers ms
      message := ← (textField "message").ofMembers ms
      field := ← (textField "field").ofMembers ms }
  | .arr es e => do
    let reason ← (textField "reason").ofElems "struct StatusCause" 0 es e
    let message ← (textField "message").ofElems "struct StatusCause" 1 es e
    let field ← (textField "field").ofElems "struct StatusCause" 2 es e
    Json.checkLength 3 es e
    return { reason, message, field }
  | d => .error (d.mismatch "struct StatusCause")

/-- The field `causes`, which is empty when it is missing. -/
def causesField : RecordField (List Cause) := fieldOr "causes" (Json.list Cause.decode) []

/-- The field `retryAfterSeconds`, which is zero when it is missing. -/
def retryField : RecordField Int :=
  fieldOr "retryAfterSeconds" (Json.integer "u32" 0 4294967295) 0

/-- Reads the details of a failure, from an object or from an array. -/
def Details.decode : Decoder Details
  | .obj ms e => do
    let ms ← Json.recordMembers
      [(textField "name").expectation, (textField "group").expectation,
        (textField "kind").expectation, (textField "uid").expectation, causesField.expectation,
        retryField.expectation] ms e
    return {
      name := ← (textField "name").ofMembers ms
      group := ← (textField "group").ofMembers ms
      kind := ← (textField "kind").ofMembers ms
      uid := ← (textField "uid").ofMembers ms
      causes := ← causesField.ofMembers ms
      retryAfterSeconds := ← retryField.ofMembers ms }
  | .arr es e => do
    let name ← (textField "name").ofElems "struct StatusDetails" 0 es e
    let group ← (textField "group").ofElems "struct StatusDetails" 1 es e
    let kind ← (textField "kind").ofElems "struct StatusDetails" 2 es e
    let uid ← (textField "uid").ofElems "struct StatusDetails" 3 es e
    let causes ← causesField.ofElems "struct StatusDetails" 4 es e
    let retryAfterSeconds ← retryField.ofElems "struct StatusDetails" 5 es e
    Json.checkLength 6 es e
    return { name, group, kind, uid, causes, retryAfterSeconds }
  | d => .error (d.mismatch "struct StatusDetails")

/-- The field `status`, which holds the summary and may be missing. -/
def summaryField : RecordField (Option Summary) := fieldOr "status" Summary.decode none

/-- The field `code`, which is zero when it is missing. -/
def codeField : RecordField UInt16 :=
  fieldOr "code" (fun v => (Json.integer "u16" 0 65535 v).map fun n => n.toNat.toUInt16) 0

/-- The field `metadata`, which may be missing or null. -/
def metadataField : RecordField (Option ListInfo) :=
  fieldOr "metadata" (Json.optional ListInfo.decode) none

/-- The field `details`, which may be missing or null. -/
def detailsField : RecordField (Option Details) :=
  fieldOr "details" (Json.optional Details.decode) none

/-- Reads a status object, from an object or from an array. It need not have any of its fields. -/
def decode : Decoder ApiStatus
  | .obj ms e => do
    let ms ← Json.recordMembers
      [summaryField.expectation, codeField.expectation, (textField "message").expectation,
        metadataField.expectation, (textField "reason").expectation, detailsField.expectation] ms e
    return {
      summary := ← summaryField.ofMembers ms
      code := ← codeField.ofMembers ms
      message := ← (textField "message").ofMembers ms
      metadata := ← metadataField.ofMembers ms
      reason := ← (textField "reason").ofMembers ms
      details := ← detailsField.ofMembers ms }
  | .arr es e => do
    let summary ← summaryField.ofElems "struct Status" 0 es e
    let code ← codeField.ofElems "struct Status" 1 es e
    let message ← (textField "message").ofElems "struct Status" 2 es e
    let metadata ← metadataField.ofElems "struct Status" 3 es e
    let reason ← (textField "reason").ofElems "struct Status" 4 es e
    let details ← detailsField.ofElems "struct Status" 5 es e
    Json.checkLength 6 es e
    return { summary, code, message, metadata, reason, details }
  | d => .error (d.mismatch "struct Status")

end ApiStatus

end MailDomain
