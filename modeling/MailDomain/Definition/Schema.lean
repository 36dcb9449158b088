import MailDomain.Json.Basic
import MailDomain.Text.Pattern

/-!
# Schemas of values

## Main definitions

* `Schema.About` — what a schema says whatever the type of the values.
* `Schema` — a schema, with its JSON form `Schema.encode`.
-/

set_option relaxedAutoImplicit false
set_option autoImplicit false

namespace MailDomain

/-- What a schema says whatever the type of the values is. -/
structure Schema.About where
  title : Option String := none
  description : Option String := none
  /-- Whether null is a value too. -/
  nullable : Bool := false
  /-- The value that a member counts for when it is missing. -/
  fallback : Option Json := none

/-- A schema of values, as definitions of objects use it: of the types that occur there. -/
inductive Schema
  | boolean (about : Schema.About)
  /-- A text, which a pattern may restrict. -/
  | text (about : Schema.About) (pattern : Option Pattern)
  /-- A signed integer of 64 bits. -/
  | word64 (about : Schema.About)
  /-- An object with some of its members required. -/
  | object (about : Schema.About) (properties : List (String × Schema)) (required : List String)

namespace Schema

/-- The object for a schema: what `about` says, the `type`, and the members `own` that only this
type has. -/
def members (about : About) (type : String) (own : List (String × Json)) : Json :=
  Json.sorted (Json.ofFields ([
    ("default", about.fallback),
    ("description", about.description.map .str),
    ("nullable", if about.nullable then some (.bool true) else none),
    ("title", about.title.map .str),
    ("type", some (.str type))] ++ own.map fun m => (m.1, some m.2)))

mutual

/-- The schema as a JSON value, which is how a definition holds it. -/
def encode : Schema → Json
  | .boolean about => members about "boolean" []
  | .text about none => members about "string" []
  | .text about (some p) => members about "string" [("pattern", .str p.text)]
  | .word64 about => members about "integer" [("format", .str "int64")]
  | .object about properties required =>
    let own := [("properties", Json.obj (encodeAll properties))]
    members about "object"
      (if required.isEmpty then own else ("required", .arr (required.map .str)) :: own)

/-- Named schemas as the members of an object. -/
def encodeAll : List (String × Schema) → List (String × Json)
  | [] => []
  | (name, s) :: ss => (name, s.encode) :: encodeAll ss

end

end Schema

end MailDomain
