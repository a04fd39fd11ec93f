import Kronkeeper.StoredRows

namespace Kronkeeper

/-!
# A payload as JSON

`serde_json` on the derived `JobPayload`: internally tagged by `type`, with the
variants in lower case and the fields under their own names.
-/

/-- `serde_json::Value`, as far as payloads use it. -/
inductive JsonValue where
  | null
  | number (value : Nat)
  | text (value : String)
  | array (items : List JsonValue)
  | object (fields : List (String × JsonValue))

namespace JsonValue

def text? : JsonValue → Option String
  | .text value => some value
  | _ => none

/-- A member of an object of texts. -/
def textMember? : String × JsonValue → Option (String × String)
  | (name, .text value) => some (name, value)
  | _ => none

theorem mapM_text? (items : List String) :
    (items.map JsonValue.text).mapM text? = some items := by
  induction items with
  | nil =>
      rfl
  | cons item rest inductionHypothesis =>
      simp [-List.mapM_map, text?, inductionHypothesis]

theorem mapM_textMember? (members : List (String × String)) :
    (members.map fun (name, value) => (name, JsonValue.text value)).mapM
        textMember? =
      some members := by
  induction members with
  | nil =>
      rfl
  | cons member rest inductionHypothesis =>
      simp [-List.mapM_map, textMember?, inductionHypothesis]

end JsonValue

namespace JobPayload

open JsonValue

/-- The derived `Serialize`. -/
def toValue : JobPayload → JsonValue
  | .http method url headers body timeoutSec =>
      .object
        [ ("type", .text "http"),
          ("method", .text method),
          ("url", .text url),
          ("headers",
            .object (headers.map fun (name, value) => (name, .text value))),
          ("body", body.elim .null .text),
          ("timeout_sec", .number timeoutSec) ]
  | .script path args timeoutSec =>
      .object
        [ ("type", .text "script"),
          ("path", .text path),
          ("args", .array (args.map .text)),
          ("timeout_sec", .number timeoutSec) ]

/-- `default_timeout`. -/
def defaultTimeout : Nat :=
  30

/-- The field `timeout_sec` of either variant. -/
def timeoutOf? (fields : List (String × JsonValue)) : Option Nat :=
  match fields.lookup "timeout_sec" with
  | none => some defaultTimeout
  | some (.number timeoutSec) => some timeoutSec
  | some _ => none

def httpOf? (fields : List (String × JsonValue)) : Option JobPayload := do
  let method ← (fields.lookup "method").bind text?
  let url ← (fields.lookup "url").bind text?
  let headers ←
    match fields.lookup "headers" with
    | none => some []
    | some (.object headers) => headers.mapM textMember?
    | some _ => none
  let body ←
    match fields.lookup "body" with
    | none => some none
    | some .null => some none
    | some (.text body) => some (some body)
    | some _ => none
  let timeoutSec ← timeoutOf? fields
  pure (.http method url headers body timeoutSec)

def scriptOf? (fields : List (String × JsonValue)) : Option JobPayload := do
  let path ← (fields.lookup "path").bind text?
  let args ←
    match fields.lookup "args" with
    | none => some []
    | some (.array items) => items.mapM text?
    | some _ => none
  let timeoutSec ← timeoutOf? fields
  pure (.script path args timeoutSec)

/--
The derived `Deserialize`; `none` is an error.  The form of a payload as an
array, which `serde` reads too, is left out: `toValue` never writes it.
-/
def fromValue? : JsonValue → Option JobPayload
  | .object fields =>
      match (fields.lookup "type").bind text? with
      | some "http" => httpOf? fields
      | some "script" => scriptOf? fields
      | _ => none
  | _ => none

theorem fromValue?_toValue (payload : JobPayload) :
    fromValue? payload.toValue = some payload := by
  cases payload with
  | http method url headers body timeoutSec =>
      cases body <;>
        simp [-List.mapM_map, toValue, fromValue?, httpOf?, timeoutOf?,
          text?, List.lookup_cons, mapM_textMember?]
  | script path args timeoutSec =>
      simp [-List.mapM_map, toValue, fromValue?, scriptOf?, timeoutOf?,
        text?, List.lookup_cons, mapM_text?]

end JobPayload

namespace Serde

/-- `serde_json` itself. -/
def json : Serde JsonValue where
  toValue := JobPayload.toValue
  fromValue value :=
    match JobPayload.fromValue? value with
    | some payload => .ok payload
    | none => .error "data did not match any variant of JobPayload"

theorem json_inverts (payload : JobPayload) :
    json.fromValue (json.toValue payload) = .ok payload := by
  simp only [json, JobPayload.fromValue?_toValue]

end Serde

end Kronkeeper
