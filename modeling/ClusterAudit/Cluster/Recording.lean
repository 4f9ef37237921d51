/-
The answers of an API server, written down by the paths they were given at. A
recording need not hold an answer for every path: where there is none, lists
are empty and single objects do not exist.
-/
import ClusterAudit.Cluster.Fetch
import ClusterAudit.Cluster.Http
import ClusterAudit.Snapshot.Document

namespace ClusterAudit.Cluster

/-! ## Reading single answers -/

namespace ApiError

def decode? (j : Json) : Option ApiError := do
  let fields : Json.Fields ← j.record? ["status", "message", "reason", "code"] 4
  return {
    status := ← fields.required Json.string? "status"
    message := ← fields.presentOr Json.string? "" "message"
    reason := ← fields.presentOr Json.string? "" "reason"
    code := (← fields.required (Json.intWithin? 0 65535) "code").toNat }

/-- The error that an answer with an error code reports. An answer that is not
in the form for it is quoted instead. -/
def ofBody (code : Nat) (body : String) : ApiError :=
  match (Json.parse? body).bind decode? with
  | some e => e
  | none =>
    { status := Http.statusLine code
      message := Text.quoted body
      reason := "Failed to parse error data"
      code := code }

end ApiError

/-- What is said of a list as a whole; only its types matter here. -/
def fitListMetadata (j : Json) : Option Unit := do
  let fields : Json.Fields ← j.object?
  fields.fit Json.string? ["continue", "resourceVersion", "selfLink"]
  fields.fit (Json.intWithin? (-0x8000000000000000) 0x7FFFFFFFFFFFFFFF) ["remainingItemCount"]

/-- How many levels an answer may be deep, the answer itself included, as far
as it is taken in whole. -/
def deepestLevel : Nat := 127

/-- The items of a list document. All fields but those two that are known are
taken in whole, before it is clear that nobody needs them. -/
def decodeItems? (k : Kind) (j : Json) : Option (List k.Item) := do
  let fields : Json.Fields ← j.object?
  let known := ["metadata", "items"]
  let rest := fields.filter fun p => !known.contains p.1
  if Json.areSingle known fields && Json.fieldsWithinLimits (deepestLevel - 1) rest then
    fields.presentOr fitListMetadata () "metadata"
    fields.required (fun
      | .null => some []
      | j => Json.list? k.decodeItem? j) "items"
  else none

/-- The content of a good answer to a request. -/
def Request.decodeReply? : (r : Request) → Json → Option r.Reply
  | .list k _, j => decodeItems? k j
  | .systemNamespace, j => (Namespace.decode? j).map some

/-- An answer as it comes over the wire. -/
structure Response where
  code : Nat := 200
  body : String

namespace Response

def read (x : Response) (r : Request) : Except ClusterError r.Reply :=
  if Http.isError x.code then .error (.api (.ofBody x.code x.body))
  else
    match (Json.parse? x.body).bind r.decodeReply? with
    | some reply => .ok reply
    | none => .error (.unintelligible "not what was asked for")

/-- The answer where nothing is recorded. -/
def missing : Request → Response
  | .list _ _ => { body := (Json.obj [("items", .arr [])]).compact }
  | .systemNamespace =>
    { code := 404
      body := (Json.obj [("status", .str "Failure"), ("reason", .str "NotFound"),
        ("code", .int 404)]).compact }

end Response

/-! ## Recordings -/

/-- One entry: a response and how long it took, if it ever came. -/
structure Recorded where
  delay : Option Nat := some 0
  response : Response

namespace Recorded

def answer (x : Recorded) (r : Request) : Answer r.Reply :=
  match x.delay with
  | none => .never
  | some t => .after t (x.response.read r)

/-- The response is given by the items of a list, by a single object, by an
error of the server, or word for word. -/
def decodeResponse? (fields : Json.Fields) : Option Response :=
  match Json.field? fields "items", Json.field? fields "object", Json.field? fields "status" with
  | some items, _, _ => some { body := (Json.obj [("items", items)]).compact }
  | none, some object, _ => some { body := object.compact }
  | none, none, some (.obj status) => do
    let code ← Json.Fields.required status (Json.intWithin? 0 999) "code"
    return { code := code.toNat, body := (Json.obj status).compact }
  | none, none, some _ => none
  | none, none, none => do
    let code ← fields.defaulted (Json.intWithin? 0 999) 200 "code"
    return { code := code.toNat, body := ← fields.defaulted Json.string? "" "text" }

def decode? (j : Json) : Option Recorded := do
  let fields : Json.Fields ← j.object?
  if ← fields.defaulted Json.bool? false "hang" then
    return { delay := none, response := { body := "" } }
  let delay ← fields.defaulted (Json.intWithin? 0 0x7FFFFFFFFFFFFFFF) 0 "delay_ms"
  return { delay := some delay.toNat, response := ← decodeResponse? fields }

end Recorded

/-- Entries by the paths of their requests. A path may be followed by a question
mark and a field selector, and then the entry is for requests with just that
selector. -/
abbrev Recording := List (String × Recorded)

namespace Recording

def find? (rec : Recording) (r : Request) : Option Recorded :=
  (r.selector.bind fun selector => rec.lookup (r.path ++ "?" ++ selector)) <|> rec.lookup r.path

def api (rec : Recording) : Api := fun r =>
  match rec.find? r with
  | some x => x.answer r
  | none => .after 0 ((Response.missing r).read r)

def decode? (j : Json) : Option Recording := do
  let fields : Json.Fields ← j.object?
  fields.mapM fun (path, entry) => do return (path, ← Recorded.decode? entry)

end Recording

end ClusterAudit.Cluster
