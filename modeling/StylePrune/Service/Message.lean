import StylePrune.Json.Parser
import StylePrune.Json.Printer
import StylePrune.Json.Value

/-!
# Requests and responses

What the service is asked and what it answers, and how both are written on lines.
-/

namespace StylePrune.Service

/-!
## Requests and responses

The service takes requests with a body of JSON or none, and answers with a value or with text.
-/

mutual

/-- Whether a value can be sent: it holds no surrogate and no infinite number. -/
def isSendable : Json → Bool
  | .broken _ => false
  | .float f => Decimal.isFinite f
  | .arr items => areSendable items
  | .obj members => membersAreSendable members
  | _ => true

def areSendable : List Json → Bool
  | [] => true
  | v :: rest => isSendable v && areSendable rest

def membersAreSendable : List (String × Json) → Bool
  | [] => true
  | (_, v) :: rest => isSendable v && membersAreSendable rest

end

structure Request where
  method : String
  /-- The path, with a query or without. -/
  target : String
  body : Option String := none
deriving DecidableEq, Repr, Inhabited

inductive Body where
  | value (v : Json)
  | text (s : String)
deriving Inhabited

structure Response where
  status : Nat := 200
  body : Body
deriving Inhabited

namespace Response

/-- An answer that only says what is wrong. -/
def refusal (status : Nat) (detail : String) : Response :=
  ⟨status, .value (.obj [("detail", .str detail)])⟩

def notFound : Response := refusal 404 "Not Found"

def notAllowed : Response := refusal 405 "Method Not Allowed"

/-- The answer to a body that is JSON but cannot be held as a value. -/
def unreadable : Response := refusal 400 "There was an error parsing the body"

/-- The answer when the work on a request fails. -/
def failure : Response := ⟨500, .text "Internal Server Error"⟩

def withoutBody (r : Response) : Response := { r with body := .text "" }

/-- A value as an answer; one that cannot be sent is a failure. -/
def ofJson (v : Json) : Response := if isSendable v then ⟨200, .value v⟩ else failure

end Response

/-!
## Requests and responses on lines

A request is a line that holds an object with a method, a target and, if it has one, a body, which
is text. A response is a line that holds its status and its body.
-/

/-- The request of a line. -/
def Request.ofLine? (line : String) : Option Request :=
  match Json.parse line.toList with
  | .error _ => none
  | .ok value => do
    let method ← (← value.member? "method").string?
    let target ← (← value.member? "target").string?
    return ⟨method, target, (value.member? "body").bind Json.string?⟩

/-- The answer to a line that is no request. -/
def Response.noRequest : Response := refusal 400 "Bad Request"

def Body.toJson : Body → Json
  | value v => v
  | text s => .str s

/-- The line of a response. -/
def Response.line (r : Response) : String :=
  (Json.obj [("status", .int r.status), ("body", r.body.toJson)]).compact

end StylePrune.Service
