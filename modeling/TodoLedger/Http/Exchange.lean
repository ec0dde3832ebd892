import TodoLedger.Http.Url
import TodoLedger.Json.Basic

/-! Requests over the web and what comes of them. -/

namespace TodoLedger.Http

inductive Method where
  | get
  | post
deriving DecidableEq, Repr

def Method.name : Method → Text
  | get => "GET".toList
  | post => "POST".toList

structure Request where
  method : Method
  url : Url
  /-- Headers by their names in lower case. -/
  headers : List (Text × Text)
  body : Option Json

structure Response where
  status : Nat
  headers : List (Text × Text)
  body : Text
deriving DecidableEq, Repr

namespace Response

/-- The first header of a name in any letter case, without the blanks around it. -/
def header? (r : Response) (name : Text) : Option Text :=
  let isBlank (c : Char) : Bool := c == ' ' || c == '\t'
  (r.headers.find? fun (n, _) => Text.lowerAscii n == Text.lowerAscii name).map fun (_, value) =>
    Text.dropEndWhile isBlank (value.dropWhile isBlank)

def isSuccess (r : Response) : Bool := 200 ≤ r.status && r.status < 300

/-- The body. A response without content, or one that points at what is known already, has none. -/
def content (r : Response) : Text := if r.status = 204 || r.status = 304 then [] else r.body

/-- The body as a text to be shown: without a byte order mark. -/
def shown (r : Response) : Text :=
  match r.content with
  | '\uFEFF' :: t => t
  | t => t

end Response

/-- What comes of a request. -/
inductive Outcome where
  | answered (r : Response)
  | timedOut
  /-- There is no connection, or it was closed without an answer. -/
  | disconnected
deriving DecidableEq, Repr

/-- The way to the other side, which may change with every request. -/
structure Transport (σ : Type) where
  send : Request → σ → Outcome × σ

/-- The way to a side that cannot be reached. -/
def Transport.closed : Transport Unit where
  send _ s := (.disconnected, s)

/-- Whether a text may stand in a header: it has no controls but tabs. -/
def isHeaderValue (t : Text) : Bool := t.all fun c => c == '\t' || (0x20 ≤ c.toNat && c.toNat != 0x7F)

end TodoLedger.Http
