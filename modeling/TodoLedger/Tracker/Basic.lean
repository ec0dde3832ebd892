import TodoLedger.Inventory
import TodoLedger.Log.Event

/-! Issue trackers: one call lists the issues that exist, another files a new one. A tracker answers from a
state of its own, which every call may change. -/

namespace TodoLedger

/-- The version of the program, as its requests and reports name it. -/
def version : Text := "0.1.0".toList

/-- Why a call to a tracker fails. -/
inductive TrackerError where
  | network (cause : Text)
  | timeout
  | rateLimited
  | http (status : Nat) (message : Text)
  | missingIdentity (variableName : Text)
  | invalidToken
deriving DecidableEq, Repr

def TrackerError.message : TrackerError → Text
  | network cause => "network error: ".toList ++ cause
  | timeout => "request timed out".toList
  | rateLimited => "rate limited by tracker".toList
  | http status message =>
    "tracker returned HTTP ".toList ++ Text.ofNat status ++ ": ".toList ++ message
  | missingIdentity name => "repository identity incomplete: ".toList ++ name ++ " is not set".toList
  | invalidToken => "token contains characters not allowed in a header".toList

/-- The answer of a tracker: what came of the call, and the state after it. -/
structure Reply (σ α : Type) where
  result : Except TrackerError α
  state : σ
  events : List Log.Event := []

/-- A tracker for the issues of a repository. -/
structure Tracker (σ : Type) where
  repository : Repository
  list : σ → Reply σ (List ExistingIssue)
  create : Payload → σ → Reply σ Unit

namespace Tracker

variable {σ τ : Type}

/-- The tracker whose state is a part of a larger one. -/
def within (t : Tracker σ) (get : τ → σ) (set : σ → τ → τ) : Tracker τ where
  repository := t.repository
  list s :=
    let reply := t.list (get s)
    { result := reply.result, state := set reply.state s, events := reply.events }
  create p s :=
    let reply := t.create p (get s)
    { result := reply.result, state := set reply.state s, events := reply.events }

/-- The inventory of a tracker; one that cannot be read counts as empty. -/
def inventory (t : Tracker σ) (s : σ) : Log.Traced (Inventory × σ) :=
  let reply := t.list s
  let note : Log.Traced Inventory :=
    match reply.result with
    | .ok issues => do
      let inventory := Inventory.ofIssues issues
      Log.emit .debug "todoon::reconcile" "built issue inventory" [("entries", Text.ofNat inventory.size)]
      pure inventory
    | .error e => do
      Log.emit .warn "todoon::reconcile"
        "could not read existing issues; duplicates will not be detected" [("error", e.message)]
      pure Inventory.empty
  ⟨(note.value, reply.state), reply.events ++ note.events⟩

end Tracker
end TodoLedger
