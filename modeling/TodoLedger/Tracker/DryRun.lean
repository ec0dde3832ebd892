import TodoLedger.Tracker.Basic

/-! A tracker that files nothing and keeps what it was asked to file. -/

namespace TodoLedger.Tracker

/-- Reports the given issues; its state holds the payloads received so far. -/
def dryRun (repository : Repository) (existing : List ExistingIssue) : Tracker (List Payload) where
  repository := repository
  list payloads := { result := .ok existing, state := payloads }
  create p payloads := {
    result := .ok ()
    state := payloads ++ [p]
    events := (Log.emit .info "todoon::tracker::dry_run" "dry run: would file issue" [
      ("repo", repository.slug), ("title", p.title), ("labels", Text.quotedList p.labels)]).events }

/-- The tracker `t` with some calls refused: the listing if `refusesList`, and the creation with a number,
counted from zero, if `refuses` says so. A refused call does not reach `t`. -/
def refusing {σ : Type} (t : Tracker σ) (refusesList : Bool) (refuses : Nat → Bool) (e : TrackerError) :
    Tracker (Nat × σ) where
  repository := t.repository
  list := fun (calls, s) =>
    if refusesList then { result := .error e, state := (calls, s) }
    else
      let reply := t.list s
      { result := reply.result, state := (calls, reply.state), events := reply.events }
  create p := fun (calls, s) =>
    if refuses calls then { result := .error e, state := (calls + 1, s) }
    else
      let reply := t.create p s
      { result := reply.result, state := (calls + 1, reply.state), events := reply.events }

end TodoLedger.Tracker
