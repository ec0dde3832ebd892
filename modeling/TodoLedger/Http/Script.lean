import TodoLedger.Http.Exchange

/-! A server that answers from a script, one line for each request that reaches it. -/

namespace TodoLedger.Http

structure Script where
  origin : Text
  /-- What comes of the requests to come; after that the connection is closed. -/
  outcomes : List Outcome
  /-- The requests received so far. -/
  received : List Request

namespace Script

/-- The transport to a scripted server; nothing else can be reached. -/
def transport : Transport Script where
  send r s :=
    if r.url.origin != s.origin then (.disconnected, s)
    else
      let s' := { s with received := s.received ++ [r] }
      match s.outcomes with
      | [] => (.disconnected, s')
      | outcome :: more => (outcome, { s' with outcomes := more })

end Script
end TodoLedger.Http
