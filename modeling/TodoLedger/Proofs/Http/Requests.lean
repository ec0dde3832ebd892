import TodoLedger.Http.Exchange

/-! Requests that are sent one after the other over a transport: what comes of each of them, and which ones were
sent. -/

namespace TodoLedger.Http.Transport

variable {σ : Type}

/-- The state after the first `n` of some requests. -/
def after (t : Transport σ) (requests : Nat → Request) (s : σ) : (n : Nat) → σ
  | 0 => s
  | n + 1 => (t.send (requests n) (t.after requests s n)).2

/-- What comes of a request when those before it were sent. -/
def answer (t : Transport σ) (requests : Nat → Request) (s : σ) (n : Nat) : Outcome :=
  (t.send (requests n) (t.after requests s n)).1

/-- The transport that keeps the requests. -/
def recording (t : Transport σ) : Transport (σ × List Request) where
  send r s := ((t.send r s.1).1, (t.send r s.1).2, s.2 ++ [r])

/-- The transport by which these come of the requests, whatever they are; its state counts them. -/
def inOrder (outcomes : Nat → Outcome) : Transport Nat where
  send _ n := (outcomes n, n + 1)

variable (t : Transport σ) (requests : Nat → Request) (s : σ) (sent : List Request)

theorem after_recording (n : Nat) :
    t.recording.after requests (s, sent) n = (t.after requests s n, sent ++ (List.range n).map requests) := by
  induction n with
  | zero => simp [after]
  | succ n ih =>
    rw [after, ih, after, List.range_succ, List.map_append, ← List.append_assoc]
    rfl

theorem answer_recording : t.recording.answer requests (s, sent) = t.answer requests s := by
  funext n
  rw [answer, after_recording]
  rfl

theorem after_inOrder (outcomes : Nat → Outcome) (n : Nat) : (inOrder outcomes).after requests 0 n = n := by
  induction n with
  | zero => rfl
  | succ n ih => rw [after, ih, inOrder]

/-- Every sequence of outcomes is that of some transport. -/
theorem answer_inOrder (outcomes : Nat → Outcome) : (inOrder outcomes).answer requests 0 = outcomes := by
  funext n
  rw [answer, after_inOrder]
  rfl

end TodoLedger.Http.Transport
