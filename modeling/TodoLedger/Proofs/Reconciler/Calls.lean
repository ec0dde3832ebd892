import TodoLedger.Reconciler

/-! Calls for issues. A tracker that records its calls answers as it does without the record; the calls of a
run are what its tracker has recorded at the end. -/

namespace TodoLedger

variable {σ : Type}

/-- A call for an issue, with the answer to it. -/
structure Call where
  payload : Payload
  result : Except TrackerError Unit

namespace Call

/-- The payload of the issue that a call created. -/
def created? (c : Call) : Option Payload :=
  match c.result with
  | .ok () => some c.payload
  | .error _ => none

@[simp] theorem created?_ok (p : Payload) : (⟨p, .ok ()⟩ : Call).created? = some p := rfl

@[simp] theorem created?_error (p : Payload) (e : TrackerError) : (⟨p, .error e⟩ : Call).created? = none := rfl

/-- The payloads of the issues that calls created, in order. -/
def created (calls : List Call) : List Payload := calls.filterMap created?

@[simp] theorem created_nil : created [] = [] := rfl

@[simp] theorem created_append (a b : List Call) : created (a ++ b) = created a ++ created b :=
  List.filterMap_append

end Call

/-- The tracker that keeps its calls for issues. -/
def Tracker.recording (t : Tracker σ) : Tracker (σ × List Call) where
  repository := t.repository
  list s :=
    let reply := t.list s.1
    { result := reply.result, state := (reply.state, s.2), events := reply.events }
  create p s :=
    let reply := t.create p s.1
    { result := reply.result, state := (reply.state, s.2 ++ [⟨p, reply.result⟩]), events := reply.events }

/-- Every call for an issue succeeds. -/
def Tracker.Accepts (t : Tracker σ) : Prop := ∀ p s, (t.create p s).result = .ok ()

/-- The progress with the calls so far. -/
def Progress.recorded (p : Progress σ) (calls : List Call) : Progress (σ × List Call) :=
  ⟨p.filed, p.stats, (p.state, calls)⟩

/-- The progress before the first hit. -/
def Progress.start (stats : RunStats) (s : σ) : Progress σ := ⟨[], stats, s⟩

namespace Reconciler

/-- The reconciler whose tracker keeps its calls. -/
def recording (r : Reconciler σ) : Reconciler (σ × List Call) where
  tracker := r.tracker.map Tracker.recording
  inventory := r.inventory
  cap := r.cap

/-- Decides every hit, going on after one that exceeds the cap. -/
def decideEach (r : Reconciler σ) (p : Progress σ) :
    List Hit → Log.Traced (List (Except CapExceeded Decision) × Progress σ)
  | [] => pure ([], p)
  | h :: hits => do
    let (outcome, p) ← r.step p h
    let (outcomes, p) ← r.decideEach p hits
    pure (outcome :: outcomes, p)

/-- The calls for issues while every hit is decided. -/
def callsOfEach (r : Reconciler σ) (p : Progress σ) (hits : List Hit) : List Call :=
  (r.recording.decideEach (p.recorded []) hits).value.2.state.2

/-- The calls for issues while all hits are decided or one exceeds the cap. -/
def callsOfAll (r : Reconciler σ) (p : Progress σ) (hits : List Hit) : List Call :=
  (r.recording.decideAll (p.recorded []) hits).value.2.state.2

end Reconciler
end TodoLedger
