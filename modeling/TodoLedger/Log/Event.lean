import TodoLedger.Text.Number
import TodoLedger.Text.Quoted

/-! Log events: what a run tells about itself besides its result. -/

namespace TodoLedger.Log

/-- How grave an event is. -/
inductive Level where
  | error
  | warn
  | info
  | debug
  | trace
deriving DecidableEq, Repr

namespace Level

def name : Level → Text
  | error => "ERROR".toList
  | warn => "WARN".toList
  | info => "INFO".toList
  | debug => "DEBUG".toList
  | trace => "TRACE".toList

/-- The place of a level from the gravest on, counted from one. -/
def rank : Level → Nat
  | error => 1
  | warn => 2
  | info => 3
  | debug => 4
  | trace => 5

end Level

/-- Something that happened in a part of the program. -/
structure Event where
  level : Level
  /-- The part of the program. -/
  target : Text
  message : Text
  /-- Details by name, in order, as they are shown. -/
  fields : List (Text × Text)
deriving DecidableEq, Repr

namespace Event

/-- The event as a line of the log. -/
def line (e : Event) : Text :=
  e.level.name ++ [' '] ++ e.target ++ [':', ' '] ++ e.message ++
    e.fields.flatMap fun (name, value) => [' '] ++ name ++ ['='] ++ value

end Event

/-- A result with the events on the way to it. -/
structure Traced (α : Type) where
  value : α
  events : List Event

instance : Monad Traced where
  pure a := ⟨a, []⟩
  bind t f := let u := f t.value; ⟨u.value, t.events ++ u.events⟩

namespace Traced

variable {α β : Type}

@[simp] theorem value_pure (a : α) : (pure a : Traced α).value = a := rfl

@[simp] theorem value_bind (t : Traced α) (f : α → Traced β) : (t >>= f).value = (f t.value).value := rfl

@[simp] theorem events_pure (a : α) : (pure a : Traced α).events = [] := rfl

@[simp] theorem events_bind (t : Traced α) (f : α → Traced β) : (t >>= f).events = t.events ++ (f t.value).events := rfl

theorem eq_of {t u : Traced α} (value : t.value = u.value) (events : t.events = u.events) : t = u := by
  cases t
  cases u
  cases value
  cases events
  rfl

end Traced

/-- An event that tells `message`, and no result. -/
def tell (level : Level) (target : String) (message : Text) (fields : List (String × Text)) : Traced Unit :=
  ⟨(), [⟨level, target.toList, message, fields.map fun (name, value) => (name.toList, value)⟩]⟩

/-- An event with one of the messages of the program, and no result. -/
def emit (level : Level) (target message : String) (fields : List (String × Text)) : Traced Unit :=
  tell level target message.toList fields

end TodoLedger.Log
