import TodoLedger.CommandLine.Basic
import TodoLedger.Text.Number

/-! The words of a command line matched against the arguments that a command has. Words are taken in order;
a value is checked when the next argument that is known begins, or at the end. -/

namespace TodoLedger.CommandLine

/-- What the values of an argument have to be. -/
inductive ValueKind where
  | text
  /-- A text that is not empty. -/
  | path
  | count
deriving DecidableEq, Repr

/-- What an argument does when it is given. -/
inductive Action where
  /-- Sets a flag, once. -/
  | flag
  /-- Counts how often it is given. -/
  | counter
  /-- Takes a value, once. -/
  | value (kind : ValueKind)
  | help
  | version
deriving DecidableEq, Repr

/-- An argument with a name after two dashes and perhaps a letter after one. -/
structure Argument where
  name : Text
  letter : Option Char
  action : Action
deriving DecidableEq, Repr

/-- The arguments of a command. -/
structure Shape where
  arguments : List Argument
  /-- What the words besides arguments have to be, if there may be any. -/
  positional : Option ValueKind

/-- What is waiting to be checked: an argument and its value, or words. -/
inductive Waiting where
  | value (a : Argument) (kind : ValueKind) (value : Option Text)
  | words (kind : ValueKind) (values : List Text)

/-- What has been given so far. -/
structure Given where
  /-- The names of arguments, each as often as it was given, with their values. -/
  named : List (Text × Text) := []
  words : List Text := []
  waiting : Option Waiting := none

namespace Given

def has (g : Given) (name : String) : Bool := g.named.any (·.1 == name.toList)

def count (g : Given) (name : String) : Nat := (g.named.filter (·.1 == name.toList)).length

def value? (g : Given) (name : String) : Option Text := g.named.lookup name.toList

/-- A count that was given. -/
def number? (g : Given) (name : String) : Option Nat := (g.value? name).bind Text.count?

/-- Whether any argument was given. -/
def isEmpty (g : Given) : Bool := g.named.isEmpty && g.words.isEmpty && g.waiting.isNone

end Given

/-- Checks a value. -/
def checkValue (kind : ValueKind) (t : Text) : Except UsageError Unit :=
  match kind with
  | .text => .ok ()
  | .path => if t.isEmpty then .error .invalidValue else .ok ()
  | .count => if (Text.count? t).isSome then .ok () else .error .valueValidation

/-- Takes up an argument that may be given once. -/
def take (g : Given) (a : Argument) (value : Text) : Except UsageError Given :=
  if g.named.any (·.1 == a.name) then .error .argumentConflict
  else .ok { g with named := g.named ++ [(a.name, value)] }

/-- Takes up an argument with its value, which is checked last. -/
def takeValue (g : Given) (a : Argument) (kind : ValueKind) (value : Text) : Except UsageError Given := do
  let g ← take g a value
  checkValue kind value
  return g

/-- Checks what is waiting. -/
def settle (g : Given) : Except UsageError Given :=
  let free := { g with waiting := none }
  match g.waiting with
  | none => .ok g
  | some (.value _ _ none) => .error .invalidValue
  | some (.value a kind (some t)) => takeValue free a kind t
  | some (.words kind values) => do
    values.forM (checkValue kind)
    return { free with words := free.words ++ values }

/-- Takes up an argument that has no value. -/
def act (g : Given) (a : Argument) : Except UsageError Given := do
  let g ← settle g
  match a.action with
  | .flag => take g a []
  | .counter => return { g with named := g.named ++ [(a.name, [])] }
  | .help => .error .displayHelp
  | .version => .error .displayVersion
  | .value kind => return { g with waiting := some (.value a kind none) }

/-- Takes up an argument whose value is attached to it. -/
def actWith (g : Given) (a : Argument) (value : Text) : Except UsageError Given :=
  match a.action with
  | .value kind => do takeValue (← settle g) a kind value
  | _ => .error .tooManyValues

/-- Takes up a word after two dashes, perhaps with a value after an equals sign. -/
def matchName (s : Shape) (g : Given) (t : Text) : Except UsageError Given :=
  let (name, value) := match Text.cut? '=' t with
    | some (name, value) => (name, some value)
    | none => (t, none)
  match s.arguments.find? (·.name == name), value with
  | none, _ => .error .unknownArgument
  | some a, none => act g a
  | some a, some value => actWith g a value

/-- Takes up letters after one dash; one that takes a value takes the letters after it. -/
def matchLetters (s : Shape) (g : Given) : Text → Except UsageError Given
  | [] => .ok g
  | c :: r =>
    match s.arguments.find? (·.letter == some c) with
    | none => .error .unknownArgument
    | some a =>
      match a.action, r with
      | .value _, [] => act g a
      | .value _, '=' :: value => actWith g a value
      | .value _, value => actWith g a value
      | _, _ => do matchLetters s (← act g a) r

/-- What a word is, apart from two dashes alone, after which every word stands for itself. -/
inductive WordShape where
  | escape
  | name (t : Text)
  | letters (t : Text)
  | plain
deriving DecidableEq, Repr

def WordShape.ofWord : Text → WordShape
  | ['-', '-'] => escape
  | '-' :: '-' :: t => name t
  | ['-'] => plain
  | '-' :: t => letters t
  | _ => plain

/-- Takes up a word that stands for itself. -/
def takeWord (kind : ValueKind) (g : Given) (t : Text) : Except UsageError Given :=
  match g.waiting with
  | some (.words kind values) => .ok { g with waiting := some (.words kind (values ++ [t])) }
  | _ => do return { ← settle g with waiting := some (.words kind [t]) }

/-- Takes up the words of a command that has no subcommands. -/
def matchWords (s : Shape) (kind : ValueKind) (escaped : Bool) (g : Given) :
    List Text → Except UsageError Given
  | [] => settle g
  | t :: more => do
    if escaped then matchWords s kind true (← takeWord kind g t) more
    else
      match WordShape.ofWord t with
      | .escape => matchWords s kind true g more
      | .name name => matchWords s kind false (← matchName s g name) more
      | .letters letters => matchWords s kind false (← matchLetters s g letters) more
      | .plain =>
        match g.waiting with
        | some (.value a k none) => matchWords s kind false { g with waiting := some (.value a k (some t)) } more
        | _ => matchWords s kind false (← takeWord kind g t) more

end TodoLedger.CommandLine
