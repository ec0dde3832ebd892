import TodoLedger.CommandLine.Matching

/-! Command lines: arguments for all commands, then a command with its own. -/

namespace TodoLedger.CommandLine

/-- The arguments that may stand before the command and after it. -/
def globals : List Argument := [
  ⟨"verbose".toList, some 'v', .counter⟩, ⟨"quiet".toList, some 'q', .flag⟩,
  ⟨"very-quiet".toList, some 'Q', .flag⟩, ⟨"help".toList, some 'h', .help⟩]

/-- What may stand before the command. -/
def topShape : Shape := ⟨globals ++ [⟨"version".toList, some 'V', .version⟩], none⟩

def checkShape : Shape where
  arguments := globals ++ [
    ⟨"root".toList, none, .value .path⟩, ⟨"issue".toList, some 'i', .flag⟩,
    ⟨"silent".toList, some 's', .flag⟩, ⟨"closed-duplicates-fail".toList, some 'c', .flag⟩,
    ⟨"force".toList, some 'f', .flag⟩, ⟨"config".toList, none, .value .path⟩,
    ⟨"format".toList, none, .value .text⟩, ⟨"max-issues".toList, none, .value .count⟩,
    ⟨"context-limit".toList, none, .value .count⟩, ⟨"progress-bar".toList, some 'P', .flag⟩,
    ⟨"github-env".toList, none, .flag⟩, ⟨"dry-run".toList, none, .flag⟩]
  positional := some .path

def ignoreShape : Shape where
  arguments := globals ++ [
    ⟨"paths".toList, some 'p', .flag⟩, ⟨"update".toList, some 'u', .flag⟩,
    ⟨"output".toList, some 'o', .value .path⟩]
  positional := some .text

/-- The commands by the words that call them. -/
inductive CommandName where
  | check
  | ignore
  | help
deriving DecidableEq, Repr

def CommandName.ofWord? (t : Text) : Option CommandName :=
  [("check", check), ("scan", check), ("ignore", ignore), ("help", help)].findSome? fun (word, name) =>
    if word.toList = t then some name else none

def checkArgs (g : Given) : CheckArgs where
  files := g.words
  root := (g.value? "root").getD ['.']
  issue := g.has "issue"
  silent := g.has "silent"
  closedDuplicatesFail := g.has "closed-duplicates-fail"
  force := g.has "force"
  config := g.value? "config"
  format := (g.value? "format").getD "pretty".toList
  maxIssues := g.number? "max-issues"
  contextLimit := g.number? "context-limit"
  progressBar := g.has "progress-bar"
  githubEnv := g.has "github-env"
  dryRun := g.has "dry-run"

def ignoreArgs (g : Given) : IgnoreArgs where
  sources := g.words
  paths := g.has "paths"
  update := g.has "update"
  output := (g.value? "output").getD ".todo-ignore".toList

/-- The largest count of an argument that may be repeated. -/
def maxRepeats : Nat := 255

/-- A command with the arguments given before it and after it; how often is told by the place after it, if
that tells it at all. -/
def assemble (top inner : Given) (command : Command) : CommandLine where
  verbose := min maxRepeats (if inner.has "verbose" then inner.count "verbose" else top.count "verbose")
  quiet := top.has "quiet" || inner.has "quiet"
  veryQuiet := top.has "very-quiet" || inner.has "very-quiet"
  command := command

/-- Carries out `help`: it may name one command. -/
def helpFor : List Text → UsageError
  | [] => .displayHelp
  | [t] => if (CommandName.ofWord? t).isSome then .displayHelp else .invalidSubcommand
  | _ => .invalidSubcommand

/-- Takes up the words after a command. -/
def enter (top : Given) (name : CommandName) (words : List Text) : Except UsageError CommandLine :=
  match name with
  | .help => .error (helpFor words)
  | .check => do
    let g ← matchWords checkShape .path false {} words
    return assemble top g (.check (checkArgs g))
  | .ignore => do
    let g ← matchWords ignoreShape .text false {} words
    return assemble top g (.ignore (ignoreArgs g))

/-- Takes up the words before a command. -/
def matchTop (escaped : Bool) (g : Given) : List Text → Except UsageError CommandLine
  | [] => .error (if g.isEmpty then .nothingGiven else .missingSubcommand)
  | t :: more => do
    match CommandName.ofWord? t with
    | some name => if escaped then .error .unknownArgument else enter g name more
    | none =>
      if escaped then .error .invalidSubcommand
      else
        match WordShape.ofWord t with
        | .escape => matchTop true g more
        | .name name => matchTop false (← matchName topShape g name) more
        | .letters letters => matchTop false (← matchLetters topShape g letters) more
        | .plain => .error .invalidSubcommand

/-- What the words of a command line ask for. -/
def parse (words : List Text) : Except UsageError CommandLine := matchTop false {} words

end TodoLedger.CommandLine
