import TodoLedger.Yaml.Lexer

/-! YAML nodes and documents, built from tokens. An alias stands for the node that was given its name. -/

namespace TodoLedger.Yaml

inductive Node where
  | scalar (value : Text) (style : Style) (tag : Option Text)
  | sequence (items : List Node)
  | mapping (entries : List (Node × Node))
  /-- The node with a number; see `Document.target?`. -/
  | alias (id : Nat)

/-- The scalar that stands where nothing is written. -/
def Node.nothing : Node := .scalar [] .plain none

/-- A node that was given a name. -/
structure Anchored where
  /-- How many names were known before it; a name given again counts among them. -/
  id : Nat
  node : Node
  /-- How many nodes were given a name before it. -/
  order : Nat

/-- The tokens that are left and what the ones before them declared. -/
structure Source where
  tokens : List Token
  /-- What each handle of a tag stands for. -/
  handles : List (Text × Text)
  /-- The numbers of the names, latest first. -/
  names : List (Text × Nat) := []
  /-- How many nodes were given a name. -/
  given : Nat := 0
  anchored : List Anchored := []

/-- A step that takes tokens from the source and may fail. -/
abbrev Take := StateT Source Option

def peek? : Take (Option Token) := do return (← get).tokens.head?

def skip : Take Unit := modify fun s => { s with tokens := s.tokens.drop 1 }

/-- Whether the next token is one of some; the end of the tokens is none. -/
def nextIs (ts : List Token) : Take Bool := do return (← peek?).any ts.contains

/-- Gives a name to the node that follows, and tells its number and its place in the order. -/
def declare (name : Text) : Take (Nat × Nat) := do
  let s ← get
  let id := (s.names.map (·.1)).eraseDups.length
  set { s with names := (name, id) :: s.names, given := s.given + 1 }
  return (id, s.given)

/-- The anchor and the tag before a node, in either order. -/
def properties : Take (Option Text × Option Tag) := do
  match ← peek? with
  | some (.anchor a) =>
    skip
    match ← peek? with
    | some (.tag t) => skip; return (some a, some t)
    | _ => return (some a, none)
  | some (.tag t) =>
    skip
    match ← peek? with
    | some (.anchor a) => skip; return (some a, some t)
    | _ => return (none, some t)
  | _ => return (none, none)

/-- The whole tag for one as written; its handle has to be known. -/
def wholeTag (t : Tag) : Take Text := do
  if t.handle.isEmpty then return t.ending
  match (← get).handles.lookup t.handle with
  | some start => return start ++ t.ending
  | none => failure

mutual

/-- A node. `inBlock` admits block collections, `indentless` also a sequence that is not indented. -/
def node : Nat → (inBlock indentless : Bool) → Take Node
  | 0, _, _ => failure
  | fuel + 1, inBlock, indentless => do
    if let some (.alias name) ← peek? then
      skip
      match (← get).names.lookup name with
      | some id => return .alias id
      | none => failure
    let (anchor, written) ← properties
    let place ← anchor.mapM declare
    let tag ← written.mapM wholeTag
    let n ← content fuel inBlock indentless (anchor.isSome || written.isSome) tag
    if let some (id, order) := place then
      modify fun s => { s with anchored := ⟨id, n, order⟩ :: s.anchored }
    return n

/-- A node after its anchor and tag; with one of them it may be empty. -/
def content : Nat → (inBlock indentless mayBeEmpty : Bool) → Option Text → Take Node
  | 0, _, _, _, _ => failure
  | fuel + 1, inBlock, indentless, mayBeEmpty, tag => do
    match ← peek? with
    | some (.scalar value style) => skip; return .scalar value style (tag.filter (· != ['!']))
    | some .flowSequenceStart => skip; return .sequence (← flowItems fuel true)
    | some .flowMappingStart => skip; return .mapping (← flowEntries fuel true)
    | some t =>
      if indentless && t == .blockEntry then return .sequence (← indentlessItems fuel)
      else if inBlock && t == .blockSequenceStart then skip; return .sequence (← blockItems fuel)
      else if inBlock && t == .blockMappingStart then skip; return .mapping (← blockEntries fuel)
      else if mayBeEmpty then return .scalar [] .plain tag
      else failure
    | none => if mayBeEmpty then return .scalar [] .plain tag else failure

/-- A node in a block, or nothing if one of `stops` comes instead. -/
def blockNode : Nat → (indentless : Bool) → (stops : List Token) → Take Node
  | 0, _, _ => failure
  | fuel + 1, indentless, stops => do
    if ← nextIs stops then return Node.nothing else node fuel true indentless

/-- A node in a flow, or nothing if one of `stops` comes instead. -/
def flowNode : Nat → (stops : List Token) → Take Node
  | 0, _ => failure
  | fuel + 1, stops => do
    if ← nextIs stops then return Node.nothing else node fuel false false

/-- The items of a block sequence. -/
def blockItems : Nat → Take (List Node)
  | 0 => failure
  | fuel + 1 => do
    match ← peek? with
    | some .blockEnd => skip; return []
    | some .blockEntry =>
      skip
      let item ← blockNode fuel false [.blockEntry, .blockEnd]
      return item :: (← blockItems fuel)
    | _ => failure

/-- The items of a sequence that is not indented; whatever is no item ends it. -/
def indentlessItems : Nat → Take (List Node)
  | 0 => failure
  | fuel + 1 => do
    match ← peek? with
    | some .blockEntry =>
      skip
      let item ← blockNode fuel false [.blockEntry, .key, .value, .blockEnd]
      return item :: (← indentlessItems fuel)
    | _ => return []

/-- The entries of a block mapping. -/
def blockEntries : Nat → Take (List (Node × Node))
  | 0 => failure
  | fuel + 1 => do
    let stops := [Token.key, .value, .blockEnd]
    match ← peek? with
    | some .blockEnd => skip; return []
    | some .key =>
      skip
      let key ← blockNode fuel true stops
      let value ← if ← nextIs [.value] then skip; blockNode fuel true stops else pure Node.nothing
      return (key, value) :: (← blockEntries fuel)
    | _ => failure

/-- The comma between two entries of a flow collection; before the first there is none. -/
def comma : Nat → (first : Bool) → Take Unit
  | _, true => pure ()
  | _, false => do if ← nextIs [.flowEntry] then skip else failure

/-- The items of a flow sequence; an item may be a single entry of a mapping. -/
def flowItems : Nat → (first : Bool) → Take (List Node)
  | 0, _ => failure
  | fuel + 1, first => do
    if ← nextIs [.flowSequenceEnd] then skip; return []
    comma fuel first
    if ← nextIs [.flowSequenceEnd] then skip; return []
    let stops := [Token.flowEntry, .flowSequenceEnd]
    let item ←
      if ← nextIs [.key] then do
        skip
        let key ← if ← nextIs (.value :: stops) then do skip; pure Node.nothing else node fuel false false
        let value ← if ← nextIs [.value] then skip; flowNode fuel stops else pure Node.nothing
        pure (Node.mapping [(key, value)])
      else node fuel false false
    return item :: (← flowItems fuel false)

/-- The entries of a flow mapping. -/
def flowEntries : Nat → (first : Bool) → Take (List (Node × Node))
  | 0, _ => failure
  | fuel + 1, first => do
    if ← nextIs [.flowMappingEnd] then skip; return []
    comma fuel first
    if ← nextIs [.flowMappingEnd] then skip; return []
    let stops := [Token.flowEntry, .flowMappingEnd]
    let entry ←
      if ← nextIs [.key] then do
        skip
        let key ← flowNode fuel (.value :: stops)
        let value ← if ← nextIs [.value] then skip; flowNode fuel stops else pure Node.nothing
        pure (key, value)
      else do pure (← node fuel false false, Node.nothing)
    return entry :: (← flowEntries fuel false)

end

/-- The node of a text, if it holds any, with the nodes that were given names. -/
structure Document where
  root : Option Node
  anchored : List Anchored

namespace Document

/-- The node that an alias stands for: of those with its number the last one. -/
def target? (d : Document) (id : Nat) : Option Node :=
  let latest (best : Option Anchored) (a : Anchored) : Option Anchored :=
    if a.id == id && best.all (·.order < a.order) then some a else best
  (d.anchored.foldl latest none).map (·.node)

/-- The node that a node stands for. -/
def resolve? (d : Document) : Node → Option Node
  | .alias id => d.target? id
  | n => some n

end Document

/-- The directives before a document: one version at most, which must be 1.1 or 1.2, and handles, each
once. -/
def directives : Nat → (versionSeen : Bool) → (handles : List (Text × Text)) → Take (List (Text × Text))
  | 0, _, _ => failure
  | fuel + 1, versionSeen, handles => do
    match ← peek? with
    | some (.versionDirective major minor) =>
      skip
      if versionSeen || major != 1 || !(minor == 1 || minor == 2) then failure
      directives fuel true handles
    | some (.tagDirective handle start) =>
      skip
      if (handles.lookup handle).isSome then failure
      directives fuel versionSeen (handles ++ [(handle, start)])
    | _ => return handles

/-- The handles that need no directive. -/
def defaultHandles : List (Text × Text) := [(['!'], ['!']), (['!', '!'], "tag:yaml.org,2002:".toList)]

/-- The only document of a text; a text without one holds nothing. -/
def document : Take (Option Node) := do
  let fuel := 4 * (← get).tokens.length + 8
  let isDirective (t : Token) : Bool :=
    match t with
    | .versionDirective .. | .tagDirective .. => true
    | _ => false
  let root ← match ← peek? with
    | none => return none
    | some t =>
      if isDirective t || t == .documentStart then do
        let handles ← directives fuel false []
        modify fun s => { s with handles := handles ++ defaultHandles }
        if !(← nextIs [.documentStart]) then failure
        skip
        let next ← peek?
        if next.all fun t => isDirective t || t == .documentStart || t == .documentEnd then
          pure Node.nothing
        else node fuel true false
      else node fuel true false
  let rest := (← get).tokens.dropWhile (· == .documentEnd)
  if rest.isEmpty then return some root else failure

/-- The document of a YAML text, if the text is one. -/
def read? (t : Text) : Option Document := do
  let tokens ← tokens? t
  let (root, s) ← document.run { tokens, handles := defaultHandles }
  return ⟨root, s.anchored⟩

end TodoLedger.Yaml
