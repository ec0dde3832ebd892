import TodoLedger.Config.Basic
import TodoLedger.Http.Exchange
import TodoLedger.Json.Extent
import TodoLedger.Tracker.Basic

/-! The tracker of GitHub: issues are listed page by page and filed one by one over its web interface. -/

namespace TodoLedger.GitHub

/-- How many entries a full page has. -/
def pageSize : Nat := 100

/-- How many pages are read at most. -/
def maxPages : Nat := 50

/-- How many characters of a refusal are kept. -/
def maxMessage : Nat := 200

/-- The token of the environment. -/
def token? (env : Environment) : Option Text :=
  (Repository.nonBlank? env "GITHUB_TOKEN").or (Repository.nonBlank? env "GH_TOKEN")

/-! ### Reading pages -/

/-- The state of an issue by its name, which may also be the name of the only member, with no value. -/
def state? : Json → Option IssueState
  | .string name => [IssueState.isOpen, IssueState.closed].find? (·.name == name)
  | .object [(name, .null)] => [IssueState.isOpen, IssueState.closed].find? (·.name == name)
  | _ => none

/-- How deep the mark of a pull request may be nested. -/
def maxDepth : Nat := 125

/-- Whether the mark of a pull request is set. -/
def isMarked? : Json → Option Bool
  | .null => some false
  | mark => if mark.isHeld maxDepth then some true else none

/-- The value of a member that must not be given twice. -/
def member? (members : List (Text × Json)) (name : String) : Option (Option Json) :=
  match members.filter (·.1 == name.toList) with
  | [] => some none
  | [(_, value)] => some (some value)
  | _ => none

/-- Title, state and mark of an entry, by name or in this order; the mark may be missing. -/
def parts? : Json → Option (Json × Json × Json)
  | .object members => do
    let title ← (← member? members "title")
    let state ← (← member? members "state")
    let mark ← member? members "pull_request"
    some (title, state, mark.getD .null)
  | .array [title, state] => some (title, state, .null)
  | .array [title, state, mark] => some (title, state, mark)
  | _ => none

/-- An entry of a page: an issue, or nothing for a pull request. -/
def entry? (j : Json) : Option (Option ExistingIssue) := do
  let (title, state, mark) ← parts? j
  let state ← state? state
  let isMarked ← isMarked? mark
  match title with
  | .string title => some (if isMarked then none else some ⟨title, state⟩)
  | _ => none

/-- The entries of a page. -/
def page? (body : Text) : Option (List (Option ExistingIssue)) := do
  match ← Json.read? body with
  | .array entries => entries.mapM entry?
  | _ => none

/-! ### Requests -/

/-- What requests need to know. -/
structure Client where
  repository : Repository
  token : Option Text
  config : TrackerConfig

namespace Client

/-- A client; a token has to be fit for a header. -/
def new (repository : Repository) (token : Option Text) (config : TrackerConfig) :
    Except TrackerError Client :=
  if token.all Http.isHeaderValue then .ok ⟨repository, token, config⟩ else .error .invalidToken

/-- Where the issues of the repository are. -/
def issuesUrl (c : Client) : Text :=
  Text.dropEndWhile (· == '/') c.config.apiUrl ++ "/repos/".toList ++ c.repository.slug ++ "/issues".toList

/-- The headers of every request. -/
def headers (c : Client) : List (Text × Text) :=
  [("accept".toList, "application/vnd.github+json".toList),
    ("x-github-api-version".toList, "2022-11-28".toList),
    ("user-agent".toList, "todoon/".toList ++ version)] ++
  (c.token.map fun token => ("authorization".toList, Text.trimEnd ("Bearer ".toList ++ token))).toList

/-- The request for a page. -/
def listRequest (c : Client) (url : Http.Url) (page : Nat) : Http.Request where
  method := .get
  url := url.withFields ([("state".toList, "all".toList), ("per_page".toList, Text.ofNat pageSize),
    ("page".toList, Text.ofNat page)] ++ (c.config.creator.map fun name => ("creator".toList, name)).toList)
  headers := c.headers
  body := none

/-- A payload as it is sent; without labels the member is left out. -/
def payloadJson (p : Payload) : Json :=
  .object ([("title".toList, .string p.title), ("body".toList, .string p.body),
    ("assignees".toList, Json.ofTexts p.assignees)] ++
    if p.labels.isEmpty then [] else [("labels".toList, Json.ofTexts p.labels)])

/-- The request that files an issue. -/
def createRequest (c : Client) (url : Http.Url) (p : Payload) : Http.Request where
  method := .post
  url := url
  headers := c.headers ++ [("content-type".toList, "application/json".toList)]
  body := some (payloadJson p)

end Client

/-! ### Answers -/

/-- A refusal cut to the number of characters that are kept. -/
def shorten (t : Text) : Text :=
  if maxMessage < t.length then t.take maxMessage ++ "...".toList else t

/-- Whether a response says that no more requests are answered for now. -/
def isRateLimited (r : Http.Response) : Bool :=
  r.status == 429 ||
    (r.status == 403 && ((r.header? "x-ratelimit-remaining".toList).bind Text.count?) == some 0)

/-- The body of a response that grants the request. -/
def granted (r : Http.Response) : Except TrackerError Text :=
  if r.isSuccess then .ok r.content
  else if isRateLimited r then .error .rateLimited
  else .error (.http r.status (shorten r.shown))

/-- What came of a request. -/
def settle : Http.Outcome → Except TrackerError Text
  | .answered r => granted r
  | .timedOut => .error .timeout
  | .disconnected => .error (.network "no connection".toList)

variable {σ : Type}

/-- Sends the request made for the address of the issues, if that is an address. -/
def call (t : Http.Transport σ) (c : Client) (request : Http.Url → Http.Request) (s : σ) :
    Except TrackerError Text × σ :=
  match Http.Url.ofText? c.issuesUrl with
  | none => (.error (.network "no address".toList), s)
  | some url =>
    let (outcome, s) := t.send (request url) s
    (settle outcome, s)

/-- The issues of at most `pages` pages from a page on. A page that is not full is the last. -/
def listFrom (t : Http.Transport σ) (c : Client) : (pages page : Nat) → σ →
    Except TrackerError (List ExistingIssue) × σ
  | 0, _, s => (.ok [], s)
  | pages + 1, page, s =>
    match call t c (fun url => c.listRequest url page) s with
    | (.error e, s) => (.error e, s)
    | (.ok body, s) =>
      match page? body with
      | none => (.error (.network "unexpected content".toList), s)
      | some entries =>
        let here := entries.filterMap id
        if entries.length < pageSize then (.ok here, s)
        else
          let (more, s) := listFrom t c pages (page + 1) s
          (more.map (here ++ ·), s)

/-- The tracker behind a transport. -/
def tracker (t : Http.Transport σ) (c : Client) : Tracker σ where
  repository := c.repository
  list s :=
    let (result, s) := listFrom t c maxPages 1 s
    { result, state := s
      events := match result with
        | .ok issues =>
          (Log.emit .debug "todoon::tracker::github" "fetched issue inventory"
            [("repo", c.repository.slug), ("count", Text.ofNat issues.length)]).events
        | .error _ => [] }
  create p s :=
    let (result, s) := call t c (fun url => c.createRequest url p) s
    { result := result.map fun _ => (), state := s }

end TodoLedger.GitHub
