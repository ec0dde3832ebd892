import TodoLedger.Text.Basic

/-! The repository in which issues are filed and at which reference links point. -/

namespace TodoLedger

/-- The environment variables of a run, by name. -/
abbrev Environment := Text → Option Text

/-- Where issues are filed. -/
structure Repository where
  owner : Text
  name : Text
  /-- The branch or tag of reference links. -/
  gitRef : Text
  /-- The user to whom new issues are assigned. -/
  actor : Option Text
  server : Text
deriving DecidableEq, Repr

namespace Repository

def defaultServer : Text := "https://github.com".toList

/-- A repository on the default server, without an actor. -/
def onDefaultServer (owner name gitRef : Text) : Repository := ⟨owner, name, gitRef, none, defaultServer⟩

/-- The repository of a run that files nothing and knows none. -/
def placeholder : Repository := onDefaultServer "local".toList "repository".toList "HEAD".toList

/-- A variable that holds more than blanks. -/
def nonBlank? (env : Environment) (name : String) : Option Text :=
  (env name.toList).filter fun value => !Text.allBlank value

def repositoryVariable : String := "GITHUB_REPOSITORY"

def refVariable : String := "GITHUB_REF_NAME"

/-- The repository that the environment names; otherwise the variable that is missing or malformed. -/
def ofEnvironment (env : Environment) : Except String Repository := do
  let slug ← (nonBlank? env repositoryVariable).elim (.error repositoryVariable) .ok
  let (owner, name) ← ((Text.cut? '/' slug).filter fun (owner, name) =>
    !owner.isEmpty && !name.isEmpty).elim (.error repositoryVariable) .ok
  let gitRef ← (nonBlank? env refVariable).elim (.error refVariable) .ok
  .ok {
    owner, name, gitRef
    actor := nonBlank? env "GITHUB_TRIGGERING_ACTOR"
    server := ((nonBlank? env "GITHUB_SERVER_URL").map (Text.dropEndWhile (· == '/'))).getD defaultServer }

/-- Owner and name with a slash between them. -/
def slug (r : Repository) : Text := r.owner ++ ['/'] ++ r.name

/-- The address of the repository. -/
def url (r : Repository) : Text := r.server ++ ['/'] ++ r.slug

/-- The address of a file at the ref of the repository. -/
def fileUrl (r : Repository) (file : Text) : Text :=
  r.url ++ "/blob/".toList ++ r.gitRef ++ ['/'] ++ file

end Repository
end TodoLedger
