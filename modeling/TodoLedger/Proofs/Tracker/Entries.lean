import Mathlib.Data.List.Forall2
import TodoLedger.Proofs.Json.RoundTrip
import TodoLedger.Tracker.GitHub

/-! Entries of a page. A server lists issues and pull requests; whatever else it says of them, a page of them is read
as the issues with their titles and states. -/

namespace TodoLedger.GitHub

variable {members : List (Text × Json)} {name : String} {value j mark : Json} {js : List Json}

/-- An issue or a pull request on a server. -/
structure Listed where
  issue : ExistingIssue
  isPull : Bool
deriving DecidableEq, Repr

/-- An object with exactly one member of a name. -/
def Gives (members : List (Text × Json)) (name : String) (value : Json) : Prop :=
  members.filter (·.1 == name.toList) = [(name.toList, value)]

namespace Listed

/-- The mark of a pull request is any value that can be held; an issue has none, or nothing in its place. -/
def MarkedBy (x : Listed) (members : List (Text × Json)) : Prop :=
  if x.isPull then ∃ mark, Gives members "pull_request" mark ∧ mark ≠ .null ∧ mark.isHeld maxDepth = true
  else (∀ m ∈ members, m.1 ≠ "pull_request".toList) ∨ Gives members "pull_request" .null

/-- An object for an entry: with its title, its state and its mark among members of other names. -/
inductive ShownAs (x : Listed) : Json → Prop
  | object {members : List (Text × Json)} (title : Gives members "title" (.string x.issue.title))
      (state : Gives members "state" (.string x.issue.state.name)) (mark : x.MarkedBy members) :
      ShownAs x (.object members)

/-- An entry with what is read of it and no more. -/
def toJson (x : Listed) : Json :=
  .object ([("title".toList, .string x.issue.title), ("state".toList, .string x.issue.state.name)] ++
    if x.isPull then [("pull_request".toList, .object [])] else [])

/-- What is read of an entry: nothing of a pull request. -/
def issue? (x : Listed) : Option ExistingIssue := if x.isPull then none else some x.issue

end Listed

/-- The issues among some entries. -/
def issuesOf (entries : List Listed) : List ExistingIssue := (entries.filter (!·.isPull)).map (·.issue)

/-! ### Reading an entry -/

theorem member?_of_gives (gives : Gives members name value) : member? members name = some (some value) := by
  rw [member?, gives]

theorem member?_of_missing (missing : ∀ m ∈ members, m.1 ≠ name.toList) : member? members name = some none := by
  have : members.filter (·.1 == name.toList) = [] := by simpa using missing
  rw [member?, this]

theorem state?_name (state : IssueState) : state? (.string state.name) = some state := by
  cases state <;> rfl

theorem isMarked?_of_held (mark_ne : mark ≠ .null) (held : mark.isHeld maxDepth = true) :
    isMarked? mark = some true := by
  cases mark with
  | null => exact absurd rfl mark_ne
  | _ => simp only [isMarked?, held, if_true]

theorem Listed.MarkedBy.isMarked? {x : Listed} (marked : x.MarkedBy members) :
    ∃ mark, member? members "pull_request" = some mark ∧ GitHub.isMarked? (mark.getD .null) = some x.isPull := by
  cases kind : x.isPull with
  | true =>
    simp only [Listed.MarkedBy, kind, if_true] at marked
    obtain ⟨mark, gives, mark_ne, held⟩ := marked
    exact ⟨some mark, member?_of_gives gives, isMarked?_of_held mark_ne held⟩
  | false =>
    simp only [Listed.MarkedBy, kind, Bool.false_eq_true, if_false] at marked
    rcases marked with missing | gives
    · exact ⟨none, member?_of_missing missing, rfl⟩
    · exact ⟨some .null, member?_of_gives gives, rfl⟩

theorem entry?_of_shownAs {x : Listed} (shown : x.ShownAs j) : entry? j = some x.issue? := by
  obtain ⟨title, state, marked⟩ := shown
  obtain ⟨mark, hmark, isMarked⟩ := marked.isMarked?
  simp only [parts?, entry?, member?_of_gives title, member?_of_gives state, hmark, isMarked, state?_name,
    Option.bind_eq_bind, Option.bind_some, Listed.issue?]

theorem Listed.shownAs_toJson (x : Listed) : x.ShownAs x.toJson := by
  cases kind : x.isPull with
  | true =>
    simp only [Listed.toJson, kind, if_true]
    refine .object rfl rfl ?_
    rw [Listed.MarkedBy, if_pos kind]
    exact ⟨.object [], rfl, by rintro ⟨⟩, rfl⟩
  | false =>
    simp only [Listed.toJson, kind, Bool.false_eq_true, if_false]
    refine .object rfl rfl ?_
    rw [Listed.MarkedBy, if_neg (by simp [kind])]
    refine Or.inl fun m member => ?_
    rw [List.append_nil] at member
    rcases List.mem_pair.mp member with rfl | rfl
    · exact (by decide : "title".toList ≠ "pull_request".toList)
    · exact (by decide : "state".toList ≠ "pull_request".toList)

theorem Listed.isPlain_toJson (x : Listed) : x.toJson.isPlain = true := by
  cases kind : x.isPull <;> simp only [Listed.toJson, kind] <;> rfl

/-! ### Reading a page -/

theorem mapM_entry? {entries : List Listed} (shown : List.Forall₂ Listed.ShownAs entries js) :
    js.mapM entry? = some (entries.map Listed.issue?) := by
  induction shown with
  | nil => rfl
  | cons first _ ih => simp [ih, entry?_of_shownAs first]

theorem filterMap_issue? (entries : List Listed) : (entries.map Listed.issue?).filterMap id = issuesOf entries := by
  induction entries with
  | nil => rfl
  | cons x entries ih =>
    cases kind : x.isPull <;> simp_all [issuesOf, Listed.issue?]

theorem issuesOf_append (a b : List Listed) : issuesOf (a ++ b) = issuesOf a ++ issuesOf b := by
  simp [issuesOf]

end TodoLedger.GitHub
