import Mathlib.Data.List.Forall2
import TodoLedger.Proofs.Config.Settings
import TodoLedger.Proofs.Run.Accepted
import TodoLedger.Proofs.Text.Lowercase
import TodoLedger.Proofs.Text.Number

/-! The layers of the settings: the file, the environment, the arguments. Each setting is taken from the last layer that
gives it, in its own way, and only what comes of all layers is looked at for values that cannot work. -/

namespace TodoLedger

/-! ### Words in any case -/

namespace Text

variable {t word : Text} {c l : Char}

/-- A text that is a word with each letter in either case. -/
def Spells (t word : Text) : Prop := List.Forall₂ (fun c l : Char => c = l ∨ c = l.toUpper) t word

/-- A word without capitals. -/
def IsSmall (word : Text) : Prop := ∀ l ∈ word, l.toLower = l ∧ l.toUpper.toLower = l

instance (word : Text) : Decidable (IsSmall word) := List.decidableBAll _ word

theorem toLower_eq_iff (small : l.toLower = l ∧ l.toUpper.toLower = l) : c.toLower = l ↔ c = l ∨ c = l.toUpper := by
  constructor
  · intro lowered
    have letters : ∀ n < 26, (Char.ofNat (65 + n)).toLower.toUpper = Char.ofNat (65 + n) := by decide
    refine ascii_cases (P := fun c => c.toLower = l → c = l ∨ c = l.toUpper) c ?_ ?_ lowered
    · rintro n hn rfl
      exact Or.inr (letters n hn).symm
    · exact fun same lowered => Or.inl (same.symm.trans lowered)
  · rintro (rfl | rfl)
    · exact small.1
    · exact small.2

theorem lowerAscii_eq_iff (small : IsSmall word) : lowerAscii t = word ↔ Spells t word := by
  induction word generalizing t with
  | nil => simp [lowerAscii, Spells]
  | cons l word ih =>
    obtain ⟨here, later⟩ := List.forall_mem_cons.mp small
    cases t with
    | nil => simp [lowerAscii, Spells]
    | cons c t =>
      rw [Spells, List.forall₂_cons, ← toLower_eq_iff here, ← Spells, ← ih later]
      simp [lowerAscii]

end Text

/-! ### The environment -/

namespace Config

variable {raw : Text} {env : Environment} {file n : Nat} {config : Config}

/-- The words that say yes. -/
def yesWords : List String := ["true", "yes", "y", "1"]

theorem isTruthy_iff : isTruthy raw = true ↔ ∃ word ∈ yesWords, Text.Spells (Text.trim raw) word.toList := by
  have small : ∀ word ∈ yesWords, Text.IsSmall word.toList := by decide
  rw [isTruthy, List.any_eq_true]
  refine exists_congr fun word => and_congr_right fun mem => ?_
  rw [beq_iff_eq, ← Text.lowerAscii_eq_iff (small word mem)]
  exact eq_comm

/-- What a variable makes of a count in a file: the count that its trimmed text is, and 8 if that is none. -/
inductive CountFrom (file : Nat) : Option Text → Nat → Prop
  | unset : CountFrom file none file
  | count {raw : Text} {n : Nat} (count : Text.IsCount (Text.trim raw) n) : CountFrom file (some raw) n
  | other {raw : Text} (other : ∀ n, ¬Text.IsCount (Text.trim raw) n) : CountFrom file (some raw) 8

/-- What a variable makes of a flag in a file: whether its trimmed text says yes. -/
inductive FlagFrom (file : Bool) : Option Text → Bool → Prop
  | unset : FlagFrom file none file
  | yes {raw : Text} (yes : ∃ word ∈ yesWords, Text.Spells (Text.trim raw) word.toList) :
      FlagFrom file (some raw) true
  | other {raw : Text} (other : ∀ word ∈ yesWords, ¬Text.Spells (Text.trim raw) word.toList) :
      FlagFrom file (some raw) false

theorem CountFrom.eq {value : Option Text} {m : Nat} (one : CountFrom file value m) (two : CountFrom file value n) :
    m = n := by
  rcases one with _ | ⟨count⟩ | ⟨other⟩
  · cases two
    rfl
  · rcases two with _ | ⟨count'⟩ | ⟨other⟩
    · exact Option.some.inj ((Text.count?_eq_some_iff.mpr count).symm.trans (Text.count?_eq_some_iff.mpr count'))
    · exact absurd count (other _)
  · rcases two with _ | ⟨count⟩ | ⟨-⟩
    · exact absurd count (other _)
    · rfl

theorem FlagFrom.eq {value : Option Text} {file a b : Bool} (one : FlagFrom file value a) (two : FlagFrom file value b) :
    a = b := by
  rcases one with _ | ⟨word, listed, spells⟩ | ⟨other⟩
  · cases two
    rfl
  · rcases two with _ | - | ⟨other⟩
    · rfl
    · exact absurd spells (other word listed)
  · rcases two with _ | ⟨word, listed, spells⟩ | -
    · exact absurd spells (other word listed)
    · rfl

theorem countFrom_countSetting (env : Environment) (name : String) (file : Nat) :
    CountFrom file (env name.toList) (countSetting env name 8 file).value := by
  rw [countSetting]
  cases env name.toList with
  | none => exact .unset
  | some raw =>
    dsimp only
    rw [countOr]
    cases count : Text.count? (Text.trim raw) with
    | some n => exact .count (Text.count?_eq_some_iff.mp count)
    | none => exact .other fun n denoted => nomatch count.symm.trans (Text.count?_eq_some_iff.mpr denoted)

theorem flagFrom_isTruthy (value : Option Text) (file : Bool) : FlagFrom file value ((value.map isTruthy).getD file) := by
  cases value with
  | none => exact .unset
  | some raw =>
    rw [Option.map_some, Option.getD_some]
    cases truthy : isTruthy raw with
    | true => exact .yes (isTruthy_iff.mp truthy)
    | false =>
      refine .other fun word listed spells => ?_
      rw [isTruthy_iff.mpr ⟨word, listed, spells⟩] at truthy
      cases truthy

theorem countSetting_twice (env : Environment) (name : String) (default file : Nat) :
    (countSetting env name default (countSetting env name default file).value).value =
      (countSetting env name default file).value := by
  simp only [countSetting]
  cases env name.toList <;> rfl

theorem withEnvironment_value (config : Config) (env : Environment) :
    (config.withEnvironment env).value = { config with
      contextLimit := (countSetting env "PERTINENT_LINE_LIMIT" 8 config.contextLimit).value
      maxIssues := (countSetting env "MAXIMUM_ISSUES_GENERATED" 8 config.maxIssues).value
      dryRun := ((env "DEBUG".toList).map isTruthy).getD config.dryRun } := rfl

/-- The environment says nothing new the second time. -/
theorem withEnvironment_twice (config : Config) (env : Environment) :
    ((config.withEnvironment env).value.withEnvironment env).value = (config.withEnvironment env).value := by
  simp only [withEnvironment_value, countSetting_twice]
  cases env "DEBUG".toList <;> rfl

end Config

/-! ### All layers -/

namespace Check

variable {d : Disk} {env : Environment} {root : Text} {args : CheckArgs} {file c c' : Config}

/-- A setting that an argument gives, or else a lower layer. -/
def Over {α : Type} (given : Option α) (Lower : α → Prop) (a : α) : Prop := given = some a ∨ given = none ∧ Lower a

theorem Over.eq {α : Type} {given : Option α} {Lower : α → Prop} {a b : α} (one : Over given Lower a)
    (two : Over given Lower b) (lower : Lower a → Lower b → a = b) : a = b := by
  rcases one with given | ⟨unset, below⟩
  · rcases two with given' | ⟨unset, -⟩
    · exact Option.some.inj (given.symm.trans given')
    · cases given.symm.trans unset
  · rcases two with given | ⟨-, below'⟩
    · cases given.symm.trans unset
    · exact lower below below'

theorem over_getD {α : Type} {given : Option α} {Lower : α → Prop} {a : α} (below : Lower a) :
    Over given Lower (given.getD a) := by
  cases given with
  | none => exact Or.inr ⟨rfl, below⟩
  | some b => exact Or.inl rfl

/-- The settings that come of a file, the environment and the arguments. -/
structure Layered (file : Config) (env : Environment) (args : CheckArgs) (c : Config) : Prop where
  contextLimit : Over args.contextLimit
    (Config.CountFrom file.contextLimit (env "PERTINENT_LINE_LIMIT".toList)) c.contextLimit
  maxIssues : Over args.maxIssues
    (Config.CountFrom file.maxIssues (env "MAXIMUM_ISSUES_GENERATED".toList)) c.maxIssues
  dryRun : args.dryRun = true ∧ c.dryRun = true ∨ args.dryRun = false ∧
    Config.FlagFrom file.dryRun (env "DEBUG".toList) c.dryRun
  failClosedDuplicates :
    c.failClosedDuplicates = true ↔ file.failClosedDuplicates = true ∨ args.closedDuplicatesFail = true
  ignoreFlag : c.ignoreFlag = file.ignoreFlag
  ignoreFile : c.ignoreFile = file.ignoreFile
  excludedPaths : c.excludedPaths = file.excludedPaths
  tracker : c.tracker = file.tracker

theorem layered_override (file : Config) (env : Environment) (args : CheckArgs) :
    Layered file env args (override (file.withEnvironment env).value args) where
  contextLimit := over_getD (Config.countFrom_countSetting env "PERTINENT_LINE_LIMIT" file.contextLimit)
  maxIssues := over_getD (Config.countFrom_countSetting env "MAXIMUM_ISSUES_GENERATED" file.maxIssues)
  dryRun := by
    have lower := Config.flagFrom_isTruthy (env "DEBUG".toList) file.dryRun
    rw [override, Config.withEnvironment_value]
    cases args.dryRun with
    | true => exact Or.inl ⟨rfl, Bool.or_true _⟩
    | false => exact Or.inr ⟨rfl, (Bool.or_false _).symm ▸ lower⟩
  failClosedDuplicates := Bool.or_eq_true_iff
  ignoreFlag := rfl
  ignoreFile := rfl
  excludedPaths := rfl
  tracker := rfl

/-- The layers leave no choice. -/
theorem Layered.eq (one : Layered file env args c) (two : Layered file env args c') : c = c' := by
  have contextLimit := one.contextLimit.eq two.contextLimit Config.CountFrom.eq
  have maxIssues := one.maxIssues.eq two.maxIssues Config.CountFrom.eq
  have dryRun : c.dryRun = c'.dryRun := by
    rcases one.dryRun with ⟨asked, yes⟩ | ⟨unasked, below⟩
    · rcases two.dryRun with ⟨-, yes'⟩ | ⟨unasked, -⟩
      · exact yes.trans yes'.symm
      · cases asked.symm.trans unasked
    · rcases two.dryRun with ⟨asked, -⟩ | ⟨-, below'⟩
      · cases asked.symm.trans unasked
      · exact below.eq below'
  have failClosed : c.failClosedDuplicates = c'.failClosedDuplicates :=
    Bool.eq_iff_iff.mpr (one.failClosedDuplicates.trans two.failClosedDuplicates.symm)
  have ignoreFlag := one.ignoreFlag.trans two.ignoreFlag.symm
  have ignoreFile := one.ignoreFile.trans two.ignoreFile.symm
  have excludedPaths := one.excludedPaths.trans two.excludedPaths.symm
  have tracker := one.tracker.trans two.tracker.symm
  rcases c with ⟨⟩
  rcases c' with ⟨⟩
  simp only [Config.mk.injEq]
  exact ⟨contextLimit, maxIssues, failClosed, ignoreFlag, ignoreFile, excludedPaths, dryRun, tracker⟩

theorem layered_iff : Layered file env args c ↔ c = override (file.withEnvironment env).value args :=
  ⟨fun layered => layered.eq (layered_override file env args), fun same => same ▸ layered_override file env args⟩

theorem value_loadConfig (d : Disk) (env : Environment) (root : Text) (args : CheckArgs) :
    (loadConfig d env root args).run.value =
      match Config.discover d root args.config with
      | .error e => .error (.config e)
      | .ok file =>
        let c := override (file.withEnvironment env).value args
        match c.validate with
        | .error e => .error (.invalidConfig e)
        | .ok _ => .ok c := by
  rw [loadConfig]
  cases Config.discover d root args.config with
  | error e => rfl
  | ok file =>
    refine (Attempt.value_bind_of_ok (Attempt.value_pure file)).trans ?_
    refine (Attempt.value_bind_of_ok (Attempt.value_lift (file.withEnvironment env))).trans ?_
    dsimp only
    cases (override (file.withEnvironment env).value args).validate <;> rfl

theorem loadConfig_eq_ok_iff : (loadConfig d env root args).run.value = .ok c ↔
    ∃ file, Config.discover d root args.config = .ok file ∧ Layered file env args c ∧ c.validate = .ok () := by
  simp only [layered_iff, value_loadConfig]
  cases Config.discover d root args.config with
  | error cause => simp
  | ok file =>
    dsimp only
    cases valid : (override (file.withEnvironment env).value args).validate with
    | error cause =>
      refine iff_of_false nofun ?_
      rintro ⟨_, ⟨⟩, rfl, valid'⟩
      cases valid.symm.trans valid'
    | ok _ =>
      constructor
      · rintro ⟨⟩
        exact ⟨file, rfl, rfl, valid⟩
      · rintro ⟨_, ⟨⟩, rfl, -⟩
        rfl

theorem loadConfig_eq_error_iff {e : RunError} : (loadConfig d env root args).run.value = .error e ↔
    (∃ cause, Config.discover d root args.config = .error cause ∧ e = .config cause) ∨
    ∃ file c cause, Config.discover d root args.config = .ok file ∧ Layered file env args c ∧
      c.validate = .error cause ∧ e = .invalidConfig cause := by
  simp only [layered_iff, value_loadConfig]
  cases Config.discover d root args.config with
  | error cause => simp [eq_comm]
  | ok file =>
    dsimp only
    cases valid : (override (file.withEnvironment env).value args).validate with
    | error cause =>
      constructor
      · rintro ⟨⟩
        exact Or.inr ⟨file, _, cause, rfl, rfl, valid, rfl⟩
      · rintro (⟨_, found, -⟩ | ⟨_, _, cause', ⟨⟩, rfl, refused, rfl⟩)
        · cases found
        · cases valid.symm.trans refused
          rfl
    | ok _ =>
      refine iff_of_false nofun ?_
      rintro (⟨_, found, -⟩ | ⟨_, _, cause', ⟨⟩, rfl, refused, -⟩)
      · cases found
      · cases valid.symm.trans refused

/-- The settings of a run come of the file that is named or found, the environment and the arguments, layer by layer, in one
way only. They are refused exactly if what comes of all layers is, and otherwise a run fails only over its file. A setting
that the file leaves out has its default, and to hear the environment a second time changes nothing. -/
theorem loadConfig_layers (d : Disk) (env : Environment) (root : Text) (args : CheckArgs) :
    (∀ file, ∃! c, Layered file env args c) ∧
    (∀ c, (loadConfig d env root args).run.value = .ok c ↔
      ∃ file, Config.discover d root args.config = .ok file ∧ Layered file env args c ∧ c.validate = .ok ()) ∧
    (∀ e, (loadConfig d env root args).run.value = .error e ↔
      (∃ cause, Config.discover d root args.config = .error cause ∧ e = .config cause) ∨
      ∃ file c cause, Config.discover d root args.config = .ok file ∧ Layered file env args c ∧
        c.validate = .error cause ∧ e = .invalidConfig cause) ∧
    (∀ file, Config.discover d root args.config = .ok file → Config.FromFile d root args.config file) ∧
    ∀ config : Config,
      ((config.withEnvironment env).value.withEnvironment env).value = (config.withEnvironment env).value := by
  refine ⟨fun file => ?_, fun _ => loadConfig_eq_ok_iff, fun _ => loadConfig_eq_error_iff,
    fun _ => Config.fromFile_of_discover, fun config => config.withEnvironment_twice env⟩
  exact ⟨_, layered_override file env args, fun _ layered => layered.eq (layered_override file env args)⟩

end Check
end TodoLedger
