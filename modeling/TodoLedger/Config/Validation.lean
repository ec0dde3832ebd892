import TodoLedger.Config.Basic
import TodoLedger.Disk.Error
import TodoLedger.Glob.Pattern
import TodoLedger.Text.Quoted

/-! Settings that cannot work, and what else can go wrong with settings. -/

namespace TodoLedger

/-- Why settings are refused. -/
inductive InvalidConfig where
  | emptyIgnoreFile
  | zeroTimeout
  | apiUrl (url : Text)
  | excludedPath (pattern : Text) (cause : Glob.PatternError)
deriving DecidableEq, Repr

def InvalidConfig.message : InvalidConfig → Text
  | emptyIgnoreFile => "ignore_file must not be empty".toList
  | zeroTimeout => "tracker.timeout_ms must be greater than zero".toList
  | apiUrl url => "tracker.api_url ".toList ++ Text.quoted url ++ " is not an http(s) URL".toList
  | excludedPath pattern cause =>
    "invalid excluded_paths pattern ".toList ++ Text.quoted pattern ++ ": ".toList ++ cause.message

/-- What goes wrong with settings. -/
inductive ConfigError where
  | io (path : Text) (cause : DiskError)
  | yaml (path : Text)
  | invalid (cause : InvalidConfig)
deriving DecidableEq, Repr

def ConfigError.message : ConfigError → Text
  | io path cause => "failed to read ".toList ++ path ++ ": ".toList ++ cause.message
  | yaml path => "invalid YAML in ".toList ++ path
  | invalid cause => "invalid configuration: ".toList ++ cause.message

/-- The messages of the cause that lies below an error, if it has one. -/
def ConfigError.causes : ConfigError → List Text
  | io _ cause => [cause.message]
  | _ => []

namespace Config

/-- The first of the excluded paths that is no pattern. -/
def badPattern? : List Text → Option InvalidConfig
  | [] => none
  | p :: more =>
    match Glob.Pattern.read p with
    | .ok _ => badPattern? more
    | .error e => some (.excludedPath p e)

/-- Refuses settings that cannot work. -/
def validate (config : Config) : Except InvalidConfig Unit :=
  if Text.allBlank config.ignoreFile then .error .emptyIgnoreFile
  else if config.tracker.timeout = 0 then .error .zeroTimeout
  else if !("http://".toList.isPrefixOf config.tracker.apiUrl ||
      "https://".toList.isPrefixOf config.tracker.apiUrl) then
    .error (.apiUrl config.tracker.apiUrl)
  else
    match badPattern? config.excludedPaths with
    | some e => .error e
    | none => .ok ()

end Config
end TodoLedger
