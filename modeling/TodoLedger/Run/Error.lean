import TodoLedger.Config.Validation
import TodoLedger.Reconciler
import TodoLedger.ScanError

/-! What ends a run before it comes to a verdict. -/

namespace TodoLedger

inductive RunError where
  | unknownFormat (format : Text)
  | inaccessibleRoot (path : Text) (cause : DiskError)
  | config (e : ConfigError)
  /-- The settings of all layers together cannot work. -/
  | invalidConfig (e : InvalidConfig)
  | scan (e : ScanError)
  | cap (e : CapExceeded)
deriving DecidableEq, Repr

namespace RunError

/-- What is told about an error, from the outermost message to that of its last cause. -/
def chain : RunError → List Text
  | unknownFormat format =>
    ["invalid format ".toList ++ Text.quoted format ++ ", must be 'pretty' or 'json'".toList]
  | inaccessibleRoot path cause => ["cannot access root ".toList ++ path, cause.message]
  | config e => e.message :: e.causes
  | invalidConfig e => ["invalid configuration".toList, (ConfigError.invalid e).message]
  | scan e => e.message :: e.causes
  | cap e => [e.message]

def message (e : RunError) : Text := Text.join ": ".toList e.chain

/-- The exit code of a run that ends with an error. -/
def exitCode : Nat := 2

end RunError
end TodoLedger
