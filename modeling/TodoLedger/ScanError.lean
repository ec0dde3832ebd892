import TodoLedger.Disk.Error
import TodoLedger.Glob.Pattern

/-! What can go wrong with the files of a scan: sources, the ignore file and its entries. -/

namespace TodoLedger

inductive ScanError where
  | io (path : Text) (cause : DiskError)
  | unsupportedEncoding (path : Text)
  | missingIgnoreFile (path : Text)
  | ignoreFileExists (path : Text)
  | pattern (entry : Text) (cause : Glob.PatternError)
deriving DecidableEq, Repr

namespace ScanError

def message : ScanError → Text
  | io path cause => "failed to read ".toList ++ path ++ ": ".toList ++ cause.message
  | unsupportedEncoding path => "unsupported encoding in ".toList ++ path
  | missingIgnoreFile path =>
    path ++ " not found; create one with \x60todoon ignore\x60 or pass --force".toList
  | ignoreFileExists path => path ++ " already exists; pass --update to append to it".toList
  | pattern entry cause =>
    "invalid ignore pattern '".toList ++ entry ++ "': ".toList ++ cause.message

/-- The messages of the cause that lies below an error, if it has one. -/
def causes : ScanError → List Text
  | io _ cause => [cause.message]
  | pattern _ cause => [cause.message]
  | _ => []

end ScanError
end TodoLedger
