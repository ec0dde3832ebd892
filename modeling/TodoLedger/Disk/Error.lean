import TodoLedger.Text.Number

/-! Why an access to the disk fails. -/

namespace TodoLedger

/-- The reason for which the system refuses a path or its content. -/
inductive DiskError where
  | notFound
  | exists
  | notDirectory
  | isDirectory
  | nameTooLong
  | tooManyLinks
  /-- A path holds the character that ends path names. -/
  | zeroCharacter
  /-- The content was asked for as text and is none. -/
  | notUtf8
deriving DecidableEq, Repr

namespace DiskError

/-- The system's wording with its number, where it has one. -/
def message (e : DiskError) : Text :=
  let coded (text : String) (code : Nat) : Text :=
    text.toList ++ " (os error ".toList ++ Text.ofNat code ++ [')']
  match e with
  | notFound => coded "No such file or directory" 2
  | .exists => coded "File exists" 17
  | notDirectory => coded "Not a directory" 20
  | isDirectory => coded "Is a directory" 21
  | nameTooLong => coded "File name too long" 36
  | tooManyLinks => coded "Too many levels of symbolic links" 40
  | zeroCharacter => "file name contained an unexpected NUL byte".toList
  | notUtf8 => "stream did not contain valid UTF-8".toList

end DiskError
end TodoLedger
