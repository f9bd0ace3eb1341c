namespace ForumDigest.Json

inductive Error where
  | malformed
  | ended
  | mismatch (message : String)
  deriving DecidableEq, Repr

namespace Error

def message : Error → String
  | malformed => "the text is not JSON"
  | ended => "the text ends too early"
  | mismatch m => m

def invalidType (found expected : String) : Error :=
  .mismatch ("invalid type: " ++ found ++ ", expected " ++ expected)

def invalidValue (found expected : String) : Error :=
  .mismatch ("invalid value: " ++ found ++ ", expected " ++ expected)

end Error

end ForumDigest.Json
