import ForumDigest.Binary64.Written
import ForumDigest.Text.Quoted

namespace ForumDigest.Toml

/-- How a table came to be, which decides what may still be added to it. -/
structure Origin where
  isInline : Bool := false
  isImplicit : Bool := false
  isDotted : Bool := false
  deriving DecidableEq, Repr

inductive Value where
  | string (s : String)
  | integer (n : Int)
  | float (x : Binary64)
  | boolean (b : Bool)
  | datetime
  | array (elements : List Value)
  | table (origin : Origin) (items : List (String × Value))
  | tables (elements : List Value)
  deriving Repr

namespace Value

def typeName : Value → String
  | string _ => "string"
  | integer _ => "integer"
  | float _ => "float"
  | boolean _ => "boolean"
  | datetime => "datetime"
  | array _ | tables _ => "array"
  | table .. => "table"

def describe : Value → String
  | string s => "string " ++ Text.quoted s
  | integer n => "integer \x60" ++ toString n ++ "\x60"
  | float x => "floating point \x60" ++ x.describe Binary64.positionalStyle ++ "\x60"
  | boolean b => "boolean \x60" ++ toString b ++ "\x60"
  | array _ | tables _ => "sequence"
  | table .. | datetime => "map"

end Value

end ForumDigest.Toml
