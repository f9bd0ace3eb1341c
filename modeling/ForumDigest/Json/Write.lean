import ForumDigest.Binary64.Written

namespace ForumDigest.Json

def hexDigit (n : Nat) : Char := Char.ofNat (if n < 10 then 0x30 + n else 0x57 + n)

/-- A character inside a string; only quotes, backslashes and control characters are escaped. -/
def writeChar (c : Char) : List Char :=
  match c with
  | '"' => ['\\', '"']
  | '\\' => ['\\', '\\']
  | '\x08' => ['\\', 'b']
  | '\x0c' => ['\\', 'f']
  | '\n' => ['\\', 'n']
  | '\r' => ['\\', 'r']
  | '\t' => ['\\', 't']
  | _ =>
    if c.toNat < 0x20 then
      ['\\', 'u', '0', '0', hexDigit (c.toNat / 16), hexDigit (c.toNat % 16)]
    else [c]

def writeText (cs : List Char) : List Char := '"' :: cs.flatMap writeChar ++ ['"']

def writeString (s : String) : List Char := writeText s.toList

def writeBool (b : Bool) : List Char := if b then "true".toList else "false".toList

def writeNat (n : Nat) : List Char := Nat.toDigits 10 n

def writeInt (n : Int) : List Char :=
  if n < 0 then '-' :: writeNat n.natAbs else writeNat n.natAbs

def writeNull : List Char := "null".toList

def writeReal (x : Binary64) : List Char :=
  if x.isFinite then x.finiteText Binary64.jsonStyle else writeNull

def writeOption {α : Type} (write : α → List Char) : Option α → List Char
  | some a => write a
  | none => writeNull

def writeList {α : Type} (write : α → List Char) (as : List α) : List Char :=
  '[' :: List.intercalate [','] (as.map write) ++ [']']

def writeMember (member : String × List Char) : List Char :=
  writeString member.1 ++ ':' :: member.2

def writeObject (members : List (String × List Char)) : List Char :=
  '\x7b' :: List.intercalate [','] (members.map writeMember) ++ ['\x7d']

end ForumDigest.Json
