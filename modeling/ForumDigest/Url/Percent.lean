import ForumDigest.Text.Utf8

namespace ForumDigest.Url.Percent

def hexDigit (n : Nat) : Char := Char.ofNat (if n < 10 then 0x30 + n else 0x37 + n)

def hexValue? (b : UInt8) : Option Nat :=
  let n := b.toNat
  if 0x30 ≤ n ∧ n ≤ 0x39 then some (n - 0x30)
  else if 0x41 ≤ n ∧ n ≤ 0x46 then some (n - 0x37)
  else if 0x61 ≤ n ∧ n ≤ 0x66 then some (n - 0x57)
  else none

def encodeByte (b : UInt8) : List Char :=
  ['%', hexDigit (b.toNat / 16), hexDigit (b.toNat % 16)]

def encodeChar (c : Char) : List Char := (String.utf8EncodeChar c).flatMap encodeByte

def encode (reserved : Char → Bool) (cs : List Char) : List Char :=
  cs.flatMap fun c => if reserved c then encodeChar c else [c]

/-- Reads `%` and two digits as a byte; a `%` without two digits stands for itself. -/
def decode : List UInt8 → List UInt8
  | 0x25 :: h :: l :: bs =>
    match hexValue? h, hexValue? l with
    | some h', some l' => UInt8.ofNat (h' * 16 + l') :: decode bs
    | _, _ => 0x25 :: decode (h :: l :: bs)
  | b :: bs => b :: decode bs
  | [] => []

/-- A control character or one beyond ASCII: each set of reserved characters holds these. -/
def isControl (c : Char) : Bool := c.toNat < 0x20 || 0x7E < c.toNat

def inFragment (c : Char) : Bool :=
  isControl c || c == ' ' || c == '"' || c == '<' || c == '>' || c == '\x60'

def inQuery (c : Char) : Bool :=
  isControl c || c == ' ' || c == '"' || c == '#' || c == '<' || c == '>'

def inSpecialQuery (c : Char) : Bool := inQuery c || c == '\x27'

def inPath (c : Char) : Bool :=
  inFragment c || c == '#' || c == '?' || c == '\x7b' || c == '\x7d'

def inUserinfo (c : Char) : Bool :=
  inPath c || c == '/' || c == ':' || c == ';' || c == '=' || c == '@' || c == '[' || c == '\\' ||
    c == ']' || c == '^' || c == '|'

end ForumDigest.Url.Percent
