import ForumDigest.Binary64.Written
import ForumDigest.Json.Error

namespace ForumDigest.Json

def isSpace (c : Char) : Bool := c == ' ' || c == '\n' || c == '\t' || c == '\r'

def skipSpace (cs : List Char) : List Char := cs.dropWhile isSpace

def literal : (expected : List Char) → List Char → Except Error (List Char)
  | [], cs => .ok cs
  | _ :: _, [] => .error .ended
  | e :: es, c :: cs => if e = c then literal es cs else .error .malformed

def hexValue? (c : Char) : Option Nat :=
  if '0' ≤ c ∧ c ≤ '9' then some (c.toNat - 0x30)
  else if 'a' ≤ c ∧ c ≤ 'f' then some (c.toNat - 0x57)
  else if 'A' ≤ c ∧ c ≤ 'F' then some (c.toNat - 0x37)
  else none

def unit? (a b c d : Char) : Option Nat := do
  return (← hexValue? a) * 4096 + (← hexValue? b) * 256 + (← hexValue? c) * 16 + (← hexValue? d)

def escape? : Char → Option Char
  | '"' => some '"'
  | '\\' => some '\\'
  | '/' => some '/'
  | 'b' => some '\x08'
  | 'f' => some '\x0c'
  | 'n' => some '\n'
  | 'r' => some '\r'
  | 't' => some '\t'
  | _ => none

def isLeading (u : Nat) : Bool := 0xD800 ≤ u && u < 0xDC00

def isTrailing (u : Nat) : Bool := 0xDC00 ≤ u && u < 0xE000

def isShort (cs : List Char) : Bool := ((cs.take 4).map Char.utf8Size).foldr (· + ·) 0 < 4

def unitError (cs : List Char) : Error :=
  if isShort cs then .ended else .malformed

def pairError : List Char → Error
  | [] => .ended
  | '\\' :: [] => .ended
  | '\\' :: 'u' :: cs => unitError cs
  | _ => .malformed

def string : List Char → Except Error (List Char × List Char)
  | [] => .error .ended
  | '"' :: cs => .ok ([], cs)
  | '\\' :: 'u' :: a :: b :: c :: d :: cs =>
    match unit? a b c d with
    | none => .error .malformed
    | some u =>
      if isTrailing u then .error .malformed
      else if isLeading u then
        match cs with
        | '\\' :: 'u' :: e :: f :: g :: h :: rest =>
          match unit? e f g h with
          | none => .error .malformed
          | some v =>
            if isTrailing v then do
              let (text, rest) ← string rest
              return (Char.ofNat (0x10000 + (u - 0xD800) * 1024 + (v - 0xDC00)) :: text, rest)
            else .error .malformed
        | rest => .error (pairError rest)
      else do
        let (text, rest) ← string cs
        return (Char.ofNat u :: text, rest)
  | '\\' :: 'u' :: cs => .error (unitError cs)
  | '\\' :: c :: cs =>
    match escape? c with
    | none => .error .malformed
    | some e => do
      let (text, rest) ← string cs
      return (e :: text, rest)
  | '\\' :: [] => .error .ended
  | c :: cs =>
    if c.toNat < 0x20 then .error .malformed
    else do
      let (text, rest) ← string cs
      return (c :: text, rest)

inductive Number where
  | natural (n : Nat)
  | negative (n : Nat)
  | real (x : Binary64)
  deriving DecidableEq, Repr

def Number.describe : Number → String
  | .natural n => "integer \x60" ++ toString n ++ "\x60"
  | .negative n => "integer \x60-" ++ toString n ++ "\x60"
  | .real x => "floating point \x60" ++ x.describe Binary64.jsonStyle ++ "\x60"

def digitValue (c : Char) : Nat := c.toNat - 0x30

/-- Adds digits to a number while it stays below `limit`, and returns the digits that are left. -/
def accumulate (limit : Nat) : (n : Nat) → List Char → Nat × List Char
  | n, [] => (n, [])
  | n, d :: ds =>
    let m := n * 10 + digitValue d
    if m < limit then accumulate limit m ds else (n, d :: ds)

def powerOfTen (k : Nat) : Float := Float.ofScientific 1 false k

def divided (f : Float) (k : Nat) : Float :=
  if k ≤ 308 then f / powerOfTen k
  else if f == 0.0 then f
  else divided (f / powerOfTen 308) (k - 308)
termination_by k

/-- A significand with a power of ten, rounded at each step of the arithmetic; none where the result
is too great. -/
def real? (negative : Bool) (significand : Nat) (exponent : Int) : Option Binary64 :=
  let f := (UInt64.ofNat significand).toFloat
  let signed (g : Float) := Binary64.ofFloat (if negative then -g else g)
  if exponent < 0 then some (signed (divided f exponent.natAbs))
  else if exponent ≤ 308 then
    let g := f * powerOfTen exponent.toNat
    if g.isInf then none else some (signed g)
  else if significand = 0 then some (signed f) else none

def realNumber (negative : Bool) (significand : Nat) (exponent : Int) (cs : List Char) :
    Except Error (Number × List Char) :=
  match real? negative significand exponent with
  | some x => .ok (.real x, cs)
  | none => .error .malformed

def clamp (e : Int) : Int := max (-2147483648) (min 2147483647 e)

def exponentPart (negative : Bool) (significand : Nat) (start : Int) (cs : List Char) :
    Except Error (Number × List Char) :=
  let (down, cs) := match cs with
    | '+' :: rest => (false, rest)
    | '-' :: rest => (true, rest)
    | _ => (false, cs)
  match cs.takeWhile Char.isDigit, cs with
  | _, [] => .error .ended
  | [], _ => .error .malformed
  | ds, _ =>
    let (e, left) := accumulate 2147483648 0 ds
    let rest := cs.dropWhile Char.isDigit
    if left.isEmpty then
      realNumber negative significand (clamp (if down then start - e else start + e)) rest
    else if significand ≠ 0 && !down then .error .malformed
    else realNumber negative 0 0 rest

def startsExponent : List Char → Bool
  | 'e' :: _ | 'E' :: _ => true
  | _ => false

def wordLimit : Nat := 0x10000000000000000

def decimalPart (negative : Bool) (significand : Nat) (start : Int) (cs : List Char) :
    Except Error (Number × List Char) :=
  match cs.takeWhile Char.isDigit, cs with
  | _, [] => .error .ended
  | [], _ => .error .malformed
  | ds, _ =>
    let (s, left) := accumulate wordLimit significand ds
    let exponent := start - ((ds.length - left.length : Nat) : Int)
    let rest := cs.dropWhile Char.isDigit
    if startsExponent rest then exponentPart negative s exponent (rest.drop 1)
    else realNumber negative s exponent rest

/-- The text behind a number's sign. Digits that do not fit into 64 bits count as zeros. -/
def unsigned (negative : Bool) (cs : List Char) : Except Error (Number × List Char) :=
  match cs.takeWhile Char.isDigit, cs with
  | _, [] => .error .ended
  | [], _ => .error .malformed
  | '0' :: _ :: _, _ => .error .malformed
  | ds, _ =>
    let (s, left) := accumulate wordLimit 0 ds
    let rest := cs.dropWhile Char.isDigit
    match rest with
    | '.' :: fraction => decimalPart negative s left.length fraction
    | _ =>
      if startsExponent rest then exponentPart negative s left.length (rest.drop 1)
      else if !left.isEmpty then realNumber negative s left.length rest
      else if !negative then .ok (.natural s, rest)
      else if 0 < s ∧ s ≤ 0x8000000000000000 then .ok (.negative s, rest)
      else realNumber true s 0 rest

def number (cs : List Char) : Except Error (Number × List Char) :=
  match cs with
  | '-' :: rest => unsigned true rest
  | _ => unsigned false cs

def startsNumber (c : Char) : Bool := c == '-' || c.isDigit

end ForumDigest.Json
