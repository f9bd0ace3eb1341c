import ForumDigest.Toml.Value

namespace ForumDigest.Toml

def isBlank (c : Char) : Bool := c == ' ' || c == '\t'

def skipBlanks (cs : List Char) : List Char := cs.dropWhile isBlank

def isPlain (c : Char) : Bool := c == '\t' || (0x20 ≤ c.toNat && c.toNat ≠ 0x7F)

def lineEnd? : List Char → Option (List Char)
  | '\n' :: cs => some cs
  | '\r' :: '\n' :: cs => some cs
  | _ => none

def finishLine (cs : List Char) : Option (List Char) :=
  match skipBlanks cs with
  | [] => some []
  | '#' :: comment =>
    match comment.dropWhile isPlain with
    | [] => some []
    | rest => lineEnd? rest
  | rest => lineEnd? rest

def skipLines : (fuel : Nat) → List Char → Option (List Char)
  | 0, _ => none
  | fuel + 1, cs =>
    match skipBlanks cs with
    | '#' :: comment => (lineEnd? (comment.dropWhile isPlain)).bind (skipLines fuel)
    | '\n' :: rest => skipLines fuel rest
    | '\r' :: '\n' :: rest => skipLines fuel rest
    | rest => some rest

def hexValue? (c : Char) : Option Nat :=
  if '0' ≤ c ∧ c ≤ '9' then some (c.toNat - 0x30)
  else if 'a' ≤ c ∧ c ≤ 'f' then some (c.toNat - 0x57)
  else if 'A' ≤ c ∧ c ≤ 'F' then some (c.toNat - 0x37)
  else none

def codePoint? (ds : List Char) : Option Char := do
  let values ← ds.mapM hexValue?
  let n := values.foldl (fun n d => n * 16 + d) 0
  if n.isValidChar then some (Char.ofNat n) else none

def escape? : List Char → Option (Char × List Char)
  | 'u' :: a :: b :: c :: d :: cs => (codePoint? [a, b, c, d]).map (·, cs)
  | 'U' :: a :: b :: c :: d :: e :: f :: g :: h :: cs =>
    (codePoint? [a, b, c, d, e, f, g, h]).map (·, cs)
  | 'b' :: cs => some ('\x08', cs)
  | 't' :: cs => some ('\t', cs)
  | 'n' :: cs => some ('\n', cs)
  | 'f' :: cs => some ('\x0c', cs)
  | 'r' :: cs => some ('\r', cs)
  | '"' :: cs => some ('"', cs)
  | '\\' :: cs => some ('\\', cs)
  | _ => none

def basicString : (fuel : Nat) → List Char → Option (List Char × List Char)
  | 0, _ => none
  | _, [] => none
  | fuel + 1, c :: cs =>
    if c = '"' then some ([], cs)
    else if c = '\\' then do
      let (e, rest) ← escape? cs
      let (text, rest) ← basicString fuel rest
      return (e :: text, rest)
    else if isPlain c then (basicString fuel cs).map fun (text, rest) => (c :: text, rest)
    else none

def literalString (cs : List Char) : Option (List Char × List Char) :=
  match cs.dropWhile (fun c => isPlain c && c ≠ '\x27') with
  | '\x27' :: rest => some (cs.takeWhile (fun c => isPlain c && c ≠ '\x27'), rest)
  | _ => none

/-- Quotes in a row inside a string of several lines: three end it, and one or two in front of those
belong to it. -/
def quotesEnd? (count : Nat) : Option Nat := if count < 3 then none else some (count - 3)

/-- The rest behind a backslash at the end of a line, which hides all blanks up to the next other
character. -/
def hiddenEnd? (cs : List Char) : Option (List Char) :=
  match lineEnd? (skipBlanks cs) with
  | none => none
  | some rest => some (dropBlankLines (rest.length + 1) rest)
where
  dropBlankLines : Nat → List Char → List Char
    | 0, cs => cs
    | fuel + 1, cs =>
      match lineEnd? (skipBlanks cs) with
      | some rest => dropBlankLines fuel rest
      | none => skipBlanks cs

/-- The content of a string of several lines up to its closing quotes. `escapes` tells whether a
backslash has a meaning; each line end counts as a line feed. -/
def longString (quote : Char) (escapes : Bool) :
    (fuel : Nat) → List Char → Option (List Char × List Char)
  | 0, _ => none
  | _, [] => none
  | fuel + 1, c :: cs =>
    if c = quote then
      let count := ((c :: cs).takeWhile (· = quote)).length
      let rest := (c :: cs).dropWhile (· = quote)
      match quotesEnd? count with
      | some n => if n ≤ 2 then some (List.replicate n quote, rest) else none
      | none =>
        (longString quote escapes fuel rest).map fun (text, rest) =>
          (List.replicate count quote ++ text, rest)
    else if escapes && c = '\\' then
      match hiddenEnd? cs with
      | some rest => longString quote escapes fuel rest
      | none => do
        let (e, rest) ← escape? cs
        let (text, rest) ← longString quote escapes fuel rest
        return (e :: text, rest)
    else
      match lineEnd? (c :: cs) with
      | some rest =>
        (longString quote escapes fuel rest).map fun (text, rest) => ('\n' :: text, rest)
      | none =>
        if isPlain c then
          (longString quote escapes fuel cs).map fun (text, rest) => (c :: text, rest)
        else none

def dropLineEnd (cs : List Char) : List Char := (lineEnd? cs).getD cs

def string? (cs : List Char) : Option (List Char × List Char) :=
  match cs with
  | '"' :: '"' :: '"' :: rest => longString '"' true (rest.length + 1) (dropLineEnd rest)
  | '"' :: rest => basicString (rest.length + 1) rest
  | '\x27' :: '\x27' :: '\x27' :: rest =>
    longString '\x27' false (rest.length + 1) (dropLineEnd rest)
  | '\x27' :: rest => literalString rest
  | _ => none

def isBareKeyChar (c : Char) : Bool := c.isAlphanum || c == '_' || c == '-'

def simpleKey? (cs : List Char) : Option (String × List Char) :=
  match cs with
  | '"' :: rest => (basicString (rest.length + 1) rest).map fun (k, rest) => (String.ofList k, rest)
  | '\x27' :: rest => (literalString rest).map fun (k, rest) => (String.ofList k, rest)
  | _ =>
    match cs.takeWhile isBareKeyChar with
    | [] => none
    | k => some (String.ofList k, cs.dropWhile isBareKeyChar)

def keyParts : (fuel : Nat) → List Char → Option (List String × List Char)
  | 0, _ => none
  | fuel + 1, cs => do
    let (k, rest) ← simpleKey? (skipBlanks cs)
    match skipBlanks rest with
    | '.' :: rest =>
      let (ks, rest) ← keyParts fuel rest
      return (k :: ks, rest)
    | rest => return ([k], rest)

def depthLimit : Nat := 80

def key? (cs : List Char) : Option (List String × List Char) := do
  let (ks, rest) ← keyParts (cs.length + 1) cs
  if ks.length < depthLimit then return (ks, rest) else none

def digitRun (isDigit : Char → Bool) : List Char → List Char × List Char
  | c :: '_' :: d :: rest =>
    if isDigit c && isDigit d then
      let (ds, rest) := digitRun isDigit (d :: rest)
      (c :: ds, rest)
    else if isDigit c then ([c], '_' :: d :: rest)
    else ([], c :: '_' :: d :: rest)
  | c :: cs =>
    if isDigit c then
      let (ds, rest) := digitRun isDigit cs
      (c :: ds, rest)
    else ([], c :: cs)
  | [] => ([], [])

def digitValue (c : Char) : Nat := (hexValue? c).getD 0

def valueIn (base : Nat) (ds : List Char) : Nat := ds.foldl (fun n d => n * base + digitValue d) 0

def inRange (n : Int) : Bool := -9223372036854775808 ≤ n && n ≤ 9223372036854775807

def integerValue (n : Int) (rest : List Char) : Option (Value × List Char) :=
  if inRange n then some (.integer n, rest) else none

def basedInteger (base : Nat) (isDigit : Char → Bool) (cs : List Char) :
    Option (Value × List Char) :=
  match digitRun isDigit cs with
  | ([], _) => none
  | (ds, rest) => integerValue (valueIn base ds) rest

def exponent? (cs : List Char) : Option (Int × List Char) :=
  let (down, cs) := match cs with
    | '+' :: rest => (false, rest)
    | '-' :: rest => (true, rest)
    | _ => (false, cs)
  match digitRun Char.isDigit cs with
  | ([], _) => none
  | (ds, rest) =>
    let e : Int := valueIn 10 ds
    some (if down then -e else e, rest)

def floatValue (negative : Bool) (digits : List Char) (exponent : Int) (rest : List Char) :
    Option (Value × List Char) :=
  let significand := valueIn 10 digits
  let magnitude : Float :=
    if significand = 0 then 0.0
    else if exponent + digits.length < -400 then 0.0
    else if 400 < exponent + digits.length ∧ 400 < exponent then 1.0 / 0.0
    else if exponent < 0 then Float.ofScientific significand true exponent.natAbs
    else Float.ofScientific significand false exponent.natAbs
  if magnitude.isInf && !negative then none
  else some (.float (.ofFloat (if negative then -magnitude else magnitude)), rest)

def decimal? (negative : Bool) (cs : List Char) : Option (Value × List Char) :=
  match digitRun Char.isDigit cs with
  | ([], _) => none
  | (ds, rest) =>
    if 1 < ds.length && ds.head? = some '0' then none
    else
      let fraction := match rest with
        | '.' :: behind =>
          match digitRun Char.isDigit behind with
          | ([], _) => none
          | (fs, rest) => some (fs, rest)
        | _ => none
      let pointed := rest.head? = some '.'
      let (fs, rest) := fraction.getD ([], rest)
      if pointed && fs.isEmpty then none
      else
        let raised := rest.head? = some 'e' || rest.head? = some 'E'
        if raised then do
          let (e, rest) ← exponent? (rest.drop 1)
          floatValue negative (ds ++ fs) (e - fs.length) rest
        else if pointed then floatValue negative (ds ++ fs) (-fs.length) rest
        else
          let n : Int := valueIn 10 ds
          integerValue (if negative then -n else n) rest

def specialFloat? (negative : Bool) : List Char → Option (Value × List Char)
  | 'i' :: 'n' :: 'f' :: rest =>
    some (.float ⟨if negative then 0xFFF0000000000000 else 0x7FF0000000000000⟩, rest)
  | 'n' :: 'a' :: 'n' :: rest =>
    some (.float ⟨if negative then 0xFFF8000000000000 else 0x7FF8000000000000⟩, rest)
  | _ => none

def isOctal (c : Char) : Bool := '0' ≤ c && c ≤ '7'

def isBinary (c : Char) : Bool := c == '0' || c == '1'

def number? (cs : List Char) : Option (Value × List Char) :=
  match cs with
  | '0' :: 'x' :: rest => basedInteger 16 (fun c => (hexValue? c).isSome) rest
  | '0' :: 'o' :: rest => basedInteger 8 isOctal rest
  | '0' :: 'b' :: rest => basedInteger 2 isBinary rest
  | '+' :: rest => (decimal? false rest).or (specialFloat? false rest)
  | '-' :: rest => (decimal? true rest).or (specialFloat? true rest)
  | _ => (decimal? false cs).or (specialFloat? false cs)

def fixed? (count : Nat) (cs : List Char) : Option (Nat × List Char) :=
  let ds := cs.take count
  if ds.length = count && ds.all Char.isDigit then some (valueIn 10 ds, cs.drop count) else none

def mark? (c : Char) : List Char → Option (List Char)
  | d :: rest => if c = d then some rest else none
  | [] => none

def isLeapYear (y : Nat) : Bool := y % 4 = 0 && (y % 100 ≠ 0 || y % 400 = 0)

def monthLength (year month : Nat) : Nat :=
  if month = 2 then (if isLeapYear year then 29 else 28)
  else if month = 4 || month = 6 || month = 9 || month = 11 then 30 else 31

def date? (cs : List Char) : Option (List Char) := do
  let (year, rest) ← fixed? 4 cs
  let (month, rest) ← fixed? 2 (← mark? '-' rest)
  let (day, rest) ← fixed? 2 (← mark? '-' rest)
  if 1 ≤ month ∧ month ≤ 12 ∧ 1 ≤ day ∧ day ≤ monthLength year month then rest else none

def clock? (cs : List Char) : Option (List Char) := do
  let (hour, rest) ← fixed? 2 cs
  let (minute, rest) ← fixed? 2 (← mark? ':' rest)
  if hour < 24 ∧ minute < 60 then rest else none

def time? (cs : List Char) : Option (List Char) := do
  let rest ← clock? cs
  let (second, rest) ← fixed? 2 (← mark? ':' rest)
  if 60 < second then none
  match rest with
  | '.' :: behind =>
    if behind.head?.any Char.isDigit then behind.dropWhile Char.isDigit else rest
  | _ => rest

def dropOffset (cs : List Char) : Option (List Char) :=
  match cs with
  | 'Z' :: rest | 'z' :: rest => some rest
  | '+' :: rest | '-' :: rest => clock? rest
  | _ => some cs

def datetime? (cs : List Char) : Option (List Char) :=
  match date? cs with
  | none => time? cs
  | some rest =>
    match rest with
    | 'T' :: behind | 't' :: behind | ' ' :: behind =>
      match time? behind with
      | some rest => dropOffset rest
      | none => some rest
    | _ => some rest

end ForumDigest.Toml
