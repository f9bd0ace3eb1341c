import ForumDigest.Url.Basic
import ForumDigest.Url.Domain
import ForumDigest.Url.Percent

namespace ForumDigest.Url

def isTrimmed (c : Char) : Bool := c.toNat ≤ 0x20

/-- Leaves out control characters and spaces at the two ends, and tabs and line ends anywhere. -/
def cleaned (cs : List Char) : List Char :=
  let trimmed := ((cs.dropWhile isTrimmed).reverse.dropWhile isTrimmed).reverse
  trimmed.filter fun c => !(c == '\t' || c == '\n' || c == '\r')

def isSchemeChar (c : Char) : Bool := c.isAlphanum || c == '+' || c == '-' || c == '.'

def scheme? (cs : List Char) : Option (List Char × List Char) :=
  match cs.takeWhile isSchemeChar, cs.dropWhile isSchemeChar with
  | c :: head, ':' :: rest =>
    if c.isAlpha then some ((c :: head).map Char.toLower, rest) else none
  | _, _ => none

def isSlash (special : Bool) (c : Char) : Bool := c == '/' || (special && c == '\\')

def endsAuthority (special : Bool) (c : Char) : Bool :=
  isSlash special c || c == '?' || c == '#'

def splitLast (sep : Char) (cs : List Char) : Option (List Char × List Char) :=
  match cs.reverse.dropWhile (· ≠ sep) with
  | [] => none
  | _ :: head => some (head.reverse, (cs.reverse.takeWhile (· ≠ sep)).reverse)

def userinfo (cs : List Char) : String × Option String :=
  let encoded (part : List Char) := String.ofList (Percent.encode Percent.inUserinfo part)
  let name := cs.takeWhile (· ≠ ':')
  match (cs.dropWhile (· ≠ ':')).drop 1 with
  | [] => (encoded name, none)
  | password => (encoded name, some (encoded password))

/-- Splits a host from the colon and port behind it; a colon between brackets is the host's. -/
def splitPort : (bracketed : Bool) → List Char → List Char × Option (List Char)
  | _, [] => ([], none)
  | bracketed, c :: cs =>
    if c == ':' && !bracketed then ([], some cs)
    else
      let inside := if c == '[' then true else if c == ']' then false else bracketed
      let (host, port) := splitPort inside cs
      (c :: host, port)

def port? (scheme : String) (cs : List Char) : Except ParseError (Option Nat) :=
  if !cs.all Char.isDigit then .error .invalidPort
  else if cs.isEmpty then .ok none
  else
    let n := Address.valueIn 10 cs
    if 65535 < n then .error .invalidPort
    else .ok (if defaultPort? scheme = some n then none else some n)

def parseAuthority (scheme : String) (special : Bool) (cs : List Char) :
    Except ParseError Authority := do
  let (credentials, place) := (splitLast '@' cs).getD ([], cs)
  let (username, password) := userinfo credentials
  let (hostText, portText) := splitPort false place
  let needsHost := special || portText.isSome || username ≠ "" || password.isSome || cs = ['@']
  if hostText.isEmpty && needsHost then throw .emptyHost
  let host ← if special then Host.parse hostText else Host.parseLoose hostText
  let port ← port? scheme (portText.getD [])
  return { username, password, host, port }

def isSingleDot (cs : List Char) : Bool :=
  [".", "%2e", "%2E"].contains (String.ofList cs)

def isDoubleDot (cs : List Char) : Bool :=
  ["..", "%2e%2e", "%2e%2E", "%2E%2e", "%2E%2E", "%2e.", "%2E.", ".%2e", ".%2E"].contains
    (String.ofList cs)

def isDriveLetter : List Char → Bool
  | [c, d] => c.isAlpha && (d == ':' || d == '|')
  | _ => false

/-- Takes the last segment off, but never a file's drive. The segments are kept last first. -/
def shorten (kind : SchemeKind) : List String → List String
  | [drive] => if kind = .file && isDriveLetter drive.toList then [drive] else []
  | _ :: earlier => earlier
  | [] => []

/-- Adds one segment to those before it, last first. Dots that end a path leave an empty segment. -/
def addSegment (kind : SchemeKind) (isLast : Bool) (earlier : List String) (raw : List Char) :
    List String :=
  let segment := Percent.encode Percent.inPath raw
  let closed (segments : List String) := if isLast then "" :: segments else segments
  if isDoubleDot segment then closed (shorten kind earlier)
  else if isSingleDot segment then closed earlier
  else if kind = .file && earlier.isEmpty && isDriveLetter segment then
    [String.ofList (segment.take 1 ++ [':'])]
  else String.ofList segment :: earlier

def addSegments (kind : SchemeKind) : List String → List (List Char) → List String
  | earlier, [] => earlier
  | earlier, [raw] => addSegment kind true earlier raw
  | earlier, raw :: raws => addSegments kind (addSegment kind false earlier raw) raws

def withoutEmptyHead (kind : SchemeKind) (segments : List String) : List String :=
  if kind = .file then
    match segments.dropWhile (· = "") with
    | [] => [""]
    | rest => rest
  else segments

def segments (kind : SchemeKind) (cs : List Char) : List String :=
  withoutEmptyHead kind (addSegments kind [] (cs.splitOnP (isSlash kind.isSpecial))).reverse

def rootedPath (kind : SchemeKind) (cs : List Char) : Path :=
  match cs with
  | [] => .rooted (if kind.isSpecial then [""] else [])
  | c :: rest =>
    if isSlash kind.isSpecial c then .rooted (segments kind rest)
    else .rooted (segments kind (c :: rest))

structure Cut where
  head : List Char
  query : Option (List Char)
  fragment : Option (List Char)

def cut (cs : List Char) : Cut :=
  let after (c : Char) (rest : List Char) :=
    if rest.head? = some c then some (rest.drop 1) else none
  let fragmentless := cs.takeWhile (· ≠ '#')
  { head := fragmentless.takeWhile (· ≠ '?')
    query := after '?' (fragmentless.dropWhile (· ≠ '?'))
    fragment := after '#' (cs.dropWhile (· ≠ '#')) }

def fileParts (cs : List Char) : Except ParseError (Authority × Path) :=
  let nobody : Authority := ⟨"", none, .domain "", none⟩
  let slash := isSlash true
  match cs with
  | a :: b :: rest =>
    if slash a && slash b then
      let hostText := rest.takeWhile (!slash ·)
      if isDriveLetter hostText then .ok (nobody, .rooted (segments .file rest))
      else if hostText.isEmpty then .ok (nobody, rootedPath .file (rest.dropWhile (!slash ·)))
      else do
        let host ← Host.parse hostText
        let path := rootedPath .file (rest.dropWhile (!slash ·))
        let hidden := host = .domain "localhost" || (match path with
          | .rooted (drive :: _) => isDriveLetter drive.toList
          | _ => false)
        return ({ nobody with host := if hidden then .domain "" else host }, path)
    else .ok (nobody, rootedPath .file cs)
  | _ => .ok (nobody, rootedPath .file cs)

def hierarchy (scheme : String) (cs : List Char) :
    Except ParseError (Option Authority × Path) :=
  let kind := schemeKind scheme
  let located (place : List Char) : Except ParseError (Option Authority × Path) := do
    let ends := endsAuthority kind.isSpecial
    let a ← parseAuthority scheme kind.isSpecial (place.takeWhile (!ends ·))
    return (some a, rootedPath kind (place.dropWhile (!ends ·)))
  match kind, cs with
  | .web, _ => located (cs.dropWhile (isSlash true))
  | .file, _ => do
    let (a, path) ← fileParts cs
    return (some a, path)
  | .other, '/' :: '/' :: place => located place
  | .other, '/' :: rest => .ok (none, .rooted (segments .other rest))
  | .other, _ => .ok (none, .plain (String.ofList (Percent.encode Percent.isControl cs)))

/-- Reads a URL that stands alone, without a base. The text is cut at its delimiters first, and each
piece is then read on its own. -/
def parse (s : String) : Except ParseError Url :=
  match scheme? (cleaned s.toList) with
  | none => .error .relativeWithoutBase
  | some (schemeText, rest) => do
    let scheme := String.ofList schemeText
    let parts := cut rest
    let (authority, path) ← hierarchy scheme parts.head
    let inQuery :=
      if (schemeKind scheme).isSpecial then Percent.inSpecialQuery else Percent.inQuery
    return {
      scheme, authority, path
      query := parts.query.map fun q => String.ofList (Percent.encode inQuery q)
      fragment := parts.fragment.map fun f => String.ofList (Percent.encode Percent.inFragment f) }

end ForumDigest.Url
