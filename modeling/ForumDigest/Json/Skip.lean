import ForumDigest.Json.Lexical

namespace ForumDigest.Json

inductive Frame where
  | array
  | object
  deriving DecidableEq, Repr

inductive Expect where
  | value
  | valueOrEnd
  | name
  | nameOrEnd
  | text (isName : Bool)
  | escape (isName : Bool)
  | hex (left : Nat) (isName : Bool)
  | colon
  | letters (rest : List Char)
  | digit
  | whole (afterZero : Bool)
  | point
  | decimals
  | exponent
  | exponentDigit
  | exponentDigits
  | comma
  deriving DecidableEq, Repr

inductive Step where
  | goes (frames : List Frame) (next : Expect)
  | endedBefore
  | endedWith
  | fails

def Step.closed : List Frame → Step
  | [] => .endedWith
  | frames => .goes frames .comma

def stepValue (frames : List Frame) (c : Char) : Step :=
  if c = '"' then .goes frames (.text false)
  else if c = '[' then .goes (.array :: frames) .valueOrEnd
  else if c = '\x7b' then .goes (.object :: frames) .nameOrEnd
  else if c = 'n' then .goes frames (.letters "ull".toList)
  else if c = 't' then .goes frames (.letters "rue".toList)
  else if c = 'f' then .goes frames (.letters "alse".toList)
  else if c = '-' then .goes frames .digit
  else if c = '0' then .goes frames (.whole true)
  else if c.isDigit then .goes frames (.whole false)
  else .fails

def stepComma (frames : List Frame) (c : Char) : Step :=
  if isSpace c then .goes frames .comma
  else match frames, c with
    | .array :: _, ',' => .goes frames .value
    | .object :: _, ',' => .goes frames .name
    | .array :: outer, ']' => Step.closed outer
    | .object :: outer, '\x7d' => Step.closed outer
    | _, _ => .fails

def stepAfterNumber (frames : List Frame) (c : Char) : Step :=
  if frames.isEmpty then .endedBefore else stepComma frames c

def step (frames : List Frame) (expected : Expect) (c : Char) : Step :=
  match expected with
  | .value => if isSpace c then .goes frames .value else stepValue frames c
  | .valueOrEnd =>
    if isSpace c then .goes frames .valueOrEnd
    else if c = ']' then Step.closed frames.tail
    else stepValue frames c
  | .name =>
    if isSpace c then .goes frames .name else if c = '"' then .goes frames (.text true) else .fails
  | .nameOrEnd =>
    if isSpace c then .goes frames .nameOrEnd
    else if c = '\x7d' then Step.closed frames.tail
    else if c = '"' then .goes frames (.text true)
    else .fails
  | .text isName =>
    if c = '"' then (if isName then .goes frames .colon else Step.closed frames)
    else if c = '\\' then .goes frames (.escape isName)
    else if c.toNat < 0x20 then .fails
    else .goes frames (.text isName)
  | .escape isName =>
    if c = 'u' then .goes frames (.hex 4 isName)
    else if (escape? c).isSome then .goes frames (.text isName)
    else .fails
  | .hex left isName =>
    if (hexValue? c).isSome then
      .goes frames (if left ≤ 1 then .text isName else .hex (left - 1) isName)
    else .fails
  | .colon =>
    if isSpace c then .goes frames .colon else if c = ':' then .goes frames .value else .fails
  | .letters [] => .fails
  | .letters [e] => if e = c then Step.closed frames else .fails
  | .letters (e :: es) => if e = c then .goes frames (.letters es) else .fails
  | .digit =>
    if c = '0' then .goes frames (.whole true)
    else if c.isDigit then .goes frames (.whole false)
    else .fails
  | .whole afterZero =>
    if c.isDigit then (if afterZero then .fails else .goes frames (.whole false))
    else if c = '.' then .goes frames .point
    else if c = 'e' || c = 'E' then .goes frames .exponent
    else stepAfterNumber frames c
  | .point => if c.isDigit then .goes frames .decimals else .fails
  | .decimals =>
    if c.isDigit then .goes frames .decimals
    else if c = 'e' || c = 'E' then .goes frames .exponent
    else stepAfterNumber frames c
  | .exponent =>
    if c = '+' || c = '-' then .goes frames .exponentDigit
    else if c.isDigit then .goes frames .exponentDigits
    else .fails
  | .exponentDigit => if c.isDigit then .goes frames .exponentDigits else .fails
  | .exponentDigits =>
    if c.isDigit then .goes frames .exponentDigits else stepAfterNumber frames c
  | .comma => stepComma frames c

def Expect.mayEnd : Expect → Bool
  | .whole _ | .decimals | .exponentDigits => true
  | _ => false

def Expect.lacksDigit : Expect → Bool
  | .digit | .point | .exponent | .exponentDigit => true
  | _ => false

def Expect.startsHex : Expect → Bool
  | .hex 4 _ => true
  | _ => false

def skipFrom : (frames : List Frame) → Expect → List Char → Except Error (List Char)
  | frames, expected, [] =>
    if frames.isEmpty && expected.mayEnd then .ok []
    else .error (if expected.lacksDigit then .malformed else .ended)
  | frames, expected, c :: cs =>
    if expected.startsHex && isShort (c :: cs) then .error .ended
    else match step frames expected c with
      | .goes frames' next => skipFrom frames' next cs
      | .endedBefore => .ok (c :: cs)
      | .endedWith => .ok cs
      | .fails => .error .malformed

/-- The text behind one value. Its syntax is checked, but no number is computed and no escape is put
together, and it may nest to any depth. -/
def skip (cs : List Char) : Except Error (List Char) := skipFrom [] .value cs

end ForumDigest.Json
