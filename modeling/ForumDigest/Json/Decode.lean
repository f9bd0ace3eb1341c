import ForumDigest.Json.Skip
import ForumDigest.Text.Quoted

namespace ForumDigest.Json

/-- A reader takes the text in front of a value and returns what it read with the rest. The first
problem that the text shows is the one reported. -/
def Reader (α : Type) : Type := List Char → Except Error (α × List Char)

namespace Reader

def map {α β : Type} (f : α → β) (r : Reader α) : Reader β := fun cs =>
  match r cs with
  | .ok (a, rest) => .ok (f a, rest)
  | .error e => .error e

def refine {α β : Type} (r : Reader α) (f : α → Except String β) : Reader β := fun cs =>
  match r cs with
  | .ok (a, rest) =>
    match f a with
    | .ok b => .ok (b, rest)
    | .error m => .error (.mismatch m)
  | .error e => .error e

end Reader

/-- Why a value of another kind stands where `expected` is asked for; a value that is not JSON is
reported as that. -/
def mismatch (expected : String) (cs : List Char) : Error :=
  let named (found : String) (rest : Except Error (List Char)) : Error :=
    match rest with
    | .ok _ => .invalidType found expected
    | .error e => e
  match cs with
  | [] => .ended
  | 'n' :: rest => named "null" (literal "ull".toList rest)
  | 't' :: rest => named "boolean \x60true\x60" (literal "rue".toList rest)
  | 'f' :: rest => named "boolean \x60false\x60" (literal "alse".toList rest)
  | '[' :: _ => .invalidType "sequence" expected
  | '\x7b' :: _ => .invalidType "map" expected
  | '"' :: rest =>
    match string rest with
    | .ok (text, _) => .invalidType ("string " ++ Text.quoted (String.ofList text)) expected
    | .error e => e
  | c :: rest =>
    if startsNumber c then
      match number (c :: rest) with
      | .ok (n, _) => .invalidType n.describe expected
      | .error e => e
    else .malformed

def readText (expected : String) : Reader (List Char) := fun cs =>
  match skipSpace cs with
  | '"' :: rest => string rest
  | other => .error (mismatch expected other)

def readString : Reader String := (readText "a string").map String.ofList

def readBool : Reader Bool := fun cs =>
  match skipSpace cs with
  | 't' :: rest => (literal "rue".toList rest).map (true, ·)
  | 'f' :: rest => (literal "alse".toList rest).map (false, ·)
  | other => .error (mismatch "a boolean" other)

def readNumber (expected : String) : Reader Number := fun cs =>
  match skipSpace cs with
  | c :: rest =>
    if startsNumber c then number (c :: rest) else .error (mismatch expected (c :: rest))
  | [] => .error .ended

def readInt (low high : Int) (kind : String) : Reader Int := fun cs =>
  match readNumber kind cs with
  | .error e => .error e
  | .ok (.real x, _) => .error (.invalidType (Number.real x).describe kind)
  | .ok (n, rest) =>
    let value : Int := match n with
      | .natural m => m
      | .negative m => -m
      | .real _ => 0
    if low ≤ value ∧ value ≤ high then .ok (value, rest)
    else .error (.invalidValue n.describe kind)

def readInt32 : Reader Int32 := (readInt (-2147483648) 2147483647 "i32").map Int32.ofInt

def readInt64 : Reader Int64 :=
  (readInt (-9223372036854775808) 9223372036854775807 "i64").map Int64.ofInt

def readUInt32 : Reader UInt32 := (readInt 0 4294967295 "u32").map fun n => UInt32.ofNat n.toNat

def readSize : Reader UInt64 :=
  (readInt 0 18446744073709551615 "usize").map fun n => UInt64.ofNat n.toNat

def readReal : Reader Binary64 :=
  (readNumber "f64").map fun
    | .natural n => .ofFloat (UInt64.ofNat n).toFloat
    | .negative n => .ofFloat (-(UInt64.ofNat n).toFloat)
    | .real x => x

def readOption {α : Type} (r : Reader α) : Reader (Option α) := fun cs =>
  match skipSpace cs with
  | 'n' :: rest => (literal "ull".toList rest).map (none, ·)
  | other => r.map some other

/-- The text behind the separator before the next element, or `none` at the bracket that closes the
array. -/
def nextElement (isFirst : Bool) (cs : List Char) : Except Error (Option (List Char)) :=
  match skipSpace cs, isFirst with
  | [], _ => .error .ended
  | ']' :: _, _ => .ok none
  | ',' :: rest, false =>
    match skipSpace rest with
    | [] => .error .ended
    | ']' :: _ => .error .malformed
    | other => .ok (some other)
  | other, true => .ok (some other)
  | _, false => .error .malformed

def closeArray (cs : List Char) : Except Error (List Char) :=
  match skipSpace cs with
  | [] => .error .ended
  | ']' :: rest => .ok rest
  | _ => .error .malformed

def elements {α : Type} (r : Reader α) : (fuel : Nat) → (isFirst : Bool) → Reader (List α)
  | 0, _, _ => .error .ended
  | fuel + 1, isFirst, cs =>
    match nextElement isFirst cs with
    | .error e => .error e
    | .ok none => (closeArray cs).map ([], ·)
    | .ok (some cs) =>
      match r cs with
      | .error e => .error e
      | .ok (a, rest) => (elements r fuel false).map (a :: ·) rest

def readList {α : Type} (r : Reader α) : Reader (List α) := fun cs =>
  match skipSpace cs with
  | '[' :: rest => elements r (rest.length + 1) true rest
  | other => .error (mismatch "a sequence" other)

inductive Need where
  | nowhere
  | inArrays
  | everywhere
  deriving DecidableEq, Repr

/-- One field of a record `σ`: how it is read into a record. -/
structure RecordField (σ : Type) where
  name : String
  need : Need
  read : σ → Reader σ

def RecordField.of {σ α : Type} (name : String) (need : Need) (r : Reader α) (store : σ → α → σ) :
    RecordField σ :=
  ⟨name, need, fun s => r.map (store s)⟩

/-- The text of the next member from its name on, or `none` at the brace that closes the object. -/
def nextMember (isFirst : Bool) (cs : List Char) : Except Error (Option (List Char)) :=
  let name (rest : List Char) : Except Error (Option (List Char)) :=
    match rest with
    | [] => .error .ended
    | '"' :: rest => .ok (some rest)
    | _ => .error .malformed
  match skipSpace cs, isFirst with
  | [], _ => .error .ended
  | '\x7d' :: _, _ => .ok none
  | ',' :: rest, false => name (skipSpace rest)
  | other, true => name other
  | _, false => .error .malformed

def colon (cs : List Char) : Except Error (List Char) :=
  match skipSpace cs with
  | [] => .error .ended
  | ':' :: rest => .ok rest
  | _ => .error .malformed

def duplicateField (name : String) : Error := .mismatch ("duplicate field \x60" ++ name ++ "\x60")

def missingField (name : String) : Error := .mismatch ("missing field \x60" ++ name ++ "\x60")

/-- The members up to the closing brace, which is left. `seen` holds the names of the fields that
were met; the text bounds the number of members. -/
def members {σ : Type} (fields : List (RecordField σ)) :
    (fuel : Nat) → (isFirst : Bool) → (seen : List String) → σ → Reader (σ × List String)
  | 0, _, _, _, _ => .error .ended
  | fuel + 1, isFirst, seen, s, cs =>
    match nextMember isFirst cs with
    | .error e => .error e
    | .ok none => .ok ((s, seen), cs)
    | .ok (some cs) =>
      match string cs with
      | .error e => .error e
      | .ok (key, rest) =>
        match fields.find? (·.name = String.ofList key) with
        | none =>
          match (colon rest).bind skip with
          | .error e => .error e
          | .ok rest => members fields fuel false seen s rest
        | some f =>
          if seen.contains f.name then .error (duplicateField f.name)
          else
            match (colon rest).bind (f.read s) with
            | .error e => .error e
            | .ok (s', rest) => members fields fuel false (f.name :: seen) s' rest

def missing? {σ : Type} (fields : List (RecordField σ)) (seen : List String) : Option String :=
  (fields.find? fun f => f.need = .everywhere && !seen.contains f.name).map RecordField.name

def readMembers {σ : Type} (fields : List (RecordField σ)) (start : σ) : Reader σ := fun cs =>
  match members fields (cs.length + 1) true [] start cs with
  | .error e => .error e
  | .ok ((s, seen), rest) =>
    match missing? fields seen with
    | some name => .error (missingField name)
    | none =>
      match skipSpace rest with
      | '\x7d' :: rest => .ok (s, rest)
      | _ => .error .malformed

def invalidLength (found : Nat) (title : String) (count : Nat) : Error :=
  .mismatch ("invalid length " ++ toString found ++ ", expected struct " ++ title ++ " with " ++
    toString count ++ (if count = 1 then " element" else " elements"))

def positions {σ : Type} (title : String) (count : Nat) :
    (fields : List (RecordField σ)) → (index : Nat) → σ → Reader σ
  | [], _, s, cs => .ok (s, cs)
  | f :: fields, index, s, cs =>
    match nextElement (index = 0) cs with
    | .error e => .error e
    | .ok none =>
      match (f :: fields).findIdx? (·.need ≠ .nowhere) with
      | some i => .error (invalidLength (index + i) title count)
      | none => .ok (s, cs)
    | .ok (some cs) =>
      match f.read s cs with
      | .error e => .error e
      | .ok (s', rest) => positions title count fields (index + 1) s' rest

/-- Reads a record, written as an object whose unknown members are passed over, or as an array of
its fields in order. A field that the text leaves out keeps its value of `start`; `title` is what a
message calls the record. -/
def readRecord {σ : Type} (title : String) (fields : List (RecordField σ)) (start : σ) : Reader σ :=
  fun cs =>
    match skipSpace cs with
    | '[' :: rest =>
      match positions title fields.length fields 0 start rest with
      | .error e => .error e
      | .ok (s, rest) => (closeArray rest).map (s, ·)
    | '\x7b' :: rest => readMembers fields start rest
    | other => .error (mismatch ("struct " ++ title) other)

def oneOf (names : List String) : String :=
  let ticked := names.map fun n => "\x60" ++ n ++ "\x60"
  match ticked with
  | [one] => one
  | [one, two] => one ++ " or " ++ two
  | many => "one of " ++ ", ".intercalate many

def unknownVariant (found : String) (names : List String) : String :=
  "unknown variant \x60" ++ found ++ "\x60, expected " ++ oneOf names

def constant {α : Type} (options : List (String × α)) (text : List Char) : Except String α :=
  match options.lookup (String.ofList text) with
  | some a => .ok a
  | none => .error (unknownVariant (String.ofList text) (options.map (·.1)))

/-- A constant by its name, or as an object whose one member has that name and holds `null`. -/
def readConstant {α : Type} (options : List (String × α)) : Reader α := fun cs =>
  let name := (readText "variant identifier").refine (constant options)
  match skipSpace cs with
  | [] => .error .ended
  | '"' :: rest => name ('"' :: rest)
  | '\x7b' :: rest =>
    match name rest with
    | .error e => .error e
    | .ok (a, rest) =>
      match (colon rest).bind readUnit with
      | .error e => .error e
      | .ok rest =>
        match skipSpace rest with
        | '\x7d' :: rest => .ok (a, rest)
        | [] => .error .ended
        | _ => .error .malformed
  | _ => .error .malformed
where
  readUnit (cs : List Char) : Except Error (List Char) :=
    match skipSpace cs with
    | 'n' :: rest => literal "ull".toList rest
    | other => .error (mismatch "unit" other)

def decode {α : Type} (r : Reader α) (text : String) : Except Error α :=
  match r text.toList with
  | .error e => .error e
  | .ok (a, rest) => if (skipSpace rest).isEmpty then .ok a else .error .malformed

end ForumDigest.Json
