import ForumDigest.Calendar.Instant
import ForumDigest.Text.Blank

namespace ForumDigest.Rfc3339

open Text (trimStart isBlank)

def padded (width n : Nat) : List Char :=
  let ds := Nat.toDigits 10 n
  List.replicate (width - ds.length) '0' ++ ds

def yearText (y : Int) : List Char :=
  if 0 ≤ y ∧ y ≤ 9999 then padded 4 y.toNat
  else (if y < 0 then '-' else '+') :: padded 4 y.natAbs

def dateText (d : Date) : List Char :=
  yearText d.year ++ '-' :: padded 2 d.month ++ '-' :: padded 2 d.day

def fractionText (nanos : Nat) : List Char :=
  if nanos = 0 then []
  else if nanos % 1000000 = 0 then '.' :: padded 3 (nanos / 1000000)
  else if nanos % 1000 = 0 then '.' :: padded 6 (nanos / 1000)
  else '.' :: padded 9 nanos

def timeText (t : Instant) : List Char :=
  let s := t.secondOfDay
  let leap := if 1000000000 ≤ t.nanos then 1 else 0
  padded 2 (s / 3600) ++ ':' :: padded 2 (s / 60 % 60) ++ ':' :: padded 2 (s % 60 + leap) ++
    fractionText (t.nanos - leap * 1000000000)

def write (t : Instant) : List Char :=
  dateText t.date ++ 'T' :: timeText t ++ ['Z']

def text (t : Instant) : String := String.ofList (write t)

def spokenText (t : Instant) : String :=
  String.ofList (dateText t.date ++ ' ' :: timeText t) ++ " UTC"

def minuteText (t : Instant) : String :=
  String.ofList (dateText t.date ++ ' ' :: (timeText t).take 5) ++ " UTC"

inductive ReadError where
  | outOfRange
  | impossible
  | invalid
  | tooShort
  | tooLong
  deriving DecidableEq, Repr

def ReadError.message : ReadError → String
  | .outOfRange => "input is out of range"
  | .impossible => "no possible date and time matching input"
  | .invalid => "input contains invalid characters"
  | .tooShort => "premature end of input"
  | .tooLong => "trailing input"

def valueOf (ds : List Char) : Nat := ds.foldl (fun n d => n * 10 + (d.toNat - 0x30)) 0

def number (most : Nat) (cs : List Char) : Except ReadError (Nat × List Char) :=
  let ds := (cs.take most).takeWhile Char.isDigit
  match ds, cs with
  | _, [] => .error .tooShort
  | [], _ => .error .invalid
  | _, _ => .ok (valueOf ds, cs.drop ds.length)

def bounded (low high : Nat) (cs : List Char) : Except ReadError (Nat × List Char) := do
  let (n, rest) ← number 2 (trimStart cs)
  if low ≤ n ∧ n ≤ high then return (n, rest) else throw .outOfRange

def year (cs : List Char) : Except ReadError (Int × List Char) := do
  let (y, rest) ← match trimStart cs with
    | '-' :: ds => do
      let (n, rest) ← number ds.length ds
      pure (-(n : Int), rest)
    | '+' :: ds => do
      let (n, rest) ← number ds.length ds
      pure ((n : Int), rest)
    | ds => do
      let (n, rest) ← number 4 ds
      pure ((n : Int), rest)
  if y.natAbs < 0x80000000 then return (y, rest) else throw .outOfRange

def mark (c : Char) (cs : List Char) : Except ReadError (List Char) :=
  match trimStart cs with
  | [] => .error .tooShort
  | d :: rest => if c = d then .ok rest else .error .invalid

def fraction (cs : List Char) : Except ReadError (Nat × List Char) :=
  match cs with
  | '.' :: ds => do
    let (n, rest) ← number 9 ds
    let count := min 9 (ds.takeWhile Char.isDigit).length
    return (n * Nat.pow 10 (9 - count), rest.dropWhile Char.isDigit)
  | _ => .ok (0, cs)

def twoDigits (cs : List Char) : Except ReadError (Nat × List Char) :=
  match cs with
  | a :: b :: rest =>
    if a.isDigit && b.isDigit then .ok (valueOf [a, b], rest) else .error .invalid
  | [c] => if c.toNat < 128 then .error .tooShort else .error .invalid
  | [] => .error .tooShort

def offsetMinutes (cs : List Char) : Except ReadError (Nat × List Char) := do
  let (n, rest) ← twoDigits cs
  if n < 60 then return (n, rest) else throw .outOfRange

def offset (cs : List Char) : Except ReadError (Int × List Char) := do
  let signed (sign : Int) (rest : List Char) : Except ReadError (Int × List Char) := do
    let (hours, rest) ← twoDigits rest
    let (minutes, rest) ← offsetMinutes (rest.dropWhile fun c => c == ':' || isBlank c)
    return (sign * (hours * 3600 + minutes * 60 : Nat), rest)
  match cs with
  | 'Z' :: rest | 'z' :: rest => return (0, rest)
  | '+' :: rest => signed 1 rest
  | '-' :: rest | '\u2212' :: rest => signed (-1) rest
  | a :: b :: c :: rest =>
    if [a, b, c].map Char.toUpper = ['U', 'T', 'C'] then return (0, rest) else throw .invalid
  | _ :: _ => throw .invalid
  | [] => throw .tooShort

def separator (cs : List Char) : Except ReadError (List Char) :=
  match cs with
  | 'T' :: rest | 't' :: rest | ' ' :: rest => .ok rest
  | _ :: _ => .error .invalid
  | [] => .error .tooShort

def instant (d : Date) (hour minute second nanos : Nat) (offset : Int) :
    Except ReadError Instant :=
  if !d.isValid || 86400 ≤ offset.natAbs then .error .outOfRange
  else
    let leap := if second = 60 then 1 else 0
    let seconds := d.toDays * 86400 + (hour * 3600 + minute * 60 + (second - leap) : Nat) - offset
    if Instant.inRange seconds then .ok ⟨seconds, nanos + leap * 1000000000⟩
    else .error .impossible

/-- Reads an instant leniently: blanks may stand between the parts, and the offset may be any of at
most a day. -/
def read (s : String) : Except ReadError Instant := do
  let (year, cs) ← year s.toList
  let cs ← mark '-' cs
  let (month, cs) ← bounded 1 12 cs
  let cs ← mark '-' cs
  let (day, cs) ← bounded 1 31 cs
  let cs ← separator cs
  let (hour, cs) ← bounded 0 23 cs
  let cs ← mark ':' cs
  let (minute, cs) ← bounded 0 59 cs
  let cs ← mark ':' cs
  let (second, cs) ← bounded 0 60 cs
  let (nanos, cs) ← fraction cs
  let (offset, cs) ← offset (trimStart cs)
  if (trimStart cs).isEmpty then instant ⟨year, month, day⟩ hour minute second nanos offset
  else throw .tooLong

end ForumDigest.Rfc3339
