import ForumDigest.Url.Basic

namespace ForumDigest.Url.Address

def isDigitIn (base : Nat) (c : Char) : Bool :=
  if base = 16 then c.isDigit || ('a' ≤ c && c ≤ 'f') || ('A' ≤ c && c ≤ 'F')
  else '0' ≤ c && c.toNat < 0x30 + base

def digitValue (c : Char) : Nat :=
  if c.isDigit then c.toNat - 0x30 else if c ≤ 'F' then c.toNat - 0x37 else c.toNat - 0x57

def valueIn (base : Nat) (cs : List Char) : Nat :=
  cs.foldl (fun n c => n * base + digitValue c) 0

/-- A part of an IPv4 address: decimal, octal behind `0`, hexadecimal behind `0x`. A mere prefix
counts as zero. -/
def part? (cs : List Char) : Option Nat :=
  let read (base : Nat) (ds : List Char) : Option Nat :=
    if ds.all (isDigitIn base) then some (valueIn base ds) else none
  match cs with
  | [] => none
  | '0' :: 'x' :: ds | '0' :: 'X' :: ds => read 16 ds
  | '0' :: d :: ds => read 8 (d :: ds)
  | ds => read 10 ds

def parts (cs : List Char) : List (List Char) :=
  let all := cs.splitOn '.'
  if 1 < all.length ∧ all.getLast? = some [] then all.dropLast else all

def endsInNumber (cs : List Char) : Bool :=
  match (parts cs).getLast? with
  | none => false
  | some last => (!last.isEmpty && last.all Char.isDigit) || (part? last).isSome

def ipv4? (cs : List Char) : Option Nat := do
  let ps := parts cs
  if 4 < ps.length then none
  let values ← ps.mapM part?
  let last ← values.getLast?
  let heads := values.dropLast
  if heads.any (255 < ·) || Nat.pow 256 (4 - heads.length) ≤ last then none
  some (((heads.zipIdx.map fun (n, i) => n * Nat.pow 256 (3 - i)).foldl (· + ·) 0) + last)

def ipv4Text (n : Nat) : String :=
  ".".intercalate
    [toString (n / 16777216), toString (n / 65536 % 256), toString (n / 256 % 256),
      toString (n % 256)]

def byte? (cs : List Char) : Option Nat :=
  if cs.isEmpty || !cs.all Char.isDigit || (1 < cs.length && cs.head? = some '0') then none
  else if valueIn 10 cs ≤ 255 then some (valueIn 10 cs) else none

/-- One group of an IPv6 address: up to four hexadecimal digits, or as the last group four dotted
decimals, which make two pieces. -/
def group? (isLast : Bool) (cs : List Char) : Option (List Nat) :=
  if !cs.isEmpty && cs.length ≤ 4 && cs.all (isDigitIn 16) then some [valueIn 16 cs]
  else if isLast then
    match (cs.splitOn '.').mapM byte? with
    | some [a, b, c, d] => some [a * 256 + b, c * 256 + d]
    | _ => none
  else none

def groups? (mayDot : Bool) : List (List Char) → Option (List Nat)
  | [] => some []
  | [g] => group? mayDot g
  | g :: gs => do return (← group? false g) ++ (← groups? mayDot gs)

def splitGap : List Char → List Char × Option (List Char)
  | ':' :: ':' :: cs => ([], some cs)
  | c :: cs => let (head, tail) := splitGap cs; (c :: head, tail)
  | [] => ([], none)

def colonGroups? (mayDot : Bool) (cs : List Char) : Option (List Nat) :=
  if cs.isEmpty then some [] else groups? mayDot (cs.splitOn ':')

def ipv6? (cs : List Char) : Option (List Nat) :=
  match splitGap cs with
  | (head, none) => do
    let ps ← colonGroups? true head
    if ps.length = 8 then some ps else none
  | (head, some tail) => do
    let before ← colonGroups? false head
    let after ← colonGroups? true tail
    let known := before.length + after.length
    if known ≤ 7 then some (before ++ List.replicate (8 - known) 0 ++ after) else none

def hexText (n : Nat) : String := String.ofList (Nat.toDigits 16 n)

def zerosAt (ps : List Nat) (i : Nat) : Nat := ((ps.drop i).takeWhile (· == 0)).length

/-- The first of the longest runs of at least two zeros: where it begins and its length. -/
def longestZeros (ps : List Nat) : Option (Nat × Nat) :=
  (List.range ps.length).foldl
    (fun best i =>
      let n := zerosAt ps i
      if 2 ≤ n && (best.map (·.2)).getD 0 < n then some (i, n) else best)
    none

def ipv6Text (ps : List Nat) : String :=
  let join (qs : List Nat) := ":".intercalate (qs.map hexText)
  match longestZeros ps with
  | none => join ps
  | some (i, n) => join (ps.take i) ++ "::" ++ join (ps.drop (i + n))

end ForumDigest.Url.Address
