import ForumDigest.Binary64.Basic

namespace ForumDigest.Binary64

/-- A positive decimal `0.d₁d₂… · 10 ^ point`, its first digit not zero. -/
structure Decimal where
  digits : List Char
  point : Int
  deriving DecidableEq, Repr

def leadingBit : Nat := 0x10000000000000

def scaled (x : Binary64) : Nat × Int :=
  let fraction := x.magnitude % leadingBit
  let exponent : Nat := x.magnitude / leadingBit
  if exponent = 0 then (fraction, -1074) else (fraction + leadingBit, (exponent : Int) - 1075)

/-- A double stands for the real numbers that are nearer to it than to its neighbours, with the ends
if its significand is even. They are counted in units of `1 / unit`. -/
structure Interval where
  low : Nat
  value : Nat
  high : Nat
  unit : Nat
  closed : Bool

def interval (x : Binary64) : Interval :=
  let (m, q) := x.scaled
  let up := Nat.pow 2 (q - 2).toNat
  let narrow := m = leadingBit ∧ 2 * leadingBit ≤ x.magnitude
  { low := (4 * m - if narrow then 1 else 2) * up
    value := 4 * m * up
    high := (4 * m + 2) * up
    unit := Nat.pow 2 (2 - q).toNat
    closed := m % 2 = 0 }

def digitCount (n : Nat) : Nat := (Nat.toDigits 10 n).length

def belowPower (value unit : Nat) (p : Int) : Bool :=
  decide (value * Nat.pow 10 (-p).toNat < unit * Nat.pow 10 p.toNat)

def decimalPoint (i : Interval) : Int :=
  let p := (digitCount i.value : Int) - digitCount i.unit
  if belowPower i.value i.unit p then p else p + 1

/-- The decimal of `count` digits that is nearest to the value, if one is in the interval. -/
def candidate? (i : Interval) (point : Int) (count : Nat) : Option Nat :=
  let shift := point - count
  let step := i.unit * Nat.pow 10 shift.toNat
  let scale := Nat.pow 10 (-shift).toNat
  let inside (n : Nat) : Bool :=
    let at' := n * step
    if i.closed then decide (i.low * scale ≤ at' ∧ at' ≤ i.high * scale)
    else decide (i.low * scale < at' ∧ at' < i.high * scale)
  let below := i.value * scale / step
  let excess := i.value * scale - below * step
  let nearUp := step < 2 * excess || (step = 2 * excess && below % 2 = 1)
  let (near, far) := if nearUp then (below + 1, below) else (below, below + 1)
  if inside near then some near else if inside far then some far else none

/-- The shortest decimal of a finite double that is not zero, without its sign: of the decimals in
the interval with the fewest digits, the nearest. -/
def shortest (x : Binary64) : Decimal :=
  let i := x.interval
  let point := decimalPoint i
  let found := (List.range 17).findSome? fun k =>
    (candidate? i point (k + 1)).map fun n => (n, k + 1)
  let (n, count) := found.getD (0, 1)
  let digits := Nat.toDigits 10 n
  { digits := ((digits.reverse.dropWhile (· == '0')).reverse)
    point := point + ((digits.length : Int) - count) }

end ForumDigest.Binary64
