import ForumDigest.Calendar.Date

namespace ForumDigest

/-- An instant of universal time, within the years that can be told. -/
structure Instant where
  seconds : Int
  /-- At least a thousand million within a leap second, which follows the second it is counted
  with. -/
  nanos : Nat
  deriving DecidableEq, Repr

namespace Instant

def epoch : Instant := ⟨0, 0⟩

instance : Inhabited Instant := ⟨epoch⟩

def leastSecond : Int := Date.leastDay * 86400

def greatestSecond : Int := Date.greatestDay * 86400 + 86399

def inRange (seconds : Int) : Bool := leastSecond ≤ seconds && seconds ≤ greatestSecond

def ofSeconds? (seconds : Int) : Option Instant :=
  if inRange seconds then some ⟨seconds, 0⟩ else none

def ofMillis (ms : Int) : Instant := ⟨ms / 1000, (ms % 1000).toNat * 1000000⟩

def addMillis (t : Instant) (ms : Int) : Instant :=
  let total := t.seconds * 1000 + (t.nanos / 1000000 : Nat) + ms
  ⟨total / 1000, (total % 1000).toNat * 1000000 + t.nanos % 1000000⟩

/-- A later instant, if the time between can be counted in milliseconds of 64 bits and the sum can
be told. -/
def addSeconds? (t : Instant) (n : Int) : Option Instant :=
  if n.natAbs ≤ 9223372036854775 ∧ inRange (t.seconds + n) then some ⟨t.seconds + n, t.nanos⟩
  else none

def reached (t u : Instant) : Bool :=
  u.seconds < t.seconds || (t.seconds = u.seconds && u.nanos ≤ t.nanos)

def date (t : Instant) : Date := Date.ofDays (t.seconds / 86400)

def secondOfDay (t : Instant) : Nat := (t.seconds % 86400).toNat

end Instant

end ForumDigest
