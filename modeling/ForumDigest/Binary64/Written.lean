import ForumDigest.Binary64.Shortest

namespace ForumDigest.Binary64

/-- The values of `point` between which a number is written without an exponent. -/
structure Style where
  least : Int
  greatest : Int

def jsonStyle : Style := ⟨-4, 16⟩

def positionalStyle : Style := ⟨-400, 400⟩

def positional (d : Decimal) : List Char :=
  if d.point ≤ 0 then
    '0' :: '.' :: (List.replicate (-d.point).toNat '0' ++ d.digits)
  else
    let n := d.point.toNat
    let whole := d.digits.take n ++ List.replicate (n - d.digits.length) '0'
    let rest := d.digits.drop n
    whole ++ '.' :: (if rest.isEmpty then ['0'] else rest)

def scientific (d : Decimal) : List Char :=
  let mantissa := match d.digits with
    | first :: second :: rest => first :: '.' :: second :: rest
    | short => short
  let e := d.point - 1
  mantissa ++ 'e' :: (if e < 0 then '-' else '+') :: Nat.toDigits 10 e.natAbs

def finiteText (style : Style) (x : Binary64) : List Char :=
  let sign := if x.isNegative then ['-'] else []
  if x.magnitude = 0 then sign ++ ['0', '.', '0']
  else
    let d := x.shortest
    sign ++ if style.least ≤ d.point ∧ d.point ≤ style.greatest then positional d else scientific d

def describe (style : Style) (x : Binary64) : String :=
  if x.isFinite then String.ofList (finiteText style x)
  else if x.isNaN then "NaN"
  else if x.isNegative then "-inf" else "inf"

end ForumDigest.Binary64
