import SafetyConfig.Number.Rounding

/-!
# Double precision numbers

A decimal text denotes the nearest double, a tie going to the even significand, and
a double is shown by the fewest digits that denote it again.
-/

namespace SafetyConfig

/-- A finite number is `significand * 2 ^ exponent`, with the significand below
`2 ^ 53` and the exponent at least `-1074`. -/
inductive Binary64 where
  | nan
  | infinite (negative : Bool)
  | finite (negative : Bool) (significand : Nat) (exponent : Int)
  deriving DecidableEq, Repr

namespace Binary64

/-- The significands of full precision start here, and end below `2 ^ 53`. -/
def leastFull : Nat := 4503599627370496

/-- The exponent of the smallest steps. -/
def leastExponent : Int := -1074

/-- Numerator and denominator of `base ^ e`. -/
def powFraction (base : Nat) (e : Int) : Nat × Nat :=
  if 0 ≤ e then (Nat.pow base e.toNat, 1) else (1, Nat.pow base (-e).toNat)

/-- The double nearest to `num / den`, both positive. -/
def nearest (negative : Bool) (num den : Nat) : Binary64 :=
  let scale : Int := (num.log2 : Int) - (den.log2 : Int) - 52
  let wide := powFraction 2 (scale + 52)
  let scale := if num * wide.2 < den * wide.1 then scale - 1 else scale
  let scale := if scale < leastExponent then leastExponent else scale
  let step := powFraction 2 scale
  let m := Rounding.halfEven (num * step.2) (den * step.1)
  let (m, scale) := if m = 2 * leastFull then (leastFull, scale + 1) else (m, scale)
  if 971 < scale then .infinite negative else .finite negative m scale

/-- The double nearest to `m * 10 ^ e`. Magnitudes far outside the range of doubles
are decided by the number of digits alone. -/
def ofDecimal (negative : Bool) (m : Nat) (e : Int) : Binary64 :=
  let digits : Int := (Digits.ofNat 10 m).length
  if m = 0 then .finite negative 0 leastExponent
  else if 400 < digits + e then .infinite negative
  else if digits + e < -400 then .finite negative 0 leastExponent
  else
    let power := powFraction 10 e
    nearest negative (m * power.1) power.2

/-- The number `count * 10 ^ place`. -/
structure Decimal where
  count : Nat
  place : Int
  deriving DecidableEq, Repr

/-- The reals that round to `m * 2 ^ q`, in quarters of the last binary place: from
`low` to `high`, ends included iff `closed`. -/
structure Interval where
  low : Nat
  high : Nat
  closed : Bool
  place : Int
  deriving DecidableEq, Repr

def interval (m : Nat) (q : Int) : Interval where
  low := if m = leastFull ∧ leastExponent < q then 4 * m - 1 else 4 * m - 2
  high := 4 * m + 2
  closed := m % 2 == 0
  place := q - 2

def Interval.contains (i : Interval) (d : Decimal) : Bool :=
  let quarter := powFraction 2 i.place
  let unit := powFraction 10 d.place
  let x := d.count * unit.1 * quarter.2
  let low := i.low * quarter.1 * unit.2
  let high := i.high * quarter.1 * unit.2
  if i.closed then low ≤ x && x ≤ high else low < x && x < high

/-- The least `e` with `m * 2 ^ q < 10 ^ e`, for positive `m`. -/
def magnitude (m : Nat) (q : Int) : Int :=
  let two := powFraction 2 q
  let num := m * two.1
  let guess : Int := (Digits.ofNat 10 num).length - (Digits.ofNat 10 two.2).length
  let ten := powFraction 10 guess
  if num * ten.2 < two.2 * ten.1 then guess else guess + 1

/-- The two neighbours of `m * 2 ^ q` on the grid of numbers with the given number of
digits; of those that round to it the nearer one, of two equally near the even one. -/
def onGrid (m : Nat) (q : Int) (digits : Nat) : Option Decimal :=
  let place := magnitude m q - digits
  let two := powFraction 2 q
  let ten := powFraction 10 place
  let num := m * two.1 * ten.2
  let den := two.2 * ten.1
  let below : Decimal := ⟨num / den, place⟩
  let above : Decimal := ⟨num / den + 1, place⟩
  let i := interval m q
  match i.contains below, i.contains above with
  | true, true => some ⟨Rounding.halfEven num den, place⟩
  | true, false => some below
  | false, true => some above
  | false, false => none

/-- The shortest decimal that rounds to `m * 2 ^ q`; seventeen digits are always enough. -/
def shortest (m : Nat) (q : Int) : Decimal :=
  ((List.range 17).findSome? fun n => onGrid m q (n + 1)).getD ⟨m, 0⟩

/-- Drop trailing zero digits. -/
def stripZeros (ds : List Nat) : List Nat :=
  (ds.reverse.dropWhile (· == 0)).reverse

/-- An exponent is signed and has at least two digits. -/
def showExponent (e : Int) : List Char :=
  let ds := Digits.decimal e.natAbs
  (if e < 0 then '-' else '+') :: (if ds.length < 2 then '0' :: ds else ds)

/-- Digits `0.ds * 10 ^ point`. The point is written in place for numbers from
`10 ^ -4` to below `10 ^ 16`, and moved behind the first digit otherwise. -/
def showDigits (ds : List Nat) (point : Int) : List Char :=
  let cs := ds.map Digits.char
  if -4 < point ∧ point ≤ 16 then
    if point ≤ 0 then ['0', '.'] ++ List.replicate (-point).toNat '0' ++ cs
    else
      let whole := cs.take point.toNat ++ List.replicate (point.toNat - cs.length) '0'
      let part := cs.drop point.toNat
      whole ++ '.' :: (if part.isEmpty then ['0'] else part)
  else
    cs.take 1 ++ (if cs.length ≤ 1 then [] else '.' :: cs.drop 1) ++ 'e' :: showExponent (point - 1)

def display : Binary64 → List Char
  | .nan => ['n', 'a', 'n']
  | .infinite negative => (if negative then ['-'] else []) ++ ['i', 'n', 'f']
  | .finite negative m q =>
    (if negative then ['-'] else []) ++
      if m = 0 then ['0', '.', '0']
      else
        let d := shortest m q
        let all := Digits.ofNat 10 d.count
        showDigits (stripZeros all) (all.length + d.place)

end Binary64

end SafetyConfig
