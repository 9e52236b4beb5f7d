/-!
# Binary64 values and their shortest decimal form

A value is held by its bits.  Its text has the fewest decimal digits that read back as the same
value, and of these the nearest.  Between `0.00001` and `10^16` the digits stand in place, with
`.0` after a whole number; outside they are followed by a signed exponent.
-/

namespace PageGuard.Json

/-- A binary64 value, held by its bits so that equality is decidable. -/
structure Double where
  bits : UInt64
deriving DecidableEq

namespace Double

/-- Whether the sign bit is set. -/
def isNegative (d : Double) : Bool := d.bits >>> 63 == 1

/-- The value without its sign as `m * 2 ^ (q - 1075)`. -/
def parts (d : Double) : Nat × Nat :=
  let e := ((d.bits >>> 52) &&& 0x7FF).toNat
  let f := (d.bits &&& 0xFFFFFFFFFFFFF).toNat
  if e = 0 then (f, 1) else (f + Nat.pow 2 52, e)

/-- The number of decimal digits of a positive number; one for zero. -/
def digitCount (n : Nat) : Nat := (Nat.toDigits 10 n).length

/-- The least `j` with `den ≤ num * 10 ^ j`, searched below `fuel`. -/
def leadingZeros (num den : Nat) : Nat → Nat → Nat
  | 0, j => j
  | fuel + 1, j => if den ≤ num * Nat.pow 10 j then j else leadingZeros num den fuel (j + 1)

/-- The decimal exponent of `num / den`: the `e` with `10 ^ e ≤ num / den < 10 ^ (e + 1)`. -/
def decimalExponent (num den : Nat) : Int :=
  if den ≤ num then (digitCount (num / den) : Int) - 1
  else -(leadingZeros num den 400 1 : Int)

/-- The interval of reals that round to a value, all over one denominator: the value, its two
ends, and whether the ends belong to it. -/
structure Interval where
  value : Nat
  low : Nat
  high : Nat
  den : Nat
  closed : Bool

/-- The interval of a value. -/
def interval (d : Double) : Interval :=
  let (m, q) := d.parts
  let up := Nat.pow 2 (q - 1077)
  let den := Nat.pow 2 (1077 - q)
  let below := if m = Nat.pow 2 52 ∧ q > 1 then 1 else 2
  { value := 4 * m * up, low := (4 * m - below) * up, high := (4 * m + 2) * up, den := den,
    closed := m % 2 = 0 }

/-- Whether `n` lies in the interval, for `n` over the same denominator. -/
def Interval.holds (i : Interval) (n : Nat) : Bool :=
  if i.closed then i.low ≤ n && n ≤ i.high else i.low < n && n < i.high

/-- The point of the grid of step `10 ^ e` that lies in the interval and is nearest to the value;
of two equally near ones the even. -/
def Interval.onGrid? (i : Interval) (e : Int) : Option Nat :=
  -- The grid point `c` is compared as `c * unit` with the interval times `scale`.
  let unit := Nat.pow 10 e.toNat * i.den
  let scale := Nat.pow 10 (-e).toNat
  let v := i.value * scale
  let j : Interval := { i with low := i.low * scale, high := i.high * scale }
  let c := v / unit
  let lower := j.holds (c * unit)
  let upper := j.holds ((c + 1) * unit)
  if lower && upper then
    let below := v - c * unit
    let above := (c + 1) * unit - v
    if below < above || (below == above && c % 2 == 0) then some c else some (c + 1)
  else if lower then some c
  else if upper then some (c + 1)
  else none

/-- The point on the coarsest grid that meets the interval, with the exponent of its grid. -/
def Interval.shortest (i : Interval) (top : Int) : Nat → Int → Nat × Int
  | 0, e => (i.value / i.den, e)
  | fuel + 1, e =>
    match i.onGrid? e with
    | some c => (c, e)
    | none => i.shortest top fuel (e - 1)

/-- The shortest digits of a value other than zero, and the place of its decimal point: the value
is `0.d₁d₂… * 10 ^ point`. -/
def digits (d : Double) : List Char × Int :=
  let i := d.interval
  let top := decimalExponent i.value i.den
  let (c, e) := i.shortest top 20 top
  let ds := Nat.toDigits 10 c
  let kept := (ds.reverse.dropWhile (· = '0')).reverse
  (kept, ds.length + e)

/-- The text of a value. -/
def render (d : Double) : List Char :=
  let sign := if d.isNegative then ['-'] else []
  if d.parts.1 = 0 then sign ++ "0.0".toList
  else
    let (ds, point) := d.digits
    let n : Int := ds.length
    let body :=
      if n ≤ point ∧ point ≤ 16 then
        ds ++ List.replicate (point - n).toNat '0' ++ ".0".toList
      else if 0 < point ∧ point ≤ 16 then
        ds.take point.toNat ++ '.' :: ds.drop point.toNat
      else if -5 < point ∧ point ≤ 0 then
        "0.".toList ++ List.replicate (-point).toNat '0' ++ ds
      else
        let mantissa := match ds with
          | [] => []
          | [x] => [x]
          | x :: rest => x :: '.' :: rest
        let e := point - 1
        mantissa ++ 'e' :: (if e < 0 then '-' else '+') :: Nat.toDigits 10 e.natAbs
    sign ++ body

end Double

end PageGuard.Json
