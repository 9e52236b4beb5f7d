/-!
# Decimals with fixed places

A quotient of natural numbers is written with a fixed number of places.  A half goes to the even
neighbour.
-/

namespace PageGuard.Text

/-- The quotient that is nearest to `n / d`; of two the even one. -/
def roundDiv (n d : Nat) : Nat :=
  if 2 * (n % d) < d then n / d
  else if d < 2 * (n % d) then n / d + 1
  else n / d + n / d % 2

/-- The decimal digits of a number, at least `width` of them. -/
def paddedDigits (width n : Nat) : List Char :=
  let digits := Nat.toDigits 10 n
  List.replicate (width - digits.length) '0' ++ digits

/-- The quotient `n / d` with `places` digits after the point. -/
def fixed (places n d : Nat) : String :=
  let unit := Nat.pow 10 places
  let scaled := roundDiv (n * unit) d
  .ofList (Nat.toDigits 10 (scaled / unit) ++ '.' ::
    paddedDigits places (scaled % unit))

end PageGuard.Text
