import SandboxShell.Decimal.Binary64
import SandboxShell.Text.Basic

/-!
The shortest decimal numbers. Every floating-point number owns an interval of the reals, those
that are nearest to it. Among the decimal numbers in this interval the one with the fewest digits
is shown, and of several such the nearest, or the even one of two equally near. It stands with a
point as long as it has at most 16 digits before the point and at most three zeros after it, and
with an exponent otherwise.
-/

namespace SandboxShell

namespace Binary64

/-- Whether the nearest number to `x` is `mantissa · 2 ^ exponent`, a positive number. The gap below
a power of two is half as wide as the gap above. -/
def owns (mantissa : Nat) (exponent : Int) (x : Rat) : Bool :=
  let unit : Rat := 2 ^ exponent
  let value := mantissa * unit
  let below :=
    if mantissa = leastFullMantissa ∧ leastExponent < exponent then unit / 4 else unit / 2
  let low := value - below
  let high := value + unit / 2
  if mantissa % 2 = 0 then low ≤ x && x ≤ high else low < x && x < high

/-- The decimal number with a given count of digits that is nearest to `mantissa · 2 ^ exponent`,
the even one of two, if it reads back; else the one above, if that does, as it can at a power of
two: `(c, e)` stands for `c · 10 ^ e`. -/
def decimalOf? (mantissa : Nat) (exponent : Int) (count : Nat) : Option (Nat × Int) :=
  let value : Rat := mantissa * 2 ^ exponent
  let grid : Int := magnitude 10 value + 1 - count
  let unit : Rat := 10 ^ grid
  let near := roundEven (value / unit)
  let above := (value / unit).floor.toNat + 1
  if owns mantissa exponent (near * unit) then some (near, grid)
  else if owns mantissa exponent (above * unit) then some (above, grid)
  else none

/-- The decimal number with the fewest digits; 17 always suffice. -/
def shortest (mantissa : Nat) (exponent : Int) : Nat × Int :=
  if mantissa = 0 then (0, 0)
  else ((List.range 17).findSome? fun n => decimalOf? mantissa exponent (n + 1)).getD (0, 0)

/-- The digits of a decimal number, without zeros at the end, and the place of the point: the number
is `0.d₁d₂… · 10 ^ place`. -/
def digitsOf : Nat × Int → List Char × Int
  | (coefficient, exponent) =>
    let digits := Nat.toDigits 10 coefficient
    let kept := (digits.reverse.dropWhile (· == '0')).reverse
    if kept = [] then (['0'], 1) else (kept, digits.length + exponent)

def exponentText (e : Int) : List Char :=
  let digits := Nat.toDigits 10 e.natAbs
  (if e < 0 then '-' else '+') :: (List.replicate (2 - digits.length) '0' ++ digits)

/-- Digits with a point at `place`, or with an exponent where the point would be too far away. -/
def layOut (digits : List Char) (place : Int) : List Char :=
  if place ≤ -4 ∨ 16 < place then
    let fraction := digits.drop 1
    digits.take 1 ++ (if fraction = [] then [] else '.' :: fraction) ++
      'e' :: exponentText (place - 1)
  else if place ≤ 0 then
    ['0', '.'] ++ List.replicate place.natAbs '0' ++ digits
  else if digits.length ≤ place.natAbs then
    digits ++ List.replicate (place.natAbs - digits.length) '0' ++ ['.', '0']
  else digits.take place.natAbs ++ '.' :: digits.drop place.natAbs

def text : Binary64 → Text
  | .finite negative mantissa exponent =>
    let (digits, place) := digitsOf (shortest mantissa exponent)
    ((if negative then ['-'] else []) ++ layOut digits place).map .char
  | .infinite negative => if negative then "-inf" else "inf"
  | .undefined => "nan"

end Binary64

end SandboxShell
