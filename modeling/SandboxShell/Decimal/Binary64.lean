/-!
Floating-point numbers of 64 bits, as exact values: a mantissa below 2^53 times a power of two. A
decimal number becomes the nearest of them, and of two equally near ones that with even mantissa.
All arithmetic is exact, on rational numbers.
-/

namespace SandboxShell

/-- A floating-point number: a signed `mantissa · 2 ^ exponent`, an infinity, or no number. -/
inductive Binary64 where
  | finite (negative : Bool) (mantissa : Nat) (exponent : Int)
  | infinite (negative : Bool)
  | undefined
  deriving DecidableEq, Repr

namespace Binary64

/-- The largest `k` with `base ^ k ≤ r`, for a positive `r`. -/
def magnitude (base : Nat) (r : Rat) : Int :=
  let digits (n : Nat) : Int := (Nat.toDigits base n).length
  let k := digits r.num.natAbs - digits r.den
  if (base : Rat) ^ k ≤ r then k else k - 1

def roundEven (r : Rat) : Nat :=
  let low := r.floor.toNat
  let rest := r - (low : Rat)
  if rest < 1 / 2 then low
  else if 1 / 2 < rest then low + 1
  else low + low % 2

def leastExponent : Int := -1074

def greatestExponent : Int := 971

def mantissaLimit : Nat := 9007199254740992

def leastFullMantissa : Nat := 4503599627370496

def nearest (negative : Bool) (r : Rat) : Binary64 :=
  let exponent := max (magnitude 2 r - 52) leastExponent
  let mantissa := roundEven (r / 2 ^ exponent)
  let (mantissa, exponent) :=
    if mantissa = mantissaLimit then (leastFullMantissa, exponent + 1) else (mantissa, exponent)
  if exponent ≤ greatestExponent then .finite negative mantissa exponent else .infinite negative

/-- The nearest number to `± coefficient · 10 ^ exponent`. Beyond 310 digits before the point, or
330 zeros after it, the answer is settled without computing the power. -/
def ofDecimal (negative : Bool) (coefficient : Nat) (exponent : Int) : Binary64 :=
  let size := (Nat.toDigits 10 coefficient).length + exponent
  if coefficient = 0 ∨ size < -330 then .finite negative 0 leastExponent
  else if 310 < size then .infinite negative
  else nearest negative ((coefficient : Rat) * 10 ^ exponent)

end Binary64

end SandboxShell
