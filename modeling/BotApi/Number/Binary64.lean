/-!
# Binary floating point numbers of 64 bits

A datum is not a number, an infinity, or a signed multiple of a power of two with at most 53 significant
bits. Nothing here computes with them: they are read from a decimal, compared, and written back
(`BotApi.Number.Shortest`).
-/

namespace BotApi.Number

/-- A datum of the 64 bit binary format. A finite one is kept in its canonical form: the mantissa has 53
bits, or the exponent is the least one. -/
inductive Binary64
  | nan
  | infinity (negative : Bool)
  | finite (negative : Bool) (mantissa : Nat) (exponent : Int)
  deriving DecidableEq

namespace Binary64

/-- The least exponent of the format. -/
def leastExponent : Int := -1074

/-- The greatest exponent of a finite datum. -/
def greatestExponent : Int := 971

/-- `num / den` to the nearest whole number, a half to the even one. -/
def roundHalfEven (num den : Nat) : Nat :=
  let whole := num / den
  let twice := 2 * (num % den)
  if twice < den then whole
  else if den < twice then whole + 1
  else whole + whole % 2

/-- `num / (den * 2 ^ exponent)` as a fraction of whole numbers. -/
def scaled (num den : Nat) (exponent : Int) : Nat × Nat :=
  if 0 ≤ exponent then (num, den * Nat.pow 2 exponent.toNat) else (num * Nat.pow 2 (-exponent).toNat, den)

/-- The datum nearest to the positive fraction `num / den`, a half to the even mantissa. -/
def ofRatio (negative : Bool) (num den : Nat) : Binary64 :=
  let guess := max ((Nat.log2 num : Int) - Nat.log2 den - 53) leastExponent
  let (n, d) := scaled num den guess
  let exponent := if n / d < Nat.pow 2 53 then guess else guess + 1
  let (n, d) := scaled num den exponent
  let mantissa := roundHalfEven n d
  let (mantissa, exponent) :=
    if mantissa = Nat.pow 2 53 then (Nat.pow 2 52, exponent + 1) else (mantissa, exponent)
  if greatestExponent < exponent then .infinity negative else .finite negative mantissa exponent

/-- Zero, with its sign. -/
def zero (negative : Bool) : Binary64 := .finite negative 0 leastExponent

/-- The datum nearest to `digits * 10 ^ exponent`. Beyond the format's range the answer is known from the
count of digits, and no power of ten is computed. -/
def ofDecimal (negative : Bool) (digits : Nat) (exponent : Int) : Binary64 :=
  let magnitude := (Nat.log2 digits : Int) * 30103 / 100000 + exponent
  if digits = 0 || magnitude < -400 then zero negative
  else if 400 < magnitude then .infinity negative
  else if 0 ≤ exponent then ofRatio negative (digits * Nat.pow 10 exponent.toNat) 1
  else ofRatio negative digits (Nat.pow 10 (-exponent).toNat)

/-- The mantissa with its sign. -/
def signed (negative : Bool) (mantissa : Nat) : Int :=
  if negative then -(mantissa : Int) else mantissa

/-- Numeric equality: what is not a number differs from everything, and the zeros are equal. -/
def equal : Binary64 → Binary64 → Bool
  | .infinity a, .infinity b => a = b
  | .finite a m e, .finite b n f => (m = 0 && n = 0) || (a = b && m = n && e = f)
  | _, _ => false

/-- Whether the datum is exactly the whole number. -/
def equalInt : Binary64 → Int → Bool
  | .finite negative m e, n =>
    let m := signed negative m
    if 0 ≤ e then m * Nat.pow 2 e.toNat = n else m = n * Nat.pow 2 (-e).toNat
  | _, _ => false

/-- The whole number that the datum is, if it is one. -/
def toInt? : Binary64 → Option Int
  | .finite negative m e =>
    let m := signed negative m
    if 0 ≤ e then some (m * Nat.pow 2 e.toNat)
    else if m % Nat.pow 2 (-e).toNat = 0 then some (m / Nat.pow 2 (-e).toNat)
    else none
  | _ => none

/-- Where a whole number stands in the order of numbers: among the finite ones, and how many times the least
positive datum it is. -/
def positionOfInt (n : Int) : Int × Int := (0, n * Nat.pow 2 (-leastExponent).toNat)

/-- Where the datum stands in the order of numbers. An infinity stands before or after all finite ones. -/
def position : Binary64 → Int × Int
  | .nan => (0, 0)
  | .infinity negative => (if negative then -1 else 1, 0)
  | .finite negative m e => (0, signed negative m * Nat.pow 2 (e - leastExponent).toNat)

/-- Whether the datum is neither zero. What is not a number is no zero. -/
def isNonzero : Binary64 → Bool
  | .finite _ m _ => m ≠ 0
  | _ => true

end Binary64

end BotApi.Number
