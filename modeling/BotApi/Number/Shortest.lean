import BotApi.Number.Binary64

/-!
# Shortest decimals

The text of a floating point number shows the fewest digits that read back as the same datum, and of the
decimals with that many digits the nearest one. `Layout` holds the decisions of a notation.
-/

namespace BotApi.Number

/-- A positive decimal `digits * 10 ^ exponent`. -/
structure Decimal where
  digits : Nat
  exponent : Int
  deriving DecidableEq

/-- The reals that round to a positive datum, as fractions over one denominator. The ends belong to it
exactly if the mantissa is even. -/
structure Rounding where
  low : Nat
  value : Nat
  high : Nat
  denominator : Nat
  closed : Bool

namespace Rounding

/-- The rounding interval of `mantissa * 2 ^ exponent`. Below a power of two the neighbour is only half as
far away. -/
def ofBinary (mantissa : Nat) (exponent : Int) : Rounding :=
  -- in quarters of a unit of the mantissa both ends are whole numbers
  let near := mantissa = Nat.pow 2 52 && Binary64.leastExponent < exponent
  let up := if 2 ≤ exponent then Nat.pow 2 (exponent - 2).toNat else 1
  let down := if 2 ≤ exponent then 1 else Nat.pow 2 (2 - exponent).toNat
  { low := (4 * mantissa - (if near then 1 else 2)) * up
    value := 4 * mantissa * up
    high := (4 * mantissa + 2) * up
    denominator := down
    closed := mantissa % 2 = 0 }

/-- Whether `num / den` rounds to the datum. -/
def holds (r : Rounding) (num den : Nat) : Bool :=
  let x := num * r.denominator
  if r.closed then r.low * den ≤ x && x ≤ r.high * den else r.low * den < x && x < r.high * den

/-- The multiple of `10 ^ exponent` that rounds to the datum and lies nearest to it; a tie goes to the even
multiple. -/
def onGrid (r : Rounding) (exponent : Int) : Option Nat :=
  let num := if 0 ≤ exponent then r.value else r.value * Nat.pow 10 (-exponent).toNat
  let den := if 0 ≤ exponent then r.denominator * Nat.pow 10 exponent.toNat else r.denominator
  let scale (n : Nat) : Nat × Nat :=
    if 0 ≤ exponent then (n * Nat.pow 10 exponent.toNat, 1) else (n, Nat.pow 10 (-exponent).toNat)
  let below := num / den
  let inside (n : Nat) : Bool := 0 < n && r.holds (scale n).1 (scale n).2
  let nearest := Binary64.roundHalfEven num den
  let other := if nearest = below then below + 1 else below
  if inside nearest then some nearest else if inside other then some other else none

/-- The first grid, from coarse to fine, with a decimal that rounds to the datum. -/
def search (r : Rounding) (magnitude : Int) : List Nat → Option Decimal
  | [] => none
  | places :: more =>
    let exponent := magnitude - places
    match r.onGrid exponent with
    | some digits => some { digits, exponent }
    | none => search r magnitude more

end Rounding

/-- The digits without the zeros at their end, which move into the exponent. -/
def Decimal.trim : Nat → Decimal → Decimal
  | 0, d => d
  | fuel + 1, d =>
    if d.digits ≠ 0 && d.digits % 10 = 0 then trim fuel ⟨d.digits / 10, d.exponent + 1⟩ else d

/-- The shortest decimal that rounds to `mantissa * 2 ^ exponent`. -/
def shortest (mantissa : Nat) (exponent : Int) : Decimal :=
  -- 0.30103 is the decimal logarithm of two, so no decimal starts above this power of ten
  let magnitude := ((Nat.log2 mantissa : Int) + exponent) * 30103 / 100000 + 1
  match (Rounding.ofBinary mantissa exponent).search magnitude (List.range 20) with
  | some d => d.trim 20
  | none => ⟨mantissa, 0⟩

/-- The decisions of a notation for floating point numbers. -/
structure Layout where
  /-- Positional notation starts at this power of ten. -/
  leastPositional : Int
  /-- Exponent notation starts again at this power of ten. -/
  firstScientific : Int
  /-- The least number of digits of an exponent. -/
  exponentDigits : Nat
  nan : String
  infinity : String

/-- The digits of a number, padded with zeros on the left. -/
def padded (width : Nat) (n : Nat) : String :=
  let digits := toString n
  "".pushn '0' (width - digits.length) ++ digits

/-- The text of a decimal in the notation. -/
def Layout.decimal (layout : Layout) (d : Decimal) : String :=
  let digits := toString d.digits
  let magnitude := d.exponent + digits.length - 1
  if layout.leastPositional ≤ magnitude && magnitude < layout.firstScientific then
    if 0 ≤ d.exponent then digits ++ "".pushn '0' d.exponent.toNat ++ ".0"
    else if 0 ≤ magnitude then
      let whole := (magnitude + 1).toNat
      (digits.take whole).toString ++ "." ++ (digits.drop whole).toString
    else "0." ++ "".pushn '0' (-magnitude - 1).toNat ++ digits
  else
    let fraction := if digits.length = 1 then "" else "." ++ (digits.drop 1).toString
    let sign := if magnitude < 0 then "-" else "+"
    (digits.take 1).toString ++ fraction ++ "e" ++ sign ++ padded layout.exponentDigits magnitude.natAbs

/-- The text of a floating point number in the notation. -/
def Layout.text (layout : Layout) : Binary64 → String
  | .nan => layout.nan
  | .infinity negative => (if negative then "-" else "") ++ layout.infinity
  | .finite negative 0 _ => (if negative then "-" else "") ++ "0.0"
  | .finite negative m e => (if negative then "-" else "") ++ layout.decimal (shortest m e)

/-- Form fields and messages write a number positionally from `0.0001` up to sixteen places. -/
def plainLayout : Layout :=
  { leastPositional := -4, firstScientific := 16, exponentDigits := 2, nan := "nan", infinity := "inf" }

/-- JSON texts differ from messages in the names of the data that are no finite numbers. -/
def jsonLayout : Layout := { plainLayout with nan := "NaN", infinity := "Infinity" }

end BotApi.Number
