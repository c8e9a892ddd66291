/-!
# Whole numbers as decimal text

Whole numbers are unbounded, but a text of one is limited: beyond `maxDigits` digits it is neither written
nor read.
-/

namespace BotApi.Number

/-- The most digits that a whole number may have in a text. Proofs are not to compute with powers of it. -/
@[irreducible]
def maxDigits : Nat := 4300

/-- A whole number whose text would pass the limit. The number of digits is known when one is read. -/
inductive TooManyDigits
  | writing
  | reading (digits : Nat)
  deriving DecidableEq

/-- The wording of the refusal. -/
def TooManyDigits.message (e : TooManyDigits) : String :=
  let count := match e with
    | .writing => ""
    | .reading digits => ": value has " ++ toString digits ++ " digits"
  "Exceeds the limit (" ++ toString maxDigits ++ " digits) for integer string conversion" ++ count ++
    "; use sys.set_int_max_str_digits() to increase the limit"

/-- The decimal text of a whole number, unless it passes the limit. -/
def intText (n : Int) : Except TooManyDigits String :=
  if n.natAbs < Nat.pow 10 maxDigits then .ok (toString n) else .error .writing

/-- The number that a list of decimal digits writes. -/
def natOfDigits (digits : List Char) : Nat :=
  digits.foldl (fun n c => 10 * n + (c.toNat - '0'.toNat)) 0

end BotApi.Number
