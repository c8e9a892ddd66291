import BotApi.Number.Binary64
import BotApi.Number.Integer
import BotApi.Text.Quoted
import BotApi.Unicode.Blank
import BotApi.Unicode.Decimal

/-!
# Numbers from text

A number may stand between spaces and have a sign, and a single low line may stand between two of its digits,
which may be those of any script. A whole number has at most `maxDigits` digits. Any other one has a point, an
exponent, or both, or it is the word for an infinity or for what is not a number, in whatever case.
-/

namespace BotApi.Number

/-- Why a text is no number. -/
inductive ReadFault
  | notWhole (text : String)
  | notDecimal (text : String)
  | tooManyDigits (e : TooManyDigits)
  deriving DecidableEq

/-- The wording of a fault. A text that is no whole number is shown in part if it is long. -/
def ReadFault.message : ReadFault → String
  | .notWhole text =>
    "invalid literal for int() with base 10: " ++ String.ofList ((Text.quoted text).toList.take 200)
  | .notDecimal text => "could not convert string to float: " ++ Text.quoted text
  | .tooManyDigits e => e.message

/-- Decimal digits with single low lines between them, and what follows them. -/
def digitRun (cs : List Char) : List Char × List Char :=
  match cs with
  | c :: '_' :: d :: rest =>
    if c.isDigit && d.isDigit then
      let (digits, tail) := digitRun (d :: rest)
      (c :: digits, tail)
    else if c.isDigit then ([c], '_' :: d :: rest) else ([], cs)
  | c :: rest =>
    if c.isDigit then
      let (digits, tail) := digitRun rest
      (c :: digits, tail)
    else ([], cs)
  | [] => ([], [])
termination_by cs.length

/-- Whether a number is negative, and what follows its sign. -/
def takeSign : List Char → Bool × List Char
  | '-' :: rest => (true, rest)
  | '+' :: rest => (false, rest)
  | cs => (false, cs)

/-- A text without the spaces around it, in plain digits. -/
def bare (text : String) : List Char :=
  let rest := text.toList.dropWhile Unicode.isSpace
  (rest.reverse.dropWhile Unicode.isSpace).reverse.map Unicode.plainDigit

/-- The whole number that a text writes. Too many digits are a fault even if something else follows them. -/
def readInt (text : String) : Except ReadFault Int :=
  let (negative, cs) := takeSign (bare text)
  let (digits, rest) := digitRun cs
  if digits.isEmpty || rest.head? = some '_' then .error (.notWhole text)
  else if maxDigits < digits.length then .error (.tooManyDigits (.reading digits.length))
  else if rest.isEmpty then
    let n : Int := natOfDigits digits
    .ok (if negative then -n else n)
  else .error (.notWhole text)

/-- The fraction after a point, if there is one, and what follows it. -/
def takeFraction : List Char → List Char × List Char
  | '.' :: rest => digitRun rest
  | cs => ([], cs)

/-- The exponent that is left of a number, zero if nothing is left. -/
def exponent? : List Char → Option Int
  | [] => some 0
  | c :: rest =>
    let (negative, cs) := takeSign rest
    match digitRun cs with
    | ([], _) => none
    | (digits, []) =>
      let n : Int := natOfDigits digits
      if c = 'e' || c = 'E' then some (if negative then -n else n) else none
    | _ => none

/-- The number that digits with a point and an exponent write. -/
def decimal? (negative : Bool) (cs : List Char) : Option Binary64 :=
  let (whole, cs) := digitRun cs
  let (fraction, cs) := takeFraction cs
  if whole.isEmpty && fraction.isEmpty then none
  else (exponent? cs).map fun e =>
    .ofDecimal negative (natOfDigits (whole ++ fraction)) (e - fraction.length)

/-- The number that a text writes. -/
def readDecimal (text : String) : Except ReadFault Binary64 :=
  let (negative, cs) := takeSign (bare text)
  let word := String.ofList (cs.map Char.toLower)
  if word = "nan" then .ok .nan
  else if word = "inf" || word = "infinity" then .ok (.infinity negative)
  else match decimal? negative cs with
    | some x => .ok x
    | none => .error (.notDecimal text)

end BotApi.Number
