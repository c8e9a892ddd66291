import BotApi.Number.Integer
import BotApi.Table
import BotApi.Value.Basic

/-!
# Reading JSON

The reader takes the first value of a text and refuses what follows it. Beyond the standard it takes the
numbers `NaN`, `Infinity` and `-Infinity`. A number is a whole one unless it has a fraction or an exponent.
A key that stands twice keeps its first place and its last value.

While reading, a place is the number of characters still ahead; `read` turns it into a `Position`.
-/

namespace BotApi.Json

/-- What is wrong with a text. -/
inductive Problem
  | byteOrderMark
  | value
  | propertyName
  | colon
  | comma
  | extraData
  | unterminated
  | control
  | escape
  | unicodeEscape
  deriving DecidableEq

/-- The wording of a problem. -/
def Problem.message : Problem → String
  | .byteOrderMark => "Unexpected UTF-8 BOM (decode using utf-8-sig)"
  | .value => "Expecting value"
  | .propertyName => "Expecting property name enclosed in double quotes"
  | .colon => "Expecting ':' delimiter"
  | .comma => "Expecting ',' delimiter"
  | .extraData => "Extra data"
  | .unterminated => "Unterminated string starting at"
  | .control => "Invalid control character at"
  | .escape => "Invalid \\escape"
  | .unicodeEscape => "Invalid \\uXXXX escape"

/-- Why reading stopped: a problem, with the number of characters ahead, or a number that is too long. -/
inductive Fault
  | malformed (problem : Problem) (ahead : Nat)
  | tooManyDigits (digits : Nat)
  deriving DecidableEq

/-- White space of JSON. -/
def isBlank (c : Char) : Bool :=
  c = ' ' || c = '\t' || c = '\n' || c = '\r'

/-- The text after its leading white space. -/
def skip (cs : List Char) : List Char :=
  cs.dropWhile isBlank

/-- The value of a hexadecimal digit. -/
def hexValue (c : Char) : Option Nat :=
  if '0' ≤ c && c ≤ '9' then some (c.toNat - '0'.toNat)
  else if 'a' ≤ c && c ≤ 'f' then some (c.toNat - 'a'.toNat + 10)
  else if 'A' ≤ c && c ≤ 'F' then some (c.toNat - 'A'.toNat + 10)
  else none

/-- The number of four hexadecimal digits. -/
def hex4 (a b c d : Char) : Option Nat := do
  let a ← hexValue a
  let b ← hexValue b
  let c ← hexValue c
  let d ← hexValue d
  pure (((a * 16 + b) * 16 + c) * 16 + d)

/-- The character of a code unit. A surrogate without its partner is replaced. -/
def unitChar (n : Nat) : Char :=
  if 0xD800 ≤ n && n < 0xE000 then Char.ofNat 0xFFFD else Char.ofNat n

/-- The partner of a high surrogate, if an escape of a low one follows. The escape counts only if another
character comes after it. -/
def lowSurrogate (cs : List Char) : Except Fault (Option Nat) :=
  match cs with
  | '\\' :: 'u' :: a :: b :: c :: d :: _ :: _ =>
    match hex4 a b c d with
    | none => .error (.malformed .unicodeEscape (cs.length - 1))
    | some n => .ok (if 0xDC00 ≤ n && n < 0xE000 then some n else none)
  | _ => .ok none

/-- The character of a numeric escape, after the letter, and how many characters it takes. -/
def unicodeEscape (ahead : Nat) (cs : List Char) : Except Fault (Char × Nat) :=
  match cs with
  | a :: b :: c :: d :: e :: tail =>
    match hex4 a b c d with
    | none => .error (.malformed .unicodeEscape ahead)
    | some n =>
      if 0xD800 ≤ n && n < 0xDC00 then do
        match ← lowSurrogate (e :: tail) with
        | some low => pure (Char.ofNat (0x10000 + (n - 0xD800) * 0x400 + (low - 0xDC00)), 10)
        | none => pure (unitChar n, 4)
      else .ok (unitChar n, 4)
  | _ => .error (.malformed .unicodeEscape ahead)

/-- The character of an escape, after the reverse solidus, and how many characters it takes. -/
def readEscape (start : Nat) (cs : List Char) : Except Fault (Char × Nat) :=
  match cs with
  | [] => .error (.malformed .unterminated start)
  | c :: rest =>
    if c = '"' || c = '\\' || c = '/' then .ok (c, 1)
    else if c = 'b' then .ok (Char.ofNat 0x08, 1)
    else if c = 'f' then .ok (Char.ofNat 0x0C, 1)
    else if c = 'n' then .ok ('\n', 1)
    else if c = 'r' then .ok ('\r', 1)
    else if c = 't' then .ok ('\t', 1)
    else if c = 'u' then (fun e => (e.1, e.2 + 1)) <$> unicodeEscape cs.length rest
    else .error (.malformed .escape (cs.length + 1))

/-- The characters up to the closing quote, and what follows it. `start` is the place of the opening quote;
the second argument counts characters that an escape has used up. -/
def readText (start : Nat) : Nat → List Char → Except Fault (List Char × List Char)
  | _, [] => .error (.malformed .unterminated start)
  | used + 1, _ :: rest => readText start used rest
  | 0, c :: rest =>
    if c = '"' then .ok ([], rest)
    else if c = '\\' then do
      let (d, used) ← readEscape start rest
      let (text, tail) ← readText start used rest
      pure (d :: text, tail)
    else if c.toNat < 0x20 then .error (.malformed .control (rest.length + 1))
    else do
      let (text, tail) ← readText start 0 rest
      pure (c :: text, tail)

/-- A decimal digit. -/
def isDigit (c : Char) : Bool := '0' ≤ c && c ≤ '9'

/-- The digits of a fraction, and what follows them. -/
def readFraction (cs : List Char) : Option (List Char × List Char) :=
  match cs with
  | '.' :: d :: rest => if isDigit d then some ((d :: rest).span isDigit) else none
  | _ => none

/-- The value of an exponent, and what follows it. -/
def readExponent (cs : List Char) : Option (Int × List Char) :=
  match cs with
  | [] => none
  | e :: rest =>
    if e = 'e' || e = 'E' then
      let (negative, body) := match rest with
        | '-' :: more => (true, more)
        | '+' :: more => (false, more)
        | _ => (false, rest)
      let (digits, tail) := body.span isDigit
      if digits.isEmpty then none
      else
        let n : Int := Number.natOfDigits digits
        some (if negative then -n else n, tail)
    else none

/-- The digits of a whole number: a lone zero, or digits that start with another one. -/
def readWhole (cs : List Char) : List Char × List Char :=
  match cs with
  | '0' :: rest => (['0'], rest)
  | _ => cs.span isDigit

/-- A number. -/
def readNumber (cs : List Char) : Except Fault (Value × List Char) :=
  let (negative, body) := match cs with
    | '-' :: rest => (true, rest)
    | _ => (false, cs)
  let (whole, rest) := readWhole body
  if whole.isEmpty then .error (.malformed .value cs.length)
  else
    let fraction := readFraction rest
    let (places, rest) := fraction.getD ([], rest)
    let exponent := readExponent rest
    let (power, rest) := exponent.getD (0, rest)
    -- only whole numbers are limited in their length
    if fraction.isSome || exponent.isSome then
      let digits := Number.natOfDigits (whole ++ places)
      .ok (.float (.ofDecimal negative digits (power - places.length)), rest)
    else if Number.maxDigits < whole.length then .error (.tooManyDigits whole.length)
    else
      let n : Int := Number.natOfDigits whole
      .ok (.int (if negative then -n else n), rest)

/-- The words that stand for values. -/
def words : List (List Char × Value) :=
  [("null".toList, .null), ("true".toList, .bool true), ("false".toList, .bool false),
    ("NaN".toList, .float .nan), ("Infinity".toList, .float (.infinity false)),
    ("-Infinity".toList, .float (.infinity true))]

/-- The value of the word that the text starts with, and what follows it. -/
def readWord (cs : List Char) : Option (Value × List Char) :=
  words.findSome? fun (word, v) =>
    if word.isPrefixOf cs then some (v, cs.drop word.length) else none

mutual

/-- The value that the text starts with, and what follows it. The first argument bounds the nesting of
calls; twice the length of the text is more than is ever used. -/
def readValue : Nat → List Char → Except Fault (Value × List Char)
  | 0, cs => .error (.malformed .value cs.length)
  | fuel + 1, cs =>
    match cs with
    | '"' :: rest => do
      let (text, tail) ← readText cs.length 0 rest
      pure (.text (String.ofList text), tail)
    | '[' :: rest =>
      match skip rest with
      | ']' :: tail => .ok (.list [], tail)
      | body => do
        let (items, tail) ← readItems fuel body
        pure (.list items, tail)
    | '{' :: rest =>
      match skip rest with
      | '}' :: tail => .ok (.object [], tail)
      | body => do
        let (members, tail) ← readMembers fuel body
        pure (.object (Entries.merge members), tail)
    | _ =>
      -- the word for minus infinity begins like a number
      match readWord cs with
      | some result => .ok result
      | none => readNumber cs

/-- The items up to the closing bracket, and what follows it. -/
def readItems : Nat → List Char → Except Fault (List Value × List Char)
  | 0, cs => .error (.malformed .value cs.length)
  | fuel + 1, cs => do
    let (v, rest) ← readValue fuel cs
    match skip rest with
    | ']' :: tail => pure ([v], tail)
    | ',' :: more => do
      let (items, tail) ← readItems fuel (skip more)
      pure (v :: items, tail)
    | other => .error (.malformed .comma other.length)

/-- The members up to the closing brace, and what follows it. -/
def readMembers : Nat → List Char → Except Fault (List (Key × Value) × List Char)
  | 0, cs => .error (.malformed .value cs.length)
  | fuel + 1, cs =>
    match cs with
    | '"' :: rest => do
      let (name, afterName) ← readText cs.length 0 rest
      match skip afterName with
      | ':' :: more => do
        let (v, afterValue) ← readValue fuel (skip more)
        let member := (Key.text (String.ofList name), v)
        match skip afterValue with
        | '}' :: tail => pure ([member], tail)
        | ',' :: next => do
          let (members, tail) ← readMembers fuel (skip next)
          pure (member :: members, tail)
        | other => .error (.malformed .comma other.length)
      | other => .error (.malformed .colon other.length)
    | _ => .error (.malformed .propertyName cs.length)

end

/-- A place in a text: its line and column, counted from one, and the characters before it. -/
structure Position where
  line : Nat
  column : Nat
  index : Nat
  deriving DecidableEq

/-- The place in a text that has so many characters before it. -/
def Position.of (text : List Char) (index : Nat) : Position :=
  let before := text.take index
  { line := before.count '\n' + 1
    column := (before.reverse.takeWhile (· ≠ '\n')).length + 1
    index }

/-- Why a text was refused. -/
inductive ReadError
  | malformed (problem : Problem) (position : Position)
  | tooManyDigits (digits : Nat)
  deriving DecidableEq

/-- The wording of a refusal. -/
def ReadError.message : ReadError → String
  | .malformed problem p =>
    problem.message ++ ": line " ++ toString p.line ++ " column " ++ toString p.column ++
      " (char " ++ toString p.index ++ ")"
  | .tooManyDigits digits => (Number.TooManyDigits.reading digits).message

/-- A fault with its place in the whole text. -/
def Fault.locate (text : List Char) : Fault → ReadError
  | .malformed problem ahead => .malformed problem (.of text (text.length - ahead))
  | .tooManyDigits digits => .tooManyDigits digits

/-- The value that the text is, white space around it apart. -/
def readAll (text : List Char) : Except Fault Value := do
  if text.head? = some (Char.ofNat 0xFEFF) then
    throw (.malformed .byteOrderMark text.length)
  let body := skip text
  let (v, rest) ← readValue (2 * body.length + 2) body
  match skip rest with
  | [] => pure v
  | other => .error (.malformed .extraData other.length)

/-- The value that the text is, white space around it apart. -/
def read (text : List Char) : Except ReadError Value :=
  (readAll text).mapError (·.locate text)

end BotApi.Json
