import BotApi.Unicode.Printable

/-!
# Quoted texts

A quoted text stands between two equal quotes on one line of printable characters. It takes the single
quote, unless the text holds a single quote and no double one. Inside, the reverse solidus and the quote in
use are escaped, and so is every character that is not printable.
-/

namespace BotApi.Text

/-- A hexadecimal digit, in lower case. -/
def hexDigit (n : Nat) : Char :=
  if n < 10 then Char.ofNat ('0'.toNat + n) else Char.ofNat ('a'.toNat + (n - 10))

/-- The last `width` hexadecimal digits of a number. -/
def hex : Nat → Nat → List Char
  | 0, _ => []
  | width + 1, n => hex width (n / 16) ++ [hexDigit (n % 16)]

/-- The quote that a quoted text takes. -/
def quoteFor (text : List Char) : Char :=
  if text.contains '\'' && !text.contains '"' then '"' else '\''

/-- The escapes that have a letter of their own. -/
def letterEscape (quote c : Char) : Option (List Char) :=
  if c = quote || c = '\\' then some ['\\', c]
  else if c = '\n' then some ['\\', 'n']
  else if c = '\r' then some ['\\', 'r']
  else if c = '\t' then some ['\\', 't']
  else none

/-- A character of a quoted text. -/
def escapeChar (quote c : Char) : List Char :=
  match letterEscape quote c with
  | some escape => escape
  | none =>
    let n := c.toNat
    if Unicode.isPrintable c then [c]
    else if n < 0x100 then '\\' :: 'x' :: hex 2 n
    else if n < 0x10000 then '\\' :: 'u' :: hex 4 n
    else '\\' :: 'U' :: hex 8 n

/-- The text in quotes. -/
def quote (text : List Char) : List Char :=
  let q := quoteFor text
  q :: text.flatMap (escapeChar q) ++ [q]

/-- The text in quotes. -/
def quoted (text : String) : String :=
  String.ofList (quote text.toList)

/-- An octet in a quoted sequence of octets. -/
def escapeOctet (quote : Char) (b : UInt8) : List Char :=
  let c := Char.ofNat b.toNat
  match letterEscape quote c with
  | some escape => escape
  | none => if 0x20 ≤ b && b < 0x7F then [c] else '\\' :: 'x' :: hex 2 b.toNat

/-- A sequence of octets in quotes: octets that are printable ASCII characters stand for themselves. -/
def quotedOctets (octets : List UInt8) : String :=
  let q := quoteFor (octets.map fun b => Char.ofNat b.toNat)
  String.ofList ('b' :: q :: octets.flatMap (escapeOctet q) ++ [q])

end BotApi.Text
