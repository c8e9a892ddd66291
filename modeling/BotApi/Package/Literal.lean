import BotApi.Json.Reader

/-!
# Literals

A literal between triple quotes ends at the first three quotes in a row that are not escaped. What its characters stand
for is told here as well: an escape is a reverse solidus and what belongs to it.
-/

namespace BotApi.Package

/-- The characters of a literal, which come after its opening quotes, and what comes after the closing ones. A reverse
solidus takes the next character with it. -/
def splitLiteral : List Char → Option (List Char × List Char)
  | '"' :: '"' :: '"' :: rest => some ([], rest)
  | '\\' :: c :: rest => (splitLiteral rest).map fun r => ('\\' :: c :: r.1, r.2)
  | ['\\'] => none
  | [] => none
  | c :: rest => (splitLiteral rest).map fun r => (c :: r.1, r.2)

/-- The character of a number, if it is that of one. -/
def charOf? (n : Nat) : Option Char := if n.isValidChar then some (Char.ofNat n) else none

/-- The character of so many hexadecimal digits, with the number of characters that they take after a solidus. -/
def hexEscape (digits : Nat) (cs : List Char) : Option (List Char × Nat) := do
  let values ← (cs.take digits).mapM Json.hexValue
  if values.length < digits then none
  let c ← charOf? (values.foldl (fun n d => n * 16 + d) 0)
  pure ([c], digits + 1)

/-- Whether a character is an octal digit. -/
def isOctal (c : Char) : Bool := '0' ≤ c && c ≤ '7'

/-- The character of up to three octal digits. -/
def octalEscape (cs : List Char) : Option (List Char × Nat) := do
  let digits := (cs.take 3).takeWhile isOctal
  let c ← charOf? (digits.foldl (fun n d => n * 8 + (d.toNat - '0'.toNat)) 0)
  pure ([c], digits.length)

/-- What an escape stands for, after its reverse solidus, and how many characters it takes there. What escapes nothing
stands for itself, with the solidus. Names of characters are not looked up. -/
def escapeValue : List Char → Option (List Char × Nat)
  | [] => none
  | c :: rest =>
    if c = '\n' then some ([], 1)
    else if c = '\\' || c = '"' || c.toNat = 0x27 then some ([c], 1)
    else if c = 'a' then some ([Char.ofNat 0x07], 1)
    else if c = 'b' then some ([Char.ofNat 0x08], 1)
    else if c = 'f' then some ([Char.ofNat 0x0C], 1)
    else if c = 'n' then some (['\n'], 1)
    else if c = 'r' then some (['\r'], 1)
    else if c = 't' then some (['\t'], 1)
    else if c = 'v' then some ([Char.ofNat 0x0B], 1)
    else if c = 'x' then hexEscape 2 rest
    else if c = 'u' then hexEscape 4 rest
    else if c = 'U' then hexEscape 8 rest
    else if c = 'N' then none
    else if isOctal c then octalEscape (c :: rest)
    else some (['\\', c], 1)

/-- What the characters of a literal stand for. The number counts those that an escape has used up. -/
def valueAfter : Nat → List Char → Option (List Char)
  | _, [] => some []
  | used + 1, _ :: rest => valueAfter used rest
  | 0, c :: rest =>
    if c = '\\' then do
      let (out, used) ← escapeValue rest
      let text ← valueAfter used rest
      pure (out ++ text)
    else (c :: ·) <$> valueAfter 0 rest

/-- What the characters of a literal stand for. -/
def unescape (text : List Char) : Option (List Char) := valueAfter 0 text

end BotApi.Package
