import BotApi.Table
import BotApi.Text.Lines
import BotApi.Unicode.Blank

/-!
# Environment files

An environment file assigns values to names, one to a line. A value may be quoted, and then it may hold line
breaks and escapes; otherwise a comment may follow it. A value may refer to an earlier name or to the
environment as `$` and the name in braces, with a default after `:-`. From where a line makes no sense, the
rest of it is passed over.
-/

namespace BotApi.EnvFile

open Unicode (isBlank trimRight)

/-- White space within a line. -/
def isGap (c : Char) : Bool := isBlank c && c ≠ '\n' && c ≠ '\r'

/-- The text after white space within the line. -/
def skipGap (cs : List Char) : List Char := cs.dropWhile isGap

/-- Whether the character ends a line. -/
def isEnd (c : Char) : Bool := c = '\n' || c = '\r'

/-- The text after the rest of the line and its end. -/
def skipLine (cs : List Char) : List Char :=
  match cs.dropWhile fun c => !isEnd c with
  | [] => []
  | _ :: rest => rest

/-- The text up to the closing quote, and what follows the quote. A character after a reverse solidus closes
nothing. -/
def quotedPart (q : Char) : List Char → Option (List Char × List Char)
  | [] => none
  | '\\' :: c :: rest => (quotedPart q rest).map fun r => ('\\' :: c :: r.1, r.2)
  | c :: rest =>
    if c = q then some ([], rest) else (quotedPart q rest).map fun r => (c :: r.1, r.2)

/-- The escapes of a quoted value, by the letter after the reverse solidus. -/
def escapes (q : Char) : List (Char × Char) :=
  if q = '"' then
    [('\\', '\\'), ('\'', '\''), ('"', '"'), ('a', Char.ofNat 7), ('b', Char.ofNat 8),
      ('f', Char.ofNat 12), ('n', '\n'), ('r', '\r'), ('t', '\t'), ('v', Char.ofNat 11)]
  else [('\\', '\\'), ('\'', '\'')]

/-- The value of a quoted text. An escape that means nothing stands for itself. -/
def unescape (q : Char) : List Char → List Char
  | [] => []
  | '\\' :: c :: rest =>
    match (escapes q).lookup c with
    | some d => d :: unescape q rest
    | none => '\\' :: unescape q (c :: rest)
  | c :: rest => c :: unescape q rest

/-- A value without quotes, up to a comment that white space sets off. -/
def dropComment : List Char → List Char
  | [] => []
  | c :: rest =>
    if isBlank c && (rest.dropWhile isBlank).head? = some '#' then [] else c :: dropComment rest

/-- A value without quotes, and the end of its line. -/
def readPlain (cs : List Char) : List Char × List Char :=
  let (line, tail) := cs.span fun c => !isEnd c
  (trimRight (skipGap (dropComment line)), tail)

/-- The value after an equals sign, and what follows it; or the text from an opening quote that nothing
closes. -/
def readValue (cs : List Char) : Except (List Char) (List Char × List Char) :=
  match skipGap cs with
  | [] => .ok ([], [])
  | c :: rest =>
    if c = '\'' || c = '"' then
      match quotedPart c rest with
      | some (part, tail) => .ok (unescape c part, tail)
      | none => .error (c :: rest)
    else .ok (readPlain cs)

/-- A name, and what follows it. A comment has none. -/
def readName (cs : List Char) : Option (Option (List Char) × List Char) :=
  match cs with
  | [] => none
  | '#' :: _ => some (none, cs)
  | '\'' :: rest =>
    let (name, tail) := rest.span (· ≠ '\'')
    if name.isEmpty || tail.isEmpty then none else some (some name, tail.drop 1)
  | _ =>
    let (name, tail) := cs.span fun c => c ≠ '=' && c ≠ '#' && !isBlank c
    if name.isEmpty then none else some (some name, tail)

/-- The text after the word `export`, if it starts with it. -/
def skipExport (cs : List Char) : List Char :=
  let word := "export".toList
  if word.isPrefixOf cs && ((cs.drop word.length).head?.map isGap).getD false then
    skipGap (cs.drop word.length)
  else cs

/-- The text after a comment, if there is one, and the end of the line. -/
def endLine (cs : List Char) : Option (List Char) :=
  let rest := skipGap cs
  let rest := if rest.head? = some '#' then rest.dropWhile fun c => !isEnd c else rest
  match rest with
  | [] => some []
  | c :: tail => if isEnd c then some tail else none

/-- An assignment, and what follows its line; or the text from where the line makes no sense. A comment
assigns nothing, and a name alone has no value. -/
def readLine (cs : List Char) :
    Except (List Char) (Option (List Char × Option (List Char)) × List Char) := do
  let cs := skipExport cs
  -- what makes no sense is handed back from where it starts, for the rest of its line is lost
  let some (name, rest) := readName cs | throw cs
  let (value, rest) ← match skipGap rest with
    | '=' :: more => (fun r => (some r.1, r.2)) <$> readValue more
    | rest => pure (none, rest)
  let some after := endLine rest | throw rest
  pure (name.map fun n => (n, value), after)

/-- The assignments of a file. The first argument bounds the number of lines. -/
def readLines : Nat → List Char → List (List Char × Option (List Char))
  | 0, _ => []
  | fuel + 1, cs =>
    match cs.dropWhile isBlank with
    | [] => []
    | body =>
      match readLine body with
      | .ok (some assignment, rest) => assignment :: readLines fuel rest
      | .ok (none, rest) => readLines fuel rest
      | .error rest => readLines fuel (skipLine rest)

/-- A reference at the start of a text: its name, its default, and what follows it. -/
def reference? (cs : List Char) : Option (List Char × List Char × List Char) :=
  match cs with
  | '$' :: '{' :: rest =>
    -- a name ends at its colon, even if no default follows
    let (name, tail) := rest.span fun c => c ≠ '}' && c ≠ ':'
    match tail with
    | '}' :: after => some (name, [], after)
    | ':' :: '-' :: more =>
      match more.span (· ≠ '}') with
      | (default, '}' :: after) => some (name, default, after)
      | _ => none
    | _ => none
  | _ => none

/-- A value with its references replaced. The first argument bounds the length of the text. -/
def expand (lookup : String → Option String) : Nat → List Char → List Char
  | 0, cs => cs
  | _ + 1, [] => []
  | fuel + 1, c :: rest =>
    match reference? (c :: rest) with
    | some (name, default, after) =>
      let value := match lookup (String.ofList name) with
        | some s => s.toList
        | none => default
      value ++ expand lookup fuel after
    | none => c :: expand lookup fuel rest

/-- The names that a text refers to. -/
def references : List Char → List String
  | [] => []
  | c :: rest =>
    match reference? (c :: rest) with
    | some (name, _, _) => String.ofList name :: references rest
    | none => references rest

/-- A text without the mark that may stand in front of a file. -/
def dropMark : List Char → List Char
  | c :: rest => if c.toNat = 0xFEFF then rest else c :: rest
  | [] => []

/-- The values that a file assigns, in an environment. A name without a value has none in the end. -/
def assignments (environment : List (String × String)) (text : String) : List (String × Option String) :=
  let cs := Text.unifyNewlines (dropMark text.toList)
  (readLines (cs.length + 1) cs).foldl
    (fun done (name, value) =>
      let lookup (n : String) : Option String :=
        match done.lookup n with
        | some v => some (v.getD "")
        | none => environment.reverse.lookup n
      let value := value.map fun v => String.ofList (expand lookup (v.length + 1) v)
      Entries.put (String.ofList name) value done)
    []

end BotApi.EnvFile
