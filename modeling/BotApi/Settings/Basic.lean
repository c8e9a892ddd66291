import BotApi.Number.Integer
import BotApi.PosixPath
import BotApi.Report
import BotApi.Settings.EnvFile
import BotApi.Text.Utf8
import BotApi.Unicode.Lowercase
import BotApi.Value.Basic

/-!
# Settings

The settings of the generator come from the caller, from the environment, from an environment file, and from
defaults; of several values for one setting the first in this order counts. In the environment a setting has a
name of its own, and the caller may say by which convention.
-/

namespace BotApi

/-- The settings of the generator. -/
structure Settings where
  schemaPath : PosixPath
  outputDir : PosixPath
  package : String
  lineLength : Int
  logLevel : String

namespace Settings

/-- The settings where nothing is set. -/
def defaults : Settings :=
  { schemaPath := .ofText "telegram-bot-api-spec/api.min.json"
    outputDir := .ofText "botapi"
    package := "botapi"
    lineLength := 79
    logLevel := "INFO" }

/-- The least length of a line. -/
def leastLineLength : Nat := 40

/-! ## Single settings -/

/-- A path, given as a text. -/
def readPath : Value → Checked PosixPath
  | .text s => .valid (.ofText s)
  | _ => .complain .notPath

/-- A text, or octets that are one. -/
def readText : Value → Checked String
  | .text s => .valid s
  | .bytes content | .bytearray content =>
    match Text.Utf8.decode content with
    | .ok cs => .valid (String.ofList cs)
    | .error _ => .complain .notUnicode
  | _ => .complain .notText

/-- A text that is not empty. -/
def readName (v : Value) : Checked String :=
  (readText v).andThen fun s => if s = "" then .complain (.shorter 1) else .valid s

/-- Whether the character is a digit of ASCII. -/
def isDigit (c : Char) : Bool := '0' ≤ c && c ≤ '9'

/-- The text before a fraction of zeros, if it ends in one. -/
def dropFraction (text : List Char) : List Char :=
  match text.span (· ≠ '.') with
  | (whole, '.' :: zeros) => if zeros ≠ [] && zeros.all (· = '0') then whole else text
  | _ => text

/-- The text after the zeros at its start, with the low lines among them. One zero that is all of the text
stays, and behind zeros a sign may stand. -/
def dropZeros : List Char → Option (List Char)
  | [] => none
  | c :: rest =>
    if c = '0' then
      match rest.dropWhile fun d => d = '0' || d = '_' with
      | [] => some [rest.getLast?.getD c]
      | d :: more => if d = '-' || (isDigit d && d ≠ '0') then some (d :: more) else none
    else if isDigit c then some (c :: rest) else none

/-- A whole number as a text without white space around it, and without what carries no meaning: a plus sign,
a fraction of zeros, and zeros in front. -/
def bareInt (text : List Char) : Option (List Char) :=
  match dropFraction text with
  | '+' :: rest => dropZeros rest
  | '-' :: rest => ('-' :: ·) <$> dropZeros rest
  | digits => dropZeros digits

/-- The text without low lines, each of which has to have something else on both sides. -/
def dropLowLines (text : List Char) : Option (List Char) :=
  if text.head? = some '_' || text.getLast? = some '_' || (text.zip (text.drop 1)).contains ('_', '_') then
    none
  else some (text.filter (· ≠ '_'))

/-- The number of decimal digits, of which the first is a zero only if it is the last. -/
def readDigits (digits : List Char) : Option Nat :=
  if digits.isEmpty || !digits.all isDigit || (digits.head? = some '0' && digits.length ≠ 1) then none
  else some (Number.natOfDigits digits)

/-- The number of a sign and digits. -/
def readSigned : List Char → Option Int
  | '-' :: digits => (fun n => -(n : Int)) <$> readDigits digits
  | digits => Int.ofNat <$> readDigits digits

/-- Whether a text starts, behind a minus sign or at once, like a number with too many digits, the first of
them no zero. -/
def startsOversized (text : List Char) : Bool :=
  let digits := (if text.head? = some '-' then text.drop 1 else text).takeWhile isDigit
  digits.head? ≠ some '0' && Number.maxDigits < digits.length

/-- A whole number from its text: white space around it, a sign, zeros in front, low lines between digits, and
a fraction of zeros are allowed. Too many digits are a complaint of their own only if nothing of this stands
before them. -/
def readIntOfText (s : String) : Checked Int :=
  let text := ((s.toList.dropWhile Unicode.isSpace).reverse.dropWhile Unicode.isSpace).reverse
  if startsOversized s.toList then .complain .oversizedInt
  else match ((bareInt text).bind dropLowLines).filter (!startsOversized ·) >>= readSigned with
    | some n => .valid n
    | none => .complain .unreadableInt

/-- A whole number, or something that is one. -/
def readInt : Value → Checked Int
  | .bool b => .valid (if b then 1 else 0)
  | .int n => .valid n
  | .float x =>
    match x with
    | .finite .. =>
      match x.toInt? with
      | some n => if n.natAbs < Nat.pow 2 63 then .valid n else .complain .oversizedInt
      | none => .complain .fractionalInt
    | _ => .complain .notFinite
  | .text s => readIntOfText s
  | .bytes content | .bytearray content =>
    match Text.Utf8.decode content with
    | .ok cs => readIntOfText (String.ofList cs)
    | .error _ => .complain .unreadableInt
  | _ => .complain .notInt

/-- The length of a line. -/
def readLineLength (v : Value) : Checked Int :=
  (readInt v).andThen fun n =>
    if n < leastLineLength then .complain (.below leastLineLength) else .valid n

/-! ## How settings are named -/

/-- How settings are named and read in the environment and in its files: what their names begin with, whether
capitals matter in them, whether an empty value counts as none, and the text that stands for null. -/
structure Convention where
  stem : String
  capitalsMatter : Bool
  skipsEmpty : Bool
  nullText : Option String

/-- The convention unless the caller asks for another. -/
def Convention.standard : Convention := ⟨"BOTSCHEMA_", false, false, none⟩

/-- The convention that the caller asks for beside the settings. What the names begin with has to be a
text. -/
def Convention.ofGiven? (given : List (String × Value)) : Option Convention :=
  let asked (name : String) : Bool := !((given.lookup name).getD .null).isVoid
  let nullText := match given.lookup "_env_parse_none_str" with
    | some (.text s) => some s
    | _ => none
  let convention := fun stem => some ⟨stem, asked "_case_sensitive", asked "_env_ignore_empty", nullText⟩
  match given.lookup "_env_prefix" with
  | none | some .null => convention standard.stem
  | some (.text stem) => convention stem
  | some _ => none

/-- A name with its capitals if they matter. -/
def Convention.fold (c : Convention) (name : String) : String :=
  if c.capitalsMatter then name else String.ofList (Unicode.lower name.toList)

/-- The name of a setting in the environment. -/
def Convention.nameOf (c : Convention) (setting : String) : String := c.fold (c.stem ++ setting)

/-- The value of a setting among assignments, of which the last one counts. -/
def Convention.assigned? (c : Convention) (setting : String) (assignments : List (String × Option String)) :
    Option Value :=
  let counted := assignments.filter fun e => !(c.skipsEmpty && e.2 = some "")
  ((counted.map fun e => (c.fold e.1, e.2)).reverse.lookup (c.nameOf setting)).join.map fun text =>
    if c.nullText = some text then .null else .text text

/-! ## All settings -/

/-- Where settings come from: the caller, the environment, and the texts of environment files. -/
structure Sources where
  given : List (String × Value)
  environment : List (String × String)
  files : List String
  convention : Convention

/-- The names of all settings. -/
def settingNames : List String := ["schema_path", "output_dir", "package", "line_length", "log_level"]

/-- The value that the caller gives for a setting. Capitals do not matter, and of several the first counts. -/
def given? (setting : String) (given : List (String × Value)) : Option Value :=
  (given.map fun e => (String.ofList (Unicode.lower e.1.toList), e.2)).lookup setting

/-- The value of a setting in the first source that has one. -/
def Sources.find? (s : Sources) (setting : String) : Option Value :=
  (given? setting s.given)
    <|> s.convention.assigned? setting (s.environment.map fun e => (e.1, some e.2))
    <|> s.convention.assigned? setting (s.files.flatMap (EnvFile.assignments s.environment))

/-- A setting from the sources, or its default. -/
def Sources.read {α : Type} (s : Sources) (setting : String) (read : Value → Checked α) (default : α) :
    Checked α :=
  match s.find? setting with
  | some v => (read v).within (.key setting)
  | none => .valid default

/-- The settings of the sources. -/
def ofSources (s : Sources) : Checked Settings :=
  Settings.mk <$> s.read "schema_path" readPath defaults.schemaPath
    <*> s.read "output_dir" readPath defaults.outputDir
    <*> s.read "package" readName defaults.package
    <*> s.read "line_length" readLineLength defaults.lineLength
    <*> s.read "log_level" readText defaults.logLevel

end Settings

end BotApi
