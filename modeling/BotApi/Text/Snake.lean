import BotApi.Unicode.Lowercase

/-!
# Snake case

A name in camel case becomes one in snake case in two passes that insert low lines, and a third that takes
the lower case. The first pass sets off each capital that small letters follow, the second each capital that
stands after a small letter or a digit. Capitals and small letters are those of ASCII in both.
-/

namespace BotApi.Text.Snake

/-- A capital of ASCII. -/
def isCapital (c : Char) : Bool := 'A' ≤ c && c ≤ 'Z'

/-- A small letter of ASCII. -/
def isSmall (c : Char) : Bool := 'a' ≤ c && c ≤ 'z'

/-- A decimal digit of ASCII. -/
def isDigit (c : Char) : Bool := '0' ≤ c && c ≤ '9'

/-- Whether the text starts with a capital and a small letter. -/
def startsWord : List Char → Bool
  | u :: l :: _ => isCapital u && isSmall l
  | _ => false

/-- Puts a low line before each word that has a character before it on its line. A word that has been set
off keeps its small letters, so none of them serves as the character before the next word. -/
def splitWords : Bool → List Char → List Char
  | _, [] => []
  | inWord, c :: rest =>
    if inWord && isSmall c then c :: splitWords true rest
    -- a line feed is no character to set a word off from
    else if c ≠ '\n' && startsWord rest then
      match rest with
      | [] => [c]
      | u :: tail => c :: '_' :: u :: splitWords true tail
    else c :: splitWords false rest

/-- Puts a low line between a small letter or a digit and a capital after it. -/
def splitCase : List Char → List Char
  | [] => []
  | c :: rest =>
    match rest with
    | [] => [c]
    | u :: _ =>
      if (isSmall c || isDigit c) && isCapital u then c :: '_' :: splitCase rest
      else c :: splitCase rest

/-- The snake case of a name. -/
def ofCamel (name : List Char) : List Char :=
  Unicode.lower (splitCase (splitWords false name))

end BotApi.Text.Snake

/-- The snake case of a name. -/
def BotApi.Text.snake (name : String) : String :=
  String.ofList (Snake.ofCamel name.toList)
