/-!
# Lines of a text file

A text file ends its lines in any of three ways; once read, each line ends in a line feed.
-/

namespace BotApi.Text

/-- Every carriage return, with the line feed after it if there is one, becomes a line feed. -/
def unifyNewlines : List Char → List Char
  | [] => []
  | '\r' :: '\n' :: rest => '\n' :: unifyNewlines rest
  | '\r' :: rest => '\n' :: unifyNewlines rest
  | c :: rest => c :: unifyNewlines rest

end BotApi.Text
