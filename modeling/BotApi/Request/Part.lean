import BotApi.Mismatch
import BotApi.Value.Upload

/-!
# Parts of a request

A request in parts has one part for each argument, and one for each file that was found below an argument.
These files are attached one after another while the arguments are converted. What a conversion attached
stays there when it stops, and whoever goes on after a stop has to take it back.
-/

namespace BotApi

/-- What a part of a request holds. -/
inductive PartContent
  | text (s : String)
  | file (f : InputFile)
  deriving DecidableEq

/-- A part of a request. -/
structure Part where
  name : String
  content : PartContent
  deriving DecidableEq

namespace Request

/-- The name of the attachment after the first `n`. -/
def attachmentName (n : Nat) : String := "attach_" ++ toString (n + 1)

/-- The text that refers to the attachment after the first `n`. -/
def referenceText (n : Nat) : String := "attach://" ++ attachmentName n

/-- What stands for an attachment in a converted value. -/
def attachmentReference (n : Nat) : Value := .text (referenceText n)

/-- A computation that attaches files as it goes. -/
abbrev Attaching := EStateM Stop (List Part)

namespace Attaching

variable {α : Type}

/-- Attaches a file under the next name. The value is what stands for it. -/
def attach (f : InputFile) : Attaching Value := fun parts =>
  .ok (attachmentReference parts.length) (parts ++ [⟨attachmentName parts.length, .file f⟩])

/-- A computation seen from one step further up. -/
def under (step : Step) (x : Attaching α) : Attaching α := fun parts =>
  match x parts with
  | .ok a parts => .ok a parts
  | .error stop parts => .error (stop.under step) parts

/-- The first computation, or the other one if the first meets a mismatch. What the first has attached by then
is dropped. -/
def orNext (x other : Attaching α) : Attaching α := fun parts =>
  match x parts with
  | .error (.mismatch _) more => other (more.take parts.length)
  | result => result

end Attaching

end Request

end BotApi
