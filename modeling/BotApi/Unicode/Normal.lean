import BotApi.Unicode.Composition
import BotApi.Unicode.Variants

/-!
# Normal identifiers

Different texts can be the same identifier, and one of them, the normal form, stands for all: it has every
character composed that can be, and none that is only another way to write others.
-/

namespace BotApi.Unicode

/-- The normal form of an identifier. -/
def normalForm (text : List Char) : List Char :=
  if text.all fun c => c.toNat < 0x80 then text else compose (text.flatMap variant)

/-- Whether an identifier is in its normal form. -/
def isNormal (text : List Char) : Bool := normalForm text = text

end BotApi.Unicode
