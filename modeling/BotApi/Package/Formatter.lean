/-!
# Formatters

The texts of a package are laid out by a formatter before they are written. It is told how long a line may be, and it
refuses a text that it cannot read. Which formatter that is, is left open here.
-/

namespace BotApi.Package

/-- A formatter, by what it makes of a text for a length of lines: the text laid out, or the reason for which it is
refused. -/
def Formatter (ρ : Type) : Type := Int → String → Except ρ String

/-- The formatter that leaves every text as it is. -/
def Formatter.plain : Formatter Empty := fun _ text => .ok text

end BotApi.Package
