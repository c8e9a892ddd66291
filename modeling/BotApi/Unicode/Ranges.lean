/-!
# Sets of characters as ranges of code points

A property of characters that the Unicode character database fixes is a table of inclusive ranges.
-/

namespace BotApi.Unicode

/-- Inclusive ranges of code points, in ascending order. -/
abbrev Ranges := Array (Nat × Nat)

/-- Whether one of the ranges holds the code point. -/
def Ranges.holds (ranges : Ranges) (code : Nat) : Bool :=
  ranges.any fun (low, high) => low ≤ code && code ≤ high

end BotApi.Unicode
