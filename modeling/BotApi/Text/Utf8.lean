import BotApi.Text.Quoted

/-!
# Reading UTF-8

Octets become characters one sequence at a time. The first fault ends the reading; it names the octets that
began a sequence and could not complete it.
-/

namespace BotApi.Text.Utf8

/-- What is wrong with a sequence. -/
inductive Reason
  | start
  | continuation
  | truncated
  deriving DecidableEq

/-- The wording of a reason. -/
def Reason.message : Reason → String
  | .start => "invalid start byte"
  | .continuation => "invalid continuation byte"
  | .truncated => "unexpected end of data"

/-- A sequence that is not UTF-8: its first octet, its place, and the place after it. -/
structure Fault where
  octet : UInt8
  first : Nat
  next : Nat
  reason : Reason
  deriving DecidableEq

/-- The wording of a fault. A fault of one octet shows the octet. -/
def Fault.message (f : Fault) : String :=
  let place :=
    if f.next = f.first + 1 then
      "byte 0x" ++ String.ofList (hex 2 f.octet.toNat) ++ " in position " ++ toString f.first
    else "bytes in position " ++ toString f.first ++ "-" ++ toString (f.next - 1)
  "'utf-8' codec can't decode " ++ place ++ ": " ++ f.reason.message

/-- A sequence under way: how it began, the octets still owed after the next one, the range of the next
one, and the bits so far. -/
structure Pending where
  octet : UInt8
  first : Nat
  owed : Nat
  low : UInt8
  high : UInt8
  bits : Nat

/-- How a sequence of several octets begins. -/
def lead (b : UInt8) (place : Nat) : Option Pending :=
  if 0xC2 ≤ b && b ≤ 0xDF then some ⟨b, place, 0, 0x80, 0xBF, b.toNat - 0xC0⟩
  else if 0xE0 ≤ b && b ≤ 0xEF then
    some ⟨b, place, 1, if b = 0xE0 then 0xA0 else 0x80, if b = 0xED then 0x9F else 0xBF, b.toNat - 0xE0⟩
  else if 0xF0 ≤ b && b ≤ 0xF4 then
    some ⟨b, place, 2, if b = 0xF0 then 0x90 else 0x80, if b = 0xF4 then 0x8F else 0xBF, b.toNat - 0xF0⟩
  else none

/-- Reads on from a place, between sequences or within one. -/
def run (place : Nat) : Option Pending → List UInt8 → Except Fault (List Char)
  | none, [] => .ok []
  | some p, [] => .error ⟨p.octet, p.first, place, .truncated⟩
  | none, b :: rest =>
    if b < 0x80 then (Char.ofNat b.toNat :: ·) <$> run (place + 1) none rest
    else match lead b place with
      | none => .error ⟨b, place, place + 1, .start⟩
      | some p => run (place + 1) (some p) rest
  | some p, b :: rest =>
    let bits := p.bits * 64 + (b.toNat - 0x80)
    if b < p.low || p.high < b then .error ⟨p.octet, p.first, place, .continuation⟩
    else match p.owed with
      | 0 => (Char.ofNat bits :: ·) <$> run (place + 1) none rest
      | owed + 1 => run (place + 1) (some { p with owed, bits, low := 0x80, high := 0xBF }) rest

/-- The characters that the octets write. -/
def decode (octets : List UInt8) : Except Fault (List Char) :=
  run 0 none octets

/-- The characters of a text up to a number of octets. One that these cut is replaced. -/
def cut (limit : Nat) : List Char → List Char
  | [] => []
  | c :: rest =>
    if limit = 0 then []
    else if c.utf8Size ≤ limit then c :: cut (limit - c.utf8Size) rest
    else [Char.ofNat 0xFFFD]

end BotApi.Text.Utf8
