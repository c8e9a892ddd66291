/-!
# Paths

A path is a root and the names below it. Empty names and the name of the current directory carry no
meaning and are left out; the name of the parent directory is kept, for what it leads to depends on links.
-/

namespace BotApi

/-- A path: no root, one solidus, or exactly two, and the names below it. -/
structure PosixPath where
  root : Nat
  parts : List String
  deriving DecidableEq

namespace PosixPath

/-- The pieces of a text between solidi. -/
def pieces (text : List Char) : List (List Char) :=
  text.foldr (fun c acc => if c = '/' then [] :: acc else match acc with
    | [] => [[c]]
    | piece :: rest => (c :: piece) :: rest) [[]]

/-- The path that a text writes. Two solidi at its start are a root of their own; more than two are one. -/
def ofText (text : String) : PosixPath :=
  let chars := text.toList
  let solidi := (chars.takeWhile (· = '/')).length
  { root := if solidi = 2 then 2 else min solidi 1
    parts := ((pieces chars).map String.ofList).filter fun p => p ≠ "" && p ≠ "." }

/-- The text of a path. -/
def toText (p : PosixPath) : String :=
  if p.root = 0 && p.parts.isEmpty then "."
  else "".pushn '/' p.root ++ "/".intercalate p.parts

/-- The path of `q` seen from `p`. -/
def append (p q : PosixPath) : PosixPath :=
  if q.root = 0 then { p with parts := p.parts ++ q.parts } else q

/-- The path of the directory that holds what a path leads to. -/
def parent (p : PosixPath) : PosixPath := { p with parts := p.parts.dropLast }

/-- The last name of a path, or nothing. -/
def name (p : PosixPath) : String :=
  p.parts.getLast?.getD ""

end PosixPath

/-- What stands after the last solidus of a text. -/
def PosixPath.baseName (text : String) : String :=
  String.ofList (text.toList.reverse.takeWhile (· ≠ '/')).reverse

/-- What stands after the last solidus of a path in octets. -/
def PosixPath.baseOctets (content : List UInt8) : List UInt8 :=
  (content.reverse.takeWhile (· ≠ 0x2F)).reverse

end BotApi
