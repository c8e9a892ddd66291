import BotApi.Unicode.Blank

/-!
# Filled paragraphs

A paragraph is laid out in lines of a given width, broken only at white space of ASCII. White space inside a
line is kept, that around a break is dropped, and a word that is wider than a line has a line to itself.
-/

namespace BotApi.Text

/-- White space of ASCII: what a paragraph may be broken at. -/
def isBreak (c : Char) : Bool :=
  c = ' ' || c = '\t' || c = '\n' || c = '\r' || c.toNat = 0x0B || c.toNat = 0x0C

/-- Tabs become spaces up to the next multiple of eight columns. -/
def expandTabs : Nat → List Char → List Char
  | _, [] => []
  | column, c :: rest =>
    if c = '\t' then
      let gap := 8 - column % 8
      List.replicate gap ' ' ++ expandTabs (column + gap) rest
    else if c = '\n' || c = '\r' then c :: expandTabs 0 rest
    else c :: expandTabs (column + 1) rest

/-- The words of a text and the gaps between them, in order. A gap is made of spaces. -/
def chunks (text : List Char) : List (List Char) :=
  let spaced := (expandTabs 0 text).map fun c => if isBreak c then ' ' else c
  spaced.splitBy fun a b => (a = ' ') = (b = ' ')

/-- Whether a chunk shows nothing. -/
def isBlankChunk (chunk : List Char) : Bool :=
  chunk.all Unicode.isBlank

/-- As many chunks as fit into the room, and the others. -/
def fit : Nat → List (List Char) → List (List Char) × List (List Char)
  | _, [] => ([], [])
  | room, c :: rest =>
    if c.length ≤ room then
      let (taken, left) := fit (room - c.length) rest
      (c :: taken, left)
    else ([], c :: rest)

theorem length_fit_le (room : Nat) (cs : List (List Char)) : (fit room cs).2.length ≤ cs.length := by
  induction cs generalizing room with
  | nil => simp [fit]
  | cons c rest ih =>
    rw [fit]
    split
    · exact Nat.le_succ_of_le (ih _)
    · simp

/-- The chunks of a line that starts with the given chunk, and those after the line. The first chunk has
its place however long it is. -/
def nextLine (room : Nat) (c : List Char) (rest : List (List Char)) :
    List (List Char) × List (List Char) :=
  if c.length ≤ room then
    let (taken, left) := fit (room - c.length) rest
    (c :: taken, left)
  else ([c], rest)

theorem length_nextLine_le (room : Nat) (c : List Char) (rest : List (List Char)) :
    (nextLine room c rest).2.length ≤ rest.length := by
  rw [nextLine]
  split
  · exact length_fit_le _ _
  · exact Nat.le_refl _

/-- The chunks of a line without a blank one at its end. -/
def dropLastBlank (line : List (List Char)) : List (List Char) :=
  match line.getLast? with
  | some c => if isBlankChunk c then line.dropLast else line
  | none => line

/-- The chunks that a line starts from: a blank one is passed over, except on the first line. -/
def lineStart (started : Bool) : List (List Char) → List (List Char)
  | c :: rest => if started && isBlankChunk c then rest else c :: rest
  | [] => []

theorem length_lineStart_le (started : Bool) (cs : List (List Char)) :
    (lineStart started cs).length ≤ cs.length := by
  cases cs with
  | nil => simp [lineStart]
  | cons c rest =>
    rw [lineStart]
    split <;> simp

/-- The width of a line, and what the first line and the other lines begin with. -/
structure Frame where
  width : Nat
  first : List Char
  others : List Char

/-- The lines of a paragraph. `started` says that a line has been laid out before. -/
def Frame.lines (frame : Frame) (started : Bool) (cs : List (List Char)) : List (List Char) :=
  match _h : lineStart started cs with
  | [] => []
  | c :: rest =>
    let indent := if started then frame.others else frame.first
    let line := nextLine (frame.width - indent.length) c rest
    let words := dropLastBlank line.1
    if words.isEmpty then frame.lines started line.2
    else (indent ++ words.flatten) :: frame.lines true line.2
termination_by cs.length
decreasing_by
  -- a line uses up its first chunk, whether or not anything of it is shown
  all_goals
    have h₁ := length_lineStart_le started cs
    rw [_h] at h₁
    have h₂ := length_nextLine_le (frame.width - indent.length) c rest
    simp only [List.length_cons] at h₁
    exact Nat.lt_of_le_of_lt h₂ h₁

/-- The paragraph with its lines joined. A text without words has no line, and no indent either. -/
def Frame.fill (frame : Frame) (text : List Char) : List Char :=
  ['\n'].intercalate (frame.lines false (chunks text))

end BotApi.Text
