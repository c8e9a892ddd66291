import BotApi.CommandLine

/-!
# The program

The files that a run may look at are read into a tree, the run is made, and the files that it wrote are
written. Reports go to the error stream.
-/

namespace BotApi.CommandLine

/-- The variables of the environment that settings or an environment file may refer to. -/
def readEnvironment (file : String) : IO (List (String × String)) := do
  let own := Settings.settingNames.map Settings.Convention.standard.nameOf
  let names := own ++ own.map String.toUpper ++ EnvFile.references file.toList
  let values ← names.mapM fun name => IO.getEnv name
  pure ((names.zip values).filterMap fun e => e.2.map fun value => (e.1, value))

/-- The content of a file, if there is one. -/
def readFile? (path : PosixPath) : IO (Option String) := do
  try
    let octets ← IO.FS.readBinFile path.toText
    pure (some ((String.fromUTF8? octets).getD ""))
  catch _ => pure none

/-- The tree with a file, if there is one. -/
def loadFile (tree : FileTree) (path : PosixPath) : IO FileTree := do
  match ← readFile? path with
  | none => pure tree
  | some content => pure (tree.insert path content)

/-- Writes a file and the directories that lead to it. -/
def writeFile (path content : String) : IO Unit := do
  let dir := "/".intercalate (path.splitOn "/").dropLast
  unless dir.isEmpty do IO.FS.createDirAll dir
  IO.FS.writeFile path content

end BotApi.CommandLine

open BotApi CommandLine

/-- Runs the command. -/
def main : IO UInt32 := do
  let file ← readFile? CommandLine.environmentFile
  let environment ← readEnvironment (file.getD "")
  let mut tree ← loadFile .empty CommandLine.environmentFile
  if let .valid settings := CommandLine.readSettings environment tree then
    tree ← loadFile tree settings.schemaPath
    tree ← loadFile tree (Package.initFile settings)
  let run := CommandLine.run environment tree
  for (path, content) in run.tree.changes tree do
    writeFile path content
  if let some threshold := run.threshold then
    for e in run.entries do
      if threshold.admits e.level then IO.eprintln (CommandLine.logLine e)
  match run.error with
  | none => pure 0
  | some e =>
    for line in e.lines do IO.eprintln line
    pure 1
