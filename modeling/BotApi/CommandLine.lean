import BotApi.Package.Emit
import BotApi.Schema.Reading
import BotApi.Unicode.Uppercase

/-!
# The command line

The command reads its settings, sets the level of the log, reads the schema, and emits the package. It can do so with
any formatter; the program that stands by itself has none.
-/

namespace BotApi.CommandLine

/-- Why a run of the command fails. -/
inductive RunError (ρ : Type := Empty)
  | settings (issues : List Issue)
  | unknownLevel (name : String)
  | file (f : FileFault)
  | schema (e : Schema.LoadError)
  | build (e : Bindings.BuildError)
  | refused (reason : ρ)

/-- A run of the command: the threshold of the log once it is set, what the run failed with if it did, the
tree afterwards, and what was reported. -/
structure Run (ρ : Type := Empty) where
  threshold : Option Threshold
  error : Option (RunError ρ)
  tree : FileTree
  entries : List LogEntry

section

variable {ρ : Type}

/-- The failure of a run whose emission ends in a fault. -/
def RunError.ofFault : Package.Emission.Fault ρ → RunError ρ
  | .file f => .file f
  | .refused reason => .refused reason

/-- The wording of a level that is none. -/
def unknownLevelMessage (name : String) : String := "Unknown level: " ++ Text.quoted name

/-- The environment file in the working directory. -/
def environmentFile : PosixPath := .ofText ".env"

/-- The settings of a run, from the environment and the environment file. -/
def readSettings (environment : List (String × String)) (tree : FileTree) : Checked Settings :=
  Settings.ofSources ⟨[], environment, (tree.read environmentFile).toOption.toList, .standard⟩

/-- The threshold that the settings ask for, whatever the case of its name. -/
def readThreshold (settings : Settings) : Except (RunError ρ) Threshold :=
  let name := String.ofList (Unicode.upper settings.logLevel.toList)
  match Threshold.ofName? name with
  | some threshold => .ok threshold
  | none => .error (.unknownLevel name)

/-- The schema in the file that the settings name. -/
def readSchema (settings : Settings) (tree : FileTree) : Except (RunError ρ) Schema := do
  let text ← (tree.read settings.schemaPath).mapError .file
  (Schema.ofText text).mapError .schema

/-- Emits the package of a schema, once the log is set. -/
def generate (format : Package.Formatter ρ) (settings : Settings) (threshold : Threshold) (tree : FileTree) : Run ρ :=
  match readSchema settings tree with
  | .error e => ⟨threshold, some e, tree, []⟩
  | .ok schema =>
    let built := Bindings.build schema
    match built.result with
    | .error e => ⟨threshold, some (.build e), tree, built.entries⟩
    | .ok b =>
      let emission := Package.emitWith format b settings tree
      ⟨threshold, emission.fault.map .ofFault, emission.tree, built.entries ++ emission.entries⟩

/-- Runs the command in a working directory. -/
def runWith (format : Package.Formatter ρ) (environment : List (String × String)) (tree : FileTree) : Run ρ :=
  match readSettings environment tree with
  | .invalid issues => ⟨none, some (.settings issues), tree, []⟩
  | .valid settings =>
    match readThreshold settings with
    | .error e => ⟨none, some e, tree, []⟩
    | .ok threshold => generate format settings threshold tree

end

/-- Runs the command without a formatter. -/
def run (environment : List (String × String)) (tree : FileTree) : Run := runWith .plain environment tree

/-! ## Wording -/

/-- The wording of an issue and its place. -/
def issueMessage (i : Issue) : String :=
  let place := i.place.map fun
    | .key name => name
    | .index n => toString n
  ".".intercalate place ++ ": " ++ i.complaint.message

/-- The wording of a failure, line by line. -/
def RunError.lines : RunError → List String
  | .settings issues => issues.map issueMessage
  | .unknownLevel name => [unknownLevelMessage name]
  | .file .notFound => ["No such file or directory"]
  | .file .notDirectory => ["Not a directory"]
  | .file .isDirectory => ["Is a directory"]
  | .file .exists => ["File exists"]
  | .file .tooLong => ["File name too long"]
  | .file .nulInName => ["embedded null byte"]
  | .schema (.json e) => [e.message]
  | .schema (.invalid issues) => issues.map issueMessage
  | .build (.unresolved problems) => problems.map Unresolved.message
  | .build (.fault (.notAttribute type field)) => [type ++ ": no attribute " ++ Text.quoted field]
  | .build (.fault (.repeated type field)) => [type ++ ": repeated attribute " ++ Text.quoted field]
  | .build (.fault (.nulInName type)) => ["no name of a type: " ++ Text.quoted type]
  | .build (.fault (.clash type)) => [type ++ ": attributes that are one"]
  | .build (.fault (.notNormal type field)) => [type ++ ": no normal attribute " ++ Text.quoted field]
  | .build (.fault (.harm type field _)) => [type ++ ": reserved attribute " ++ Text.quoted field]

/-- The line of an entry in the log. -/
def logLine (e : LogEntry) : String :=
  e.level.name ++ " " ++ e.reporter.name ++ ": " ++ e.message

end BotApi.CommandLine
