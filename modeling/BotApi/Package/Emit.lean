import BotApi.FileTree
import BotApi.Package.Formatter
import BotApi.Package.Source
import BotApi.Settings.Basic

/-!
# Emitting the package

The package has a module for each type, one that gathers them, one for the methods, and an initial module
that is written only if none is there. Other files stay as they are. What was written before a fault stays
written.

A file is opened before its text is laid out, and opening empties it. So the file of a text that the formatter
refuses is left empty.
-/

namespace BotApi.Package

/-- Why operations end before the last of them: a file cannot be written, or the formatter refuses a text. -/
inductive Emission.Fault (ρ : Type)
  | file (f : FileFault)
  | refused (reason : ρ)

/-- A tree after some operations: the tree, the fault that ended them if there was one, and the entries. -/
structure Emission (ρ : Type := Empty) where
  tree : FileTree
  fault : Option (Emission.Fault ρ)
  entries : List LogEntry

namespace Emission

variable {ρ : Type}

/-- Where nothing is refused, a fault is that of a file. -/
def Fault.toFile : Fault Empty → FileFault
  | .file f => f

instance : Coe (Fault Empty) FileFault := ⟨Fault.toFile⟩

/-- An operation after those before it, unless they ended in a fault. -/
def next (e : Emission ρ) (f : FileTree → Except FileFault FileTree) : Emission ρ :=
  match e.fault with
  | some _ => e
  | none =>
    match f e.tree with
    | .ok tree => { e with tree }
    | .error fault => { e with fault := some (.file fault) }

/-- A refusal after the operations before it, unless they ended in a fault. -/
def refuse (e : Emission ρ) (reason : ρ) : Emission ρ :=
  match e.fault with
  | some _ => e
  | none => { e with fault := some (.refused reason) }

/-- A file that is opened and then written with a text, once that is laid out. -/
def save (e : Emission ρ) (layOut : String → Except ρ String) (path : PosixPath) (text : String) : Emission ρ :=
  let opened := e.next fun t => t.write path ""
  match layOut text with
  | .ok made => opened.next fun t => t.write path made
  | .error reason => opened.refuse reason

/-- A report on the operations before it, unless they ended in a fault. -/
def report (e : Emission ρ) (message : String) : Emission ρ :=
  match e.fault with
  | some _ => e
  | none => { e with entries := e.entries ++ [{ level := .info, reporter := .emitter, message }] }

end Emission

/-- The directory of the type modules. -/
def typesDir (settings : Settings) : PosixPath := settings.outputDir.append (.ofText "types")

/-- A file in a directory. -/
def fileIn (dir : PosixPath) (name : String) : PosixPath := dir.append (.ofText name)

/-- The file of the methods. -/
def methodsFile (settings : Settings) : PosixPath := fileIn settings.outputDir "methods.py"

/-- The initial module of the package. -/
def initFile (settings : Settings) : PosixPath := fileIn settings.outputDir "__init__.py"

/-- The type modules with their paths, and the module that gathers them. -/
def typeFiles (b : Bindings) (settings : Settings) : List (PosixPath × String) :=
  let dir := typesDir settings
  (b.types.values.map fun t => (fileIn dir (moduleName t.name ++ ".py"), typeModule settings.package t)) ++
    [(fileIn dir "__init__.py", typesInit b.types.values)]

/-- Writes the package below the output directory. The initial module is not laid out. -/
def emitWith {ρ : Type} (format : Formatter ρ) (b : Bindings) (settings : Settings) (tree : FileTree) : Emission ρ :=
  let layOut := format settings.lineLength
  let start : Emission ρ := (⟨tree, none, []⟩ : Emission ρ).next fun t => t.makeDirs (typesDir settings)
  let types := (typeFiles b settings).foldl (fun e f => e.save layOut f.1 f.2) start
  let types := types.report <|
    "Wrote " ++ toString (modules b.types.values).size ++ " type modules to " ++ (typesDir settings).toText
  let methods := types.save layOut (methodsFile settings) (methodsModule settings.package b.methods.values)
  let methods := methods.report <|
    "Wrote " ++ toString b.methods.size ++ " methods to " ++ (methodsFile settings).toText
  methods.next fun t =>
    if t.hasPath (initFile settings) then .ok t else t.write (initFile settings) (warning ++ "\n")

/-- Writes the package with its texts as they are. -/
def emit (b : Bindings) (settings : Settings) (tree : FileTree) : Emission := emitWith .plain b settings tree

end BotApi.Package
