import BotApi.Package.Emit
import BotApi.Proofs.FileTree.Overwriting
import BotApi.Proofs.Text.Snake

/-!
# Emission into a clear directory

Emission is a row of operations on a tree, and it ends with the first that fails. In a clear output directory there are
two things that can fail. A path may not fit, or the formatter may refuse a text. Otherwise nothing that is written
stands in the way of what is written later, for each file is below the output directory, and none is a directory that
another file passes. What the package then consists of is told by the list of its files, in the order in which they are
written, with their texts laid out.

## Main results

* `Emission.save_of_ok` — a file whose text the formatter takes is opened and written at once.
* `Emission.Gives.writes` — files are all written if their paths are ready and stay out of each other's way.
* `Own.ready`, `Own.apart` — the files of a package do so.
* `emit_gives` — the tree that emission into a clear directory gives.
* `fault_emit_eq_none_iff` — emission ends without a fault if all type modules have paths that fit and the formatter
  takes all texts, and only then.
-/

namespace BotApi.Package

open FileTree

/-! ## Rows of operations -/

namespace Emission

variable {ρ : Type} {e : Emission ρ} {tree made : FileTree} {f : FileTree → Except FileFault FileTree}
  {files : List (PosixPath × String)} {layOut : String → Except ρ String} {path : PosixPath} {text : String}

/-- Whether the operations up to here went without a fault, and what tree they gave. -/
structure Gives (e : Emission ρ) (tree : FileTree) : Prop where
  fault : e.fault = none
  tree : e.tree = tree

theorem Gives.next (h : e.Gives tree) (hf : f tree = .ok made) : (e.next f).Gives made := by
  obtain ⟨hfault, rfl⟩ := h
  rw [Emission.next, hfault, hf]
  exact ⟨rfl, rfl⟩

theorem fault_report (e : Emission ρ) (message : String) : (e.report message).fault = e.fault := by
  unfold report
  cases h : e.fault with
  | some fault => exact h
  | none => rfl

theorem Gives.report (h : e.Gives tree) (message : String) : (e.report message).Gives tree := by
  refine ⟨(fault_report e message).trans h.fault, ?_⟩
  rw [Emission.report, h.fault]
  exact h.tree

/-- A fault stays, and so there was none before if there is none after an operation. -/
theorem of_fault_next (h : (e.next f).fault = none) : e.fault = none ∧ ∃ made, f e.tree = .ok made := by
  unfold next at h
  cases hfault : e.fault with
  | some fault =>
    rw [hfault] at h
    dsimp only at h
    rw [hfault] at h
    cases h
  | none =>
    rw [hfault] at h
    cases hf : f e.tree with
    | ok made => exact ⟨rfl, made, rfl⟩
    | error fault =>
      rw [hf] at h
      cases h

/-- Files whose paths are ready are all written, if none is written to where another path leads through. -/
theorem Gives.writes (h : e.Gives tree) (hready : ∀ g ∈ files, tree.Ready g.1)
    (hapart : ∀ g ∈ files, ∀ g' ∈ files, target g.1 ∉ passed g'.1) :
    (files.foldl (fun e g => e.next fun t => t.write g.1 g.2) e).Gives (tree.putAll files) := by
  induction files generalizing e tree with
  | nil => exact h
  | cons g files ih =>
    have hmore : ∀ g' ∈ files, g' ∈ g :: files := fun _ hm => List.mem_cons_of_mem _ hm
    have hfirst : tree.write g.1 g.2 = .ok (tree.put (target g.1) g.2) :=
      write_eq_ok_iff.2 ⟨hready g (List.mem_cons_self ..), rfl⟩
    refine ih (h.next hfirst) (fun g' hm => ?_) fun g' hm g'' hm' => hapart g' (hmore g' hm) g'' (hmore g'' hm')
    exact (hready g' (hmore g' hm)).put (hapart g (List.mem_cons_self ..) g' (hmore g' hm)) g.2

/-! ### Texts that are laid out -/

/-- What a text is once it is laid out. Nothing is left of a text that is refused. -/
def laid (layOut : String → Except ρ String) (text : String) : String :=
  match layOut text with
  | .ok made => made
  | .error _ => ""

/-- Whether the formatter takes all texts of a row of files. -/
def Accepted (layOut : String → Except ρ String) (files : List (PosixPath × String)) : Prop :=
  ∀ f ∈ files, ∃ made, layOut f.2 = .ok made

/-- Files with their texts laid out. -/
def laidFiles (layOut : String → Except ρ String) (files : List (PosixPath × String)) : List (PosixPath × String) :=
  files.map fun f => (f.1, laid layOut f.2)

/-- A file whose text the formatter takes is opened and written at once. -/
theorem save_of_ok {made : String} (h : layOut text = .ok made) (e : Emission ρ) (path : PosixPath) :
    e.save layOut path text = e.next fun t => t.write path made := by
  rw [save, h]
  dsimp only
  unfold next
  cases hfault : e.fault with
  | some fault =>
    dsimp only
    rw [hfault]
  | none =>
    dsimp only
    cases hopened : e.tree.write path "" with
    | error fault => rw [write_eq_error hopened made]
    | ok opened =>
      dsimp only
      rw [write_write hopened made, write_eq_ok_iff.2 ⟨(write_eq_ok_iff.1 hopened).1, rfl⟩]

/-- The file of a text that the formatter refuses is opened, and nothing is written to it. -/
theorem save_of_error {reason : ρ} (h : layOut text = .error reason) (e : Emission ρ) (path : PosixPath) :
    e.save layOut path text = (e.next fun t => t.write path "").refuse reason := by
  rw [save, h]

theorem fault_refuse_ne_none (e : Emission ρ) (reason : ρ) : (e.refuse reason).fault ≠ none := by
  unfold refuse
  cases hfault : e.fault with
  | some fault =>
    dsimp only
    rw [hfault]
    exact Option.some_ne_none fault
  | none => exact Option.some_ne_none _

/-- Files whose texts the formatter takes are written as they are laid out. -/
theorem foldl_save (h : Accepted layOut files) (e : Emission ρ) :
    files.foldl (fun e f => e.save layOut f.1 f.2) e =
      (laidFiles layOut files).foldl (fun e f => e.next fun t => t.write f.1 f.2) e := by
  rw [laidFiles, List.foldl_map]
  induction files generalizing e with
  | nil => rfl
  | cons f files ih =>
    obtain ⟨⟨made, hmade⟩, hrest⟩ := List.forall_mem_cons.1 h
    rw [List.foldl_cons, List.foldl_cons, save_of_ok hmade, laid, hmade, ih hrest]

/-- If a file is saved without a fault, then there was none before, its path fits, and the formatter takes its text. -/
theorem of_fault_save (h : (e.save layOut path text).fault = none) :
    e.fault = none ∧ path.Fits ∧ ∃ made, layOut text = .ok made := by
  cases hmade : layOut text with
  | error reason =>
    rw [save_of_error hmade] at h
    exact absurd h (fault_refuse_ne_none _ reason)
  | ok made =>
    rw [save_of_ok hmade] at h
    obtain ⟨hfault, opened, hopened⟩ := of_fault_next h
    exact ⟨hfault, (write_eq_ok_iff.1 hopened).1.fits, made, rfl⟩

theorem of_fault_saves (h : (files.foldl (fun e f => e.save layOut f.1 f.2) e).fault = none) :
    e.fault = none ∧ (∀ f ∈ files, f.1.Fits) ∧ Accepted layOut files := by
  induction files generalizing e with
  | nil => exact ⟨h, by simp, by simp [Accepted]⟩
  | cons f files ih =>
    obtain ⟨hfirst, hfits, haccepted⟩ := ih h
    obtain ⟨hfault, hfit, hmade⟩ := of_fault_save hfirst
    exact ⟨hfault, List.forall_mem_cons.2 ⟨hfit, hfits⟩, List.forall_mem_cons.2 ⟨hmade, haccepted⟩⟩

end Emission

/-! ## The paths of a package -/

section

variable {name : String}

theorem fileIn_eq (h : '/' ∉ name.toList) (hne : name ≠ "") (hdot : name ≠ ".") (dir : PosixPath) :
    fileIn dir name = ⟨dir.root, dir.parts ++ [name]⟩ := by
  rw [fileIn, PosixPath.ofText_of_not_mem h hne hdot]
  rfl

/-- The name of the file of a module. -/
def moduleFile (type : String) : String := moduleName type ++ ".py"

theorem toList_moduleFile (type : String) : (moduleFile type).toList = (moduleName type).toList ++ ['.', 'p', 'y'] :=
  String.toList_append

theorem moduleFile_inj {type other : String} :
    moduleFile type = moduleFile other ↔ moduleName type = moduleName other := by
  rw [← String.toList_inj, toList_moduleFile, toList_moduleFile, List.append_left_inj, String.toList_inj]

/-- The name of a module file is longer than that of any directory that has a meaning of its own. -/
theorem moduleFile_ne (type : String) {other : String} (h : other.toList.length < 3) : moduleFile type ≠ other := by
  intro heq
  rw [← heq, toList_moduleFile, List.length_append] at h
  simp only [List.length_cons, List.length_nil] at h
  omega

/-- A module file of a type whose name is an identifier is one name in a directory. -/
theorem not_mem_moduleFile (h : Unicode.isIdentifier name.toList = true) : '/' ∉ (moduleFile name).toList := by
  rw [toList_moduleFile, List.mem_append, not_or]
  refine ⟨fun hm => ?_, by decide⟩
  exact Unicode.not_mem_of_isIdentifier rfl rfl h (Text.mem_of_mem_snake hm (by decide))

end

section

variable {settings : Settings}

theorem typesDir_eq (settings : Settings) :
    typesDir settings = ⟨settings.outputDir.root, settings.outputDir.parts ++ ["types"]⟩ :=
  fileIn_eq (by decide) (by decide) (by decide) settings.outputDir

theorem target_typesDir (settings : Settings) :
    target (typesDir settings) = target settings.outputDir ++ ["types"] := by
  rw [typesDir_eq, target_append _ _ (by decide)]

/-- The places of the directories that emission makes or finds. -/
def spots (settings : Settings) : List Place := passed (typesDir settings) ++ [target (typesDir settings)]

theorem mem_spots_iff {q : Place} :
    q ∈ spots settings ↔
      q ∈ passed settings.outputDir ∨ q = target settings.outputDir ∨ q = target settings.outputDir ++ ["types"] := by
  rw [spots, target_typesDir, typesDir_eq, passed_append, List.mem_append, List.mem_append, List.mem_singleton,
    List.mem_singleton, or_assoc]

/-- Whether a path is that of a file in the directory of type modules, or of one beside that directory. -/
inductive Own (settings : Settings) : PosixPath → Prop
  | inTypes (name : String) (h : name ≠ "..") :
    Own settings ⟨settings.outputDir.root, settings.outputDir.parts ++ ["types"] ++ [name]⟩
  | beside (name : String) (h : name ≠ "..") (hroot : name ≠ "/") (htypes : name ≠ "types") :
    Own settings ⟨settings.outputDir.root, settings.outputDir.parts ++ [name]⟩

namespace Own

variable {path other : PosixPath} {tree made : FileTree}

theorem below_target (h : Own settings path) : Below (target settings.outputDir) (target path) := by
  cases h with
  | inTypes name h =>
    rw [target_append _ _ h, target_append _ _ (by decide), List.append_assoc]
    exact below_append (by decide) (by decide) _ [name]
  | beside name h hroot =>
    rw [target_append _ _ h]
    exact below_append h hroot _ []

theorem mem_spots_of_mem_passed (h : Own settings path) {q : Place} (hq : q ∈ passed path) : q ∈ spots settings := by
  cases h with
  | inTypes name =>
    rw [passed_append, ← typesDir_eq] at hq
    exact hq
  | beside name =>
    rw [passed_append, List.mem_append, List.mem_singleton] at hq
    exact mem_spots_iff.2 (hq.imp_right .inl)

/-- No file of a package is written to where there is a directory of it. -/
theorem target_not_mem_spots (h : Own settings path) (hclear : tree.Clear settings.outputDir) :
    target path ∉ spots settings := by
  rw [mem_spots_iff, not_or, not_or]
  refine ⟨hclear.passedDirs _ h.below_target, fun heq => ?_, fun heq => ?_⟩
  · have hbelow := h.below_target
    rw [heq] at hbelow
    exact not_below_self _ hbelow
  · cases h with
    | inTypes name h =>
      rw [target_append _ _ h, target_append _ _ (by decide), List.append_assoc, List.append_cancel_left_eq] at heq
      cases heq
    | beside name h hroot htypes =>
      rw [target_append _ _ h, List.append_cancel_left_eq] at heq
      exact htypes (List.cons.inj heq).1

/-- The files of a package stay out of each other's way. -/
theorem apart (h : Own settings path) (hother : Own settings other) (hclear : tree.Clear settings.outputDir) :
    target path ∉ passed other :=
  fun hm => h.target_not_mem_spots hclear (hother.mem_spots_of_mem_passed hm)

/-- Once its directories are made, each file of a package can be written. -/
theorem ready (h : Own settings path) (hclear : tree.Clear settings.outputDir)
    (hmade : Widened tree made (spots settings)) (hfits : path.Fits) : made.Ready path := by
  refine ⟨hfits, fun q hq => ?_, ?_⟩
  · have hspot := h.mem_spots_of_mem_passed hq
    refine ⟨?_, (hmade.dirs q).2 (.inr hspot)⟩
    rw [hmade.hasFile]
    rcases mem_spots_iff.1 hspot with hpassed | rfl | rfl
    · exact hclear.passedFiles q hpassed
    · exact hclear.noFile
    · exact hclear.files _ (below_append (by decide) (by decide) _ [])
  · rw [← Bool.not_eq_true, hmade.dirs, not_or]
    refine ⟨?_, h.target_not_mem_spots hclear⟩
    rw [hclear.dirs _ h.below_target]
    exact Bool.false_ne_true

end Own

/-! ## What emission gives -/

variable {ρ : Type} {format : Formatter ρ} {layOut : String → Except ρ String} {b : Bindings} {tree made : FileTree}

theorem methodsFile_eq (settings : Settings) :
    methodsFile settings = ⟨settings.outputDir.root, settings.outputDir.parts ++ ["methods.py"]⟩ :=
  fileIn_eq (by decide) (by decide) (by decide) settings.outputDir

theorem initFile_eq (settings : Settings) :
    initFile settings = ⟨settings.outputDir.root, settings.outputDir.parts ++ ["__init__.py"]⟩ :=
  fileIn_eq (by decide) (by decide) (by decide) settings.outputDir

theorem target_methodsFile (settings : Settings) :
    target (methodsFile settings) = target settings.outputDir ++ ["methods.py"] := by
  rw [methodsFile_eq, target_append _ _ (by decide)]

theorem target_initFile (settings : Settings) :
    target (initFile settings) = target settings.outputDir ++ ["__init__.py"] := by
  rw [initFile_eq, target_append _ _ (by decide)]

/-- The module that gathers the types. -/
def gatherFile (settings : Settings) : PosixPath := fileIn (typesDir settings) "__init__.py"

theorem gatherFile_eq (settings : Settings) :
    gatherFile settings =
      ⟨settings.outputDir.root, settings.outputDir.parts ++ ["types"] ++ ["__init__.py"]⟩ := by
  rw [gatherFile, fileIn_eq (by decide) (by decide) (by decide), typesDir_eq]

/-- The module of a type. -/
def typeFile (settings : Settings) (type : String) : PosixPath := fileIn (typesDir settings) (moduleFile type)

theorem typeFile_eq {type : String} (h : Unicode.isIdentifier type.toList = true) :
    typeFile settings type =
      ⟨settings.outputDir.root, settings.outputDir.parts ++ ["types"] ++ [moduleFile type]⟩ := by
  rw [typeFile, fileIn_eq (not_mem_moduleFile h) (moduleFile_ne type (by decide)) (moduleFile_ne type (by decide)),
    typesDir_eq]

/-- The files whose texts are laid out, in the order in which they are written. -/
def drafts (b : Bindings) (settings : Settings) : List (PosixPath × String) :=
  typeFiles b settings ++ [(methodsFile settings, methodsModule settings.package b.methods.values)]

open Emission (laid laidFiles Accepted)

/-- The files of a package, in the order in which they are written. -/
def packageFiles (layOut : String → Except ρ String) (b : Bindings) (settings : Settings) :
    List (PosixPath × String) :=
  laidFiles layOut (drafts b settings) ++ [(initFile settings, warning ++ "\n")]

theorem packageFiles_eq (layOut : String → Except ρ String) (b : Bindings) (settings : Settings) :
    packageFiles layOut b settings =
      laidFiles layOut (typeFiles b settings) ++
        [(methodsFile settings, laid layOut (methodsModule settings.package b.methods.values)),
          (initFile settings, warning ++ "\n")] := by
  rw [packageFiles, drafts, laidFiles, List.map_append, List.append_assoc]
  rfl

theorem typeFiles_eq (b : Bindings) (settings : Settings) :
    typeFiles b settings =
      b.types.values.map (fun t => (typeFile settings t.name, typeModule settings.package t)) ++
        [(gatherFile settings, typesInit b.types.values)] := rfl

theorem own_methodsFile : Own settings (methodsFile settings) := by
  rw [methodsFile_eq]
  exact .beside _ (by decide) (by decide) (by decide)

theorem own_initFile : Own settings (initFile settings) := by
  rw [initFile_eq]
  exact .beside _ (by decide) (by decide) (by decide)

/-- What can be read of a file that can be written is whether it is there. -/
theorem hasPath_of_ready {path : PosixPath} (h : tree.Ready path) :
    tree.hasPath path = tree.hasFile (target path) := by
  rw [hasPath, find_eq_ok_iff.2 ⟨h.fits, h.opens, rfl⟩]
  dsimp only
  rw [h.free, Bool.false_or]

theorem gatherFile_mem_typeFiles (b : Bindings) (settings : Settings) :
    (gatherFile settings, typesInit b.types.values) ∈ typeFiles b settings := by
  rw [typeFiles_eq]
  exact List.mem_append_right _ (List.mem_singleton_self _)

theorem mem_packageFiles_of_mem_typeFiles {f : PosixPath × String} (hf : f ∈ typeFiles b settings) :
    (f.1, laid layOut f.2) ∈ packageFiles layOut b settings :=
  List.mem_append_left _ (List.mem_map.2 ⟨f, List.mem_append_left _ hf, rfl⟩)

theorem methodsFile_mem_packageFiles (layOut : String → Except ρ String) (b : Bindings) (settings : Settings) :
    (methodsFile settings, laid layOut (methodsModule settings.package b.methods.values)) ∈
      packageFiles layOut b settings :=
  List.mem_append_left _ (List.mem_map.2 ⟨_, List.mem_append_right _ (List.mem_singleton_self _), rfl⟩)

theorem initFile_mem_packageFiles (layOut : String → Except ρ String) (b : Bindings) (settings : Settings) :
    (initFile settings, warning ++ "\n") ∈ packageFiles layOut b settings :=
  List.mem_append_right _ (List.mem_singleton_self _)

/-- A file of a package is one of those that are laid out, or the initial module. -/
theorem cases_packageFiles {f : PosixPath × String} (hf : f ∈ packageFiles layOut b settings) :
    (∃ g ∈ typeFiles b settings, g.1 = f.1) ∨ f.1 = methodsFile settings ∨
      f = (initFile settings, warning ++ "\n") := by
  rw [packageFiles, laidFiles, drafts, List.mem_append, List.mem_map, List.mem_singleton] at hf
  rcases hf with ⟨g, hg, rfl⟩ | rfl
  · rw [List.mem_append, List.mem_singleton] at hg
    rcases hg with hg | rfl
    · exact .inl ⟨g, hg, rfl⟩
    · exact .inr (.inl rfl)
  · exact .inr (.inr rfl)

/-- The other files of a package have paths that are no longer than that of the module that gathers the types. -/
theorem fits_of_mem_packageFiles (hfits : ∀ f ∈ typeFiles b settings, f.1.Fits) :
    ∀ f ∈ packageFiles layOut b settings, f.1.Fits := by
  have hgather := hfits _ (gatherFile_mem_typeFiles b settings)
  dsimp only at hgather
  rw [gatherFile_eq, List.append_assoc] at hgather
  have hbeside : ∀ name ∈ ["methods.py", "__init__.py"],
      PosixPath.Fits ⟨settings.outputDir.root, settings.outputDir.parts ++ [name]⟩ := by
    intro name hname
    refine hgather.of_size_le ?_ nofun ?_ ?_ <;> revert name <;> decide
  intro f hf
  rcases cases_packageFiles hf with ⟨g, hg, hpath⟩ | hpath | rfl
  · rw [← hpath]
    exact hfits g hg
  · rw [hpath, methodsFile_eq]
    exact hbeside _ (by decide)
  · dsimp only
    rw [initFile_eq]
    exact hbeside _ (by decide)

/-- The directories of a package are made where the output directory is clear. -/
theorem exists_makeDirs_typesDir (hclear : tree.Clear settings.outputDir)
    (hfits : ∀ f ∈ typeFiles b settings, f.1.Fits) :
    ∃ made, tree.makeDirs (typesDir settings) = .ok made ∧ Widened tree made (spots settings) := by
  have hgather := hfits _ (gatherFile_mem_typeFiles b settings)
  dsimp only at hgather
  rw [gatherFile_eq] at hgather
  have hdir : (typesDir settings).Fits := by
    rw [typesDir_eq]
    exact hgather.of_append
  refine exists_makeDirs hdir (fun q hq => ?_) ?_
  · rw [typesDir_eq, passed_append, List.mem_append, List.mem_singleton] at hq
    rcases hq with hq | rfl
    · exact hclear.passedFiles q hq
    · exact hclear.noFile
  · rw [target_typesDir]
    exact hclear.files _ (below_append (by decide) (by decide) _ [])

section

variable (hnames : ∀ t ∈ b.types.values, Unicode.isIdentifier t.name.toList = true)

include hnames

theorem target_of_mem_typeFiles {f : PosixPath × String} (hf : f ∈ typeFiles b settings) :
    ∃ name, name ≠ ".." ∧
      f.1 = ⟨settings.outputDir.root, settings.outputDir.parts ++ ["types"] ++ [name]⟩ ∧
      target f.1 = target (typesDir settings) ++ [name] := by
  have hname : ∃ name, name ≠ ".." ∧
      f.1 = ⟨settings.outputDir.root, settings.outputDir.parts ++ ["types"] ++ [name]⟩ := by
    rw [typeFiles_eq, List.mem_append, List.mem_map, List.mem_singleton] at hf
    rcases hf with ⟨t, ht, rfl⟩ | rfl
    · refine ⟨moduleFile t.name, moduleFile_ne t.name (by decide), ?_⟩
      dsimp only
      rw [typeFile_eq (hnames t ht)]
    · exact ⟨"__init__.py", by decide, gatherFile_eq settings⟩
  obtain ⟨name, hne, hpath⟩ := hname
  refine ⟨name, hne, hpath, ?_⟩
  rw [hpath, target_append _ _ hne, typesDir_eq]

theorem own_of_mem_packageFiles {f : PosixPath × String} (hf : f ∈ packageFiles layOut b settings) :
    Own settings f.1 := by
  rcases cases_packageFiles hf with ⟨g, hg, hsame⟩ | hpath | rfl
  · obtain ⟨name, hne, hpath, -⟩ := target_of_mem_typeFiles hnames hg
    rw [← hsame, hpath]
    exact .inTypes name hne
  · rw [hpath]
    exact own_methodsFile
  · exact own_initFile

/-- What is written beside the type modules is not in the place of one of them. -/
theorem target_ne_of_mem_typeFiles {f : PosixPath × String} (hf : f ∈ typeFiles b settings) (name : String) :
    target f.1 ≠ target settings.outputDir ++ [name] := by
  obtain ⟨other, -, -, htarget⟩ := target_of_mem_typeFiles hnames hf
  rw [htarget, target_typesDir, List.append_assoc]
  intro heq
  cases List.append_cancel_left heq

/-- What is written before the initial module does not put a file in its place. -/
theorem hasFile_initFile_beside (made : FileTree) (text : String) :
    ((made.putAll (laidFiles layOut (typeFiles b settings))).put (target (methodsFile settings)) text).hasFile
      (target (initFile settings)) = made.hasFile (target (initFile settings)) := by
  have hne : target (initFile settings) ≠ target (methodsFile settings) := by
    rw [target_initFile, target_methodsFile, Ne, List.append_cancel_left_eq]
    decide
  have hthere : (made.putAll (laidFiles layOut (typeFiles b settings))).read? (target (initFile settings)) =
      made.read? (target (initFile settings)) := by
    refine read?_putAll_of_not_mem fun f hf => ?_
    obtain ⟨g, hg, rfl⟩ := List.mem_map.1 hf
    rw [target_initFile]
    exact target_ne_of_mem_typeFiles hnames hg _
  rw [hasFile_put, decide_eq_false hne, Bool.false_or, hasFile, hthere]
  rfl

/-- Emission into a clear directory makes the directories of the package and writes all of its files, if their paths fit
and the formatter takes their texts. -/
theorem emit_gives (hclear : tree.Clear settings.outputDir) (hfits : ∀ f ∈ typeFiles b settings, f.1.Fits)
    (haccepted : Accepted (format settings.lineLength) (drafts b settings)) :
    ∃ made, Widened tree made (spots settings) ∧
      (emitWith format b settings tree).Gives (made.putAll (packageFiles (format settings.lineLength) b settings)) := by
  obtain ⟨made, hmade, hwide⟩ := exists_makeDirs_typesDir hclear hfits
  have hown := fun f hf => @own_of_mem_packageFiles settings ρ (format settings.lineLength) b hnames f hf
  have hready : ∀ f ∈ packageFiles (format settings.lineLength) b settings, made.Ready f.1 := fun f hf =>
    (hown f hf).ready hclear hwide (fits_of_mem_packageFiles hfits f hf)
  have hapart : ∀ f ∈ packageFiles (format settings.lineLength) b settings,
      ∀ g ∈ packageFiles (format settings.lineLength) b settings, target f.1 ∉ passed g.1 :=
    fun f hf g hg => (hown f hf).apart (hown g hg) hclear
  have htypesIn : ∀ f ∈ laidFiles (format settings.lineLength) (typeFiles b settings),
      f ∈ packageFiles (format settings.lineLength) b settings := by
    intro f hf
    obtain ⟨g, hg, rfl⟩ := List.mem_map.1 hf
    exact mem_packageFiles_of_mem_typeFiles hg
  have hmethodsIn := methodsFile_mem_packageFiles (format settings.lineLength) b settings
  have hinitIn := initFile_mem_packageFiles (format settings.lineLength) b settings
  obtain ⟨htaken, hmethodsTaken⟩ := List.forall_mem_append.1 haccepted
  obtain ⟨text, htext⟩ := hmethodsTaken _ (List.mem_singleton_self _)
  have hlaid : laid (format settings.lineLength) (methodsModule settings.package b.methods.values) = text := by
    rw [laid, htext]
  refine ⟨made, hwide, ?_⟩
  -- the type modules and the module that gathers them
  have hstart : (⟨tree, none, []⟩ : Emission ρ).Gives tree := ⟨rfl, rfl⟩
  have htypes := (hstart.next (f := fun t => t.makeDirs (typesDir settings)) hmade).writes
    (fun f hf => hready f (htypesIn f hf)) fun f hf g hg => hapart f (htypesIn f hf) g (htypesIn g hg)
  rw [← Emission.foldl_save htaken] at htypes
  -- the methods
  have hmethodsReady := (hready _ hmethodsIn).putAll fun f hf => hapart f (htypesIn f hf) _ hmethodsIn
  have hmethods := write_eq_ok_iff.2 ⟨hmethodsReady, Eq.refl (put _ _ text)⟩
  -- the initial module, which is not there yet
  have hinitReady := ((hready _ hinitIn).putAll fun f hf => hapart f (htypesIn f hf) _ hinitIn).put
    (hapart _ hmethodsIn _ hinitIn) text
  have hnew : ((made.putAll (laidFiles (format settings.lineLength) (typeFiles b settings))).put
      (target (methodsFile settings)) text).hasPath (initFile settings) = false := by
    rw [hasPath_of_ready hinitReady, hasFile_initFile_beside hnames]
    exact (hwide.hasFile _).trans (hclear.files _ own_initFile.below_target)
  unfold emitWith
  dsimp only
  rw [Emission.save_of_ok htext]
  refine Emission.Gives.next (.report (.next (.report htypes _) hmethods) _) ?_
  rw [hnew, if_neg Bool.false_ne_true, packageFiles_eq, putAll_append, hlaid]
  exact write_eq_ok_iff.2 ⟨hinitReady, rfl⟩

/-- Emission into a clear directory ends without a fault if all files among the type modules have paths that fit and the
formatter takes all texts, and only then. -/
theorem fault_emit_eq_none_iff (hclear : tree.Clear settings.outputDir) :
    (emitWith format b settings tree).fault = none ↔
      (∀ f ∈ typeFiles b settings, f.1.Fits) ∧ Accepted (format settings.lineLength) (drafts b settings) := by
  constructor
  · intro h
    -- each operation went well, and with it those before it
    unfold emitWith at h
    dsimp only at h
    have hmethods := (Emission.of_fault_next h).1
    rw [Emission.fault_report] at hmethods
    obtain ⟨htypes, -, hmade⟩ := Emission.of_fault_save hmethods
    rw [Emission.fault_report] at htypes
    obtain ⟨-, hfits, haccepted⟩ := Emission.of_fault_saves htypes
    exact ⟨hfits, List.forall_mem_append.2 ⟨haccepted, List.forall_mem_singleton.2 hmade⟩⟩
  · rintro ⟨hfits, haccepted⟩
    obtain ⟨made, -, hgives⟩ := emit_gives hnames hclear hfits haccepted
    exact hgives.fault

end

end

end BotApi.Package
