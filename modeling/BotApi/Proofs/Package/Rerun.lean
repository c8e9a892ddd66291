import BotApi.Proofs.FileTree.Overwriting
import BotApi.Proofs.Package.TypeModules
import Mathlib.Logic.Function.Iterate

/-!
# Emission over an earlier package

Nothing is assumed here about what is below the output directory, nor about the formatter. There may be other files, an
earlier package, or a directory in the place of a module, which ends the emission; or the formatter refuses a text, and
its file is left empty. In each case the files of the package are written in their order up to the first that cannot be,
or that was refused, and nothing else is. The same files can be written again, so a second emission writes them again
and ends in the same place; the initial module is there by then and is left as it is.

## Main results

* `Emission.Writes.save` — what one more file does to a row of files that is written as far as possible.
* `emit_writes` — emission writes the files that it means to write, up to the first that cannot be written.
* `tree_emit_emit` — a second emission leaves the tree that the first one left.
* `emission_is_idempotent` — so does any number of them, other files stay, and what is written does not depend on what
  was there, unless a directory ends the emission between two files of one path.
-/

namespace BotApi.Package

open FileTree

/-! ## Rows of operations that may fail -/

namespace Emission

variable {ρ : Type} {e : Emission ρ} {layOut : String → Except ρ String} {made : FileTree}
  {row more : List (PosixPath × Except ρ String)} {files : List (PosixPath × String)}

/-- What the files of a row hold if all of them can be written: their texts, up to the first that was refused. Of that
one nothing is left. -/
def attempted : List (PosixPath × Except ρ String) → List (PosixPath × String)
  | [] => []
  | (path, .ok text) :: rest => (path, text) :: attempted rest
  | (path, .error _) :: _ => [(path, "")]

/-- Whether no text of a row was refused. -/
def Settled (row : List (PosixPath × Except ρ String)) : Prop := ∀ f ∈ row, ∃ text, f.2 = .ok text

/-- A row of files with what the formatter makes of their texts. -/
def laying (layOut : String → Except ρ String) (files : List (PosixPath × String)) :
    List (PosixPath × Except ρ String) :=
  files.map fun f => (f.1, layOut f.2)

theorem settled_laying_iff : Settled (laying layOut files) ↔ Accepted layOut files := List.forall_mem_map

theorem attempted_append_of_settled (h : Settled row) (more : List (PosixPath × Except ρ String)) :
    attempted (row ++ more) = attempted row ++ attempted more := by
  induction row with
  | nil => rfl
  | cons f row ih =>
    obtain ⟨⟨text, htext⟩, hrest⟩ := List.forall_mem_cons.1 h
    obtain ⟨path, result⟩ := f
    obtain rfl : result = .ok text := htext
    rw [List.cons_append, attempted, attempted, ih hrest, List.cons_append]

theorem attempted_append_of_not_settled (h : ¬ Settled row) (more : List (PosixPath × Except ρ String)) :
    attempted (row ++ more) = attempted row := by
  induction row with
  | nil => exact absurd (fun f hf => nomatch hf) h
  | cons f row ih =>
    obtain ⟨path, result⟩ := f
    cases result with
    | error reason => rfl
    | ok text =>
      have hrest : ¬ Settled row := fun hrow => h (List.forall_mem_cons.2 ⟨⟨text, rfl⟩, hrow⟩)
      rw [List.cons_append, attempted, attempted, ih hrest]

theorem attempted_laying (h : Accepted layOut files) : attempted (laying layOut files) = laidFiles layOut files := by
  induction files with
  | nil => rfl
  | cons f files ih =>
    obtain ⟨⟨text, htext⟩, hrest⟩ := List.forall_mem_cons.1 h
    have hcons : laying layOut (f :: files) = (f.1, .ok text) :: laying layOut files := by
      rw [laying, List.map_cons, htext, ← laying]
    rw [hcons, attempted, ih hrest, laidFiles, laidFiles, List.map_cons, laid, htext]

theorem attempted_laying_singleton (layOut : String → Except ρ String) (path : PosixPath) (text : String) :
    attempted [(path, layOut text)] = [(path, laid layOut text)] := by
  unfold laid
  cases layOut text <;> rfl

theorem exists_of_mem_attempted {f : PosixPath × String} (hf : f ∈ attempted row) : ∃ g ∈ row, g.1 = f.1 := by
  induction row with
  | nil => cases hf
  | cons g row ih =>
    obtain ⟨path, result⟩ := g
    cases result with
    | error reason => exact ⟨_, List.mem_cons_self, (congrArg Prod.fst (List.mem_singleton.1 hf)).symm⟩
    | ok text =>
      rcases List.mem_cons.1 hf with rfl | hf
      · exact ⟨_, List.mem_cons_self, rfl⟩
      · obtain ⟨g, hg, hpath⟩ := ih hf
        exact ⟨g, List.mem_cons_of_mem _ hg, hpath⟩

/-- What is attempted of files whose texts are laid out is among the files laid out. -/
theorem mem_laidFiles_of_mem_attempted {f : PosixPath × String} (hf : f ∈ attempted (laying layOut files)) :
    f ∈ laidFiles layOut files := by
  induction files with
  | nil => cases hf
  | cons g files ih =>
    have hlaid : laidFiles layOut (g :: files) = (g.1, laid layOut g.2) :: laidFiles layOut files := rfl
    have hcons : laying layOut (g :: files) = (g.1, layOut g.2) :: laying layOut files := rfl
    rw [hlaid, laid]
    rw [hcons] at hf
    cases hmade : layOut g.2 with
    | error reason =>
      rw [hmade] at hf
      exact List.mem_cons.2 (.inl (List.mem_singleton.1 hf))
    | ok text =>
      rw [hmade] at hf
      exact List.mem_cons.2 ((List.mem_cons.1 hf).imp_right ih)

/-- Whether no file stood in the way of the operations up to here. -/
def Unblocked (e : Emission ρ) : Prop := ∀ fault, e.fault ≠ some (.file fault)

/-- Whether the operations up to here wrote the files of a row up to the first that cannot be written or was refused,
and all of them if there was no fault. -/
structure Writes (e : Emission ρ) (made : FileTree) (row : List (PosixPath × Except ρ String)) : Prop where
  tree : e.tree = made.putAll (made.taken (attempted row))
  unblocked : e.Unblocked ↔ made.taken (attempted row) = attempted row
  fault : e.fault = none ↔ made.taken (attempted row) = attempted row ∧ Settled row

theorem unblocked_of_fault_eq_none (h : e.fault = none) : e.Unblocked := by
  intro fault
  rw [h]
  exact (Option.some_ne_none _).symm

/-! ### Operations after a fault -/

section

variable (hfault : e.fault ≠ none)

include hfault

theorem next_of_fault (f : FileTree → Except FileFault FileTree) : e.next f = e := by
  unfold next
  cases h : e.fault with
  | some fault => rfl
  | none => exact absurd h hfault

theorem report_of_fault (message : String) : e.report message = e := by
  unfold report
  cases h : e.fault with
  | some fault => rfl
  | none => exact absurd h hfault

theorem refuse_of_fault (reason : ρ) : e.refuse reason = e := by
  unfold refuse
  cases h : e.fault with
  | some fault => rfl
  | none => exact absurd h hfault

theorem save_of_fault (layOut : String → Except ρ String) (path : PosixPath) (text : String) :
    e.save layOut path text = e := by
  cases hmade : layOut text with
  | ok made => rw [save_of_ok hmade, next_of_fault hfault]
  | error reason => rw [save_of_error hmade, next_of_fault hfault, refuse_of_fault hfault]

theorem saves_of_fault (layOut : String → Except ρ String) (files : List (PosixPath × String)) :
    files.foldl (fun e f => e.save layOut f.1 f.2) e = e := by
  induction files with
  | nil => rfl
  | cons f files ih => rw [List.foldl_cons, save_of_fault hfault, ih]

end

namespace Writes

theorem of_gives (h : e.Gives made) : e.Writes made [] :=
  ⟨h.tree, iff_of_true (unblocked_of_fault_eq_none h.fault) rfl, iff_of_true h.fault ⟨rfl, nofun⟩⟩

theorem report (h : e.Writes made row) (message : String) : (e.report message).Writes made row := by
  have hsame : (e.report message).tree = e.tree := by
    unfold Emission.report
    cases e.fault <;> rfl
  exact ⟨hsame.trans h.tree, by rw [Unblocked, fault_report, ← Unblocked, h.unblocked], by rw [fault_report, h.fault]⟩

theorem asOpen (h : e.Writes made row) : AsOpen made e.tree := by
  rw [h.tree]
  exact (AsOpen.refl made).putAll fun f hf => ready_of_mem_taken hf

/-- After a fault nothing is written. -/
theorem of_fault (h : e.Writes made row) (hfault : e.fault ≠ none) (more : List (PosixPath × Except ρ String)) :
    e.Writes made (row ++ more) := by
  by_cases hsettled : Settled row
  · have hne : made.taken (attempted row) ≠ attempted row := fun hall => hfault (h.fault.2 ⟨hall, hsettled⟩)
    have htaken := taken_append_of_ne hne (attempted more)
    have hmore : made.taken (attempted row ++ attempted more) ≠ attempted row ++ attempted more := by
      -- what was written would be the whole row, and more
      intro hall
      have hinitial : attempted row <+: made.taken (attempted row) := by
        rw [← htaken, hall]
        exact List.prefix_append _ _
      exact hne (hinitial.eq_of_length (Nat.le_antisymm hinitial.length_le (length_taken_le _ _))).symm
    rw [← attempted_append_of_settled hsettled] at htaken hmore
    exact ⟨by rw [htaken, h.tree], iff_of_false (mt h.unblocked.1 hne) hmore,
      iff_of_false hfault fun hall => hmore hall.1⟩
  · have hrow := attempted_append_of_not_settled hsettled more
    refine ⟨by rw [hrow, h.tree], by rw [hrow, h.unblocked], iff_of_false hfault fun hall => hsettled fun f hf => ?_⟩
    exact hall.2 f (List.mem_append_left _ hf)

/-- Without a fault up to here, the next file is opened if it can be. -/
theorem next_write (h : e.Writes made row) (hfault : e.fault = none) (f : PosixPath × String) :
    (e.next fun t => t.write f.1 f.2).tree = made.putAll (made.taken (attempted row ++ [f])) ∧
      (((e.next fun t => t.write f.1 f.2).fault = none ∧ made.taken (attempted row ++ [f]) = attempted row ++ [f]) ∨
        ((∃ fault, (e.next fun t => t.write f.1 f.2).fault = some (.file fault)) ∧
          made.taken (attempted row ++ [f]) ≠ attempted row ++ [f])) := by
  have hall := (h.fault.1 hfault).1
  have htakes := h.asOpen.takes_eq f.1
  have htaken := taken_append_of_eq hall [f]
  rw [taken_singleton] at htaken
  rw [next, hfault]
  cases hf : made.takes f.1 with
  | true =>
    rw [hf] at htakes
    rw [hf, if_pos rfl] at htaken
    rw [write_of_takes htakes]
    refine ⟨?_, .inl ⟨rfl, htaken⟩⟩
    rw [htaken, putAll_append, h.tree, hall]
    rfl
  | false =>
    rw [hf] at htakes
    rw [hf, if_neg Bool.false_ne_true, List.append_nil] at htaken
    obtain ⟨fault, hwrite⟩ := exists_write_eq_error htakes f.2
    rw [hwrite]
    refine ⟨by rw [htaken, h.tree, hall], .inr ⟨⟨fault, rfl⟩, fun heq => ?_⟩⟩
    rw [htaken] at heq
    simpa using congrArg List.length heq

/-- One more file is written if it can be, and left empty if its text is refused. -/
theorem save (h : e.Writes made row) (layOut : String → Except ρ String) (path : PosixPath) (text : String) :
    (e.save layOut path text).Writes made (row ++ [(path, layOut text)]) := by
  by_cases hfault : e.fault = none
  · have hsettled := (h.fault.1 hfault).2
    have hrow := attempted_append_of_settled hsettled [(path, layOut text)]
    rw [attempted_laying_singleton] at hrow
    obtain ⟨htree, hend⟩ := h.next_write hfault (path, laid layOut text)
    rw [← hrow] at htree hend
    -- where a file stands in the way, nothing comes after it
    have hblocked : ∀ {fault}, (e.next fun t => t.write path (laid layOut text)).fault = some (.file fault) →
        made.taken (attempted (row ++ [(path, layOut text)])) ≠ attempted (row ++ [(path, layOut text)]) →
        (e.next fun t => t.write path (laid layOut text)).Writes made (row ++ [(path, layOut text)]) := by
      intro fault hfile hne
      refine ⟨htree, iff_of_false (fun hunblocked => hunblocked fault hfile) hne,
        iff_of_false ?_ fun hall => hne hall.1⟩
      rw [hfile]
      exact Option.some_ne_none _
    cases hmade : layOut text with
    | ok result =>
      have hlaid : laid layOut text = result := by rw [laid, hmade]
      have hmore : Settled (row ++ [(path, layOut text)]) :=
        List.forall_mem_append.2 ⟨hsettled, List.forall_mem_singleton.2 ⟨result, hmade⟩⟩
      rw [save_of_ok hmade, ← hmade, ← hlaid]
      rcases hend with ⟨hnone, hall⟩ | ⟨⟨fault, hfile⟩, hne⟩
      · exact ⟨htree, iff_of_true (unblocked_of_fault_eq_none hnone) hall, iff_of_true hnone ⟨hall, hmore⟩⟩
      · exact hblocked hfile hne
    | error reason =>
      have hlaid : laid layOut text = "" := by rw [laid, hmade]
      have hmore : ¬ Settled (row ++ [(path, layOut text)]) := by
        intro hall
        obtain ⟨result, hresult⟩ := hall _ (List.mem_append_right _ (List.mem_singleton_self _))
        rw [show (path, layOut text).2 = layOut text from rfl, hmade] at hresult
        cases hresult
      rw [save_of_error hmade, ← hmade, ← hlaid]
      rcases hend with ⟨hnone, hall⟩ | ⟨⟨fault, hfile⟩, hne⟩
      · have hrefuse : (e.next fun t => t.write path (laid layOut text)).refuse reason =
            { (e.next fun t => t.write path (laid layOut text)) with fault := some (.refused reason) } := by
          rw [refuse, hnone]
        rw [hrefuse]
        refine ⟨htree, iff_of_true (fun fault => ?_) hall, iff_of_false ?_ fun hdone => hmore hdone.2⟩
        · intro heq
          cases heq
        · exact Option.some_ne_none _
      · rw [refuse_of_fault (by rw [hfile]; exact Option.some_ne_none _)]
        exact hblocked hfile hne
  · rw [save_of_fault hfault]
    exact h.of_fault hfault _

/-- A file that is to be written if it is not there yet. No file up to here is in its place. -/
theorem provide (h : e.Writes made row) {f : PosixPath × String} (hnew : ∀ g ∈ row, target g.1 ≠ target f.1) :
    (e.next fun t => if t.hasPath f.1 then .ok t else t.write f.1 f.2).Writes made
      (row ++ if made.hasPath f.1 then [] else [(f.1, .ok f.2)]) := by
  have hplaces : ∀ g ∈ made.taken (attempted row), target g.1 ≠ target f.1 := by
    intro g hg
    obtain ⟨other, hother, hpath⟩ := exists_of_mem_attempted (mem_of_mem_taken hg)
    rw [← hpath]
    exact hnew other hother
  have hfile : e.tree.hasFile (target f.1) = made.hasFile (target f.1) := by
    rw [h.tree, hasFile, read?_putAll_of_not_mem hplaces, hasFile]
  have hpath := h.asOpen.hasPath_eq hfile
  cases hthere : made.hasPath f.1 with
  | true =>
    rw [hthere] at hpath
    have hsame : (e.next fun t => if t.hasPath f.1 then .ok t else t.write f.1 f.2) = e := by
      rw [next, hpath, if_pos rfl]
      cases e with
      | mk tree fault entries => cases fault <;> rfl
    rw [hsame, if_pos rfl, List.append_nil]
    exact h
  | false =>
    rw [hthere] at hpath
    -- a text that is not laid out is taken as it is
    have hsame : (e.next fun t => if t.hasPath f.1 then .ok t else t.write f.1 f.2) = e.save .ok f.1 f.2 := by
      rw [save_of_ok rfl, next, next, hpath, if_neg Bool.false_ne_true]
    rw [hsame, if_neg Bool.false_ne_true]
    exact h.save .ok f.1 f.2

theorem saves (h : e.Writes made row) (layOut : String → Except ρ String) (files : List (PosixPath × String)) :
    (files.foldl (fun e f => e.save layOut f.1 f.2) e).Writes made (row ++ laying layOut files) := by
  induction files generalizing e row with
  | nil =>
    rw [laying, List.map_nil, List.append_nil]
    exact h
  | cons f files ih =>
    rw [laying, List.map_cons, List.append_cons]
    exact ih (h.save layOut f.1 f.2)

end Writes

end Emission

/-! ## The files that emission means to write -/

open Emission (laid laidFiles Accepted attempted Settled laying)

section

variable {ρ : Type} {format : Formatter ρ} {layOut : String → Except ρ String} {b : Bindings} {settings : Settings}
  {tree made : FileTree}

/-- The files to be written to a tree with the directories of the package, in their order, with what the formatter makes
of their texts. -/
def wanted (layOut : String → Except ρ String) (b : Bindings) (settings : Settings) (made : FileTree) :
    List (PosixPath × Except ρ String) :=
  laying layOut (drafts b settings) ++
    if made.hasPath (initFile settings) then [] else [(initFile settings, .ok (warning ++ "\n"))]

/-- The files that emission writes, up to the first that cannot be written or is left empty. There are none if the
directories of the package cannot be made. -/
def written (layOut : String → Except ρ String) (b : Bindings) (settings : Settings) (tree : FileTree) :
    List (PosixPath × String) :=
  match tree.makeDirs (typesDir settings) with
  | .ok made => made.taken (attempted (wanted layOut b settings made))
  | .error _ => []

/-- Whether emission comes to write the initial module. -/
structure Provides (layOut : String → Except ρ String) (b : Bindings) (settings : Settings) (made : FileTree) :
    Prop where
  accepted : Accepted layOut (drafts b settings)
  row : made.taken (laidFiles layOut (drafts b settings)) = laidFiles layOut (drafts b settings)
  missing : made.hasPath (initFile settings) = false
  ready : made.Ready (initFile settings)

namespace Provides

variable (h : Provides layOut b settings made)

include h

theorem attempted_eq : attempted (wanted layOut b settings made) = packageFiles layOut b settings := by
  rw [wanted, h.missing, if_neg Bool.false_ne_true,
    Emission.attempted_append_of_settled (Emission.settled_laying_iff.2 h.accepted),
    Emission.attempted_laying h.accepted, packageFiles]
  rfl

theorem taken_eq : made.taken (packageFiles layOut b settings) = packageFiles layOut b settings := by
  rw [packageFiles, taken_append_of_eq h.row, taken_singleton, takes_iff.2 h.ready, if_pos rfl]

theorem hasFile_eq : made.hasFile (target (initFile settings)) = false := by
  rw [← hasPath_of_ready h.ready, h.missing]

/-- Once the initial module is written, it is not written again. -/
theorem wanted_putAll :
    wanted layOut b settings (made.putAll (packageFiles layOut b settings)) = laying layOut (drafts b settings) := by
  have hopen : AsOpen made (made.putAll (packageFiles layOut b settings)) :=
    (AsOpen.refl made).putAll fun f hf => ready_of_mem_taken (h.taken_eq.symm ▸ hf)
  have hthere : (made.putAll (packageFiles layOut b settings)).hasPath (initFile settings) = true := by
    rw [hasPath_of_ready (hopen.ready_iff.2 h.ready), packageFiles, putAll_append]
    exact hasFile_put.trans (by rw [decide_eq_true rfl, Bool.true_or])
  rw [wanted, hthere, if_pos rfl, List.append_nil]

end Provides

/-- Where no file is put in the place of the initial module, emission means to write the same files again. -/
theorem wanted_putAll_of_forall_ne {files : List (PosixPath × String)} (hready : ∀ f ∈ files, made.Ready f.1)
    (hne : ∀ f ∈ files, target f.1 ≠ target (initFile settings)) :
    wanted layOut b settings (made.putAll files) = wanted layOut b settings made := by
  have hfile : (made.putAll files).hasFile (target (initFile settings)) =
      made.hasFile (target (initFile settings)) := by
    rw [hasFile, read?_putAll_of_not_mem hne, hasFile]
  rw [wanted, ((AsOpen.refl made).putAll hready).hasPath_eq hfile, ← wanted]

theorem parts_typesDir (settings : Settings) : (typesDir settings).parts ≠ [] := by
  rw [typesDir_eq]
  simp

/-- The text of the last file of a package in a place, if all files are written that can be laid out. -/
def lastText (layOut : String → Except ρ String) (b : Bindings) (settings : Settings) (q : Place) : Option String :=
  Entries.find? q (placed (attempted
    (laying layOut (drafts b settings) ++ [(initFile settings, .ok (warning ++ "\n"))]))).reverse

/-- Whether all files of a package in a place have one text, once they are laid out. -/
def OneText (layOut : String → Except ρ String) (b : Bindings) (settings : Settings) (q : Place) : Prop :=
  ∀ f ∈ packageFiles layOut b settings, ∀ g ∈ packageFiles layOut b settings,
    target f.1 = q → target g.1 = q → f.2 = g.2

theorem mem_packageFiles_of_mem_written {f : PosixPath × String} (hf : f ∈ written layOut b settings tree) :
    f ∈ packageFiles layOut b settings := by
  unfold written at hf
  cases hmade : tree.makeDirs (typesDir settings) with
  | error fault =>
    rw [hmade] at hf
    cases hf
  | ok made =>
    rw [hmade] at hf
    have hwanted := mem_of_mem_taken hf
    rw [wanted] at hwanted
    rw [packageFiles, List.mem_append]
    by_cases hsettled : Settled (laying layOut (drafts b settings))
    · rw [Emission.attempted_append_of_settled hsettled, List.mem_append] at hwanted
      refine hwanted.imp Emission.mem_laidFiles_of_mem_attempted fun hinit => ?_
      split at hinit
      · cases hinit
      · exact hinit
    · rw [Emission.attempted_append_of_not_settled hsettled] at hwanted
      exact .inl (Emission.mem_laidFiles_of_mem_attempted hwanted)

theorem target_of_mem_packageFiles {f : PosixPath × String} (hf : f ∈ packageFiles layOut b settings) :
    (∃ t ∈ b.types.values, target f.1 = target (typeFile settings t.name)) ∨
      target f.1 = target (gatherFile settings) ∨ target f.1 = target (methodsFile settings) ∨
      target f.1 = target (initFile settings) := by
  rcases cases_packageFiles hf with ⟨g, hg, hpath⟩ | hpath | rfl
  · rw [← hpath]
    rw [typeFiles_eq, List.mem_append, List.mem_map, List.mem_singleton] at hg
    rcases hg with ⟨t, ht, rfl⟩ | rfl
    · dsimp only
      exact .inl ⟨t, ht, rfl⟩
    · exact .inr (.inl rfl)
  · exact .inr (.inr (.inl (congrArg target hpath)))
  · exact .inr (.inr (.inr rfl))

/-- Where the directories of the package cannot be made, nothing is written. -/
theorem emit_of_makeDirs_eq_error {fault : FileFault} (hfault : tree.makeDirs (typesDir settings) = .error fault) :
    emitWith format b settings tree = ⟨tree, some (.file fault), []⟩ := by
  have hstart : ((⟨tree, none, []⟩ : Emission ρ).next fun t => t.makeDirs (typesDir settings)) =
      ⟨tree, some (.file fault), []⟩ := by
    rw [Emission.next, hfault]
  have hsome : (⟨tree, some (.file fault), []⟩ : Emission ρ).fault ≠ none := Option.some_ne_none _
  unfold emitWith
  dsimp only
  rw [hstart, Emission.saves_of_fault hsome, Emission.report_of_fault hsome, Emission.save_of_fault hsome,
    Emission.report_of_fault hsome, Emission.next_of_fault hsome]

section

variable (hnames : ∀ t ∈ b.types.values, Unicode.isIdentifier t.name.toList = true)

include hnames

/-- The initial module is in the place of no other file of the package. -/
theorem target_ne_of_mem_drafts {f : PosixPath × String} (hf : f ∈ drafts b settings) :
    target f.1 ≠ target (initFile settings) := by
  rw [drafts, List.mem_append, List.mem_singleton] at hf
  rcases hf with hf | rfl
  · rw [target_initFile]
    exact target_ne_of_mem_typeFiles hnames hf _
  · rw [target_methodsFile, target_initFile, Ne, List.append_cancel_left_eq]
    decide

theorem target_ne_of_mem_laying {f : PosixPath × Except ρ String} (hf : f ∈ laying layOut (drafts b settings)) :
    target f.1 ≠ target (initFile settings) := by
  obtain ⟨g, hg, rfl⟩ := List.mem_map.1 hf
  exact target_ne_of_mem_drafts hnames hg

theorem target_ne_of_mem_attempted {f : PosixPath × String} (hf : f ∈ attempted (laying layOut (drafts b settings))) :
    target f.1 ≠ target (initFile settings) := by
  obtain ⟨g, hg, hpath⟩ := Emission.exists_of_mem_attempted hf
  rw [← hpath]
  exact target_ne_of_mem_laying hnames hg

/-- Emission writes the files that it means to write, up to the first that cannot be written. -/
theorem emit_writes (hmade : tree.makeDirs (typesDir settings) = .ok made) :
    (emitWith format b settings tree).Writes made (wanted (format settings.lineLength) b settings made) := by
  have hstart : (⟨tree, none, []⟩ : Emission ρ).Gives tree := ⟨rfl, rfl⟩
  have hdirs := Emission.Writes.of_gives (hstart.next (f := fun t => t.makeDirs (typesDir settings)) hmade)
  have htypes := (hdirs.saves (format settings.lineLength) (typeFiles b settings)).report <|
    "Wrote " ++ toString (modules b.types.values).size ++ " type modules to " ++ (typesDir settings).toText
  have hmethods := (htypes.save (format settings.lineLength) (methodsFile settings)
    (methodsModule settings.package b.methods.values)).report <|
    "Wrote " ++ toString b.methods.size ++ " methods to " ++ (methodsFile settings).toText
  have hrow : [] ++ laying (format settings.lineLength) (typeFiles b settings) ++
      [(methodsFile settings, format settings.lineLength (methodsModule settings.package b.methods.values))] =
      laying (format settings.lineLength) (drafts b settings) := by
    rw [drafts, laying, laying, List.map_append, List.nil_append]
    rfl
  rw [hrow] at hmethods
  exact hmethods.provide (f := (initFile settings, warning ++ "\n")) fun f hf => target_ne_of_mem_laying hnames hf

/-- A file in the place of the initial module is the initial module, which is written last. -/
theorem provides_of_mem {f : PosixPath × String} (hf : f ∈ made.taken (attempted (wanted layOut b settings made)))
    (htarget : target f.1 = target (initFile settings)) : Provides layOut b settings made := by
  have hnot : ¬ f ∈ attempted (laying layOut (drafts b settings)) := fun hm =>
    target_ne_of_mem_attempted hnames hm htarget
  -- otherwise only files of the row were written, and none of them is there
  have hsettled : Settled (laying layOut (drafts b settings)) := by
    by_contra hrefused
    rw [wanted, Emission.attempted_append_of_not_settled hrefused] at hf
    exact hnot (mem_of_mem_taken hf)
  have haccepted := Emission.settled_laying_iff.1 hsettled
  rw [wanted, Emission.attempted_append_of_settled hsettled] at hf
  have hrow : made.taken (attempted (laying layOut (drafts b settings))) =
      attempted (laying layOut (drafts b settings)) := by
    by_contra hne
    rw [taken_append_of_ne hne] at hf
    exact hnot (mem_of_mem_taken hf)
  rw [taken_append_of_eq hrow, List.mem_append] at hf
  have hlast := hf.resolve_left hnot
  rw [Emission.attempted_laying haccepted] at hrow
  cases hpath : made.hasPath (initFile settings) with
  | true =>
    rw [hpath, if_pos rfl] at hlast
    cases mem_of_mem_taken hlast
  | false =>
    rw [hpath, if_neg Bool.false_ne_true] at hlast
    have hready := ready_of_mem_taken hlast
    obtain rfl := List.mem_singleton.1 (mem_of_mem_taken hlast)
    exact ⟨haccepted, hrow, hpath, hready⟩

/-- A second emission leaves the tree that the first one left, and it ends without a fault if the first one did. -/
theorem tree_emit_emit (format : Formatter ρ) (tree : FileTree) :
    (emitWith format b settings (emitWith format b settings tree).tree).tree = (emitWith format b settings tree).tree ∧
      ((emitWith format b settings (emitWith format b settings tree).tree).fault = none ↔
        (emitWith format b settings tree).fault = none) := by
  cases hmade : tree.makeDirs (typesDir settings) with
  | error fault =>
    have htree : (emitWith format b settings tree).tree = tree := by rw [emit_of_makeDirs_eq_error hmade]
    rw [htree]
    exact ⟨htree, Iff.rfl⟩
  | ok made =>
    have hfirst : (emitWith format b settings tree).Writes made _ := emit_writes hnames hmade
    have hagain := hfirst.asOpen.makeDirs_eq (parts_typesDir settings) hmade
    have hsecond : (emitWith format b settings (emitWith format b settings tree).tree).Writes _ _ :=
      emit_writes hnames hagain
    rw [hsecond.tree, hsecond.fault, hfirst.fault, hfirst.asOpen.taken_eq, hfirst.tree]
    by_cases hinit : ∃ f ∈ made.taken (attempted (wanted (format settings.lineLength) b settings made)),
        target f.1 = target (initFile settings)
    · -- the initial module was written as the last of all files, and is not written again
      obtain ⟨f, hf, htarget⟩ := hinit
      have hprovides := provides_of_mem hnames hf htarget
      have hsettled := Emission.settled_laying_iff.2 hprovides.accepted
      have hrow := Emission.attempted_laying hprovides.accepted
      rw [hprovides.attempted_eq, hprovides.taken_eq, hprovides.wanted_putAll, hrow, hprovides.row]
      refine ⟨putAll_putAll_concat fun g hg => ?_, iff_of_true ⟨rfl, hsettled⟩ ⟨rfl, ?_⟩⟩
      · rw [← hrow] at hg
        exact target_ne_of_mem_attempted hnames hg
      · rw [wanted, hprovides.missing, if_neg Bool.false_ne_true]
        exact List.forall_mem_append.2 ⟨hsettled, List.forall_mem_singleton.2 ⟨_, rfl⟩⟩
    · rw [wanted_putAll_of_forall_ne (fun f hf => ready_of_mem_taken hf) fun f hf htarget => hinit ⟨f, hf, htarget⟩]
      exact ⟨putAll_putAll made _, Iff.rfl⟩

/-- Emission any number of times leaves what it leaves when it is done once. -/
theorem iterate_emit (format : Formatter ρ) (tree : FileTree) (n : Nat) :
    (fun t => (emitWith format b settings t).tree)^[n + 1] tree = (emitWith format b settings tree).tree := by
  induction n with
  | zero => rfl
  | succ n ih => rw [Function.iterate_succ_apply', ih, (tree_emit_emit hnames format tree).1]

/-! ## The files that are written -/

/-- What is read after an emission: the last text that was written in the place, or else what was there. -/
theorem read?_emit (format : Formatter ρ) (tree : FileTree) (q : Place) :
    (emitWith format b settings tree).tree.read? q =
      (Entries.find? q (placed (written (format settings.lineLength) b settings tree)).reverse).or (tree.read? q) := by
  unfold written
  cases hmade : tree.makeDirs (typesDir settings) with
  | error fault =>
    rw [emit_of_makeDirs_eq_error hmade]
    rfl
  | ok made =>
    have hfiles := (makeDirs_spec (parts_typesDir settings) hmade).1
    rw [(emit_writes hnames hmade).tree, read?_putAll, read?, hfiles, ← read?]

theorem files_emit (format : Formatter ρ) (tree : FileTree) :
    (emitWith format b settings tree).tree.files =
      (placed (written (format settings.lineLength) b settings tree)).foldl
        (fun files e => Entries.put e.1 e.2 files) tree.files := by
  unfold written
  cases hmade : tree.makeDirs (typesDir settings) with
  | error fault =>
    rw [emit_of_makeDirs_eq_error hmade]
    rfl
  | ok made =>
    rw [(emit_writes hnames hmade).tree, files_putAll, (makeDirs_spec (parts_typesDir settings) hmade).1]

/-- Where no file stands in the way, all files are written that emission means to write. -/
theorem written_of_unblocked (h : (emitWith format b settings tree).Unblocked) :
    ∃ made, written (format settings.lineLength) b settings tree =
      attempted (wanted (format settings.lineLength) b settings made) := by
  unfold written
  cases hmade : tree.makeDirs (typesDir settings) with
  | error fault =>
    rw [emit_of_makeDirs_eq_error hmade] at h
    exact absurd rfl (h fault)
  | ok made => exact ⟨made, (emit_writes hnames hmade).unblocked.1 h⟩

/-- Without a fault, all files whose texts are laid out are written. -/
theorem mem_written_of_fault_eq_none (h : (emitWith format b settings tree).fault = none) {f : PosixPath × String}
    (hf : f ∈ laidFiles (format settings.lineLength) (drafts b settings)) :
    f ∈ written (format settings.lineLength) b settings tree := by
  unfold written
  cases hmade : tree.makeDirs (typesDir settings) with
  | error fault =>
    rw [emit_of_makeDirs_eq_error hmade] at h
    cases h
  | ok made =>
    obtain ⟨hall, hsettled⟩ := (emit_writes hnames hmade).fault.1 h
    have hdrafts : Settled (laying (format settings.lineLength) (drafts b settings)) := fun g hg =>
      hsettled g (List.mem_append_left _ hg)
    dsimp only
    rw [hall, wanted, Emission.attempted_append_of_settled hdrafts,
      Emission.attempted_laying (Emission.settled_laying_iff.1 hdrafts)]
    exact List.mem_append_left _ hf

/-- The initial module is written only if it is not there. -/
theorem hasFile_of_mem_written {f : PosixPath × String} (hf : f ∈ written layOut b settings tree)
    (htarget : target f.1 = target (initFile settings)) : tree.hasFile (target (initFile settings)) = false := by
  unfold written at hf
  cases hmade : tree.makeDirs (typesDir settings) with
  | error fault =>
    rw [hmade] at hf
    cases hf
  | ok made =>
    rw [hmade] at hf
    have hfile := (provides_of_mem hnames hf htarget).hasFile_eq
    rwa [hasFile, read?, (makeDirs_spec (parts_typesDir settings) hmade).1] at hfile

/-- A file that the package does not have, and an initial module that is there, stay as they are. -/
theorem read?_emit_of_forall_ne {q : Place} (htypes : ∀ t ∈ b.types.values, q ≠ target (typeFile settings t.name))
    (hgather : q ≠ target (gatherFile settings)) (hmethods : q ≠ target (methodsFile settings))
    (hinit : q = target (initFile settings) → tree.hasFile q = true) :
    (emitWith format b settings tree).tree.read? q = tree.read? q := by
  have hnot : ∀ f ∈ written (format settings.lineLength) b settings tree, target f.1 ≠ q := by
    rintro f hf rfl
    rcases target_of_mem_packageFiles (mem_packageFiles_of_mem_written hf) with ⟨t, ht, heq⟩ | heq | heq | heq
    · exact htypes t ht heq
    · exact hgather heq
    · exact hmethods heq
    · have hthere := hinit heq
      rw [heq, hasFile_of_mem_written hnames hf heq] at hthere
      cases hthere
  rw [read?_emit hnames, find?_placed_of_forall_ne hnot, Option.none_or]

/-- Where no file stands in the way, the text that is left is that of the last file of the package. -/
theorem read?_emit_of_unblocked (h : (emitWith format b settings tree).Unblocked) {f : PosixPath × String}
    (hf : f ∈ written (format settings.lineLength) b settings tree) :
    (emitWith format b settings tree).tree.read? (target f.1) =
      lastText (format settings.lineLength) b settings (target f.1) := by
  obtain ⟨g, -, -, htext⟩ := exists_find?_placed hf
  rw [read?_emit hnames, htext, Option.some_or, ← htext, lastText]
  obtain ⟨made, hmade⟩ := written_of_unblocked hnames h
  rw [hmade, wanted]
  cases hinit : made.hasPath (initFile settings) with
  | false => rw [if_neg Bool.false_ne_true]
  | true =>
    rw [if_pos rfl, List.append_nil]
    by_cases hsettled : Settled (laying (format settings.lineLength) (drafts b settings))
    · -- what is written does not count the initial module
      rw [hmade, wanted, hinit, if_pos rfl, List.append_nil] at hf
      have hne := target_ne_of_mem_attempted hnames hf
      rw [Emission.attempted_append_of_settled hsettled, placed, placed, List.map_append, List.reverse_append]
      exact (Entries.lookup_cons_of_ne hne _ _).symm
    · rw [Emission.attempted_append_of_not_settled hsettled]

theorem read?_emit_of_oneText {q : Place} (hone : OneText (format settings.lineLength) b settings q)
    {f : PosixPath × String} (hf : f ∈ written (format settings.lineLength) b settings tree) (hplace : target f.1 = q) :
    (emitWith format b settings tree).tree.read? q = some f.2 := by
  subst hplace
  obtain ⟨g, hg, hsame, htext⟩ := exists_find?_placed hf
  rw [read?_emit hnames, htext, Option.some_or]
  exact congrArg some (hone g (mem_packageFiles_of_mem_written hg) f (mem_packageFiles_of_mem_written hf) hsame rfl)

/-- Two runs that write a file in one place leave one text there, if no file stands in their way or if the package has
one text only for it. -/
theorem read?_emit_eq_read?_emit {f g : PosixPath × String} {other : FileTree}
    (hf : f ∈ written (format settings.lineLength) b settings tree)
    (hg : g ∈ written (format settings.lineLength) b settings other) (hplace : target g.1 = target f.1)
    (hcase : (emitWith format b settings tree).Unblocked ∧ (emitWith format b settings other).Unblocked ∨
      OneText (format settings.lineLength) b settings (target f.1)) :
    (emitWith format b settings tree).tree.read? (target f.1) =
      (emitWith format b settings other).tree.read? (target f.1) := by
  obtain ⟨hunblocked, hother⟩ | hone := hcase
  · rw [read?_emit_of_unblocked hnames hunblocked hf, ← hplace, read?_emit_of_unblocked hnames hother hg]
  · rw [read?_emit_of_oneText hnames hone hf rfl, read?_emit_of_oneText hnames hone hg hplace]
    rw [hone f (mem_packageFiles_of_mem_written hf) g (mem_packageFiles_of_mem_written hg) rfl hplace]

/-- If the names of types are identifiers, then emission any number of times gives what it gives once, whatever was
there before and whatever the formatter does. It writes over the modules of the types, the module that gathers them and
that of the methods, adds the initial module if it is missing, and leaves all other files as they are. What is in a file
that it writes does not depend on what was there if no file stands in its way, or if the package has one text only for
that place. -/
theorem emission_is_idempotent (format : Formatter ρ) (settings : Settings) (tree : FileTree) :
    (∀ n, (fun t => (emitWith format b settings t).tree)^[n + 1] tree = (emitWith format b settings tree).tree) ∧
      (∀ q, (∀ t ∈ b.types.values, q ≠ target settings.outputDir ++ ["types", moduleName t.name ++ ".py"]) →
        q ≠ target settings.outputDir ++ ["types", "__init__.py"] → q ≠ target settings.outputDir ++ ["methods.py"] →
        (q = target settings.outputDir ++ ["__init__.py"] → tree.hasFile q = true) →
        (emitWith format b settings tree).tree.read? q = tree.read? q) ∧
      (emitWith format b settings tree).tree.files =
        (placed (written (format settings.lineLength) b settings tree)).foldl
          (fun files e => Entries.put e.1 e.2 files) tree.files ∧
      ((emitWith format b settings tree).fault = none →
        ∀ f ∈ laidFiles (format settings.lineLength) (drafts b settings),
          f ∈ written (format settings.lineLength) b settings tree) ∧
      ∀ other, ∀ f ∈ written (format settings.lineLength) b settings tree,
        ∀ g ∈ written (format settings.lineLength) b settings other, target g.1 = target f.1 →
        ((emitWith format b settings tree).Unblocked ∧ (emitWith format b settings other).Unblocked ∨
          OneText (format settings.lineLength) b settings (target f.1)) →
        (emitWith format b settings tree).tree.read? (target f.1) =
          (emitWith format b settings other).tree.read? (target f.1) := by
  refine ⟨iterate_emit hnames format tree, fun q htypes hgather hmethods hinit => ?_, files_emit hnames format tree,
    fun hfault f hf => mem_written_of_fault_eq_none hnames hfault hf,
    fun other f hf g hg => read?_emit_eq_read?_emit hnames hf hg⟩
  refine read?_emit_of_forall_ne hnames (fun t ht => ?_) ?_ ?_ ?_
  · rw [target_typeFile (hnames t ht), target_typesDir, List.append_assoc]
    exact htypes t ht
  · rw [target_gatherFile, target_typesDir, List.append_assoc]
    exact hgather
  · rw [target_methodsFile]
    exact hmethods
  · rw [target_initFile]
    exact hinit

end

end

/-- A directory with an earlier package, whose initial module was changed, and a module of another type. -/
def keptTree : FileTree where
  files := [(["botapi", "__init__.py"], "import os\n"), (["botapi", "types", "old.py"], "class Old: ...\n")]
  dirs := [["botapi"], ["botapi", "types"]]

theorem emission_is_idempotent_kept :
    (∀ t ∈ (bareBindings ["User", "ChatUrl"]).types.values, Unicode.isIdentifier t.name.toList = true) ∧
      (∀ n, (fun t => (emitWith (bareLayout ["User", "ChatUrl"]) (bareBindings ["User", "ChatUrl"]) Settings.defaults
        t).tree)^[n + 1] keptTree =
        (emitWith (bareLayout ["User", "ChatUrl"]) (bareBindings ["User", "ChatUrl"]) Settings.defaults
          keptTree).tree) ∧
      (emitWith (bareLayout ["User", "ChatUrl"]) (bareBindings ["User", "ChatUrl"]) Settings.defaults
        keptTree).tree.read? ["botapi", "__init__.py"] = some "import os\n" ∧
      (emitWith (bareLayout ["User", "ChatUrl"]) (bareBindings ["User", "ChatUrl"]) Settings.defaults
        keptTree).tree.read? ["botapi", "types", "old.py"] = some "class Old: ...\n" ∧
      ∀ f ∈ drafts (bareBindings ["User", "ChatUrl"]) Settings.defaults,
        (emitWith (bareLayout ["User", "ChatUrl"]) (bareBindings ["User", "ChatUrl"]) Settings.defaults
            keptTree).tree.read? (target f.1) =
          (emitWith (bareLayout ["User", "ChatUrl"]) (bareBindings ["User", "ChatUrl"]) Settings.defaults
            .empty).tree.read? (target f.1) := by
  have hnames : ∀ t ∈ (bareBindings ["User", "ChatUrl"]).types.values, Unicode.isIdentifier t.name.toList = true := by
    decide +kernel
  have haccepted : Accepted (bareLayout ["User", "ChatUrl"] Settings.defaults.lineLength)
      (drafts (bareBindings ["User", "ChatUrl"]) Settings.defaults) := fun f hf =>
    exists_bareLayout_eq (bareDraft_of_mem_drafts rfl hf) _
  -- neither emission ends in a fault, and this is told by the paths
  have hkept : (emitWith (bareLayout ["User", "ChatUrl"]) (bareBindings ["User", "ChatUrl"]) Settings.defaults
      keptTree).fault = none := by
    have hmade : keptTree.makeDirs (typesDir Settings.defaults) = .ok keptTree :=
      rfl
    have hthere : keptTree.hasPath (initFile Settings.defaults) = true := by decide +kernel
    have htakes : ∀ f ∈ drafts (bareBindings ["User", "ChatUrl"]) Settings.defaults, keptTree.takes f.1 = true := by
      decide +kernel
    refine (emit_writes hnames hmade).fault.2 ?_
    rw [wanted, hthere, if_pos rfl, List.append_nil, Emission.attempted_laying haccepted, taken,
      List.takeWhile_eq_self_iff, laidFiles, List.forall_mem_map]
    exact ⟨htakes, Emission.settled_laying_iff.2 haccepted⟩
  have hempty : (emitWith (bareLayout ["User", "ChatUrl"]) (bareBindings ["User", "ChatUrl"]) Settings.defaults
      .empty).fault = none := by
    obtain ⟨made, -, hgives⟩ := emit_gives hnames (clear_empty (by decide))
      ((@forall_fits_iff Settings.defaults _ hnames).2 (by decide +kernel)) haccepted
    exact hgives.fault
  obtain ⟨hiterate, hother, -, hall, hcontents⟩ :=
    emission_is_idempotent hnames (bareLayout ["User", "ChatUrl"]) Settings.defaults keptTree
  obtain ⟨-, -, -, hallEmpty, -⟩ :=
    emission_is_idempotent hnames (bareLayout ["User", "ChatUrl"]) Settings.defaults FileTree.empty
  refine ⟨hnames, hiterate, ?_, ?_, fun f hf => ?_⟩
  · exact hother _ (by decide +kernel) (by decide) (by decide) (by decide)
  · exact hother _ (by decide +kernel) (by decide) (by decide) (by decide)
  · have hlaid : (f.1, laid (bareLayout ["User", "ChatUrl"] Settings.defaults.lineLength) f.2) ∈
        laidFiles (bareLayout ["User", "ChatUrl"] Settings.defaults.lineLength)
          (drafts (bareBindings ["User", "ChatUrl"]) Settings.defaults) := List.mem_map.2 ⟨f, hf, rfl⟩
    have hsame := hcontents .empty _ (hall hkept _ hlaid) _ (hallEmpty hempty _ hlaid) rfl
      (.inl ⟨Emission.unblocked_of_fault_eq_none hkept, Emission.unblocked_of_fault_eq_none hempty⟩)
    exact hsame

/-- A directory with another one in the place of a module. -/
def blockedTree : FileTree where
  files := [(["botapi", "types", "zed.py", "notes"], "")]
  dirs := [["botapi"], ["botapi", "types"], ["botapi", "types", "zed.py"]]

/-- Where a directory ends the emission between two types with one module, the text of the first is left, and not that
of the second. -/
theorem emission_tells_trees_apart :
    (Bindings.build (bareSchema ["ChatURL", "Zed", "ChatUrl"])).result =
        .ok (bareBindings ["ChatURL", "Zed", "ChatUrl"]) ∧
      (∀ t ∈ (bareBindings ["ChatURL", "Zed", "ChatUrl"]).types.values,
        Unicode.isIdentifier t.name.toList = true) ∧
      FileTree.empty.hasFile ["botapi", "types", "chat_url.py"] = false ∧
      blockedTree.hasFile ["botapi", "types", "chat_url.py"] = false ∧
      ∃ text other,
        (emitWith (bareLayout ["ChatURL", "Zed", "ChatUrl"]) (bareBindings ["ChatURL", "Zed", "ChatUrl"])
          Settings.defaults .empty).tree.read? ["botapi", "types", "chat_url.py"] = some text ∧
        (emitWith (bareLayout ["ChatURL", "Zed", "ChatUrl"]) (bareBindings ["ChatURL", "Zed", "ChatUrl"])
          Settings.defaults blockedTree).tree.read? ["botapi", "types", "chat_url.py"] = some other ∧
        text ≠ other := by
  have hnames : ∀ t ∈ (bareBindings ["ChatURL", "Zed", "ChatUrl"]).types.values,
      Unicode.isIdentifier t.name.toList = true := by decide +kernel
  have hclear : FileTree.empty.Clear Settings.defaults.outputDir := clear_empty (by decide)
  have hfits := (@forall_fits_iff Settings.defaults _ hnames).2 (by decide +kernel)
  have haccepted : Accepted (bareLayout ["ChatURL", "Zed", "ChatUrl"] Settings.defaults.lineLength)
      (drafts (bareBindings ["ChatURL", "Zed", "ChatUrl"]) Settings.defaults) := fun f hf =>
    exists_bareLayout_eq (bareDraft_of_mem_drafts rfl hf) _
  have hplace : ∀ type ∈ ["ChatURL", "ChatUrl"],
      target (typeFile Settings.defaults type) = ["botapi", "types", "chat_url.py"] := by decide +kernel
  have hsplit : typeFiles (bareBindings ["ChatURL", "Zed", "ChatUrl"]) Settings.defaults =
      [(typeFile Settings.defaults "ChatURL", typeModule "botapi" (bareType "ChatURL")),
        (typeFile Settings.defaults "Zed", typeModule "botapi" (bareType "Zed"))] ++
      (typeFile Settings.defaults "ChatUrl", typeModule "botapi" (bareType "ChatUrl")) ::
        [(gatherFile Settings.defaults, typesInit (["ChatURL", "Zed", "ChatUrl"].map bareType))] := rfl
  refine ⟨eq_ok_of_toOption (by decide +kernel), hnames, rfl, rfl,
    laid (bareLayout ["ChatURL", "Zed", "ChatUrl"] Settings.defaults.lineLength)
      (typeModule "botapi" (bareType "ChatUrl")),
    laid (bareLayout ["ChatURL", "Zed", "ChatUrl"] Settings.defaults.lineLength)
      (typeModule "botapi" (bareType "ChatURL")),
    ?_, ?_, ?_⟩
  · -- all files are written, and the last text in the place is that of the later type
    obtain ⟨made, hmade, hgives⟩ := emit_gives hnames hclear hfits haccepted
    have hread := @read_of_last _ (bareLayout ["ChatURL", "Zed", "ChatUrl"]) _ _ _ _ hnames hclear hfits hmade _ _ _ _
      hsplit (by decide +kernel)
    rw [hgives.tree, ← hplace "ChatUrl" (by decide)]
    exact (read_eq_ok_iff.1 hread).2
  · -- only the first type is written, as there is a directory in the place of the second one
    have hmade : blockedTree.makeDirs (typesDir Settings.defaults) = .ok blockedTree :=
      rfl
    have htakes : blockedTree.takes (typeFile Settings.defaults "ChatURL") = true ∧
        blockedTree.takes (typeFile Settings.defaults "Zed") = false := by decide +kernel
    have hwritten : written (bareLayout ["ChatURL", "Zed", "ChatUrl"] Settings.defaults.lineLength)
        (bareBindings ["ChatURL", "Zed", "ChatUrl"]) Settings.defaults blockedTree =
        [(typeFile Settings.defaults "ChatURL",
          laid (bareLayout ["ChatURL", "Zed", "ChatUrl"] Settings.defaults.lineLength)
            (typeModule "botapi" (bareType "ChatURL")))] := by
      rw [written, hmade]
      dsimp only
      rw [wanted, Emission.attempted_append_of_settled (Emission.settled_laying_iff.2 haccepted),
        Emission.attempted_laying haccepted, drafts, hsplit, taken]
      simp only [laidFiles, List.cons_append, List.nil_append, List.map_cons, List.takeWhile_cons, htakes.1, htakes.2,
        if_true, Bool.false_eq_true, if_false]
    rw [read?_emit hnames, hwritten, ← hplace "ChatURL" (by decide)]
    simp [placed, Entries.find?]
  · decide +kernel

end BotApi.Package
