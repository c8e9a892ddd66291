import BotApi.FileTree
import Mathlib.Data.List.Perm.Subperm

/-!
# Following paths in a file tree

Where a path leads is told by its names alone, and whether it can be followed there by the tree: each place that it
passes has to be a directory and no file. So a path that can be followed can still be followed once files are written,
if none of them is written to a place that the path passes; and directories can be made for a path that passes no file.

Files that are put one after another are told apart by their places, for two paths may lead to one place. Then what was
put last is what is read.

## Main results

* `find_eq_ok_iff`, `write_eq_ok_iff`, `read_eq_ok_iff` — when a path can be followed, written to, and read from.
* `Ready.putAll` — writing files elsewhere keeps a path ready.
* `exists_makeDirs` — the directories of a path are made where no file is in the way.
* `read?_putAll_cons`, `read?_putAll_of_not_mem` — what is read after several files were put.
* `Entries.length_merge_eq_iff` — entries are all kept by merging if their keys are distinct, and only then.
* `clear_empty` — in an empty tree each directory is clear.
-/

namespace BotApi

/-! ## Entries put one after another -/

namespace Entries

variable {κ α : Type} [DecidableEq κ]

theorem isSome_find?_of_mem {entries : List (κ × α)} {e : κ × α} (h : e ∈ entries) :
    (find? e.1 entries).isSome = true := by
  cases hfind : find? e.1 entries with
  | some => rfl
  | none =>
    have hne := List.lookup_eq_none_iff.1 hfind e h
    simp at hne

theorem nodup_keys_merge (entries : List (κ × α)) : ((merge entries).map Prod.fst).Nodup := by
  have hfold : ∀ rest done : List (κ × α), (done.map Prod.fst).Nodup →
      ((rest.foldl (fun done e => put e.1 e.2 done) done).map Prod.fst).Nodup := by
    intro rest
    induction rest with
    | nil => exact fun _ h => h
    | cons e rest ih => exact fun done h => ih _ (nodup_put e.1 e.2 h)
  exact hfold entries [] List.nodup_nil

theorem keys_merge_subperm (entries : List (κ × α)) :
    ((merge entries).map Prod.fst).Subperm (entries.map Prod.fst) := by
  refine (nodup_keys_merge entries).subperm fun key hkey => ?_
  obtain ⟨e, he, rfl⟩ := List.mem_map.1 hkey
  exact List.mem_map_of_mem (mem_of_mem_merge he)

theorem length_merge_le (entries : List (κ × α)) : (merge entries).length ≤ entries.length := by
  have hlength := (keys_merge_subperm entries).length_le
  rwa [List.length_map, List.length_map] at hlength

/-- Merging keeps all entries if their keys are distinct, and only then. -/
theorem length_merge_eq_iff {entries : List (κ × α)} :
    (merge entries).length = entries.length ↔ (entries.map Prod.fst).Nodup := by
  constructor
  · intro h
    have hle : (entries.map Prod.fst).length ≤ ((merge entries).map Prod.fst).length := by
      rw [List.length_map, List.length_map]
      exact Nat.le_of_eq h.symm
    exact ((keys_merge_subperm entries).perm_of_length_le hle).nodup_iff.1 (nodup_keys_merge entries)
  · intro h
    rw [merge_of_nodup h]

/-- Entries under the keys in question are put among the others as if these were not there. -/
theorem filter_put (p : κ → Bool) (key : κ) (a : α) (entries : List (κ × α)) :
    (put key a entries).filter (fun e => p e.1) =
      if p key then put key a (entries.filter fun e => p e.1) else entries.filter fun e => p e.1 := by
  induction entries with
  | nil =>
    rw [put, List.filter_cons, List.filter_nil]
    rfl
  | cons e rest ih =>
    obtain ⟨k, b⟩ := e
    rw [put]
    by_cases hk : k = key
    · subst hk
      rw [if_pos rfl, List.filter_cons, List.filter_cons]
      cases hp : p k with
      | false => rfl
      | true => simp [put]
    · rw [if_neg hk, List.filter_cons, List.filter_cons, ih]
      cases hp : p k with
      | false => rfl
      | true =>
        rw [if_pos rfl, if_pos rfl, put, if_neg hk]
        split <;> rfl

/-- Where no key in question is there, the entries that are put under such keys are merged. -/
theorem filter_foldl_put (p : κ → Bool) {done : List (κ × α)} (hdone : done.filter (fun e => p e.1) = [])
    (rest : List (κ × α)) :
    (rest.foldl (fun done e => put e.1 e.2 done) done).filter (fun e => p e.1) =
      merge (rest.filter fun e => p e.1) := by
  have hfold : ∀ rest done : List (κ × α),
      (rest.foldl (fun done e => put e.1 e.2 done) done).filter (fun e => p e.1) =
        (rest.filter fun e => p e.1).foldl (fun done e => put e.1 e.2 done) (done.filter fun e => p e.1) := by
    intro rest
    induction rest with
    | nil => exact fun _ => rfl
    | cons e rest ih =>
      intro done
      rw [List.foldl_cons, ih, filter_put, List.filter_cons]
      cases hp : p e.1 with
      | false => rw [if_neg Bool.false_ne_true, if_neg Bool.false_ne_true]
      | true => rw [if_pos rfl, if_pos rfl, List.foldl_cons]
  rw [hfold, hdone, merge]

end Entries

/-! ## Paths that fit -/

namespace PosixPath

open FileTree (maxName maxPath)

/-- Whether a path is one that a file system can follow: no name has the null character, and neither the names nor the
text are too long. -/
structure Fits (path : PosixPath) : Prop where
  noNull : ∀ name ∈ path.parts, name.toList.contains (Char.ofNat 0) = false
  names : ∀ name ∈ path.parts, name.utf8ByteSize ≤ maxName
  text : path.toText.utf8ByteSize ≤ maxPath

instance (path : PosixPath) : Decidable path.Fits :=
  decidable_of_iff
    ((∀ name ∈ path.parts, name.toList.contains (Char.ofNat 0) = false) ∧
      (∀ name ∈ path.parts, name.utf8ByteSize ≤ maxName) ∧ path.toText.utf8ByteSize ≤ maxPath)
    ⟨fun h => ⟨h.1, h.2.1, h.2.2⟩, fun h => ⟨h.noNull, h.names, h.text⟩⟩

/-- The octets of names with solidi between them. -/
def size (names : List String) : Nat := ("/".intercalate names).utf8ByteSize

theorem size_cons (name : String) (rest : List String) :
    size (name :: rest) = name.utf8ByteSize + if rest = [] then 0 else 1 + size rest := by
  cases rest with
  | nil => rw [size, String.intercalate_singleton, if_pos rfl, Nat.add_zero]
  | cons next rest =>
    rw [size, String.intercalate_cons_cons, String.utf8ByteSize_append, String.utf8ByteSize_append,
      if_neg (List.cons_ne_nil next rest), Nat.add_assoc]
    rfl

/-- Behind the same names, what is shorter stays shorter. -/
theorem size_append_le {names others : List String} (hsize : size names ≤ size others)
    (hnil : others = [] → names = []) (front : List String) : size (front ++ names) ≤ size (front ++ others) := by
  induction front with
  | nil => exact hsize
  | cons name front ih =>
    rw [List.cons_append, List.cons_append, size_cons, size_cons]
    by_cases hempty : front ++ others = []
    · have hnames : front ++ names = [] := by
        rw [List.append_eq_nil_iff] at hempty ⊢
        exact ⟨hempty.1, hnil hempty.2⟩
      exact Nat.le_of_eq (by rw [hempty, hnames])
    · rw [if_neg hempty]
      split <;> omega

variable {root : Nat} {front names others : List String}

/-- A path fits if one that is no shorter does, with the same names in front. -/
theorem Fits.of_size_le (h : Fits ⟨root, front ++ others⟩) (hsize : size names ≤ size others)
    (hnil : others = [] → names = []) (hnull : ∀ name ∈ names, name.toList.contains (Char.ofNat 0) = false)
    (hnames : ∀ name ∈ names, name.utf8ByteSize ≤ maxName) : Fits ⟨root, front ++ names⟩ := by
  obtain ⟨hnull', hnames', htext⟩ := h
  dsimp only at hnull' hnames'
  rw [List.forall_mem_append] at hnull' hnames'
  refine ⟨List.forall_mem_append.2 ⟨hnull'.1, hnull⟩, List.forall_mem_append.2 ⟨hnames'.1, hnames⟩, ?_⟩
  have hle := size_append_le hsize hnil front
  unfold toText at htext ⊢
  dsimp only at htext ⊢
  split
  · decide
  · next hroot =>
    -- the longer path has a text of its own too
    have hother : (root = 0 && (front ++ others).isEmpty) ≠ true := by
      intro hall
      simp only [Bool.and_eq_true, decide_eq_true_eq, List.isEmpty_iff, List.append_eq_nil_iff] at hroot hall
      exact hroot ⟨hall.1, hall.2.1, hnil hall.2.2⟩
    rw [if_neg hother] at htext
    rw [String.utf8ByteSize_append] at htext ⊢
    exact Nat.le_trans (Nat.add_le_add_left hle _) htext

/-- The directories above a path that fits have paths that fit. -/
theorem Fits.of_append (h : Fits ⟨root, front ++ others⟩) : Fits ⟨root, front⟩ := by
  have hsize : size [] ≤ size others := Nat.zero_le _
  have hfront := h.of_size_le hsize (fun _ => rfl) (by simp) (by simp)
  rwa [List.append_nil] at hfront

theorem pieces_of_not_mem {text : List Char} (h : '/' ∉ text) : pieces text = [text] := by
  induction text with
  | nil => rfl
  | cons c rest ih =>
    rw [List.mem_cons, not_or] at h
    have hrest := ih h.2
    unfold pieces at hrest ⊢
    rw [List.foldr_cons, if_neg (Ne.symm h.1), hrest]

/-- A text without a solidus is one name, if it is one at all. -/
theorem ofText_of_not_mem {name : String} (h : '/' ∉ name.toList) (hne : name ≠ "") (hdot : name ≠ ".") :
    ofText name = ⟨0, [name]⟩ := by
  have hnone : name.toList.takeWhile (· = '/') = [] := by
    cases hname : name.toList with
    | nil => rfl
    | cons c rest =>
      rw [hname, List.mem_cons, not_or] at h
      rw [List.takeWhile_cons, decide_eq_false (Ne.symm h.1)]
      rfl
  unfold ofText
  dsimp only
  rw [hnone, pieces_of_not_mem h, List.map_singleton, String.ofList_toList]
  simp [hne, hdot]

end PosixPath

namespace FileTree

/-! ## Where a path leads -/

/-- The place that a path leads to. -/
def target (path : PosixPath) : Place := path.parts.foldl step (start path)

/-- The places from which names are followed. -/
def passedFrom : Place → List String → List Place
  | _, [] => []
  | place, name :: rest => place :: passedFrom (step place name) rest

/-- The places that a path passes before the one that it leads to. -/
def passed (path : PosixPath) : List Place := passedFrom (start path) path.parts

theorem step_of_ne {name : String} (h : name ≠ "..") (place : Place) : step place name = place ++ [name] := by
  unfold step
  rw [decide_eq_false h]
  rfl

theorem passedFrom_append (place : Place) (names : List String) (name : String) :
    passedFrom place (names ++ [name]) = passedFrom place names ++ [names.foldl step place] := by
  induction names generalizing place with
  | nil => rfl
  | cons first names ih =>
    rw [List.cons_append, passedFrom, ih, passedFrom, List.foldl_cons, List.cons_append]

/-- A path with one more name passes the place that it led to. -/
theorem passed_append (root : Nat) (names : List String) (name : String) :
    passed ⟨root, names ++ [name]⟩ = passed ⟨root, names⟩ ++ [target ⟨root, names⟩] :=
  passedFrom_append (start ⟨root, names ++ [name]⟩) names name

theorem target_append (root : Nat) (names : List String) {name : String} (h : name ≠ "..") :
    target ⟨root, names ++ [name]⟩ = target ⟨root, names⟩ ++ [name] := by
  rw [target, List.foldl_append, List.foldl_cons, List.foldl_nil, step_of_ne h]
  rfl

theorem isBase_start (path : PosixPath) : isBase (start path) = true := by
  unfold start
  split <;> rfl

/-- Whether names of files and directories lead from a place to another one. -/
def Below (place other : Place) : Prop := ∃ name rest, name ≠ ".." ∧ name ≠ "/" ∧ other = place ++ name :: rest

theorem below_append {name : String} (hparent : name ≠ "..") (hroot : name ≠ "/") (place : Place)
    (rest : List String) : Below place (place ++ name :: rest) := ⟨name, rest, hparent, hroot, rfl⟩

theorem not_below_self (place : Place) : ¬ Below place place := by
  rintro ⟨name, rest, -, -, h⟩
  have hlength := congrArg List.length h
  rw [List.length_append, List.length_cons] at hlength
  omega

theorem isBase_of_below {place other : Place} (h : Below place other) : isBase other = false := by
  obtain ⟨name, rest, hparent, hroot, rfl⟩ := h
  have hall : ((place ++ name :: rest).all fun other => decide (other = "..")) = false :=
    List.all_eq_false.2 ⟨name, by simp, by simpa using hparent⟩
  have hne : place ++ name :: rest ≠ ["/"] := by
    intro heq
    have hmem : name ∈ ["/"] := heq ▸ List.mem_append_right place (List.mem_cons_self ..)
    exact hroot (List.mem_singleton.1 hmem)
  rw [isBase, hall, decide_eq_false hne]
  rfl

/-! ## Following a path -/

variable {tree made : FileTree} {path : PosixPath} {place other : Place} {content : String}

/-- Whether a place is a directory that can be passed. -/
structure Opens (tree : FileTree) (place : Place) : Prop where
  noFile : tree.hasFile place = false
  isDir : tree.hasDir place = true

theorem walk_eq_ok_iff {names : List String} :
    tree.walk place names = .ok other ↔
      (∀ q ∈ passedFrom place names, tree.Opens q) ∧ (∀ name ∈ names, name.utf8ByteSize ≤ maxName) ∧
        names.foldl step place = other := by
  induction names generalizing place with
  | nil => simp [walk, passedFrom]
  | cons name rest ih =>
    rw [walk, passedFrom, List.forall_mem_cons, List.forall_mem_cons, List.foldl_cons]
    -- each check that fails is one of the conditions
    split
    · next hfile =>
      refine ⟨nofun, fun h => ?_⟩
      rw [h.1.1.noFile] at hfile
      cases hfile
    · next hfile =>
      split
      · next hdir =>
        refine ⟨nofun, fun h => ?_⟩
        rw [h.1.1.isDir] at hdir
        cases hdir
      · next hdir =>
        have hopens : tree.Opens place := ⟨by simpa using hfile, by simpa using hdir⟩
        split
        · next hlong =>
          exact ⟨nofun, fun h => absurd h.2.1.1 (Nat.not_le.2 hlong)⟩
        · next hshort =>
          rw [ih]
          exact ⟨fun h => ⟨⟨hopens, h.1⟩, ⟨Nat.not_lt.1 hshort, h.2.1⟩, h.2.2⟩,
            fun h => ⟨h.1.2, h.2.1.2, h.2.2⟩⟩

/-- Where no file is in the way, the only thing that may be missing is a directory. -/
theorem walk_eq_notFound {names : List String} (hsizes : ∀ name ∈ names, name.utf8ByteSize ≤ maxName)
    (hfiles : ∀ q ∈ passedFrom place names, tree.hasFile q = false)
    (hmissing : ∃ q ∈ passedFrom place names, tree.hasDir q = false) :
    tree.walk place names = .error .notFound := by
  induction names generalizing place with
  | nil =>
    obtain ⟨q, hq, -⟩ := hmissing
    cases hq
  | cons name rest ih =>
    rw [passedFrom, List.forall_mem_cons] at hfiles
    rw [List.forall_mem_cons] at hsizes
    rw [walk, hfiles.1, if_neg Bool.false_ne_true]
    cases hdir : tree.hasDir place with
    | false => rfl
    | true =>
      rw [Bool.not_true, if_neg Bool.false_ne_true, if_neg (Nat.not_lt.2 hsizes.1)]
      refine ih hsizes.2 hfiles.2 ?_
      obtain ⟨q, hq, hnot⟩ := hmissing
      rw [passedFrom, List.mem_cons] at hq
      rcases hq with rfl | hq
      · rw [hdir] at hnot
        cases hnot
      · exact ⟨q, hq, hnot⟩

theorem find_of_fits (h : path.Fits) : tree.find path = tree.walk (start path) path.parts := by
  have hnull : (path.parts.any fun name => name.toList.contains (Char.ofNat 0)) = false := by
    rw [List.any_eq_false]
    intro name hm
    rw [h.noNull name hm]
    exact Bool.false_ne_true
  rw [find, hnull, if_neg Bool.false_ne_true, if_neg (Nat.not_lt.2 h.text)]

/-- A path is found if it fits and passes directories only, and then at the place that it leads to. -/
theorem find_eq_ok_iff :
    tree.find path = .ok place ↔ path.Fits ∧ (∀ q ∈ passed path, tree.Opens q) ∧ target path = place := by
  constructor
  · intro h
    unfold find at h
    split at h
    · cases h
    · next hnull =>
      split at h
      · cases h
      · next htext =>
        obtain ⟨hopens, hsizes, htarget⟩ := walk_eq_ok_iff.1 h
        rw [Bool.not_eq_true, List.any_eq_false] at hnull
        exact ⟨⟨fun name hm => by simpa using hnull name hm, hsizes, Nat.not_lt.1 htext⟩, hopens, htarget⟩
  · rintro ⟨hfits, hopens, htarget⟩
    rw [find_of_fits hfits]
    exact walk_eq_ok_iff.2 ⟨hopens, hfits.names, htarget⟩

/-- Whether a file can be written to a path or read from it, as far as directories go. -/
structure Ready (tree : FileTree) (path : PosixPath) : Prop where
  fits : path.Fits
  opens : ∀ q ∈ passed path, tree.Opens q
  free : tree.hasDir (target path) = false

theorem write_eq_ok_iff :
    tree.write path content = .ok made ↔ tree.Ready path ∧ made = tree.put (target path) content := by
  unfold write
  cases hfind : tree.find path with
  | error fault =>
    refine ⟨nofun, fun h => ?_⟩
    rw [find_eq_ok_iff.2 ⟨h.1.fits, h.1.opens, rfl⟩] at hfind
    cases hfind
  | ok place =>
    obtain ⟨hfits, hopens, rfl⟩ := find_eq_ok_iff.1 hfind
    show (if tree.hasDir (target path) = true then Except.error FileFault.isDirectory else
      .ok (tree.put (target path) content)) = _ ↔ _
    cases hdir : tree.hasDir (target path) with
    | true =>
      refine ⟨nofun, fun h => ?_⟩
      rw [h.1.free] at hdir
      cases hdir
    | false =>
      rw [if_neg Bool.false_ne_true, Except.ok.injEq]
      exact ⟨fun h => ⟨⟨hfits, hopens, hdir⟩, h.symm⟩, fun h => h.2.symm⟩

theorem read_eq_ok_iff :
    tree.read path = .ok content ↔ tree.Ready path ∧ tree.read? (target path) = some content := by
  unfold read
  cases hfind : tree.find path with
  | error fault =>
    refine ⟨nofun, fun h => ?_⟩
    rw [find_eq_ok_iff.2 ⟨h.1.fits, h.1.opens, rfl⟩] at hfind
    cases hfind
  | ok place =>
    obtain ⟨hfits, hopens, rfl⟩ := find_eq_ok_iff.1 hfind
    dsimp only [bind, Except.bind]
    cases hdir : tree.hasDir (target path) with
    | true =>
      refine ⟨nofun, fun h => ?_⟩
      rw [h.1.free] at hdir
      cases hdir
    | false =>
      rw [if_neg Bool.false_ne_true]
      cases htext : tree.read? (target path) with
      | none => exact ⟨nofun, fun h => nomatch h.2⟩
      | some text =>
        show Except.ok text = Except.ok content ↔ _
        rw [Except.ok.injEq, Option.some.injEq]
        exact ⟨fun h => ⟨⟨hfits, hopens, hdir⟩, h⟩, fun h => h.2⟩

/-! ## Files put one after another -/

theorem hasFile_put : (tree.put place content).hasFile other = (decide (other = place) || tree.hasFile other) := by
  rw [hasFile, read?_put]
  by_cases h : other = place
  · rw [if_pos h, decide_eq_true h]
    rfl
  · rw [if_neg h, decide_eq_false h]
    rfl

/-- A file that is put elsewhere keeps a path ready. -/
theorem Ready.put (h : tree.Ready path) (hapart : place ∉ passed path) (content : String) :
    (tree.put place content).Ready path := by
  refine ⟨h.fits, fun q hq => ⟨?_, (h.opens q hq).isDir⟩, h.free⟩
  have hne : q ≠ place := fun heq => hapart (heq ▸ hq)
  rw [hasFile_put, decide_eq_false hne, Bool.false_or]
  exact (h.opens q hq).noFile

/-- The tree once files were put one after another. -/
def putAll (tree : FileTree) (files : List (PosixPath × String)) : FileTree :=
  files.foldl (fun t f => t.put (target f.1) f.2) tree

/-- Files under the places of their paths. -/
def placed (files : List (PosixPath × String)) : List (Place × String) := files.map fun f => (target f.1, f.2)

theorem putAll_append (files more : List (PosixPath × String)) :
    tree.putAll (files ++ more) = (tree.putAll files).putAll more := List.foldl_append

theorem files_putAll (files : List (PosixPath × String)) :
    (tree.putAll files).files =
      (placed files).foldl (fun done e => Entries.put e.1 e.2 done) tree.files := by
  induction files generalizing tree with
  | nil => rfl
  | cons f files ih =>
    rw [putAll, List.foldl_cons, ← putAll, ih]
    rfl

theorem read?_putAll_of_not_mem {files : List (PosixPath × String)} (h : ∀ f ∈ files, target f.1 ≠ place) :
    (tree.putAll files).read? place = tree.read? place := by
  induction files generalizing tree with
  | nil => rfl
  | cons f files ih =>
    rw [List.forall_mem_cons] at h
    rw [putAll, List.foldl_cons, ← putAll, ih h.2, read?_put, if_neg h.1.symm]

/-- A file is read as it was put, if nothing was put in its place later. -/
theorem read?_putAll_cons {f : PosixPath × String} (files : List (PosixPath × String))
    {more : List (PosixPath × String)} (h : ∀ g ∈ more, target g.1 ≠ target f.1) :
    (tree.putAll (files ++ f :: more)).read? (target f.1) = some f.2 := by
  rw [putAll_append, putAll, List.foldl_cons, ← putAll, read?_putAll_of_not_mem h, read?_put, if_pos rfl]

theorem Ready.putAll {files : List (PosixPath × String)} (h : tree.Ready path)
    (hapart : ∀ f ∈ files, target f.1 ∉ passed path) : (tree.putAll files).Ready path := by
  induction files generalizing tree with
  | nil => exact h
  | cons f files ih =>
    rw [List.forall_mem_cons] at hapart
    exact ih (h.put hapart.1 f.2) hapart.2

/-! ## Directories made for a path -/

/-- Whether a tree is another one with directories at some places. -/
structure Widened (tree made : FileTree) (places : List Place) : Prop where
  files : made.files = tree.files
  dirs : ∀ q, made.hasDir q = true ↔ tree.hasDir q = true ∨ q ∈ places

theorem Widened.hasFile {places : List Place} (h : Widened tree made places) (q : Place) :
    made.hasFile q = tree.hasFile q := by
  unfold FileTree.hasFile FileTree.read?
  rw [h.files]

theorem Widened.trans {final : FileTree} {places more : List Place} (h : Widened tree made places)
    (hmore : Widened made final more) : Widened tree final (places ++ more) := by
  refine ⟨hmore.files.trans h.files, fun q => ?_⟩
  rw [hmore.dirs, h.dirs, List.mem_append, or_assoc]

theorem widened_addDir (tree : FileTree) (place : Place) : Widened tree (tree.addDir place) [place] := by
  unfold addDir
  split
  · next hdir =>
    refine ⟨rfl, fun q => ⟨.inl, fun h => h.elim id fun hq => ?_⟩⟩
    rw [List.mem_singleton.1 hq]
    exact hdir
  · refine ⟨rfl, fun q => ?_⟩
    simp only [hasDir, Bool.or_eq_true, List.contains_iff_mem, List.mem_append, List.mem_singleton, or_assoc]

theorem exists_makeDir (hfits : path.Fits) (hopens : ∀ q ∈ passed path, tree.Opens q)
    (hfile : tree.hasFile (target path) = false) :
    ∃ made, tree.makeDir path = .ok made ∧ Widened tree made [target path] := by
  unfold makeDir
  rw [find_eq_ok_iff.2 ⟨hfits, hopens, rfl⟩]
  show ∃ made, (if tree.hasDir (target path) = true then Except.ok tree else
    if tree.hasFile (target path) = true then .error FileFault.exists else .ok (tree.addDir (target path))) = _ ∧ _
  have hwide := widened_addDir tree (target path)
  split
  · next hdir =>
    rw [addDir, if_pos hdir] at hwide
    exact ⟨tree, rfl, hwide⟩
  · rw [hfile, if_neg Bool.false_ne_true]
    exact ⟨_, rfl, hwide⟩

theorem makeDir_eq_notFound (hfits : path.Fits) (hfiles : ∀ q ∈ passed path, tree.hasFile q = false)
    (hmissing : ∃ q ∈ passed path, tree.hasDir q = false) : tree.makeDir path = .error .notFound := by
  rw [makeDir, find_of_fits hfits, walk_eq_notFound hfits.names hfiles hmissing]
  rfl

theorem exists_makeDirsUpTo {root : Nat} {names : List String} (hfits : PosixPath.Fits ⟨root, names.reverse⟩)
    (hfiles : ∀ q ∈ passed ⟨root, names.reverse⟩, tree.hasFile q = false)
    (hfile : tree.hasFile (target ⟨root, names.reverse⟩) = false) :
    ∃ made, tree.makeDirsUpTo root names = .ok made ∧
      Widened tree made (passed ⟨root, names.reverse⟩ ++ [target ⟨root, names.reverse⟩]) := by
  induction names with
  | nil =>
    refine ⟨tree, rfl, rfl, fun q => ⟨.inl, fun h => h.elim id fun hq => ?_⟩⟩
    -- the only place is that from which paths start
    rw [List.mem_singleton.1 hq]
    exact Bool.or_eq_true_iff.2 (.inl (isBase_start _))
  | cons name above ih =>
    rw [List.reverse_cons] at hfits hfiles hfile ⊢
    have hpassed := passed_append root above.reverse name
    rw [hpassed, List.forall_mem_append, List.forall_mem_singleton] at hfiles
    rw [makeDirsUpTo, List.reverse_cons]
    by_cases hall : ∀ q ∈ passed ⟨root, above.reverse ++ [name]⟩, tree.hasDir q = true
    · -- all directories above are there
      have hopens : ∀ q ∈ passed ⟨root, above.reverse ++ [name]⟩, tree.Opens q := by
        intro q hq
        refine ⟨?_, hall q hq⟩
        rw [hpassed, List.mem_append, List.mem_singleton] at hq
        exact hq.elim (hfiles.1 q) fun heq => heq ▸ hfiles.2
      obtain ⟨made, hmade, hwide⟩ := exists_makeDir hfits hopens hfile
      rw [hmade]
      refine ⟨made, rfl, hwide.files, fun q => ?_⟩
      rw [hwide.dirs q, List.mem_append]
      exact ⟨fun h => h.imp_right .inr, fun h => h.elim .inl fun h => h.elim (fun hq => .inl (hall q hq)) .inr⟩
    · -- those above are made first, and then nothing is in the way
      have hmissing : ∃ q ∈ passed ⟨root, above.reverse ++ [name]⟩, tree.hasDir q = false := by
        simpa using hall
      obtain ⟨made, hmade, hwide⟩ := ih hfits.of_append hfiles.1 hfiles.2
      have hopens : ∀ q ∈ passed ⟨root, above.reverse ++ [name]⟩, made.Opens q := by
        intro q hq
        rw [hpassed] at hq
        refine ⟨?_, (hwide.dirs q).2 (.inr hq)⟩
        rw [hwide.hasFile]
        rw [List.mem_append, List.mem_singleton] at hq
        exact hq.elim (hfiles.1 q) fun heq => heq ▸ hfiles.2
      obtain ⟨final, hfinal, hlast⟩ := exists_makeDir hfits hopens (by rw [hwide.hasFile, hfile])
      have hfirst : tree.makeDir ⟨root, above.reverse ++ [name]⟩ = .error .notFound := by
        refine makeDir_eq_notFound hfits ?_ hmissing
        rw [hpassed, List.forall_mem_append, List.forall_mem_singleton]
        exact hfiles
      rw [hfirst, hmade, hpassed]
      exact ⟨final, hfinal, hwide.trans hlast⟩

/-- The directories that lead to a path and that of the path are made where no file is in the way. -/
theorem exists_makeDirs (hfits : path.Fits) (hfiles : ∀ q ∈ passed path, tree.hasFile q = false)
    (hfile : tree.hasFile (target path) = false) :
    ∃ made, tree.makeDirs path = .ok made ∧ Widened tree made (passed path ++ [target path]) := by
  obtain ⟨root, names⟩ := path
  -- directories are made from the last name upwards
  have h := @exists_makeDirsUpTo tree root names.reverse
  rw [List.reverse_reverse] at h
  exact h hfits hfiles hfile

/-! ## Clear directories -/

/-- Whether nothing is in a directory, or in the way to it where it is still to be made. -/
structure Clear (tree : FileTree) (dir : PosixPath) : Prop where
  passedFiles : ∀ q ∈ passed dir, tree.hasFile q = false
  noFile : tree.hasFile (target dir) = false
  files : ∀ q, Below (target dir) q → tree.hasFile q = false
  dirs : ∀ q, Below (target dir) q → tree.hasDir q = false
  -- a path that comes back from a directory below needs that directory
  passedDirs : ∀ q, Below (target dir) q → q ∉ passed dir

theorem foldl_step_of_forall {names : List String} (h : ∀ name ∈ names, name ≠ "..") (place : Place) :
    names.foldl step place = place ++ names := by
  induction names generalizing place with
  | nil => exact (List.append_nil place).symm
  | cons name names ih =>
    rw [List.forall_mem_cons] at h
    rw [List.foldl_cons, step_of_ne h.1, ih h.2, List.append_assoc, List.singleton_append]

theorem length_le_of_mem_passedFrom {names : List String} (h : ∀ name ∈ names, name ≠ "..")
    (hm : other ∈ passedFrom place names) : other.length ≤ place.length + names.length := by
  induction names generalizing place with
  | nil => cases hm
  | cons name names ih =>
    rw [List.forall_mem_cons] at h
    rcases List.mem_cons.1 hm with rfl | hm
    · exact Nat.le_add_right ..
    · have hle := ih h.2 hm
      rw [step_of_ne h.1, List.length_append, List.length_singleton] at hle
      rw [List.length_cons]
      omega

/-- Where there are no files and directories, each directory is clear whose path names no parent directory. -/
theorem clear_empty (h : ∀ name ∈ path.parts, name ≠ "..") : empty.Clear path := by
  refine ⟨fun _ _ => rfl, rfl, fun _ _ => rfl, fun q hbelow => ?_, fun q hbelow hq => ?_⟩
  · show (isBase q || false) = false
    rw [isBase_of_below hbelow]
    rfl
  · -- what a path passes is no longer than what it leads to
    have hle := length_le_of_mem_passedFrom h hq
    obtain ⟨name, rest, -, -, rfl⟩ := hbelow
    rw [target, foldl_step_of_forall h, List.length_append, List.length_append, List.length_cons] at hle
    omega

end FileTree

end BotApi
