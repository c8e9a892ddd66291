import BotApi.Proofs.FileTree
import BotApi.Proofs.Results
import Mathlib.Data.List.Induction
import Mathlib.Data.List.TakeWhile

/-!
# Writing over files

What was written once can be written again, and nothing changes. Files that are put in the places of other files keep
these places, also in the order of a tree; so the same row of files, put twice, leaves the tree that it leaves when it
is put once. Whether a path can be written to is told by the directories and by the files that stand in their way; and
what is written is never in the place of a directory. Therefore the second row of writings ends where the first one did,
with the same fault or with none.

## Main results

* `Entries.foldl_put_foldl_put` — a row of entries that is put twice is put once.
* `AsOpen.ready_iff` — files that are put beside the directories leave each path as ready as it was.
* `write_write` — a file that is opened, which empties it, and then written is written.
* `makeDirs_spec`, `AsOpen.makeDirs_eq` — once directories are made, making them again changes nothing.
-/

namespace BotApi

/-! ## Entries put twice -/

namespace Entries

variable {κ α : Type} [DecidableEq κ] {key other : κ} {entries done rest : List (κ × α)}

theorem put_put (key : κ) (a b : α) (entries : List (κ × α)) : put key a (put key b entries) = put key a entries := by
  induction entries with
  | nil => simp [put]
  | cons e entries ih =>
    obtain ⟨k, c⟩ := e
    by_cases hk : k = key
    · simp [put, hk]
    · simp [put, hk, ih]

theorem mem_of_find? {a : α} (h : find? key entries = some a) : (key, a) ∈ entries := by
  obtain ⟨before, after, heq, -⟩ := List.lookup_eq_some_iff.1 h
  rw [heq]
  simp

theorem find?_eq_none_of_forall_ne (h : ∀ e ∈ entries, e.1 ≠ key) : find? key entries = none := by
  refine List.lookup_eq_none_iff.2 fun e he => ?_
  simp [(h e he).symm]

/-- A key that is there has its place already, and so it makes no difference when its value is put. -/
theorem put_comm (hne : key ≠ other) (h : key ∈ entries.map Prod.fst) (a b : α) :
    put key a (put other b entries) = put other b (put key a entries) := by
  induction entries with
  | nil => cases h
  | cons e entries ih =>
    obtain ⟨k, c⟩ := e
    by_cases hk : k = key
    · subst hk
      simp [put, hne]
    · have hrest : key ∈ entries.map Prod.fst := by
        rcases List.mem_cons.1 h with heq | hrest
        · exact absurd heq.symm hk
        · exact hrest
      by_cases ho : k = other
      · simp [put, ho, hne.symm]
      · simp [put, hk, ho, ih hrest]

theorem mem_keys_put (key : κ) (a : α) (entries : List (κ × α)) : key ∈ (put key a entries).map Prod.fst := by
  rw [keys_put]
  split
  · next h => exact h
  · simp

theorem mem_keys_put_of_mem (h : other ∈ entries.map Prod.fst) (key : κ) (a : α) :
    other ∈ (put key a entries).map Prod.fst := by
  rw [keys_put]
  split
  · exact h
  · exact List.mem_append_left _ h

theorem mem_keys_foldl_put_of_mem (h : other ∈ done.map Prod.fst) :
    other ∈ (rest.foldl (fun done e => put e.1 e.2 done) done).map Prod.fst := by
  induction rest generalizing done with
  | nil => exact h
  | cons e rest ih => exact ih (mem_keys_put_of_mem h e.1 e.2)

theorem mem_keys_foldl_put {e : κ × α} (h : e ∈ rest) :
    e.1 ∈ (rest.foldl (fun done e => put e.1 e.2 done) done).map Prod.fst := by
  induction rest generalizing done with
  | nil => cases h
  | cons first rest ih =>
    rcases List.mem_cons.1 h with rfl | h
    · rw [List.foldl_cons]
      exact mem_keys_foldl_put_of_mem (mem_keys_put e.1 e.2 done)
    · exact ih h

/-- Where all keys are there, a value that is put first is lost if it is put under its key again at the end. -/
theorem put_foldl_put (hkeys : ∀ e ∈ rest, e.1 ∈ done.map Prod.fst) (key : κ) (a b : α) :
    put key a (rest.foldl (fun done e => put e.1 e.2 done) (put key b done)) =
      put key a (rest.foldl (fun done e => put e.1 e.2 done) done) := by
  induction rest generalizing done with
  | nil => exact put_put key a b done
  | cons e rest ih =>
    obtain ⟨hfirst, hrest⟩ := List.forall_mem_cons.1 hkeys
    have hmore : ∀ e' ∈ rest, e'.1 ∈ (put e.1 e.2 done).map Prod.fst := fun e' he' =>
      mem_keys_put_of_mem (hrest e' he') e.1 e.2
    rw [List.foldl_cons, List.foldl_cons]
    by_cases heq : e.1 = key
    · rw [heq, put_put]
    · rw [put_comm heq hfirst, ih hmore]

/-- A row of entries that is put twice is put once. -/
theorem foldl_put_foldl_put (rest done : List (κ × α)) :
    rest.foldl (fun done e => put e.1 e.2 done) (rest.foldl (fun done e => put e.1 e.2 done) done) =
      rest.foldl (fun done e => put e.1 e.2 done) done := by
  -- the last entry is put at the end both times, so the first time does not count
  induction rest using List.reverseRecOn with
  | nil => rfl
  | append_singleton rest e ih =>
    rw [List.foldl_append, List.foldl_append, List.foldl_cons, List.foldl_cons, List.foldl_nil, List.foldl_nil,
      put_foldl_put fun e' he' => mem_keys_foldl_put he', ih]

/-- Where all keys are there, a value under another key may as well be put last. -/
theorem foldl_put_put (hkeys : ∀ e ∈ rest, e.1 ∈ done.map Prod.fst) (hother : ∀ e ∈ rest, e.1 ≠ key) (a : α) :
    rest.foldl (fun done e => put e.1 e.2 done) (put key a done) =
      put key a (rest.foldl (fun done e => put e.1 e.2 done) done) := by
  induction rest generalizing done with
  | nil => rfl
  | cons e rest ih =>
    obtain ⟨hfirst, hrest⟩ := List.forall_mem_cons.1 hkeys
    obtain ⟨hne, hothers⟩ := List.forall_mem_cons.1 hother
    have hmore : ∀ e' ∈ rest, e'.1 ∈ (put e.1 e.2 done).map Prod.fst := fun e' he' =>
      mem_keys_put_of_mem (hrest e' he') e.1 e.2
    rw [List.foldl_cons, List.foldl_cons, put_comm hne hfirst, ih hmore hothers]

end Entries

namespace FileTree

variable {tree made final : FileTree} {path : PosixPath} {place : Place} {content : String}
  {files more : List (PosixPath × String)}

/-! ## Trees with the same files -/

theorem dirs_putAll (tree : FileTree) (files : List (PosixPath × String)) : (tree.putAll files).dirs = tree.dirs := by
  induction files generalizing tree with
  | nil => rfl
  | cons f files ih =>
    rw [putAll, List.foldl_cons, ← putAll, ih]
    rfl

theorem ext_of_files (hfiles : tree.files = made.files) (hdirs : tree.dirs = made.dirs) : tree = made := by
  cases tree
  cases made
  congr

/-- A row of files that is put twice is put once. -/
theorem putAll_putAll (tree : FileTree) (files : List (PosixPath × String)) :
    (tree.putAll files).putAll files = tree.putAll files := by
  refine ext_of_files ?_ (by rw [dirs_putAll])
  rw [files_putAll, files_putAll, Entries.foldl_put_foldl_put]

/-- Another file that was put after a row of files is there when the row is put again, and nothing changes. -/
theorem putAll_putAll_concat {f : PosixPath × String} (hapart : ∀ g ∈ files, target g.1 ≠ target f.1) :
    (tree.putAll (files ++ [f])).putAll files = tree.putAll (files ++ [f]) := by
  refine ext_of_files ?_ (by rw [dirs_putAll])
  have hplaced : placed (files ++ [f]) = placed files ++ [(target f.1, f.2)] := List.map_append
  rw [files_putAll, files_putAll, hplaced, List.foldl_append, List.foldl_cons, List.foldl_nil]
  rw [Entries.foldl_put_put (fun e he => Entries.mem_keys_foldl_put he), Entries.foldl_put_foldl_put]
  exact List.forall_mem_map.2 hapart

/-- What is read once files were put is the last text that was put in the place, or else what was there. -/
theorem read?_putAll (tree : FileTree) (files : List (PosixPath × String)) (place : Place) :
    (tree.putAll files).read? place = (Entries.find? place (placed files).reverse).or (tree.read? place) := by
  rw [read?, files_putAll]
  exact Entries.lookup_foldl_put _ _ _

/-- The text that was put last in a place is that of one of the files there. -/
theorem exists_find?_placed {f : PosixPath × String} (hf : f ∈ files) :
    ∃ g ∈ files, target g.1 = target f.1 ∧ Entries.find? (target f.1) (placed files).reverse = some g.2 := by
  have hplaced : (target f.1, f.2) ∈ (placed files).reverse := List.mem_reverse.2 (List.mem_map_of_mem hf)
  obtain ⟨text, htext⟩ := Option.isSome_iff_exists.1 (Entries.isSome_find?_of_mem hplaced)
  have hmem := Entries.mem_of_find? htext
  obtain ⟨g, hg, heq⟩ := List.mem_map.1 (List.mem_reverse.1 hmem)
  obtain ⟨htarget, rfl⟩ := Prod.mk.inj heq
  exact ⟨g, hg, htarget, htext⟩

theorem find?_placed_of_forall_ne (h : ∀ f ∈ files, target f.1 ≠ place) :
    Entries.find? place (placed files).reverse = none := by
  refine Entries.find?_eq_none_of_forall_ne fun e he => ?_
  obtain ⟨f, hf, rfl⟩ := List.mem_map.1 (List.mem_reverse.1 he)
  exact h f hf

/-! ## Trees that are as open as others -/

/-- Whether a tree has the directories of another one, and in the places of these no other files. -/
structure AsOpen (made tree : FileTree) : Prop where
  dirs : tree.dirs = made.dirs
  files : ∀ q, made.hasDir q = true → tree.hasFile q = made.hasFile q

theorem AsOpen.refl (tree : FileTree) : AsOpen tree tree := ⟨rfl, fun _ _ => rfl⟩

namespace AsOpen

variable (h : AsOpen made tree)

include h

theorem hasDir_eq (place : Place) : tree.hasDir place = made.hasDir place := by
  rw [hasDir, hasDir, h.dirs]

theorem opens_iff : tree.Opens place ↔ made.Opens place := by
  constructor
  · rintro ⟨hfile, hdir⟩
    rw [h.hasDir_eq] at hdir
    rw [h.files place hdir] at hfile
    exact ⟨hfile, hdir⟩
  · rintro ⟨hfile, hdir⟩
    refine ⟨?_, ?_⟩
    · rw [h.files place hdir, hfile]
    · rw [h.hasDir_eq, hdir]

theorem forall_opens_iff {places : List Place} :
    (∀ q ∈ places, tree.Opens q) ↔ ∀ q ∈ places, made.Opens q :=
  forall₂_congr fun _ _ => h.opens_iff

theorem find_eq_ok_iff : tree.find path = .ok place ↔ made.find path = .ok place := by
  rw [FileTree.find_eq_ok_iff, FileTree.find_eq_ok_iff, h.forall_opens_iff]

theorem ready_iff : tree.Ready path ↔ made.Ready path := by
  have hfree := h.hasDir_eq (target path)
  constructor
  · intro hready
    refine ⟨hready.fits, h.forall_opens_iff.1 hready.opens, ?_⟩
    rw [← hfree, hready.free]
  · intro hready
    refine ⟨hready.fits, h.forall_opens_iff.2 hready.opens, ?_⟩
    rw [hfree, hready.free]

/-- A path leads to something in both trees if its place is that of a file in both. -/
theorem hasPath_eq (hfile : tree.hasFile (target path) = made.hasFile (target path)) :
    tree.hasPath path = made.hasPath path := by
  have hfound := @find_eq_ok_iff tree made path (target path) h
  unfold hasPath
  cases hfind : tree.find path with
  | ok place =>
    obtain rfl := (FileTree.find_eq_ok_iff.1 hfind).2.2
    rw [hfound.1 hfind]
    dsimp only
    rw [h.hasDir_eq, hfile]
  | error fault =>
    cases hmade : made.find path with
    | error fault => rfl
    | ok place =>
      obtain rfl := (FileTree.find_eq_ok_iff.1 hmade).2.2
      rw [hfound.2 hmade] at hfind
      cases hfind

/-- What is written is not in the place of a directory. -/
theorem put (hready : made.Ready path) (content : String) : AsOpen made (tree.put (target path) content) := by
  refine ⟨h.dirs, fun q hq => ?_⟩
  have hne : q ≠ target path := by
    rintro rfl
    rw [hready.free] at hq
    cases hq
  rw [hasFile_put, decide_eq_false hne, Bool.false_or, h.files q hq]

theorem putAll (hready : ∀ f ∈ files, made.Ready f.1) : AsOpen made (tree.putAll files) := by
  induction files generalizing tree with
  | nil => exact h
  | cons f files ih =>
    obtain ⟨hfirst, hrest⟩ := List.forall_mem_cons.1 hready
    exact ih (h.put hfirst f.2) hrest

end AsOpen

/-! ## Writings that may fail -/

/-- No path to which a file can be written leads through its own place. -/
theorem Ready.target_not_mem_passed (h : tree.Ready path) : target path ∉ passed path := by
  intro hm
  have hdir := (h.opens _ hm).isDir
  rw [h.free] at hdir
  cases hdir

/-- Whether a file can be written does not depend on its text. -/
theorem write_eq_error {fault : FileFault} (h : tree.write path content = .error fault) (other : String) :
    tree.write path other = .error fault := by
  unfold write at h ⊢
  cases hfind : tree.find path with
  | error reason =>
    rw [hfind] at h
    exact h
  | ok place =>
    rw [hfind] at h
    dsimp only [bind, Except.bind] at h ⊢
    split at h
    · next hdir =>
      rw [if_pos hdir]
      exact h
    · cases h

/-- A file that is written and written again is written once. -/
theorem write_write (h : tree.write path content = .ok made) (other : String) :
    made.write path other = tree.write path other := by
  obtain ⟨hready, rfl⟩ := write_eq_ok_iff.1 h
  have hagain : (tree.put (target path) content).put (target path) other = tree.put (target path) other :=
    ext_of_files (Entries.put_put _ _ _ _) rfl
  rw [write_eq_ok_iff.2 ⟨hready, rfl⟩, write_eq_ok_iff.2 ⟨hready.put hready.target_not_mem_passed content, rfl⟩, hagain]

/-- Whether a file can be written to a path. -/
def takes (tree : FileTree) (path : PosixPath) : Bool :=
  match tree.write path "" with
  | .ok _ => true
  | .error _ => false

theorem takes_iff : tree.takes path = true ↔ tree.Ready path := by
  unfold takes
  cases hwrite : tree.write path "" with
  | ok made => exact ⟨fun _ => (write_eq_ok_iff.1 hwrite).1, fun _ => rfl⟩
  | error fault =>
    refine ⟨nofun, fun hready => ?_⟩
    rw [write_eq_ok_iff.2 ⟨hready, rfl⟩] at hwrite
    cases hwrite

theorem write_of_takes (h : tree.takes path = true) (content : String) :
    tree.write path content = .ok (tree.put (target path) content) :=
  write_eq_ok_iff.2 ⟨takes_iff.1 h, rfl⟩

theorem exists_write_eq_error (h : tree.takes path = false) (content : String) :
    ∃ fault, tree.write path content = .error fault := by
  cases hwrite : tree.write path content with
  | error fault => exact ⟨fault, rfl⟩
  | ok made =>
    rw [takes_iff.2 (write_eq_ok_iff.1 hwrite).1] at h
    cases h

theorem AsOpen.takes_eq (h : AsOpen made tree) (path : PosixPath) : tree.takes path = made.takes path := by
  rw [Bool.eq_iff_iff, takes_iff, takes_iff, h.ready_iff]

/-- The files of a row up to the first that cannot be written. -/
def taken (tree : FileTree) (files : List (PosixPath × String)) : List (PosixPath × String) :=
  files.takeWhile fun f => tree.takes f.1

theorem ready_of_mem_taken {f : PosixPath × String} (hf : f ∈ tree.taken files) : tree.Ready f.1 :=
  takes_iff.1 (List.mem_takeWhile_imp (p := fun g : PosixPath × String => tree.takes g.1) hf)

theorem mem_of_mem_taken {f : PosixPath × String} (hf : f ∈ tree.taken files) : f ∈ files :=
  (List.takeWhile_sublist _).subset hf

theorem AsOpen.taken_eq (h : AsOpen made tree) (files : List (PosixPath × String)) :
    tree.taken files = made.taken files := by
  unfold taken
  simp only [h.takes_eq]

theorem length_taken_le (tree : FileTree) (files : List (PosixPath × String)) :
    (tree.taken files).length ≤ files.length :=
  (List.takeWhile_sublist _).length_le

theorem taken_singleton (tree : FileTree) (f : PosixPath × String) :
    tree.taken [f] = if tree.takes f.1 then [f] else [] := by
  rw [taken, List.takeWhile_cons, List.takeWhile_nil]

/-- After a row that can be written, the next one is written as far as it can be. -/
theorem taken_append_of_eq (h : tree.taken files = files) (more : List (PosixPath × String)) :
    tree.taken (files ++ more) = files ++ tree.taken more := by
  rw [taken, List.takeWhile_append, ← taken, h, if_pos rfl]
  rfl

/-- After a row that cannot be written to its end, nothing is. -/
theorem taken_append_of_ne (h : tree.taken files ≠ files) (more : List (PosixPath × String)) :
    tree.taken (files ++ more) = tree.taken files := by
  rw [taken, List.takeWhile_append, if_neg]
  · rfl
  · intro hlength
    exact h ((List.takeWhile_sublist _).eq_of_length hlength)

/-! ## Directories made twice -/

theorem makeDir_spec (h : tree.makeDir path = .ok made) :
    made.files = tree.files ∧ made.find path = .ok (target path) ∧ made.hasDir (target path) = true := by
  unfold makeDir at h
  cases hfind : tree.find path with
  | error fault =>
    rw [hfind] at h
    cases h
  | ok place =>
    obtain ⟨hfits, hopens, rfl⟩ := find_eq_ok_iff.1 hfind
    rw [hfind] at h
    dsimp only [bind, Except.bind] at h
    cases hdir : tree.hasDir (target path) with
    | true =>
      rw [hdir, if_pos rfl] at h
      cases h
      exact ⟨rfl, hfind, hdir⟩
    | false =>
      rw [hdir, if_neg Bool.false_ne_true] at h
      split at h
      · cases h
      · cases h
        have hwide := widened_addDir tree (target path)
        refine ⟨hwide.files, find_eq_ok_iff.2 ⟨hfits, fun q hq => ?_, rfl⟩, (hwide.dirs _).2 (.inr (by simp))⟩
        -- what could be passed can still be passed
        refine ⟨?_, (hwide.dirs q).2 (.inl (hopens q hq).isDir)⟩
        rw [hwide.hasFile, (hopens q hq).noFile]

theorem files_of_makeDirsUpTo {root : Nat} {names : List String} (h : tree.makeDirsUpTo root names = .ok made) :
    made.files = tree.files := by
  induction names generalizing made with
  | nil =>
    cases h
    rfl
  | cons name above ih =>
    rw [makeDirsUpTo] at h
    split at h
    · obtain ⟨between, hbetween, hlast⟩ := bind_eq_ok_iff.1 h
      exact (makeDir_spec hlast).1.trans (ih hbetween)
    · exact (makeDir_spec h).1

/-- Making directories leaves the files as they are, and then the directory is there. -/
theorem makeDirs_spec (hne : path.parts ≠ []) (h : tree.makeDirs path = .ok made) :
    made.files = tree.files ∧ made.find path = .ok (target path) ∧ made.hasDir (target path) = true := by
  refine ⟨files_of_makeDirsUpTo h, ?_⟩
  obtain ⟨root, names⟩ := path
  obtain ⟨last, above, hnames⟩ : ∃ last above, names.reverse = last :: above :=
    List.exists_cons_of_ne_nil (by simpa using hne)
  have hpath : (last :: above).reverse = names := by rw [← hnames, List.reverse_reverse]
  -- whether those above had to be made or not, the directory itself is made last
  have hlast : ∃ between : FileTree, between.makeDir ⟨root, names⟩ = .ok made := by
    rw [makeDirs, hnames, makeDirsUpTo, hpath] at h
    split at h
    · obtain ⟨between, -, hlast⟩ := bind_eq_ok_iff.1 h
      exact ⟨between, hlast⟩
    · exact ⟨tree, h⟩
  obtain ⟨between, hlast⟩ := hlast
  exact (makeDir_spec hlast).2

/-- Where a directory is there, making it changes nothing. -/
theorem makeDirs_of_hasDir (hfind : tree.find path = .ok place) (hdir : tree.hasDir place = true) :
    tree.makeDirs path = .ok tree := by
  obtain ⟨root, names⟩ := path
  have hmake : tree.makeDir ⟨root, names⟩ = .ok tree := by
    rw [makeDir, hfind]
    dsimp only [bind, Except.bind]
    rw [hdir, if_pos rfl]
    rfl
  rw [makeDirs]
  cases hnames : names.reverse with
  | nil => rfl
  | cons last above =>
    have hpath : (last :: above).reverse = names := by rw [← hnames, List.reverse_reverse]
    rw [makeDirsUpTo, hpath, hmake]

/-- Once directories are made and files are written, making the directories again changes nothing. -/
theorem AsOpen.makeDirs_eq (h : AsOpen made final) (hne : path.parts ≠ []) (hmade : tree.makeDirs path = .ok made) :
    final.makeDirs path = .ok final := by
  obtain ⟨-, hfind, hdir⟩ := makeDirs_spec hne hmade
  refine makeDirs_of_hasDir (h.find_eq_ok_iff.2 hfind) ?_
  rw [h.hasDir_eq, hdir]

end FileTree

end BotApi
