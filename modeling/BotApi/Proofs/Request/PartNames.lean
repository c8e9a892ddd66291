import BotApi.Proofs.Request.Uploads

/-!
# Names of parts

The parts of a request have their names from two sides: an argument gives its part the wire name of the parameter, and
an attachment is named by its number. Neither side repeats a name, so the names of all parts differ unless a parameter
has the name of an attachment. Then no part is lost when the form fields and the files are taken by name, and each
reference leads to one part, which is its file.

## Main results

* `nodup_names_iff` — when the names of parts differ.
* `perm_fields_files` — parts with different names are the form fields and the files.
* `part_names_differ_iff` — what this comes to for an accepted call.
* `request_repeats_name` — a parameter may have the name of an attachment.
-/

namespace BotApi

namespace Request

/-- Whether a name is that of one of the first attachments. -/
def NamesAttachment (count : Nat) (name : String) : Prop := ∃ i < count, name = attachmentName i

/-! ## Differing names -/

section

variable {own parts : List Part} {files : List InputFile} {part : Part}

theorem map_name_partsFrom (files : List InputFile) :
    (partsFrom 0 files).map (·.name) = (List.range files.length).map attachmentName := by
  refine List.ext_getElem (by simp [length_partsFrom]) fun i _ _ => ?_
  simp [partsFrom]

theorem nodup_name_partsFrom (files : List InputFile) : ((partsFrom 0 files).map (·.name)).Nodup := by
  rw [map_name_partsFrom]
  exact List.nodup_range.map fun _ _ => attachmentName_injective

/-- The names of parts and of attachments after them differ unless a part has the name of an attachment. -/
theorem nodup_names_iff (hown : (own.map (·.name)).Nodup) (files : List InputFile) :
    ((own ++ partsFrom 0 files).map (·.name)).Nodup ↔
      ∀ name ∈ own.map (·.name), ¬ NamesAttachment files.length name := by
  -- neither side repeats a name, so it is only a name on both sides that may be repeated
  rw [List.map_append, List.nodup_append, map_name_partsFrom]
  constructor
  · rintro ⟨-, -, hdisjoint⟩ name hname ⟨i, hi, rfl⟩
    exact hdisjoint _ hname _ (List.mem_map_of_mem (List.mem_range.2 hi)) rfl
  · refine fun h => ⟨hown, map_name_partsFrom files ▸ nodup_name_partsFrom files, ?_⟩
    rintro name hname _ hattached rfl
    obtain ⟨i, hi, rfl⟩ := List.mem_map.1 hattached
    exact h _ hname ⟨i, List.mem_range.1 hi, rfl⟩

/-! ## Parts by name -/

/-- The form field of a part, if it is one. -/
def fieldOf? (part : Part) : Option (String × String) :=
  match part.content with
  | .text s => some (part.name, s)
  | .file _ => none

/-- The named file of a part, if it holds one. -/
def namedFile? (part : Part) : Option (String × InputFile) :=
  match part.content with
  | .text _ => none
  | .file f => some (part.name, f)

/-- The part of a form field. -/
def ofField (e : String × String) : Part := ⟨e.1, .text e.2⟩

/-- The part of a named file. -/
def ofFile (e : String × InputFile) : Part := ⟨e.1, .file e.2⟩

theorem map_fst_fieldOf?_sublist (parts : List Part) :
    ((parts.filterMap fieldOf?).map Prod.fst).Sublist (parts.map (·.name)) := by
  induction parts with
  | nil => exact List.Sublist.refl _
  | cons part rest ih =>
    obtain ⟨name, content⟩ := part
    cases content with
    | text s => exact ih.cons_cons name
    | file f => exact ih.cons name

theorem map_fst_namedFile?_sublist (parts : List Part) :
    ((parts.filterMap namedFile?).map Prod.fst).Sublist (parts.map (·.name)) := by
  induction parts with
  | nil => exact List.Sublist.refl _
  | cons part rest ih =>
    obtain ⟨name, content⟩ := part
    cases content with
    | text s => exact ih.cons name
    | file f => exact ih.cons_cons name

/-- Parts are form fields or files. -/
theorem perm_filterMap (parts : List Part) :
    ((parts.filterMap fieldOf?).map ofField ++ (parts.filterMap namedFile?).map ofFile).Perm parts := by
  induction parts with
  | nil => exact .refl _
  | cons part rest ih =>
    obtain ⟨name, content⟩ := part
    cases content with
    | text s => exact ih.cons _
    -- a file comes after all form fields
    | file f => exact List.perm_middle.trans (ih.cons _)

/-- Parts with different names are the form fields and the files, each of them once. -/
theorem perm_fields_files {request : Request} (h : (request.partList.map (·.name)).Nodup) :
    (request.fields.map ofField ++ request.files.map ofFile).Perm request.partList := by
  -- nothing is put under a name twice, so no part takes the place of another one
  have hfields : request.fields = request.partList.filterMap fieldOf? :=
    Entries.merge_of_nodup ((map_fst_fieldOf?_sublist _).nodup h)
  have hfiles : request.files = request.partList.filterMap namedFile? :=
    Entries.merge_of_nodup ((map_fst_namedFile?_sublist _).nodup h)
  rw [hfields, hfiles]
  exact perm_filterMap request.partList

/-- Of parts with different names one alone has the name of a given one. -/
theorem filter_name_eq (h : (parts.map (·.name)).Nodup) (hm : part ∈ parts) :
    parts.filter (fun q => q.name = part.name) = [part] := by
  obtain ⟨before, after, rfl⟩ := List.append_of_mem hm
  rw [List.map_append, List.map_cons, List.nodup_append, List.nodup_cons] at h
  obtain ⟨-, ⟨hafter, -⟩, hbefore⟩ := h
  have hnone : ∀ q ∈ before, q.name ≠ part.name := fun q hq =>
    hbefore _ (List.mem_map_of_mem hq) _ (List.mem_cons_self ..)
  have hrest : ∀ q ∈ after, q.name ≠ part.name := fun q hq hname =>
    hafter (hname ▸ List.mem_map_of_mem hq)
  rw [List.filter_append, List.filter_cons_of_pos (by simp), List.filter_eq_nil_iff.2 (by simpa using hnone),
    List.filter_eq_nil_iff.2 (by simpa using hrest), List.nil_append]

theorem mem_partsFrom {i : Nat} {f : InputFile} (h : files[i]? = some f) :
    ⟨attachmentName i, .file f⟩ ∈ partsFrom 0 files := by
  refine List.mem_of_getElem? (i := i) ?_
  rw [partsFrom, List.getElem?_mapIdx, h, Nat.zero_add]
  rfl

end

/-! ## Accepted calls -/

/-- The arguments of an accepted call to a method with attachments, whose parameters have different wire names, are
converted with references in the place of their files. The names of its parts differ if and only if no parameter that
was given has the name of one of the attachments. Then the form fields and the files are all parts, each of them once,
and the name that a reference has leads to one part only, which is the file whose place the reference has taken. -/
theorem part_names_differ_iff {types : Table TypeBinding} {method : MethodBinding} {arguments : Arguments}
    {request : Request} (hflag : method.hasAttachment = true) (hn : (method.params.map (·.wireName)).Nodup)
    (h : encode types method arguments = .ok request) :
    ∃ placed, inPlaceAll types (given arguments method.params) = .ok placed ∧
      convertAll types (given arguments method.params) [] =
        .ok (sentAll 0 placed, partsFrom 0 (nestedAll placed)) ∧
      ((request.partList.map (·.name)).Nodup ↔
        ∀ e ∈ given arguments method.params, ¬ NamesAttachment (nestedAll placed).length e.1.wireName) ∧
      ((request.partList.map (·.name)).Nodup →
        (request.fields.map ofField ++ request.files.map ofFile).Perm request.partList ∧
        ∀ i f, (nestedAll placed)[i]? = some f →
          request.partList.filter (fun part => part.name = attachmentName i) = [⟨attachmentName i, .file f⟩]) := by
  obtain ⟨placed, body, hplaced, hbody, rfl⟩ := inPlaceAll_of_encode hn h
  rw [bodyOf, if_pos hflag] at hbody
  obtain ⟨own, hown, hbody⟩ := bind_eq_ok_iff.1 hbody
  cases hbody
  -- the parts of the arguments come first, and their names are wire names
  have hnames : own.map (·.name) = (given arguments method.params).map fun e => e.1.wireName := by
    rw [(ownParts hown).1, map_fst_sentAll, map_fst_inPlaceAll hplaced]
  refine ⟨placed, hplaced, ?_, ?_, fun hdiffer => ⟨perm_fields_files hdiffer, fun i f hi => ?_⟩⟩
  · rw [convertAll_refines, hplaced]
    rfl
  · show ((own ++ partsFrom 0 (nestedAll placed)).map (·.name)).Nodup ↔ _
    rw [nodup_names_iff (hnames ▸ nodup_given hn arguments), hnames, List.forall_mem_map]
  · have hpart : ⟨attachmentName i, .file f⟩ ∈ own ++ partsFrom 0 (nestedAll placed) :=
      List.mem_append_right own (mem_partsFrom hi)
    exact filter_name_eq hdiffer hpart

/-! ### A parameter with the name of an attachment -/

/-- A method that takes files, and another one under the name of the first attachment. -/
def sendFilesSpec : MethodSpec where
  href := ""
  description := []
  fields := [⟨"media", ["Array of InputFile"], true, ""⟩, ⟨"attach_1", ["InputFile"], false, ""⟩]
  returns := ["True"]

/-- A schema with that method. -/
def filesSchema : Schema where
  version := none
  releaseDate := none
  changelog := none
  types := .empty
  methods := .ofList [("send", sendFilesSpec)]

/-- The binding of the method. -/
def sendFilesMethod : MethodBinding where
  name := "send"
  params := [⟨"media", "media", .array (.primitive .inputFile), true, ""⟩,
    ⟨"attach_1", "attach_1", .primitive .inputFile, false, ""⟩]
  returns := .primitive .literalTrue
  hasAttachment := true
  snakeName := "send"
  description := []

/-- Two files, and none for the other parameter. -/
def mediaArguments : Arguments := [(.text "media", .list [.bytes [0], .bytes [1]])]

theorem part_names_differ_iff_mediaArguments :
    sendFilesMethod.hasAttachment = true ∧ (sendFilesMethod.params.map (·.wireName)).Nodup ∧
      ∃ request, encode .empty sendFilesMethod mediaArguments = .ok request ∧
        (request.partList.map (·.name)).Nodup ∧
        (request.fields.map ofField ++ request.files.map ofFile).Perm request.partList ∧
        request.partList.filter (fun part => part.name = "attach_2") = [⟨"attach_2", .file ⟨.octets [1], "file"⟩⟩] := by
  have hn : (sendFilesMethod.params.map (·.wireName)).Nodup := by decide
  have hencode : encode .empty sendFilesMethod mediaArguments =
      .ok ⟨"send", .parts [⟨"media", .text "[\"attach://attach_1\",\"attach://attach_2\"]"⟩,
        ⟨"attach_1", .file ⟨.octets [0], "file"⟩⟩, ⟨"attach_2", .file ⟨.octets [1], "file"⟩⟩]⟩ := by
    cbv
  obtain ⟨placed, hplaced, -, hiff, hlost⟩ := part_names_differ_iff rfl hn hencode
  have hgiven : inPlaceAll .empty (given mediaArguments sendFilesMethod.params) =
      .ok [("media", .list [.file ⟨.octets [0], "file"⟩, .file ⟨.octets [1], "file"⟩])] := by
    cbv
  rw [hgiven] at hplaced
  cases hplaced
  -- the parameter of the list is the only one that is given
  have hapart : ∀ e ∈ given mediaArguments sendFilesMethod.params, ¬ NamesAttachment 2 e.1.wireName := by
    unfold NamesAttachment
    decide
  obtain ⟨hperm, hreferences⟩ := hlost (hiff.2 hapart)
  exact ⟨rfl, hn, _, hencode, hiff.2 hapart, hperm, hreferences 1 _ rfl⟩

/-- With a file for the parameter the first attachment has its name. Taken by name, one of the files is lost. -/
theorem request_repeats_name :
    ∃ b, (Bindings.build filesSchema).result = .ok b ∧ b.method? "send" = some sendFilesMethod ∧
      sendFilesMethod.hasAttachment = true ∧ (sendFilesMethod.params.map (·.wireName)).Nodup ∧
      ∃ request, encode b.types sendFilesMethod ((.text "attach_1", .bytes [7]) :: mediaArguments) = .ok request ∧
        ¬ (request.partList.map (·.name)).Nodup ∧
        request.files = [("attach_1", ⟨.octets [0], "file"⟩), ("attach_2", ⟨.octets [1], "file"⟩)] ∧
        ⟨"attach_1", .file ⟨.octets [7], "file"⟩⟩ ∈ request.partList := by
  refine ⟨⟨.empty, .ofList [("send", sendFilesMethod)], none⟩, ?_, ?_, rfl, by decide,
    ⟨"send", .parts [⟨"media", .text "[\"attach://attach_1\",\"attach://attach_2\"]"⟩,
      ⟨"attach_1", .file ⟨.octets [7], "file"⟩⟩, ⟨"attach_1", .file ⟨.octets [0], "file"⟩⟩,
      ⟨"attach_2", .file ⟨.octets [1], "file"⟩⟩]⟩, ?_, by decide, by decide, by decide⟩
  · exact eq_ok_of_toOption (by decide +kernel)
  · decide +kernel
  · cbv

end Request

end BotApi
