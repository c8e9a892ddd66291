import BotApi.Proofs.Json.RoundTrip
import BotApi.Proofs.Request.Uploads

/-!
# Form texts are read back

An argument that is sent in a form field is a text, which stands for itself, or its form text is JSON. A conversion
makes mappings of the fields of a type, whose wire names differ, so no key stands twice in what it comes to. As long as
there are no decimal numbers in it, its JSON is read as the very value.

## Main results

* `isSent_of_convert` — what an argument is as it is sent.
* `read_formText` — what is sent is read back from its form text.
* `form_text_is_lossless` — every converted argument has a form text, from which it is told.
-/

namespace BotApi

namespace Request

open Value (isOrderly)

/-! ## Converted values -/

/-- Whether a value is one that is sent in a text, as far as the values in it are. No key stands twice in a
mapping. -/
def isSent : Value → Bool
  | .bool _ | .int _ | .float _ | .text _ | .list _ => true
  | .object entries => (entries.map Prod.fst).all Key.isText && decide ((entries.map Prod.fst).Nodup)
  | _ => false

/-- Whether a value is no decimal number, and not too long if it is a whole one. -/
def isShortNumber : Value → Bool
  | .int n => isWritable n
  | .float _ => false
  | _ => true

theorem map_fst_inPlaceFields_sublist {types : Table TypeBinding} {fields : List FieldBinding}
    {entries out : List (Key × Value)} (h : inPlaceFields types fields entries = .ok out) :
    (out.map Prod.fst).Sublist (fields.map fun f => .text f.wireName) := by
  induction fields generalizing out with
  | nil =>
    rw [inPlaceFields] at h
    cases h
    exact List.Sublist.refl _
  | cons f rest ih =>
    rw [inPlaceFields_cons] at h
    split at h
    · split at h
      · cases h
      · exact (ih h).cons _
    · obtain ⟨first, -, h⟩ := bind_eq_ok_iff.1 h
      obtain ⟨more, hmore, h⟩ := bind_eq_ok_iff.1 h
      cases h
      exact (ih hmore).cons_cons _

theorem isOrderly_of_inPlacePrimitive {p : Primitive} {v r : Value} (h : inPlacePrimitive p v = .ok r) :
    r.throughout isOrderly = true := by
  rw [inPlacePrimitive] at h
  split at h
  · cases h
  next ha =>
    split at h
    · split at h <;> cases h
      rfl
    next hp =>
      cases h
      -- no other primitive type admits what has parts
      cases v with
      | list | tuple | object | record => cases p <;> first | exact absurd rfl hp | exact absurd rfl ha
      | _ => rfl

/-- What a conversion comes to has no key twice in a mapping. -/
theorem isOrderly_of_inPlace {types : Table TypeBinding} (resolved : Resolved types) {opens : Nat} {e : TypeExpr}
    {v r : Value} (h : inPlace types opens e v = .ok r) : r.throughout isOrderly = true := by
  refine inPlace_induction types (motive := fun _ _ r => r.throughout isOrderly = true)
    ?primitive ?items ?option ?variant ?entries h
  case primitive => exact fun p v r h => isOrderly_of_inPlacePrimitive h
  case items =>
    intro item v items out _ hout ih
    refine Value.throughout_list_iff.2 ⟨rfl, fun r hr => ?_⟩
    obtain ⟨w, hw, hwr⟩ := exists_of_mem_right hout hr
    exact ih w hw r hwr
  case option => exact fun options e v r _ ih => ih
  case variant => exact fun name type e v r _ _ ih => ih
  case entries =>
    intro name type v entries out htype _ _ _ hout ih
    refine Value.throughout_object_iff.2 ⟨?_, fun k r hm => ?_⟩
    -- the keys are wire names of the type, in the order of its fields
    · rw [isOrderly, decide_eq_true_eq]
      refine (map_fst_inPlaceFields_sublist hout).nodup ?_
      have hnames := (resolved.wireNames name type htype).map fun _ _ => Key.text.inj
      rwa [List.map_map] at hnames
    · obtain ⟨f, -, -, w, hw, hr⟩ := exists_of_mem_inPlaceFields hout hm
      exact ih f w r hw hr

mutual

/-- A value with references in the place of its files is sent in a text. -/
theorem isSent_attached : ∀ (v : Value) (n : Nat), v.throughout (isWireShaped fun _ => true) = true →
    v.throughout isOrderly = true → (v.attached n).throughout isSent = true
  | .list items, n => by
    intro hshape horder
    rw [Value.attached, Value.throughout, isSent, Bool.true_and]
    exact isSent_attachedItems items n (Value.throughoutItems_iff.2 (Value.throughout_list_iff.1 hshape).2)
      (Value.throughoutItems_iff.2 (Value.throughout_list_iff.1 horder).2)
  | .object entries, n => by
    intro hshape horder
    obtain ⟨hkeys, hshape⟩ := Value.throughout_object_iff.1 hshape
    obtain ⟨hnodup, horder⟩ := Value.throughout_object_iff.1 horder
    obtain ⟨hnames, heach⟩ := isSent_attachedEntries entries n (Value.throughoutEntries_iff.2 hshape)
      (Value.throughoutEntries_iff.2 horder)
    rw [Value.attached, Value.throughout, heach, Bool.and_true, isSent, hnames, Bool.and_eq_true, List.all_map]
    exact ⟨hkeys, hnodup⟩
  | .bool _, _ | .int _, _ | .float _, _ | .text _, _ | .file _, _ => fun _ _ => rfl
  | .null, _ | .absent, _ | .bytes _, _ | .bytearray _, _ | .tuple _, _ | .stream _, _ | .record _ _, _
  | .foreign _ _, _ => fun h => absurd (Value.holds_of_throughout h) Bool.false_ne_true

theorem isSent_attachedItems : ∀ (items : List Value) (n : Nat),
    Value.throughoutItems (isWireShaped fun _ => true) items = true → Value.throughoutItems isOrderly items = true →
      Value.throughoutItems isSent (Value.attachedItems n items) = true
  | [], _ => fun _ _ => rfl
  | v :: rest, n => by
    intro hshape horder
    rw [Value.throughoutItems, Bool.and_eq_true] at hshape horder
    rw [Value.attachedItems, Value.throughoutItems, isSent_attached v n hshape.1 horder.1,
      isSent_attachedItems rest _ hshape.2 horder.2]
    rfl

theorem isSent_attachedEntries : ∀ (entries : List (Key × Value)) (n : Nat),
    Value.throughoutEntries (isWireShaped fun _ => true) entries = true →
      Value.throughoutEntries isOrderly entries = true →
        (Value.attachedEntries n entries).map Prod.fst = entries.map Prod.fst ∧
          Value.throughoutEntries isSent (Value.attachedEntries n entries) = true
  | [], _ => fun _ _ => ⟨rfl, rfl⟩
  | (k, v) :: rest, n => by
    intro hshape horder
    rw [Value.throughoutEntries, Bool.and_eq_true] at hshape horder
    obtain ⟨hnames, heach⟩ := isSent_attachedEntries rest (n + v.files.length) hshape.2 horder.2
    rw [Value.attachedEntries, Value.throughoutEntries, isSent_attached v n hshape.1 horder.1, heach, List.map_cons,
      List.map_cons, hnames]
    exact ⟨rfl, rfl⟩

end

/-- A converted argument that is no file is sent in a text. -/
theorem isSent_of_convert {types : Table TypeBinding} (resolved : Resolved types) {opens : Nat} {top : Bool}
    {e : TypeExpr} {v w : Value} {parts parts' : List Part} (h : convert types opens top e v parts = .ok w parts')
    (hw : ∀ f, w ≠ .file f) : w.throughout isSent = true ∧ w.files = [] := by
  have hrefines := convert_refines types opens top e v parts
  cases hplaced : inPlace types opens e v with
  | error stop =>
    rw [hplaced] at hrefines
    obtain ⟨more, hmore⟩ := hrefines
    rw [h] at hmore
    cases hmore
  | ok r =>
    rw [hplaced] at hrefines
    have hsent : w = r.sent top parts.length := by
      have hsame := h.symm.trans hrefines
      injection hsame
    -- only a file at the top is sent without a reference, and it would still be one
    have hattached : w = r.attached parts.length := by
      cases r with
      | file f =>
        cases top with
        | true => exact absurd hsent (hw f)
        | false => exact hsent
      | _ => exact hsent
    rw [hattached]
    have hnumbers : v.throughout (hasNumber fun _ => true) = true :=
      Value.throughout_of_forall (fun v => by cases v <;> rfl) v
    exact ⟨isSent_attached r parts.length (isWireShaped_of_inPlace hnumbers hplaced)
      (isOrderly_of_inPlace resolved hplaced), Value.files_attached r parts.length⟩

/-! ## Form texts -/

/-- The form text of what is no text and no decimal number is its JSON. -/
theorem write_of_formText {w : Value} {s : String} (htext : ∀ t, w ≠ .text t) (hfloat : ∀ x, w ≠ .float x)
    (h : formText w = .ok s) : Json.write w = .ok s.toList := by
  rw [formText.eq_def] at h
  split at h
  · exact (htext _ rfl).elim
  · next b =>
    cases h
    cases b <;> rfl
  · next n =>
    rw [Value.intLiteral, mapError_eq_ok_iff, mapError_eq_ok_iff] at h
    rw [Json.write, Json.writeInt, h]
  · exact (hfloat _ rfl).elim
  · split at h
    · next text hwrite =>
      cases h
      rw [hwrite, String.toList_ofList]
    · cases h
    · cases h

/-- What is sent in a text has a form text, from which it is read back unless it is a text itself. -/
theorem read_formText {w : Value} (hsent : w.throughout isSent = true) (hfiles : w.files = [])
    (hshort : w.throughout isShortNumber = true) :
    ∃ s, formText w = .ok s ∧ (∀ t, w = .text t → s = t) ∧
      ((∀ t, w ≠ .text t) → Json.read s.toList = .ok w) := by
  -- what the writer and the reader ask of a value they ask of each of its parts alone
  have hnode : ∀ v ∈ w.parts, isSent v = true ∧ isShortNumber v = true := fun v hv =>
    ⟨Value.throughout_iff_forall_mem.1 hsent v hv, Value.throughout_iff_forall_mem.1 hshort v hv⟩
  have hshape : w.throughout (isWireShaped fun _ => true) = true ∧ w.throughout isSendable = true ∧
      w.throughout Json.isExact = true := by
    simp only [Value.throughout_iff_forall_mem, ← forall₂_and]
    intro v hv
    obtain ⟨hv, hnumber⟩ := hnode v hv
    cases v with
    | int n => exact ⟨rfl, hnumber, rfl⟩
    | float x => cases hnumber
    | object entries =>
      rw [isSent, List.all_map] at hv
      exact ⟨(Bool.and_eq_true_iff.1 hv).1, (Bool.and_eq_true_iff.1 hv).1, hv⟩
    | bool | text | list => exact ⟨rfl, rfl, rfl⟩
    | _ => cases hv
  obtain ⟨hshape, hsendable, hexact⟩ := hshape
  -- without files the value stays as it is when its files are attached
  have hform := formText_attached_failsOnly 0 hshape
  rw [Value.attached_of_files_eq_nil 0 w hfiles] at hform
  obtain ⟨s, hs⟩ := hform.exists_ok (by simp [hsendable])
  refine ⟨s, hs, fun t ht => ?_, fun htext => ?_⟩
  · subst ht
    cases hs
    rfl
  · refine Json.read_write hexact (write_of_formText htext ?_ hs)
    rintro x rfl
    cases (hnode _ (Value.mem_parts_self _)).2

/-- A converted argument that is no file and has no decimal numbers and no whole numbers of too many digits in it
makes a part with a form text. A text is its own form text, and any other argument is what its form text is read as,
with the keys of its mappings in order. -/
theorem form_text_is_lossless {schema : Schema} {b : Bindings} (hb : (Bindings.build schema).result = .ok b)
    {opens : Nat} {top : Bool} {e : TypeExpr} {v w : Value} {parts parts' : List Part}
    (h : convert b.types opens top e v parts = .ok w parts') (hw : ∀ f, w ≠ .file f)
    (hshort : w.throughout isShortNumber = true) (name : String) :
    ∃ s, formText w = .ok s ∧ partOf name w = .ok ⟨name, .text s⟩ ∧ (∀ t, w = .text t → s = t) ∧
      ((∀ t, w ≠ .text t) → Json.read s.toList = .ok w) := by
  obtain ⟨hsent, hfiles⟩ := isSent_of_convert (Bindings.resolved_of_build hb) h hw
  obtain ⟨s, hs, hread⟩ := read_formText hsent hfiles hshort
  exact ⟨s, hs, by rw [partOf_eq_map name hw, hs]; rfl, hread⟩

/-! ### Photos, truth values and numbers -/

/-- An array of photos, truth values and whole numbers. -/
def mixedExpr : TypeExpr := .array (.union [.ref "Photo", .primitive .boolean, .primitive .integer])

/-- A photo with a file in it and a text that needs escapes, the true value, and numbers. -/
def mixedArgument : Value :=
  .tuple [.object [(.text "next", .object [(.text "media", .bytes [1])]), (.text "media", .text "\"\\\n\x01é😀")],
    .bool true, .int 1, .int (-20)]

/-- It as it is sent: the fields of the photo are in order, and a reference stands for the file. -/
def mixedSent : Value :=
  .list [.object [(.text "media", .text "\"\\\n\x01é😀"),
      (.text "next", .object [(.text "media", .text "attach://attach_1")])],
    .bool true, .int 1, .int (-20)]

theorem form_text_is_lossless_mixedArgument :
    ∃ b parts s, (Bindings.build albumSchema).result = .ok b ∧
      convert b.types 2 true mixedExpr mixedArgument [] = .ok mixedSent parts ∧ (∀ f, mixedSent ≠ .file f) ∧
      mixedSent.throughout isShortNumber = true ∧ formText mixedSent = .ok s ∧ Json.read s.toList = .ok mixedSent := by
  obtain ⟨b, hb, htypes, -, -⟩ := build_albumSchema
  have hconvert : convert b.types 2 true mixedExpr mixedArgument [] =
      .ok mixedSent [⟨"attach_1", .file ⟨.octets [1], "file"⟩⟩] := by
    rw [htypes]
    cbv
  have hfile : ∀ f, mixedSent ≠ .file f := by
    rintro f ⟨⟩
  have hshort : mixedSent.throughout isShortNumber = true := by decide +kernel
  obtain ⟨s, hs, -, -, hread⟩ := form_text_is_lossless hb hconvert hfile hshort "items"
  exact ⟨b, _, s, hb, hconvert, hfile, hshort, hs, hread (by rintro t ⟨⟩)⟩

end Request

end BotApi
