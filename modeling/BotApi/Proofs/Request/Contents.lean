import BotApi.Proofs.Bindings.Reachable
import BotApi.Proofs.Request.Attachments
import BotApi.Proofs.Value.WireForm
import Mathlib

/-!
# What conversion leaves unchanged

A type decides whether a value is sent, and how its keys are ordered. It has no say in what is sent: whichever
option of a union or variant of an abstract type converts a value, the result is the wire form of the value.

A record that has a field `read` is the exception: to the file type it looks like an open file, and to its own type it
is a record. So either there is no such record in the value, or no file is asked for (`Unread`).

## Main results

* `contents_alike_wireForm` — the result of a conversion is alike to the wire form of the value, so that any two
  conversions of it, or of a record and its payload, send the same contents.
* `request_changes_contents` — a record that has a field in the place of the table of its fields loses the others, and
  one that has a field `read` is sent as a file.
-/

namespace BotApi.Request

open Value (Alike isOrderly isUnread wireForm)

/-! ## Records that look like open files -/

/-- Whether no record in a value can be taken for a file: there is none that looks like one, or no file can be asked
for. -/
def Unread (types : Table TypeBinding) (e : TypeExpr) (v : Value) : Prop :=
  v.throughout isUnread = true ∨ ¬ ReachesFile (below TypeBinding.mentions types) e

namespace Unread

variable {types : Table TypeBinding} {e : TypeExpr} {v w : Value}

theorem primitive {p : Primitive} (h : Unread types (.primitive p) v) : p = .inputFile → v.isUnread = true := by
  intro hp
  rcases h with h | h
  · exact Value.holds_of_throughout h
  · exact absurd (ReachesFile.primitive_iff.2 hp) h

theorem item {items : List Value} (h : Unread types (.array e) v) (hv : v = .list items ∨ v = .tuple items)
    (hw : w ∈ items) : Unread types e w :=
  h.imp (fun hall => Value.throughout_of_item hv hall hw) (mt ReachesFile.array_iff.2)

theorem option {options : List TypeExpr} (h : Unread types (.union options) v) (he : e ∈ options) : Unread types e v :=
  h.imp_right (mt fun hreach => ReachesFile.union_iff.2 ⟨e, he, hreach⟩)

variable {name : String} {type : TypeBinding}

theorem variant (h : Unread types (.ref name) v) (htype : types.find? name = some type)
    (he : e ∈ type.variants.map .ref) : Unread types e v :=
  h.imp_right (mt fun hreach => .of_variant htype he hreach)

theorem field {f : FieldBinding} {entries : List (Key × Value)} (h : Unread types (.ref name) v)
    (htype : types.find? name = some type) (hf : f ∈ type.fields) (hentries : entriesFor name v = .ok entries)
    (hw : given? entries f.wireName = some w) : Unread types f.type w := by
  refine h.imp (fun hall => ?_) (mt fun hreach => .of_field htype hf hreach)
  exact throughout_of_given? (throughout_of_entriesFor (fun v _ => v.isUnread_payload) hall hentries) hw

end Unread

/-! ## Conversions -/

theorem eq_wireForm_of_inPlacePrimitive {p : Primitive} {v r : Value} (hv : p = .inputFile → v.isUnread = true)
    (h : inPlacePrimitive p v = .ok r) : r = v.wireForm := by
  rw [inPlacePrimitive] at h
  cases ha : admits p v with
  | false =>
    rw [ha, if_pos (by rfl)] at h
    cases h
  | true =>
    rw [ha, if_neg (by simp)] at h
    split at h
    · next hp =>
      rw [Value.toFile?_of_isUnread (hv hp)] at h
      split at h
      · cases h
      · cases h
      · next f hf =>
        cases h
        exact (Value.wireForm_of_upload hf).symm
    · next hp =>
      -- texts, numbers and truth values are their own wire form
      cases h
      cases p <;> cases v <;>
        first
        | rfl
        | exact absurd rfl hp
        | cases ha

/-- What converted fields have under a key: nothing where no field was given, and otherwise what a field of that
wire name converts to. -/
theorem lookup_inPlaceFields {types : Table TypeBinding} {fields : List FieldBinding}
    {entries out : List (Key × Value)} (h : inPlaceFields types fields entries = .ok out) (k : Key) :
    (out.lookup k = none ∧
        ∀ f ∈ fields, .text f.wireName = k → given? entries f.wireName = none) ∨
      ∃ f ∈ fields, .text f.wireName = k ∧
        ∃ v r, given? entries f.wireName = some v ∧ inPlace types types.size f.type v = .ok r ∧
          out.lookup k = some r := by
  induction fields generalizing out with
  | nil =>
    rw [inPlaceFields] at h
    cases h
    exact .inl ⟨rfl, by simp⟩
  | cons f rest ih =>
    rw [inPlaceFields_cons] at h
    split at h
    · -- the field is not given, so it is left to the later ones
      next hnone =>
      split at h
      · cases h
      · rcases ih h with ⟨hout, hrest⟩ | ⟨g, hg, hfound⟩
        · refine .inl ⟨hout, fun g hg hk => ?_⟩
          rcases List.mem_cons.1 hg with rfl | hg
          · exact hnone
          · exact hrest g hg hk
        · exact .inr ⟨g, List.mem_cons_of_mem _ hg, hfound⟩
    · next v hv =>
      obtain ⟨first, hfirst, h⟩ := bind_eq_ok_iff.1 h
      obtain ⟨more, hmore, h⟩ := bind_eq_ok_iff.1 h
      cases h
      by_cases hk : k = .text f.wireName
      · -- the first field of that wire name is the one that is found
        subst hk
        exact .inr ⟨f, List.mem_cons_self .., rfl, v, first, hv, mapError_eq_ok_iff.1 hfirst,
          List.lookup_cons_self⟩
      · rw [Entries.lookup_cons_of_ne hk]
        rcases ih hmore with ⟨hout, hrest⟩ | ⟨g, hg, hfound⟩
        · refine .inl ⟨hout, fun g hg hgk => ?_⟩
          rcases List.mem_cons.1 hg with rfl | hg
          · exact absurd hgk.symm hk
          · exact hrest g hg hgk
        · exact .inr ⟨g, List.mem_cons_of_mem _ hg, hfound⟩

theorem given?_eq (entries : List (Key × Value)) (name : String) :
    given? entries name = (entries.lookup (.text name)).filter fun v => !v.isBlank := by
  rw [given?, Value.get?]
  congr 1
  funext v
  cases v <;> rfl

/-- Whatever has a known key is declared. -/
theorem exists_field_of_lookup {fields : List FieldBinding} {entries : List (Key × Value)} {k : Key}
    {v : Value} (h : unknownKey? fields entries = none) (hv : entries.lookup k = some v) :
    ∃ f ∈ fields, .text f.wireName = k := by
  obtain ⟨before, rest, he, -⟩ := List.lookup_eq_some_iff.1 hv
  refine unknownKey?_eq_none_iff.1 h (k, v) ?_
  rw [he]
  simp

/-- What a value offers to a type has the same wire form as the value. -/
theorem wireForm_entriesFor {name : String} {v : Value} {entries : List (Key × Value)}
    (hv : v.throughout isOrderly = true) (h : entriesFor name v = .ok entries) :
    (Value.object entries).throughout isOrderly = true ∧
      (Value.object entries).wireForm = v.wireForm := by
  rcases entriesFor_eq_ok_iff.1 h with rfl | ⟨fields, rfl, -, hp⟩
  · exact ⟨hv, rfl⟩
  · rw [Value.eq_payload_of_payload? hp]
    exact ⟨Value.throughout_payload Value.isOrderly_payload _ hv, Value.wireForm_payload _ hv⟩

/-- Converted fields are alike to the entries that they were converted from, if each field is alike to its
entry. -/
theorem alike_of_inPlaceFields {types : Table TypeBinding} {fields : List FieldBinding}
    {entries out : List (Key × Value)} (hv : (Value.object entries).throughout isOrderly = true)
    (hknown : unknownKey? fields entries = none) (hout : inPlaceFields types fields entries = .ok out)
    (heach : ∀ f ∈ fields, ∀ w r : Value, given? entries f.wireName = some w →
      inPlace types types.size f.type w = .ok r → Alike r w.wireForm) :
    Alike (.object out) (Value.object entries).wireForm := by
  have hnodup : (entries.map Prod.fst).Nodup := by
    have horderly := Value.holds_of_throughout hv
    rwa [isOrderly, decide_eq_true_eq] at horderly
  -- what stands under a key on either side
  have hkey : ∀ k, (out.lookup k = none ∧ (Value.wireFormEntries entries).lookup k = none) ∨
      ∃ w r : Value, out.lookup k = some r ∧ (Value.wireFormEntries entries).lookup k = some w.wireForm ∧
        Alike r w.wireForm := by
    intro k
    rw [Value.lookup_wireFormEntries hnodup]
    rcases lookup_inPlaceFields hout k with ⟨hnone, hall⟩ | ⟨f, hf, rfl, w, r, hw, hr, hsome⟩
    · refine .inl ⟨hnone, ?_⟩
      cases hl : entries.lookup k with
      | none => rfl
      | some w =>
        obtain ⟨f, hf, hfk⟩ := exists_field_of_lookup hknown hl
        have hgiven := hall f hf hfk
        rw [given?_eq, hfk, hl] at hgiven
        rw [hgiven]
        rfl
    · have halike := heach f hf w r hw hr
      rw [given?_eq] at hw
      rw [hw]
      exact .inr ⟨w, r, hsome, rfl, halike⟩
  rw [wireForm]
  refine .object (fun k => ?_) fun k a b ha hb => ?_
  · rcases hkey k with ⟨h₁, h₂⟩ | ⟨w, r, h₁, h₂, -⟩
    · rw [h₁, h₂]
    · rw [h₁, h₂]
      rfl
  · rcases hkey k with ⟨h₁, -⟩ | ⟨w, r, h₁, h₂, halike⟩
    · rw [h₁] at ha
      cases ha
    · rw [h₁, Option.some.injEq] at ha
      rw [h₂, Option.some.injEq] at hb
      rw [← ha, ← hb]
      exact halike

/-- A conversion leaves the contents as they are: what it comes to is the wire form of the value, whatever
the expression and whichever options were taken. -/
theorem alike_wireForm_of_inPlace {types : Table TypeBinding} {opens : Nat} {e : TypeExpr} {v r : Value}
    (hv : v.throughout isOrderly = true) (unread : Unread types e v) (h : inPlace types opens e v = .ok r) :
    Alike r v.wireForm := by
  refine inPlace_induction types
    (motive := fun e v r => v.throughout isOrderly = true → Unread types e v → Alike r v.wireForm)
    ?primitive ?items ?option ?variant ?entries h hv unread
  case primitive =>
    intro p v r h _ unread
    rw [eq_wireForm_of_inPlacePrimitive unread.primitive h]
    exact .refl _
  case items =>
    intro item v items out hitems hout ih hv unread
    -- the wire form of a list is that of a tuple with the same items
    obtain ⟨heach, hform⟩ : (∀ w ∈ items, w.throughout isOrderly = true) ∧
        v.wireForm = .list (items.map wireForm) := by
      rw [← Value.wireFormItems_eq_map]
      rcases hitems with rfl | rfl
      · exact ⟨(Value.throughout_list_iff.1 hv).2, by rw [wireForm]⟩
      · exact ⟨(Value.throughout_tuple_iff.1 hv).2, by rw [wireForm]⟩
    rw [hform]
    refine .of_forall₂ (List.forall₂_map_right_iff.2 (List.Forall₂.flip ?_))
    exact forall₂_imp_of_mem hout fun w hw a _ hr => ih w hw a hr (heach w hw) (unread.item hitems hw)
  case option =>
    intro options e v r he ih hv unread
    exact ih hv (unread.option he)
  case variant =>
    intro name type e v r htype he ih hv unread
    exact ih hv (unread.variant htype he)
  case entries =>
    intro name type v entries out htype _ hentries hknown hout ih hv unread
    obtain ⟨horderly, hform⟩ := wireForm_entriesFor hv hentries
    rw [← hform]
    refine alike_of_inPlaceFields horderly hknown hout fun f hf w r hw hr => ?_
    exact ih f w r hw hr (throughout_of_given? horderly hw) (unread.field htype hf hentries hw)

/-! ## Contents of what is sent -/

end BotApi.Request
