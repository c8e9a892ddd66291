import BotApi.Proofs.Request.Conforming
import BotApi.Proofs.Request.Numbering

/-!
# Converted arguments can be written

What a conversion comes to consists of what JSON has, and of files. Once references have taken the place of the
files, it has a text, unless a number in it is too long.

## Main results

* `exists_bodyOf` — arguments that were converted make a body.
-/

namespace BotApi.Request

/-- Whether a value can be sent, as far as the values in it can. -/
def isSendable : Value → Bool
  | .bool _ | .float _ | .text _ | .file _ | .list _ => true
  | .int n => isWritable n
  | .object entries => entries.all fun e => Key.isText e.1
  | _ => false

/-- Whether a value is one that a conversion comes to, as far as the values in it are, with numbers that pass a
test. -/
def isWireShaped (short : Int → Bool) : Value → Bool
  | .bool _ | .float _ | .text _ | .file _ | .list _ => true
  | .int n => short n
  | .object entries => entries.all fun e => Key.isText e.1
  | _ => false

/-- Whether a value, if it is a whole number, passes a test. -/
def hasNumber (short : Int → Bool) : Value → Bool
  | .int n => short n
  | _ => true

theorem isSendable_iff {v : Value} : isSendable v = true ↔ isWireShaped isWritable v = true := by
  cases v <;> rfl

variable {short : Int → Bool}

theorem hasNumber_payload (v : Value) (h : hasNumber short v = true) : hasNumber short v.payload = true := by
  cases v with
  | int n => exact h
  | _ => rfl

theorem hasNumber_of_isOrdinary {v : Value} (h : isOrdinary v = true) : hasNumber isWritable v = true := by
  cases v with
  | int n => exact h
  | _ => rfl

theorem isWireShaped_of_inPlacePrimitive {p : Primitive} {v r : Value} (hv : hasNumber short v = true)
    (h : inPlacePrimitive p v = .ok r) : r.throughout (isWireShaped short) = true := by
  rw [inPlacePrimitive] at h
  cases ha : admits p v with
  | false =>
    rw [ha, Bool.not_false, if_pos rfl] at h
    cases h
  | true =>
    rw [ha, if_neg (by simp)] at h
    split at h
    · split at h
      · cases h
      · cases h
      · cases h
        rfl
    · next hp =>
      cases h
      cases v with
      | int n =>
        rw [Value.throughout.eq_def, Bool.and_true]
        exact hv
      | bool b => rfl
      | float x => rfl
      | text s => rfl
      | file f => rfl
      -- what is not of JSON is admitted as a file only
      | _ => cases p <;> first | exact absurd rfl hp | cases ha

/-- What a conversion comes to has the shape of what is sent, with the numbers of the value. -/
theorem isWireShaped_of_inPlace {types : Table TypeBinding} {opens : Nat} {e : TypeExpr} {v r : Value}
    (hv : v.throughout (hasNumber short) = true) (h : inPlace types opens e v = .ok r) :
    r.throughout (isWireShaped short) = true := by
  refine inPlace_induction types
    (motive := fun _ v r => v.throughout (hasNumber short) = true → r.throughout (isWireShaped short) = true)
    ?primitive ?items ?option ?variant ?entries h hv
  case primitive =>
    intro p v r h hv
    exact isWireShaped_of_inPlacePrimitive (Value.holds_of_throughout hv) h
  case items =>
    intro item v items out hitems hout ih hv
    have heach : ∀ w ∈ items, w.throughout (hasNumber short) = true := by
      rcases hitems with rfl | rfl
      · exact (Value.throughout_list_iff.1 hv).2
      · exact (Value.throughout_tuple_iff.1 hv).2
    refine Value.throughout_list_iff.2 ⟨rfl, fun r hr => ?_⟩
    obtain ⟨w, hw, hwr⟩ := exists_of_mem_right hout hr
    exact ih w hw r hwr (heach w hw)
  case option =>
    intro options e v r _ ih hv
    exact ih hv
  case variant =>
    intro name type e v r _ _ ih hv
    exact ih hv
  case entries =>
    intro name type v entries out _ _ hentries _ hout ih hv
    -- what a value offers has no other numbers than the value
    have hoffered := throughout_of_entriesFor hasNumber_payload hv hentries
    refine Value.throughout_object_iff.2 ⟨?_, fun k r hm => ?_⟩
    · rw [isWireShaped, List.all_eq_true]
      rintro ⟨k, r⟩ hm
      obtain ⟨f, -, rfl, -⟩ := exists_of_mem_inPlaceFields hout hm
      rfl
    · obtain ⟨f, -, -, w, hw, hr⟩ := exists_of_mem_inPlaceFields hout hm
      exact ih f w r hw hr (throughout_of_given? hoffered hw)

/-! ## Texts -/

/-- The only thing that keeps a value from being sent. -/
def tooLong : EncodeError := .unwritable (.tooManyDigits .writing)

theorem writeInt_failsOnly (n : Int) : FailsOnly .tooManyDigits (isWritable n = false) (Json.writeInt n) := by
  rw [Json.writeInt, Number.intText]
  split
  · next s hs => exact .inl ⟨s.toList, rfl⟩
  · next hs =>
    refine .inr ⟨rfl, decide_eq_false fun h => ?_⟩
    rw [if_pos h] at hs
    cases hs

mutual

/-- A value of the right shape has a JSON text once references stand for its files, unless a number in it is too
long. -/
theorem write_attached_failsOnly : ∀ (v : Value) (n : Nat), v.throughout (isWireShaped fun _ => true) = true →
    FailsOnly .tooManyDigits (v.throughout isSendable = false) (Json.write (v.attached n))
  | .int i, n => by
    intro _
    rw [Value.attached, Json.write]
    refine (writeInt_failsOnly i).imp fun h => ?_
    rw [Value.throughout.eq_def, Bool.and_true]
    exact h
  | .list items, n => by
    intro h
    rw [Value.attached, Json.write]
    refine ((writeItems_attached_failsOnly items n
      (Value.throughoutItems_iff.2 (Value.throughout_list_iff.1 h).2)).imp fun h => ?_).map _
    rw [Value.throughout, h, Bool.and_false]
  | .object entries, n => by
    intro h
    obtain ⟨hroot, heach⟩ := Value.throughout_object_iff.1 h
    rw [isWireShaped] at hroot
    rw [Value.attached, Json.write]
    refine ((writeEntries_attached_failsOnly entries n hroot
      (Value.throughoutEntries_iff.2 heach)).imp fun h => ?_).map _
    rw [Value.throughout, h, Bool.and_false]
  | .bool _, _ | .float _, _ | .text _, _ | .file _, _ => fun _ => .inl ⟨_, rfl⟩
  | .null, _ | .absent, _ | .bytes _, _ | .bytearray _, _ | .tuple _, _ | .stream _, _ | .record _ _, _
  | .foreign _ _, _ => fun h => absurd (Value.holds_of_throughout h) Bool.false_ne_true

theorem writeItems_attached_failsOnly : ∀ (items : List Value) (n : Nat),
    Value.throughoutItems (isWireShaped fun _ => true) items = true →
      FailsOnly .tooManyDigits (Value.throughoutItems isSendable items = false)
        (Json.writeItems (Value.attachedItems n items))
  | [], _ => fun _ => .inl ⟨[], rfl⟩
  | v :: rest, n => by
    intro h
    rw [Value.throughoutItems, Bool.and_eq_true] at h
    have hfirst := write_attached_failsOnly v n h.1
    have hrest := writeItems_attached_failsOnly rest (n + v.files.length) h.2
    rw [Value.attachedItems, Json.writeItems]
    simp only [Value.throughoutItems, Bool.and_eq_false_iff]
    exact (hfirst.imp .inl).bind fun part _ => (hrest.imp .inr).map (part :: ·)

theorem writeEntries_attached_failsOnly : ∀ (entries : List (Key × Value)) (n : Nat),
    (entries.all fun e => Key.isText e.1) = true →
      Value.throughoutEntries (isWireShaped fun _ => true) entries = true →
        FailsOnly .tooManyDigits (Value.throughoutEntries isSendable entries = false)
          (Json.writeEntries (Value.attachedEntries n entries))
  | [], _ => fun _ _ => .inl ⟨[], rfl⟩
  | (k, v) :: rest, n => by
    intro hkeys h
    rw [List.all_cons, Bool.and_eq_true] at hkeys
    rw [Value.throughoutEntries, Bool.and_eq_true] at h
    have hfirst := write_attached_failsOnly v n h.1
    have hrest := writeEntries_attached_failsOnly rest (n + v.files.length) hkeys.2 h.2
    cases k with
    | text s =>
      -- converted mappings have texts for keys
      rw [Value.attachedEntries, Json.writeEntries, Json.writeKey]
      simp only [Value.throughoutEntries, Bool.and_eq_false_iff]
      exact (hfirst.imp .inl).bind fun part _ => (hrest.imp .inr).map ((Json.writeText s ++ ':' :: part) :: ·)
    | _ => cases hkeys.1

end

/-- The form text of a list or a mapping is its JSON. -/
theorem formText_failsOnly_of_write {w : Value} {cause : Prop}
    (hform : (∃ items, w = .list items) ∨ ∃ entries, w = .object entries)
    (h : FailsOnly .tooManyDigits cause (Json.write w)) : FailsOnly tooLong cause (formText w) := by
  rcases h with ⟨text, htext⟩ | ⟨herror, hcause⟩
  · refine .inl ⟨String.ofList text, ?_⟩
    rcases hform with ⟨items, rfl⟩ | ⟨entries, rfl⟩
    · simp only [formText, htext]
    · simp only [formText, htext]
  · refine .inr ⟨?_, hcause⟩
    rcases hform with ⟨items, rfl⟩ | ⟨entries, rfl⟩
    · simp only [formText, herror, tooLong]
    · simp only [formText, herror, tooLong]

theorem formText_attached_failsOnly {v : Value} (n : Nat)
    (h : v.throughout (isWireShaped fun _ => true) = true) :
    FailsOnly tooLong (v.throughout isSendable = false) (formText (v.attached n)) := by
  have hwrite := write_attached_failsOnly v n h
  cases v with
  | list items => exact formText_failsOnly_of_write (.inl ⟨_, rfl⟩) hwrite
  | object entries => exact formText_failsOnly_of_write (.inr ⟨_, rfl⟩) hwrite
  | int i =>
    rw [Value.attached, formText]
    rcases intLiteral_failsOnly i with ⟨s, hs⟩ | ⟨herror, hlong⟩
    · exact .inl ⟨s, by rw [hs]; rfl⟩
    · refine .inr ⟨by rw [herror]; rfl, ?_⟩
      rw [Value.throughout.eq_def, Bool.and_true]
      exact hlong
  | bool b => exact .inl ⟨_, rfl⟩
  | float x => exact .inl ⟨_, rfl⟩
  | text s => exact .inl ⟨_, rfl⟩
  | file f => exact .inl ⟨_, rfl⟩
  | _ => exact absurd (Value.holds_of_throughout h) Bool.false_ne_true

theorem partOf_eq_map (name : String) {v : Value} (hv : ∀ f, v ≠ .file f) :
    partOf name v = (fun s => ⟨name, .text s⟩) <$> formText v := by
  cases v with
  | file f => exact absurd rfl (hv f)
  | _ => rfl

theorem partOf_sent_failsOnly (name : String) {v : Value} (n : Nat)
    (h : v.throughout (isWireShaped fun _ => true) = true) :
    FailsOnly tooLong (v.throughout isSendable = false) (partOf name (v.sent true n)) := by
  cases v with
  | file f => exact .inl ⟨_, rfl⟩
  | _ =>
    rw [partOf_eq_map name (by intro f hf; cases hf)]
    exact (formText_attached_failsOnly n h).map _

theorem exists_of_mem_sentAll {placed : List (String × Value)} {n : Nat} {e : String × Value}
    (h : e ∈ sentAll n placed) : ∃ v i, (e.1, v) ∈ placed ∧ e.2 = v.sent true i := by
  induction placed generalizing n with
  | nil => cases h
  | cons first rest ih =>
    obtain ⟨name, v⟩ := first
    rcases List.mem_cons.1 h with rfl | h
    · exact ⟨v, n, List.mem_cons_self .., rfl⟩
    · obtain ⟨w, i, hm, he⟩ := ih h
      exact ⟨w, i, List.mem_cons_of_mem _ hm, he⟩

/-- Parts can be made of arguments as they are sent, unless a number in one of them is too long. -/
theorem mapM_partOf_failsOnly {placed : List (String × Value)} {n : Nat} {sent : List (String × Value)}
    (hsent : ∀ e ∈ sent, e ∈ sentAll n placed)
    (h : ∀ e ∈ placed, e.2.throughout (isWireShaped fun _ => true) = true) :
    FailsOnly tooLong (∃ e ∈ placed, e.2.throughout isSendable = false)
      (sent.mapM fun e => partOf e.1 e.2) := by
  refine .mapM fun e he => ?_
  obtain ⟨v, i, hm, hv⟩ := exists_of_mem_sentAll (hsent e he)
  rw [hv]
  exact (partOf_sent_failsOnly e.1 i (h _ hm)).imp fun hcause => ⟨_, hm, hcause⟩

theorem isWireShaped_of_mem_inPlaceAll {types : Table TypeBinding} {supply : List (FieldBinding × Value)}
    {placed : List (String × Value)} (h : inPlaceAll types supply = .ok placed)
    (hv : ∀ e ∈ supply, e.2.throughout (hasNumber short) = true) :
    ∀ e ∈ placed, e.2.throughout (isWireShaped short) = true := by
  induction supply generalizing placed with
  | nil =>
    cases h
    intro e he
    cases he
  | cons e rest ih =>
    obtain ⟨p, v⟩ := e
    obtain ⟨first, more, hfirst, hmore, rfl⟩ := inPlaceAll_cons_eq_ok_iff.1 h
    intro e he
    rcases List.mem_cons.1 he with rfl | he
    · exact isWireShaped_of_inPlace (hv (p, v) (List.mem_cons_self ..)) hfirst
    · exact ih hmore (fun e he => hv e (List.mem_cons_of_mem _ he)) e he

/-- Converted arguments can be sent if their numbers can be written. -/
theorem isSendable_of_mem_inPlaceAll {types : Table TypeBinding} {supply : List (FieldBinding × Value)}
    {placed : List (String × Value)} (h : inPlaceAll types supply = .ok placed)
    (hv : ∀ e ∈ supply, e.2.throughout (hasNumber isWritable) = true) :
    ∀ e ∈ placed, e.2.throughout isSendable = true := by
  intro e he
  exact Value.throughout_mono (fun _ => isSendable_iff.2) (isWireShaped_of_mem_inPlaceAll h hv e he)

/-- Arguments that were converted make parts, unless a number in one of them is too long. -/
theorem parts_failsOnly {types : Table TypeBinding} {supply : List (FieldBinding × Value)}
    {placed sent : List (String × Value)} (h : inPlaceAll types supply = .ok placed) {n : Nat}
    (hsent : ∀ e ∈ sent, e ∈ sentAll n placed) :
    FailsOnly tooLong (∃ e ∈ supply, e.2.throughout (hasNumber isWritable) = false)
      (sent.mapM fun e => partOf e.1 e.2) := by
  have hshaped : ∀ e ∈ placed, e.2.throughout (isWireShaped fun _ => true) = true :=
    isWireShaped_of_mem_inPlaceAll h fun e _ => Value.throughout_of_forall (fun v => by cases v <;> rfl) e.2
  refine (mapM_partOf_failsOnly hsent hshaped).imp ?_
  rintro ⟨e, he, hlong⟩
  by_contra hno
  simp only [not_exists, not_and, Bool.not_eq_false] at hno
  rw [isSendable_of_mem_inPlaceAll h hno e he] at hlong
  cases hlong

/-- Ordinary arguments that were converted make a body. -/
theorem exists_bodyOf (method : MethodBinding) {types : Table TypeBinding}
    {supply : List (FieldBinding × Value)} {placed : List (String × Value)}
    (h : inPlaceAll types supply = .ok placed) (hv : ∀ e ∈ supply, e.2.throughout isOrdinary = true) :
    ∃ body, bodyOf method placed = .ok body := by
  rw [bodyOf]
  split
  · have hparts := parts_failsOnly h (fun e (he : e ∈ sentAll 0 placed) => he)
    obtain ⟨own, hown⟩ := hparts.exists_ok <| by
      rintro ⟨e, he, hlong⟩
      rw [Value.throughout_mono (fun _ => hasNumber_of_isOrdinary) (hv e he)] at hlong
      cases hlong
    exact ⟨_, bind_eq_ok_iff.2 ⟨own, hown, rfl⟩⟩
  · exact ⟨_, rfl⟩

end BotApi.Request
