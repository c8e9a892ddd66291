import BotApi.Proofs.Request.Arguments
import BotApi.Proofs.Request.Attachments
import Mathlib

/-!
# The attachments of a call

The arguments of a call are converted one after another, and their attachments are numbered through. Each file
below an argument gives one part and one reference to it; a file that is an argument itself gives the part of
its parameter.

## Main results

* `attachment_bookkeeping` — the attachments of a conversion from any state, and those of a call.
* `request_loses_attachment` — where two parameters share a wire name, an attachment may have no reference.
-/

namespace BotApi

/-! ## Counting texts -/

namespace Value

mutual

/-- How many times a text stands in a value. -/
def countText (s : String) : Value → Nat
  | .text t => if t = s then 1 else 0
  | .list items | .tuple items => countItems s items
  | .object entries => countEntries s entries
  | .record _ fields => countFields s fields
  | .null | .absent | .bool _ | .int _ | .float _ | .bytes _ | .bytearray _ | .file _ | .stream _
  | .foreign _ _ => 0

/-- How many times a text stands in items. -/
def countItems (s : String) : List Value → Nat
  | [] => 0
  | v :: rest => countText s v + countItems s rest

/-- How many times a text stands in the values of entries. -/
def countEntries (s : String) : List (Key × Value) → Nat
  | [] => 0
  | (_, v) :: rest => countText s v + countEntries s rest

/-- How many times a text stands in the values of fields. -/
def countFields (s : String) : List (FieldName × Value) → Nat
  | [] => 0
  | (_, v) :: rest => countText s v + countFields s rest

end

end Value

namespace Request

theorem attachmentName_injective {m n : Nat} (h : attachmentName m = attachmentName n) : m = n := by
  rw [attachmentName, attachmentName, String.append_right_inj, Nat.toString_eq_ofList_toDigits,
    Nat.toString_eq_ofList_toDigits, String.ofList_inj] at h
  -- the digits of a number tell which number it is
  have hd := congrArg (fun digits => Nat.ofDigitChars 10 digits 0) h
  simp only [Nat.ofDigitChars_ten_toDigits] at hd
  omega

theorem referenceText_injective {m n : Nat} (h : referenceText m = referenceText n) : m = n := by
  rw [referenceText, referenceText, String.append_right_inj] at h
  exact attachmentName_injective h

/-- One for a number among `count` numbers from `n` on, and none otherwise. -/
def oneIn (n count i : Nat) : Nat := if n ≤ i ∧ i < n + count then 1 else 0

theorem oneIn_add (n first more i : Nat) : oneIn n (first + more) i = oneIn n first i + oneIn (n + first) more i := by
  rw [oneIn, oneIn, oneIn]
  -- the two ranges have no number in common
  split <;> split <;> split <;> omega

theorem oneIn_zero (n i : Nat) : oneIn n 0 i = 0 := by
  rw [oneIn, if_neg (by omega)]

theorem countText_attachmentReference (n i : Nat) :
    (attachmentReference n).countText (referenceText i) = oneIn n 1 i := by
  rw [attachmentReference, Value.countText, oneIn]
  by_cases h : referenceText n = referenceText i
  · rw [if_pos h, if_pos (by rw [referenceText_injective h]; omega)]
  · rw [if_neg h, if_neg]
    intro hi
    exact h (by rw [show i = n by omega])

end Request

namespace Value

open Request (oneIn oneIn_add oneIn_zero referenceText)

mutual

/-- A value as it is sent refers to each of its attachments once more than it does by texts of its own. -/
theorem countText_attached (i : Nat) : ∀ (v : Value) (n : Nat),
    (v.attached n).countText (referenceText i) = v.countText (referenceText i) + oneIn n v.files.length i
  | .file f, n => by
    rw [attached, Request.countText_attachmentReference, files, countText, List.length_singleton,
      Nat.zero_add]
  | .list items, n => by
    rw [attached, countText, countText, files]
    exact countItems_attached i items n
  | .tuple items, n => by
    rw [attached, countText, countText, files]
    exact countItems_attached i items n
  | .object entries, n => by
    rw [attached, countText, countText, files]
    exact countEntries_attached i entries n
  | .record _ fields, n => by
    rw [attached, countText, countText, files]
    exact countFields_attached i fields n
  | .null, n | .absent, n | .bool _, n | .int _, n | .float _, n | .text _, n | .bytes _, n
  | .bytearray _, n | .stream _, n | .foreign _ _, n => by
    rw [attached, files, List.length_nil, oneIn_zero, Nat.add_zero]

theorem countItems_attached (i : Nat) : ∀ (items : List Value) (n : Nat),
    countItems (referenceText i) (attachedItems n items) =
      countItems (referenceText i) items + oneIn n (filesOfItems items).length i
  | [], n => by rw [attachedItems, filesOfItems, List.length_nil, oneIn_zero, Nat.add_zero]
  | v :: rest, n => by
    have h₁ := countText_attached i v n
    have h₂ := countItems_attached i rest (n + v.files.length)
    rw [attachedItems, countItems, countItems, filesOfItems, List.length_append, oneIn_add]
    omega

theorem countEntries_attached (i : Nat) : ∀ (entries : List (Key × Value)) (n : Nat),
    countEntries (referenceText i) (attachedEntries n entries) =
      countEntries (referenceText i) entries + oneIn n (filesOfEntries entries).length i
  | [], n => by rw [attachedEntries, filesOfEntries, List.length_nil, oneIn_zero, Nat.add_zero]
  | (k, v) :: rest, n => by
    have h₁ := countText_attached i v n
    have h₂ := countEntries_attached i rest (n + v.files.length)
    rw [attachedEntries, countEntries, countEntries, filesOfEntries, List.length_append, oneIn_add]
    omega

theorem countFields_attached (i : Nat) : ∀ (fields : List (FieldName × Value)) (n : Nat),
    countFields (referenceText i) (attachedFields n fields) =
      countFields (referenceText i) fields + oneIn n (filesOfFields fields).length i
  | [], n => by rw [attachedFields, filesOfFields, List.length_nil, oneIn_zero, Nat.add_zero]
  | (f, v) :: rest, n => by
    have h₁ := countText_attached i v n
    have h₂ := countFields_attached i rest (n + v.files.length)
    rw [attachedFields, countFields, countFields, filesOfFields, List.length_append, oneIn_add]
    omega

end

theorem countText_sent (top : Bool) (i n : Nat) (v : Value) :
    (v.sent top n).countText (referenceText i) =
      v.countText (referenceText i) + oneIn n (v.nested top).length i := by
  cases v with
  | file f =>
    cases top with
    | true => rw [sent, nested, if_pos rfl, if_pos rfl, List.length_nil, oneIn_zero, Nat.add_zero]
    | false => exact countText_attached i (.file f) n
  | _ => exact countText_attached i _ n

mutual

/-- No file is left where references have taken the place of files. -/
theorem files_attached : ∀ (v : Value) (n : Nat), (v.attached n).files = []
  | .file _, _ => rfl
  | .list items, n => files_attachedItems items n
  | .tuple items, n => files_attachedItems items n
  | .object entries, n => files_attachedEntries entries n
  | .record _ fields, n => files_attachedFields fields n
  | .null, _ | .absent, _ | .bool _, _ | .int _, _ | .float _, _ | .text _, _ | .bytes _, _
  | .bytearray _, _ | .stream _, _ | .foreign _ _, _ => rfl

theorem files_attachedItems : ∀ (items : List Value) (n : Nat), filesOfItems (attachedItems n items) = []
  | [], _ => rfl
  | v :: rest, n => by
    rw [attachedItems, filesOfItems, files_attached v, files_attachedItems rest, List.append_nil]

theorem files_attachedEntries :
    ∀ (entries : List (Key × Value)) (n : Nat), filesOfEntries (attachedEntries n entries) = []
  | [], _ => rfl
  | (k, v) :: rest, n => by
    rw [attachedEntries, filesOfEntries, files_attached v, files_attachedEntries rest, List.append_nil]

theorem files_attachedFields :
    ∀ (fields : List (FieldName × Value)) (n : Nat), filesOfFields (attachedFields n fields) = []
  | [], _ => rfl
  | (f, v) :: rest, n => by
    rw [attachedFields, filesOfFields, files_attached v, files_attachedFields rest, List.append_nil]

end

/-- The only file in a value as it is sent is the argument itself. -/
theorem eq_file_of_mem_files_sent {top : Bool} {n : Nat} {v : Value} {f : InputFile}
    (h : f ∈ (v.sent top n).files) : top = true ∧ v = .file f := by
  cases v with
  | file g =>
    cases top with
    | true =>
      rw [sent, if_pos rfl, files, List.mem_singleton] at h
      exact ⟨rfl, by rw [h]⟩
    | false => cases h
  | _ =>
    rw [sent, files_attached] at h
    · cases h
    · simp

end Value

/-! ## Calls -/

namespace Request

/-- The arguments of a call, converted in place. -/
def inPlaceAll (types : Table TypeBinding) :
    List (FieldBinding × Value) → Except EncodeError (List (String × Value))
  | [] => .ok []
  | (p, v) :: rest => do
    let first ← (inPlace types types.size p.type v).mapError (refusal p.wireName)
    let more ← inPlaceAll types rest
    pure ((p.wireName, first) :: more)

/-- The files below converted arguments, in order. -/
def nestedAll : List (String × Value) → List InputFile
  | [] => []
  | (_, v) :: rest => v.nested true ++ nestedAll rest

/-- Converted arguments as they are sent, after `n` attachments. -/
def sentAll (n : Nat) : List (String × Value) → List (String × Value)
  | [] => []
  | (name, v) :: rest => (name, v.sent true n) :: sentAll (n + (v.nested true).length) rest

/-- How many times a text stands in arguments. -/
def countAll (s : String) : List (String × Value) → Nat
  | [] => 0
  | (_, v) :: rest => v.countText s + countAll s rest

theorem map_fst_sentAll (n : Nat) (placed : List (String × Value)) :
    (sentAll n placed).map Prod.fst = placed.map Prod.fst := by
  induction placed generalizing n with
  | nil => rfl
  | cons e rest ih =>
    obtain ⟨name, v⟩ := e
    rw [sentAll, List.map_cons, List.map_cons, ih]

theorem countAll_sentAll (i n : Nat) (placed : List (String × Value)) :
    countAll (referenceText i) (sentAll n placed) =
      countAll (referenceText i) placed + oneIn n (nestedAll placed).length i := by
  induction placed generalizing n with
  | nil => rw [sentAll, nestedAll, List.length_nil, oneIn_zero, Nat.add_zero]
  | cons e rest ih =>
    obtain ⟨name, v⟩ := e
    have h₁ := Value.countText_sent true i n v
    have h₂ := ih (n + (v.nested true).length)
    rw [sentAll, countAll, countAll, nestedAll, List.length_append, oneIn_add]
    omega

theorem inPlaceAll_cons_eq_ok_iff {types : Table TypeBinding} {p : FieldBinding} {v : Value}
    {rest : List (FieldBinding × Value)} {placed : List (String × Value)} :
    inPlaceAll types ((p, v) :: rest) = .ok placed ↔
      ∃ first more, inPlace types types.size p.type v = .ok first ∧ inPlaceAll types rest = .ok more ∧
        placed = (p.wireName, first) :: more := by
  rw [inPlaceAll, bind_eq_ok_iff]
  constructor
  · rintro ⟨first, hfirst, h⟩
    obtain ⟨more, hmore, h⟩ := bind_eq_ok_iff.1 h
    cases h
    exact ⟨first, more, mapError_eq_ok_iff.1 hfirst, hmore, rfl⟩
  · rintro ⟨first, more, hfirst, hmore, rfl⟩
    exact ⟨first, mapError_eq_ok_iff.2 hfirst, bind_eq_ok_iff.2 ⟨more, hmore, rfl⟩⟩

theorem map_fst_inPlaceAll {types : Table TypeBinding} {supply : List (FieldBinding × Value)}
    {placed : List (String × Value)} (h : inPlaceAll types supply = .ok placed) :
    placed.map Prod.fst = supply.map fun e => e.1.wireName := by
  induction supply generalizing placed with
  | nil =>
    cases h
    rfl
  | cons e rest ih =>
    obtain ⟨p, v⟩ := e
    obtain ⟨first, more, -, hmore, rfl⟩ := inPlaceAll_cons_eq_ok_iff.1 h
    rw [List.map_cons, List.map_cons, ih hmore]

/-- Converting the arguments of a call comes to converting them in place, with their files attached after those
before. -/
theorem convertAll_refines (types : Table TypeBinding) (supply : List (FieldBinding × Value))
    (parts : List Part) :
    convertAll types supply parts =
      (inPlaceAll types supply).map fun placed =>
        (sentAll parts.length placed, parts ++ partsFrom parts.length (nestedAll placed)) := by
  induction supply generalizing parts with
  | nil =>
    rw [convertAll, inPlaceAll]
    show Except.ok _ = Except.ok (_, parts ++ [])
    rw [List.append_nil]
    rfl
  | cons e rest ih =>
    obtain ⟨p, v⟩ := e
    have hfirst := convert_refines types types.size true p.type v parts
    rw [convertAll, inPlaceAll]
    cases hx : inPlace types types.size p.type v with
    | error stop =>
      -- the call is over, and with it its attachments
      rw [hx] at hfirst
      obtain ⟨more, hfirst⟩ := hfirst
      rw [hfirst]
      rfl
    | ok first =>
      rw [hx] at hfirst
      rw [hfirst]
      -- the later arguments count on from here
      show (convertAll types rest _ >>= _) = _
      rw [ih, List.length_append, length_partsFrom]
      cases inPlaceAll types rest with
      | error e => rfl
      | ok more =>
        show _ = Except.ok (sentAll parts.length ((p.wireName, first) :: more),
          parts ++ partsFrom parts.length (nestedAll ((p.wireName, first) :: more)))
        rw [sentAll, nestedAll, partsFrom_append, ← List.append_assoc]
        rfl

/-- The body of a request from arguments that were converted in place. -/
def bodyOf (method : MethodBinding) (placed : List (String × Value)) : Except EncodeError Body :=
  if method.hasAttachment then do
    let own ← (sentAll 0 placed).mapM fun e => partOf e.1 e.2
    pure (.parts (own ++ partsFrom 0 (nestedAll placed)))
  else pure (.json (sentAll 0 placed))

/-- The request of a call, in one step after another and without a state. -/
theorem encode_eq {types : Table TypeBinding} {method : MethodBinding}
    (h : (method.params.map (·.wireName)).Nodup) (arguments : Arguments) :
    encode types method arguments =
      match unexpected? method.params (arguments.map fun e => e.1.toValue) with
      | some param => .error (unexpected method param)
      | none =>
        match method.params.find? (isMissing arguments) with
        | some p => .error (.refused (.missing p.wireName))
        | none =>
          match inPlaceAll types (given arguments method.params) with
          | .error e => .error e
          | .ok placed => Request.mk method.name <$> bodyOf method placed := by
  -- the checks come one after another, and each ends the call
  rw [encode, collect_eq h]
  cases unexpected? method.params (arguments.map fun e => e.1.toValue) with
  | some param => rfl
  | none =>
    show (supplied arguments method.params >>= _) = _
    rw [supplied_eq]
    cases method.params.find? (isMissing arguments) with
    | some p => rfl
    | none =>
      show (convertAll types (given arguments method.params) [] >>= _) = _
      rw [convertAll_refines]
      cases hplaced : inPlaceAll types (given arguments method.params) with
      | error e => rfl
      | ok placed =>
        -- arguments under different names are merged already
        have hmerge : Entries.merge (sentAll 0 placed) = sentAll 0 placed := by
          refine Entries.merge_of_nodup ?_
          rw [map_fst_sentAll, map_fst_inPlaceAll hplaced]
          exact nodup_given h arguments
        show (if method.hasAttachment then (do
            let parts ← (Entries.merge (sentAll 0 placed)).mapM fun e => partOf e.1 e.2
            pure ⟨method.name, .parts (parts ++ partsFrom 0 (nestedAll placed))⟩)
          else pure ⟨method.name, .json (Entries.merge (sentAll 0 placed))⟩) =
            Request.mk method.name <$> bodyOf method placed
        rw [hmerge, bodyOf]
        cases method.hasAttachment with
        | false => rfl
        | true =>
          cases (sentAll 0 placed).mapM fun e => partOf e.1 e.2 <;> rfl

/-- What an accepted call was made from. -/
theorem inPlaceAll_of_encode {types : Table TypeBinding} {method : MethodBinding} {arguments : Arguments}
    {request : Request} (hn : (method.params.map (·.wireName)).Nodup)
    (h : encode types method arguments = .ok request) :
    ∃ placed body, inPlaceAll types (given arguments method.params) = .ok placed ∧
      bodyOf method placed = .ok body ∧ request = ⟨method.name, body⟩ := by
  rw [encode_eq hn] at h
  split at h
  · cases h
  · split at h
    · cases h
    · split at h
      · cases h
      next placed hplaced =>
        cases hbody : bodyOf method placed with
        | error e =>
          rw [hbody] at h
          cases h
        | ok body =>
          rw [hbody] at h
          cases h
          exact ⟨placed, body, hplaced, hbody, rfl⟩

/-- What can be uploaded converts to nothing but the file it uploads. -/
theorem eq_file_of_inPlace {types : Table TypeBinding} {opens : Nat} {e : TypeExpr} {v r : Value}
    {f : InputFile} (hv : v.upload? = some (.ok f)) (h : inPlace types opens e v = .ok r) : r = .file f := by
  refine inPlace_induction types (motive := fun _ v r => v.upload? = some (.ok f) → r = .file f)
    ?primitive ?items ?option ?variant ?entries h hv
  case primitive =>
    intro p v r h hv
    rw [inPlacePrimitive, Value.toFile?_of_upload? hv] at h
    split at h
    · cases h
    next ha =>
      split at h
      · cases h
        rfl
      next hp =>
        -- no other primitive type admits what can be uploaded
        exfalso
        cases p <;> cases v <;>
          first
          | exact hp rfl
          | exact ha rfl
          | cases hv
  case items =>
    intro item v items out hitems _ _ hv
    rcases hitems with rfl | rfl <;> cases hv
  case option =>
    intro options e v r _ ih hv
    exact ih hv
  case variant =>
    intro name type e v r _ _ ih hv
    exact ih hv
  case entries =>
    -- mappings and records are not uploaded
    intro name type v entries out _ _ hentries _ _ _ hv
    rcases entriesFor_eq_ok_iff.1 hentries with rfl | ⟨fields, rfl, -⟩ <;> cases hv

theorem name_of_partOf {name : String} {v : Value} {part : Part} (h : partOf name v = .ok part) :
    part.name = name := by
  cases v with
  | file f =>
    cases h
    rfl
  | _ =>
    obtain ⟨s, -, rfl⟩ := map_eq_ok_iff.1 h
    rfl

/-- The own parts of the arguments: one for each, under its name, and a file as it is. -/
theorem ownParts {sent : List (String × Value)} {own : List Part}
    (h : (sent.mapM fun e => partOf e.1 e.2) = .ok own) :
    own.map (·.name) = sent.map Prod.fst ∧ ∀ name f, (name, Value.file f) ∈ sent → ⟨name, .file f⟩ ∈ own := by
  induction sent generalizing own with
  | nil =>
    rw [mapM_nil_eq_ok_iff] at h
    subst h
    exact ⟨rfl, by simp⟩
  | cons e rest ih =>
    obtain ⟨part, more, hpart, hmore, rfl⟩ := mapM_cons_eq_ok_iff.1 h
    obtain ⟨hnames, hfiles⟩ := ih hmore
    refine ⟨by rw [List.map_cons, List.map_cons, hnames, name_of_partOf hpart], ?_⟩
    intro name f hm
    rcases List.mem_cons.1 hm with rfl | hr
    · -- the part of a file is the file
      cases hpart
      exact List.mem_cons_self ..
    · exact List.mem_cons_of_mem _ (hfiles name f hr)

/-- A file that is an argument is among the arguments as they are sent. -/
theorem mem_sentAll_of_upload {types : Table TypeBinding} {supply : List (FieldBinding × Value)}
    {placed : List (String × Value)} (h : inPlaceAll types supply = .ok placed) {p : FieldBinding} {v : Value}
    {f : InputFile} (hm : (p, v) ∈ supply) (hv : v.upload? = some (.ok f)) (n : Nat) :
    (p.wireName, Value.file f) ∈ sentAll n placed := by
  induction supply generalizing placed n with
  | nil => cases hm
  | cons e rest ih =>
    obtain ⟨q, w⟩ := e
    obtain ⟨first, more, hfirst, hmore, rfl⟩ := inPlaceAll_cons_eq_ok_iff.1 h
    rw [sentAll]
    rcases List.mem_cons.1 hm with he | hr
    · obtain ⟨rfl, rfl⟩ := Prod.mk.inj he
      rw [eq_file_of_inPlace hv hfirst]
      exact List.mem_cons_self ..
    · exact List.mem_cons_of_mem _ (ih hmore hr _)

/-! ## The bookkeeping -/

/-- A conversion succeeds where the conversion in place does, from any attachments before it. Then the
attachments grow by the files below the argument, in order and numbered on, the value has references in their
place, and no file but the argument itself is left in it. If it stops, it stops in the same way.

An accepted call, whose parameters have different wire names, numbers its attachments from the first on. Each
of their references stands in the arguments once more than the caller wrote it, and a file that is an argument
is a part under the name of its parameter. -/
theorem attachment_bookkeeping (types : Table TypeBinding) :
    (∀ (opens : Nat) (top : Bool) (e : TypeExpr) (v : Value) (parts : List Part),
      (∀ r, inPlace types opens e v = .ok r →
        convert types opens top e v parts =
          .ok (r.sent top parts.length) (parts ++ partsFrom parts.length (r.nested top)) ∧
        ∀ f ∈ (r.sent top parts.length).files, top = true ∧ r = .file f) ∧
      ∀ stop, inPlace types opens e v = .error stop →
        ∃ more, convert types opens top e v parts = .error stop (parts ++ more)) ∧
    ∀ (method : MethodBinding) (arguments : Arguments) (request : Request),
      (method.params.map (·.wireName)).Nodup → encode types method arguments = .ok request →
      ∃ placed, inPlaceAll types (given arguments method.params) = .ok placed ∧
        convertAll types (given arguments method.params) [] =
          .ok (sentAll 0 placed, partsFrom 0 (nestedAll placed)) ∧
        (∀ i, countAll (referenceText i) (sentAll 0 placed) =
          countAll (referenceText i) placed + if i < (nestedAll placed).length then 1 else 0) ∧
        (method.hasAttachment = true →
          ∃ own, request.partList = own ++ partsFrom 0 (nestedAll placed) ∧
            own.map (·.name) = (given arguments method.params).map (fun e => e.1.wireName) ∧
            ∀ p v f, (p, v) ∈ given arguments method.params → v.upload? = some (.ok f) →
              ⟨p.wireName, .file f⟩ ∈ own) := by
  refine ⟨fun opens top e v parts => ⟨fun r hr => ?_, fun stop hstop => ?_⟩, ?_⟩
  · have h := convert_refines types opens top e v parts
    rw [hr] at h
    exact ⟨h, fun f hf => Value.eq_file_of_mem_files_sent hf⟩
  · have h := convert_refines types opens top e v parts
    rw [hstop] at h
    exact h
  · intro method arguments request hn h
    obtain ⟨placed, body, hplaced, hbody, rfl⟩ := inPlaceAll_of_encode hn h
    refine ⟨placed, hplaced, ?_, fun i => ?_, fun hmultipart => ?_⟩
    · rw [convertAll_refines, hplaced]
      rfl
    · -- counting starts from nothing
      rw [countAll_sentAll, oneIn]
      congr 1
      split <;> split <;> omega
    · -- the parts of the arguments come before the attachments
      rw [bodyOf, if_pos hmultipart] at hbody
      obtain ⟨own, hown, hbody⟩ := bind_eq_ok_iff.1 hbody
      cases hbody
      obtain ⟨hnames, hfiles⟩ := ownParts hown
      refine ⟨own, rfl, ?_, fun p v f hm hv => hfiles _ _ (mem_sentAll_of_upload hplaced hm hv 0)⟩
      rw [hnames, map_fst_sentAll, map_fst_inPlaceAll hplaced]

/-! ### A search that takes a file back -/

/-- Two types that differ in the kind of their second field. -/
def flaggedOrNamed : Table TypeBinding where
  entries :=
    [("Flagged",
        { name := "Flagged", variants := [], description := []
          fields := [⟨"media", "media", .primitive .inputFile, true, ""⟩,
            ⟨"tag", "tag", .primitive .boolean, true, ""⟩] }),
      ("Named",
        { name := "Named", variants := [], description := []
          fields := [⟨"media", "media", .primitive .inputFile, true, ""⟩,
            ⟨"tag", "tag", .primitive .string, true, ""⟩] })]
  nodup := by decide

/-- A method that takes items of either type, and a file. -/
def sendTagged : MethodBinding where
  name := "sendTagged"
  params :=
    [⟨"items", "items", .array (.union [.ref "Flagged", .ref "Named"]), true, ""⟩,
      ⟨"cover", "cover", .primitive .inputFile, false, ""⟩]
  returns := .primitive .literalTrue
  hasAttachment := true
  snakeName := "send_tagged"
  description := []

/-- A named and a flagged item. The first is tried as a flagged one, which attaches its file in vain. -/
def taggedArguments : Arguments :=
  [(.text "cover", .bytes [7]),
    (.text "items", .list
      [.object [(.text "media", .bytes [1]), (.text "tag", .text "a")],
        .object [(.text "media", .bytes [2]), (.text "tag", .bool true)]])]

theorem attachment_bookkeeping_taggedArguments :
    (sendTagged.params.map (·.wireName)).Nodup ∧
      ∃ request, encode flaggedOrNamed sendTagged taggedArguments = .ok request ∧
        ∃ own, own.map (·.name) = ["items", "cover"] ∧
          request.partList = own ++
            [⟨"attach_1", .file ⟨.octets [1], "file"⟩⟩, ⟨"attach_2", .file ⟨.octets [2], "file"⟩⟩] := by
  have hn : (sendTagged.params.map (·.wireName)).Nodup := by decide
  have hencode : ∃ request, encode flaggedOrNamed sendTagged taggedArguments = .ok request := by
    refine ⟨⟨"sendTagged", .parts
      [⟨"items", .text ("[\x7b\"media\":\"attach://attach_1\",\"tag\":\"a\"\x7d," ++
          "\x7b\"media\":\"attach://attach_2\",\"tag\":true\x7d]")⟩,
        ⟨"cover", .file ⟨.octets [7], "file"⟩⟩, ⟨"attach_1", .file ⟨.octets [1], "file"⟩⟩,
        ⟨"attach_2", .file ⟨.octets [2], "file"⟩⟩]⟩, ?_⟩
    cbv
  obtain ⟨request, hrequest⟩ := hencode
  obtain ⟨placed, hplaced, -, -, hparts⟩ :=
    (attachment_bookkeeping flaggedOrNamed).2 sendTagged taggedArguments request hn hrequest
  obtain ⟨own, hlist, hnames, -⟩ := hparts rfl
  have hgiven : inPlaceAll flaggedOrNamed (given taggedArguments sendTagged.params) =
      .ok [("items", .list
          [.object [(.text "media", .file ⟨.octets [1], "file"⟩), (.text "tag", .text "a")],
            .object [(.text "media", .file ⟨.octets [2], "file"⟩), (.text "tag", .bool true)]]),
        ("cover", .file ⟨.octets [7], "file"⟩)] := by cbv
  rw [hgiven] at hplaced
  cases hplaced
  refine ⟨hn, request, hrequest, own, ?_, ?_⟩
  · rw [hnames]
    rfl
  · rw [hlist]
    rfl

/-! ### Parameters that share a wire name -/

/-- A schema with a method that declares one parameter twice, with different types. -/
def sharedNameSchema : Schema where
  version := none
  releaseDate := none
  changelog := none
  types := .empty
  methods := .ofList [("send",
    { href := "", description := [], returns := ["True"]
      fields := [⟨"media", ["Array of InputFile"], true, ""⟩,
        ⟨"media", ["Array of InputFile", "String"], true, ""⟩] })]

/-- The binding of that method. -/
def sharedNameMethod : MethodBinding where
  name := "send"
  params :=
    [⟨"media", "media", .array (.primitive .inputFile), true, ""⟩,
      ⟨"media", "media", .union [.array (.primitive .inputFile), .primitive .string], true, ""⟩]
  returns := .primitive .literalTrue
  hasAttachment := true
  snakeName := "send"
  description := []

/-- Both parameters convert the one argument, and the second value takes the place of the first. The attachment
that the first made is sent, but nothing refers to it. -/
theorem request_loses_attachment :
    ∃ b, (Bindings.build sharedNameSchema).result = .ok b ∧ b.method? "send" = some sharedNameMethod ∧
      encode b.types sharedNameMethod [(.text "media", .list [.bytes [0]])] =
        .ok ⟨"send", .parts [⟨"media", .text "[\"attach://attach_2\"]"⟩,
          ⟨"attach_1", .file ⟨.octets [0], "file"⟩⟩, ⟨"attach_2", .file ⟨.octets [0], "file"⟩⟩]⟩ := by
  refine ⟨⟨.empty, .ofList [("send", sharedNameMethod)], none⟩, ?_, ?_, ?_⟩
  · exact eq_ok_of_toOption (by decide +kernel)
  · decide
  · cbv

end Request

end BotApi
