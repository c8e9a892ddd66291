import BotApi.Proofs.Request.Acceptance

/-!
# Calls that are neither sent nor refused

The encoder refuses a call in one of three ways. It may fail in others, and each time a value in the arguments is
the cause: a stream, or a record that can be read, which is called by no text and by no octets; a record with a field in
the place of a special attribute; or a whole number that is too long to be written.

## Main results

* `exists_cause_of_encode` — what is no refusal has a cause in the arguments.
-/

namespace BotApi.Request

/-- Whether a value, if it is a record, can be asked for what the encoder needs of it. -/
def isAskable : Value → Bool
  | .record type fields =>
    !Value.lacks .access fields && !Value.lacks .attributes fields && !Value.lacks .wireNames fields &&
      (Value.table? fields).isNone && isReader type fields
  | _ => true

/-- Whether the number that a value is, or those among its keys, can be written. -/
def isShort : Value → Bool
  | .int n => isWritable n
  | .object entries => entries.all fun e => Key.isWritable e.1
  | _ => true

/-- Whether a value is not the cause of a failure. Those that come from no value have none. -/
def isClear : EncodeError → Value → Bool
  | .fault .streamName => isNamed
  | .fault (.obstructed _) => isAskable
  | .unwritable (.tooManyDigits _) => isShort
  | _ => fun _ => true

/-- Whether a result, as the end of a call, is not a certain failure. -/
def Spares {α : Type} (failure : EncodeError) (x : Except Stop α) : Prop :=
  ∀ fault, x = .error (.fault fault) → refusal "" (.fault fault) ≠ failure

namespace Spares

variable {α β : Type} {failure : EncodeError} {x y : Except Stop α}

theorem of_ok (failure : EncodeError) (a : α) : Spares failure (.ok a) := by
  intro fault h
  cases h

theorem of_mismatch (failure : EncodeError) (m : Mismatch) :
    Spares failure (.error (.mismatch m) : Except Stop α) := by
  intro fault h
  cases h

theorem map (f : α → β) (h : Spares failure x) : Spares failure (f <$> x) := by
  intro fault hfault
  exact h fault (map_eq_error_iff.1 hfault)

theorem under (step : Step) (h : Spares failure x) : Spares failure (BotApi.under step x) := by
  intro fault hfault
  obtain ⟨stop, hstop, hunder⟩ := mapError_eq_error_iff.1 hfault
  cases stop with
  | mismatch m => cases hunder
  | fault f =>
    cases hunder
    exact h fault hstop

theorem orNext (hx : Spares failure x) (hy : Spares failure y) : Spares failure (Request.orNext x y) := by
  unfold Request.orNext
  split
  · exact hy
  · exact hx

theorem bind {f : α → Except Stop β} (hx : Spares failure x) (hf : ∀ a, x = .ok a → Spares failure (f a)) :
    Spares failure (x >>= f) := by
  intro fault hfault
  rcases bind_eq_error_iff.1 hfault with h | ⟨a, ha, h⟩
  · exact hx fault h
  · exact hf a ha fault h

end Spares

variable {failure : EncodeError}

/-! ## What is asked of a value -/

theorem of_isAskable_record {type : String} {fields : List (FieldName × Value)}
    (h : isAskable (.record type fields) = true) :
    Value.lacks .access fields = false ∧ Value.lacks .attributes fields = false ∧
      Value.lacks .wireNames fields = false ∧ Value.table? fields = none ∧ isReader type fields = true := by
  simp only [isAskable, Bool.and_eq_true, Bool.not_eq_true', Option.isNone_iff_eq_none] at h
  obtain ⟨⟨⟨⟨haccess, hattributes⟩, hwireNames⟩, htable⟩, hreader⟩ := h
  exact ⟨haccess, hattributes, hwireNames, htable, hreader⟩

theorem primitiveObstruction?_of_isAskable {v : Value} (h : isAskable v = true) (p : Primitive) :
    primitiveObstruction? p v = none := by
  unfold primitiveObstruction?
  cases v with
  | record type fields =>
    obtain ⟨haccess, hattributes, -⟩ := of_isAskable_record h
    split <;> simp [Value.attributeObstruction?, Value.accessObstruction?, haccess, hattributes]
  | _ => split <;> rfl

theorem accessObstruction?_of_isAskable {v : Value} (h : isAskable v = true) : v.accessObstruction? = none :=
  primitiveObstruction?_of_isAskable h .string

/-- A refusal after a question is a failure only if the value cannot be asked. -/
theorem spares_asked {α : Type} {v : Value} {obstruction : Option Obstruction} (m : Mismatch)
    (hv : isClear failure v = true) (h : isAskable v = true → obstruction = none) :
    Spares failure (.error (.asked obstruction (.mismatch m)) : Except Stop α) := by
  cases obstruction with
  | none => exact .of_mismatch failure m
  | some o =>
    intro fault hfault hfailure
    cases hfault
    -- the failure is that of the question, for which the value can be asked
    subst hfailure
    cases h hv

/-- Of what can be read no file is made where it cannot be asked what it is called, or is called by no text and by no
octets. -/
theorem ofReader_eq_error {source : FileSource} {called : Except InputFile.NamingFault StreamName}
    {fault : InputFile.NamingFault} (h : InputFile.ofReader source called none = .error fault) :
    called = .error fault ∨ fault = .streamName ∧ called = .ok .other := by
  cases called with
  | error other =>
    cases h
    exact .inl rfl
  | ok name =>
    cases name with
    | other =>
      cases h
      exact .inr ⟨rfl, rfl⟩
    | _ => cases h

/-- The ways in which no file is made of a record. -/
theorem ofRecord_eq_error {type : String} {fields : List (FieldName × Value)} {fault : InputFile.NamingFault}
    (h : InputFile.ofRecord type fields none = .error fault) :
    (∃ o, fault = .obstructed o) ∨ fault = .streamName ∧ InputFile.recordName fields = .ok .other := by
  unfold InputFile.ofRecord at h
  cases hclass : (Value.record type fields).classObstruction? with
  | some o =>
    rw [hclass] at h
    cases h
    exact .inl ⟨o, rfl⟩
  | none =>
    rw [hclass] at h
    dsimp only at h
    cases hpath : Value.need .path fields with
    | error o =>
      rw [hpath] at h
      cases h
      exact .inl ⟨o, rfl⟩
    | ok =>
      rw [hpath] at h
      cases hname : InputFile.recordName fields with
      | error o =>
        rw [hname] at h
        cases h
        exact .inl ⟨o, rfl⟩
      | ok name =>
        rw [hname] at h
        refine (ofReader_eq_error h).elim (fun h => by cases h) fun ⟨hfault, hother⟩ => .inr ⟨hfault, ?_⟩
        cases hother
        rfl

/-- There is a cause in the value of which no file can be made: its name, or else what keeps it from being asked. -/
theorem toFile?_ne_error_of_isClear {v : Value} {fault : InputFile.NamingFault}
    (hv : isClear (.fault (namingFault fault)) v = true) : v.toFile? ≠ some (.error fault) := by
  intro hfile
  cases v with
  | stream s =>
    rcases ofReader_eq_error (Option.some.inj hfile) with h | ⟨rfl, h⟩
    · cases h
    · exact absurd (Except.ok.inj h) (of_decide_eq_true hv)
  | record type fields =>
    rw [Value.toFile?] at hfile
    split at hfile
    · next hread =>
      have herror := Option.some.inj hfile
      cases fault with
      | obstructed o =>
        -- a record that can be asked is as good as its name
        obtain ⟨-, hattributes, -, -, hreader⟩ := of_isAskable_record hv
        rw [isReader, hread, Bool.not_true, Bool.false_or, Bool.and_eq_true, Option.isNone_iff_eq_none,
          Bool.not_eq_true'] at hreader
        rw [InputFile.ofRecord, hreader.1, Value.need, hreader.2, recordName_eq hattributes] at herror
        rcases ofReader_eq_error herror with h | ⟨h, -⟩ <;> cases h
      | streamName =>
        have hnamed : isNamed (.record type fields) = true := hv
        rw [isNamed, hread, Bool.not_true, Bool.false_or, decide_eq_true_eq] at hnamed
        rcases ofRecord_eq_error herror with ⟨o, ho⟩ | ⟨-, hname⟩
        · cases ho
        · unfold InputFile.recordName at hname
          cases hfield : Value.field? "name" fields with
          | some w =>
            rw [hfield] at hname hnamed
            exact hnamed (Except.ok.inj hname)
          | none =>
            -- without a field there is no name, and none is needed
            rw [hfield] at hname
            obtain ⟨-, -, hother⟩ := map_eq_ok_iff.1 hname
            cases hother
    · cases hfile
  | _ => cases hfile

theorem inPlacePrimitive_spares {p : Primitive} {v : Value} (hv : isClear failure v = true) :
    Spares failure (inPlacePrimitive p v) := by
  unfold inPlacePrimitive
  split
  · exact spares_asked _ hv fun h => primitiveObstruction?_of_isAskable h p
  · split
    · split
      · exact .of_mismatch failure _
      · next naming hnaming =>
        intro fault hfault hfailure
        cases hfault
        subst hfailure
        exact absurd hnaming (@toFile?_ne_error_of_isClear _ naming (by cases naming <;> exact hv))
      · exact .of_ok failure _
    · exact .of_ok failure _

/-! ## The entries of a value -/

theorem isNamed_payload (v : Value) (h : isNamed v = true) : isNamed v.payload = true := by
  cases v with
  | stream s => exact h
  | _ => rfl

theorem isAskable_payload (v : Value) : isAskable v.payload = true := by
  cases v <;> rfl

theorem isShort_payload (v : Value) (h : isShort v = true) : isShort v.payload = true := by
  cases v with
  | int n => exact h
  | object entries =>
    rw [isShort, List.all_eq_true] at h
    rw [Value.payload, isShort, List.all_eq_true]
    exact Value.forall_key_payloadEntries (P := fun k => Key.isWritable k = true) h
  | record type fields =>
    rw [Value.payload, isShort, List.all_eq_true]
    exact Value.forall_key_payload_record (P := fun k => Key.isWritable k = true) fields fun _ => rfl
  | _ => rfl

/-- A payload holds no cause that its value does not hold. -/
theorem isClear_payload (v : Value) (h : isClear failure v = true) : isClear failure v.payload = true := by
  unfold isClear at h ⊢
  split
  · exact isNamed_payload v h
  · exact isAskable_payload v
  · exact isShort_payload v h
  · rfl

/-- A type is offered entries, or there is a refusal, unless the payload of a record is in the way. -/
theorem entriesFor_spares {name : String} {v : Value} (hv : v.throughout (isClear failure) = true) :
    Spares failure (entriesFor name v) := by
  unfold entriesFor
  split
  · exact .of_ok failure _
  · split
    · exact .of_mismatch failure _
    · split
      · next o hobstruction =>
        intro fault hfault hfailure
        cases hfault
        subst hfailure
        -- what can be asked throughout has a payload
        have htables : Value.HasTables isAskable := by
          intro type fields h
          obtain ⟨haccess, -, hwireNames, htable, -⟩ := of_isAskable_record h
          exact ⟨haccess, hwireNames, htable⟩
        rw [Value.payload?_eq_ok htables hv] at hobstruction
        cases hobstruction
      · exact .of_ok failure _
      · exact .of_mismatch failure _
  · exact .of_mismatch failure _

theorem refuseKey_spares {α : Type} (e : TypeExpr) {fields : List FieldBinding} {entries : List (Key × Value)} {k : Key}
    (hv : isClear failure (.object entries) = true) (hk : unknownKey? fields entries = some k) :
    Spares failure (.error (.refuseKey e k) : Except Stop α) := by
  rcases refuseKey_cases e k with ⟨m, hm⟩ | ⟨hfault, hlong⟩
  · rw [hm]
    exact .of_mismatch failure m
  · rw [hfault]
    intro fault hfault hfailure
    cases hfault
    subst hfailure
    -- the key is one of the mapping
    obtain ⟨e, he, rfl⟩ := List.mem_map.1 (List.mem_of_find?_eq_some hk)
    have hwritable := List.all_eq_true.1 hv e he
    rw [hlong] at hwritable
    cases hwritable

/-! ## Conversions -/

theorem inPlaceItems_spares {types : Table TypeBinding} {item : TypeExpr} {items : List Value}
    (h : ∀ v ∈ items, Spares failure (inPlace types types.size item v)) (i : Nat) :
    Spares failure (inPlaceItems types item i items) := by
  induction items generalizing i with
  | nil =>
    rw [inPlaceItems]
    exact .of_ok failure []
  | cons v rest ih =>
    obtain ⟨hfirst, hrest⟩ := List.forall_mem_cons.1 h
    rw [inPlaceItems]
    exact (hfirst.under _).bind fun first _ => (ih hrest (i + 1)).map (first :: ·)

theorem inPlaceFirst_spares {types : Table TypeBinding} {opens : Nat} {v : Value} (whole : TypeExpr)
    {options : List TypeExpr} (h : ∀ e ∈ options, Spares failure (inPlace types opens e v)) :
    Spares failure (inPlaceFirst types opens whole options v) := by
  induction options with
  | nil =>
    rw [inPlaceFirst]
    exact .of_mismatch failure _
  | cons e rest ih =>
    obtain ⟨hfirst, hrest⟩ := List.forall_mem_cons.1 h
    rw [inPlaceFirst]
    exact hfirst.orNext (ih hrest)

theorem inPlaceFields_spares {types : Table TypeBinding} {entries : List (Key × Value)}
    {fields : List FieldBinding}
    (h : ∀ f ∈ fields, ∀ w, given? entries f.wireName = some w →
      Spares failure (inPlace types types.size f.type w)) :
    Spares failure (inPlaceFields types fields entries) := by
  induction fields with
  | nil =>
    rw [inPlaceFields]
    exact .of_ok failure []
  | cons f rest ih =>
    obtain ⟨hfirst, hrest⟩ := List.forall_mem_cons.1 h
    rw [inPlaceFields_cons]
    split
    · split
      · exact .of_mismatch failure _
      · exact ih hrest
    · next w hw => exact ((hfirst w hw).under _).bind fun first _ => (ih hrest).map ((Key.text f.wireName, first) :: ·)

/-- A conversion fails only where the value holds a cause of the failure. -/
theorem inPlace_spares {types : Table TypeBinding} (resolved : Resolved types) (founded : Founded types)
    {opens : Nat} {e : TypeExpr} {v : Value} (room : HasRoom types opens e) (closed : Closed types e)
    (hv : v.throughout (isClear failure) = true) : Spares failure (inPlace types opens e v) := by
  induction opens, e, v using conversion_induction with
  | primitive opens p v =>
    rw [inPlace]
    exact inPlacePrimitive_spares (Value.holds_of_throughout hv)
  | array opens item v smaller =>
    have hroom := hasRoom_of_size_le (Nat.le_refl types.size) item
    have hitems : ∀ items, Value.sizeItems items < v.size →
        (∀ w ∈ items, w.throughout (isClear failure) = true) →
          Spares failure (inPlaceItems types item 0 items) := by
      intro items hsize hclear
      refine inPlaceItems_spares (fun w hw => ?_) 0
      have hlt := Value.size_lt_of_mem_items hw
      exact smaller w (by omega) types.size item hroom closed.item (hclear w hw)
    rw [inPlace.eq_def]
    cases v with
    | list items => exact (hitems items (by rw [Value.size]; omega) (Value.throughout_list_iff.1 hv).2).map _
    | tuple items => exact (hitems items (by rw [Value.size]; omega) (Value.throughout_tuple_iff.1 hv).2).map _
    | _ => exact spares_asked _ (Value.holds_of_throughout hv) accessObstruction?_of_isAskable
  | union opens options v ih =>
    rw [inPlace]
    exact inPlaceFirst_spares _ fun e he => ih e he (room.option e) (closed.option he) hv
  | ref opens name v smaller fewer =>
    obtain ⟨type, htype⟩ := Table.exists_find?_of_mem_names closed.mem_names
    cases ha : type.isAbstract with
    | true =>
      -- one opening later there is room for each variant
      obtain ⟨rest, rfl, hroom⟩ := room.variants founded htype
      rw [inPlace_abstract htype ha]
      refine inPlaceFirst_spares _ fun e he => ?_
      obtain ⟨variant, hvariant, rfl⟩ := List.mem_map.1 he
      exact fewer rest (Nat.lt_succ_self rest) _ (hroom variant hvariant) (resolved.variant htype hvariant) hv
    | false =>
      rw [inPlace_concrete htype ha]
      have hspares : Spares failure (entriesFor name v) := entriesFor_spares hv
      cases hentries : entriesFor name v with
      | error stop =>
        rw [hentries] at hspares
        intro fault hfault
        exact hspares fault (by cases hfault; rfl)
      | ok entries =>
        have hoffered := throughout_of_entriesFor (fun v => isClear_payload v) hv hentries
        dsimp only
        split
        · next k hk => exact refuseKey_spares _ (Value.holds_of_throughout hoffered) hk
        · refine (inPlaceFields_spares fun f hf w hw => ?_).map Value.object
          -- a field of what the value offers is smaller than the value
          have hlt := Nat.lt_trans (size_lt_of_given? hw) (sizeEntries_lt_of_entriesFor hentries)
          exact smaller w hlt types.size f.type (hasRoom_of_size_le (Nat.le_refl _) _)
            (resolved.fields name type htype f hf) (throughout_of_given? hoffered hw)

/-! ## Calls -/

theorem refusal_fault (param other : String) (fault : Fault) :
    refusal param (.fault fault) = refusal other (.fault fault) := by
  cases fault <;> rfl

theorem hasNumber_of_isShort {v : Value} (h : isShort v = true) : hasNumber isWritable v = true := by
  cases v with
  | int n => exact h
  | _ => rfl

section

variable {types : Table TypeBinding} {method : MethodBinding} {arguments : Arguments}
  {supply : List (FieldBinding × Value)}

/-- Arguments are collected, or there is a refusal, unless a key is too long to be shown. -/
theorem refused_or_cause_of_collect (h : collect method arguments = .error failure) :
    (∃ e, failure = .refused e) ∨ isClear failure (.object arguments) = false := by
  unfold collect at h
  split at h
  · next param hparam =>
    cases h
    obtain ⟨e, he, rfl⟩ := List.mem_map.1 (List.mem_of_find?_eq_some hparam)
    unfold unexpected
    rcases literal_toValue_failsOnly e.1 with ⟨shown, hshown⟩ | ⟨herror, hlong⟩
    · exact .inl ⟨_, by rw [hshown]⟩
    · rw [herror]
      refine .inr (List.all_eq_false.2 ⟨e, he, ?_⟩)
      rw [hlong]
      exact Bool.false_ne_true
  · have h := map_eq_error_iff.1 h
    rw [supplied_eq] at h
    split at h
    · cases h
      exact .inl ⟨_, rfl⟩
    · cases h

/-- What was collected for a parameter is what the call has for it. -/
theorem argument?_of_mem_collect (h : collect method arguments = .ok supply) {p : FieldBinding} {v : Value}
    (hm : (p, v) ∈ supply) : p ∈ method.params ∧ argument? arguments p = some v := by
  unfold collect at h
  split at h
  · cases h
  · obtain ⟨own, hown, rfl⟩ := map_eq_ok_iff.1 h
    rw [supplied_eq] at hown
    split at hown
    · cases hown
    · cases hown
      exact mem_given_iff.1 (Entries.mem_of_mem_merge hm)

/-- Arguments are converted, or one of them is refused, unless one of them holds a cause. -/
theorem refused_or_cause_of_inPlaceAll (resolved : Resolved types) (founded : Founded types)
    (closed : ∀ e ∈ supply, Closed types e.1.type) (h : inPlaceAll types supply = .error failure) :
    (∃ e, failure = .refused e) ∨ ∃ e ∈ supply, e.2.throughout (isClear failure) = false := by
  induction supply with
  | nil => cases h
  | cons e rest ih =>
    obtain ⟨p, v⟩ := e
    obtain ⟨hfirst, hrest⟩ := List.forall_mem_cons.1 closed
    rw [inPlaceAll, bind_eq_error_iff] at h
    rcases h with h | ⟨first, -, h⟩
    · obtain ⟨stop, hstop, rfl⟩ := mapError_eq_error_iff.1 h
      cases stop with
      | mismatch m => exact .inl ⟨_, rfl⟩
      | fault fault =>
        refine .inr ⟨(p, v), List.mem_cons_self .., ?_⟩
        rw [← Bool.not_eq_true]
        intro hv
        have hspares := inPlace_spares resolved founded (hasRoom_of_size_le (Nat.le_refl _) _) hfirst hv
        exact hspares fault hstop (refusal_fault "" p.wireName fault)
    · rcases ih hrest (map_eq_error_iff.1 h) with hrefused | ⟨e, he, hcause⟩
      · exact .inl hrefused
      · exact .inr ⟨e, List.mem_cons_of_mem _ he, hcause⟩

/-- The body of a request. Of several values under one wire name the last counts. -/
def mergedBody (method : MethodBinding) (placed : List (String × Value)) : Except EncodeError Body :=
  if method.hasAttachment then do
    let own ← (Entries.merge (sentAll 0 placed)).mapM fun e => partOf e.1 e.2
    pure (.parts (own ++ partsFrom 0 (nestedAll placed)))
  else pure (.json (Entries.merge (sentAll 0 placed)))

/-- The request of a call in three steps, each of which may be the last. -/
theorem encode_eq_bind (types : Table TypeBinding) (method : MethodBinding) (arguments : Arguments) :
    encode types method arguments = (do
      let supply ← collect method arguments
      let placed ← inPlaceAll types supply
      let body ← mergedBody method placed
      pure ⟨method.name, body⟩) := by
  unfold encode
  cases collect method arguments with
  | error e => rfl
  | ok supply =>
    show (convertAll types supply [] >>= _) = (inPlaceAll types supply >>= _)
    rw [convertAll_refines]
    cases inPlaceAll types supply with
    | error e => rfl
    | ok placed =>
      show (if method.hasAttachment then _ else _) = (mergedBody method placed >>= _)
      unfold mergedBody
      split
      · show ((Entries.merge (sentAll 0 placed)).mapM (fun e => partOf e.1 e.2) >>= _) = _
        cases (Entries.merge (sentAll 0 placed)).mapM fun e => partOf e.1 e.2 <;> rfl
      · rfl

/-- A body is made of what was converted, unless a number in it is too long to be written. -/
theorem cause_of_mergedBody {placed : List (String × Value)} (h : inPlaceAll types supply = .ok placed)
    (hbody : mergedBody method placed = .error failure) :
    ∃ e ∈ supply, e.2.throughout (isClear failure) = false := by
  unfold mergedBody at hbody
  split at hbody
  · have hparts := map_eq_error_iff.1 hbody
    have honly := parts_failsOnly h fun e (he : e ∈ Entries.merge (sentAll 0 placed)) =>
      Entries.mem_of_mem_merge he
    rcases honly with ⟨parts, hok⟩ | ⟨hlong, e, he, hnumber⟩
    · rw [hparts] at hok
      cases hok
    · rw [hparts] at hlong
      cases hlong
      refine ⟨e, he, ?_⟩
      rw [← Bool.not_eq_true]
      intro hshort
      rw [Value.throughout_mono (fun _ => hasNumber_of_isShort) hshort] at hnumber
      cases hnumber
  · cases hbody

/-- A call that is neither sent nor refused fails for a value in its arguments. -/
theorem exists_cause_of_encode (resolved : Resolved types) (founded : Founded types)
    (closed : ∀ p ∈ method.params, Closed types p.type) (h : encode types method arguments = .error failure) :
    (∃ e, failure = .refused e) ∨ ∃ v ∈ (Value.object arguments).parts, isClear failure v = false := by
  rw [← Value.throughout_eq_false_iff]
  rw [encode_eq_bind, bind_eq_error_iff] at h
  rcases h with h | ⟨supply, hsupply, h⟩
  · refine (refused_or_cause_of_collect h).imp_right fun hroot => ?_
    rw [Value.throughout.eq_def, hroot, Bool.false_and]
  · -- what is wrong with an argument is wrong with the arguments
    have hwhole : (∃ e ∈ supply, e.2.throughout (isClear failure) = false) →
        (Value.object arguments).throughout (isClear failure) = false := by
      rintro ⟨⟨p, v⟩, he, hv⟩
      rw [← Bool.not_eq_true]
      intro hall
      rw [throughout_of_argument? hall (argument?_of_mem_collect hsupply he).2] at hv
      cases hv
    rcases bind_eq_error_iff.1 h with h | ⟨placed, hplaced, h⟩
    · refine (refused_or_cause_of_inPlaceAll resolved founded (fun e he => ?_) h).imp_right hwhole
      exact closed e.1 (argument?_of_mem_collect hsupply he).1
    · exact .inr (hwhole (cause_of_mergedBody hplaced (map_eq_error_iff.1 h)))

end

end BotApi.Request
