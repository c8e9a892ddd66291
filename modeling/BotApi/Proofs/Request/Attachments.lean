import BotApi.Proofs.Request.InPlace
import BotApi.Request.Encode

/-!
# Attachments

Converting a value attaches files while it looks for the options that fit, and takes them back where an option
fails. `convert_refines` says that what comes out in the end is the conversion in place, with the files of its
result attached in order and replaced by references: a stopped option leaves no trace.

## Main results

* `convert_refines` — one conversion, from any attachments before it.
* `refines_seq`, `refines_orNext` — what it rests on: attachments count on, and a failed attempt is taken back.
-/

namespace BotApi.Request

/-- The attachments of files, after `n` others. -/
def partsFrom (n : Nat) (files : List InputFile) : List Part :=
  files.mapIdx fun i f => ⟨attachmentName (n + i), .file f⟩

theorem length_partsFrom (n : Nat) (files : List InputFile) :
    (partsFrom n files).length = files.length := by
  rw [partsFrom, List.length_mapIdx]

theorem partsFrom_append (n : Nat) (files more : List InputFile) :
    partsFrom n (files ++ more) = partsFrom n files ++ partsFrom (n + files.length) more := by
  rw [partsFrom, List.mapIdx_append, partsFrom, partsFrom]
  congr 1
  -- the later files have later places in the whole list
  refine List.mapIdx_eq_mapIdx_iff.2 fun i hi => ?_
  rw [Nat.add_assoc, Nat.add_comm files.length i]

/-! ## Refinement -/

/-- An attaching computation comes to what a plain one comes to. From whatever attachments it starts, it ends
with the result as it is sent after them and with the files of the result attached; or it stops where the other
stops, with what it attached by then. -/
def Refines {α : Type} (send : Nat → α → α) (files : α → List InputFile) (x : Attaching α)
    (plain : Except Stop α) : Prop :=
  ∀ parts : List Part,
    match plain with
    | .ok r => x parts = .ok (send parts.length r) (parts ++ partsFrom parts.length (files r))
    | .error stop => ∃ more, x parts = .error stop (parts ++ more)

section

variable {α β γ : Type} {send : Nat → α → α} {files : α → List InputFile} {x : Attaching α}
  {plain : Except Stop α}

theorem refines_throw (stop : Stop) : Refines send files (throw stop) (.error stop) := by
  intro parts
  exact ⟨[], by rw [List.append_nil]; rfl⟩

/-- What is sent as it is attaches nothing. -/
theorem refines_pure {a : α} (hs : ∀ n, send n a = a) (hf : files a = []) :
    Refines send files (pure a) (.ok a) := by
  intro parts
  show EStateM.Result.ok a parts = _
  rw [hs, hf, partsFrom, List.mapIdx_nil, List.append_nil]

theorem refines_under (step : Step) (h : Refines send files x plain) :
    Refines send files (Attaching.under step x) (under step plain) := by
  intro parts
  have hx := h parts
  cases plain with
  | ok r =>
    show Attaching.under step x parts = _
    rw [Attaching.under, hx]
  | error stop =>
    obtain ⟨more, hx⟩ := hx
    exact ⟨more, by rw [Attaching.under, hx]⟩

/-- A first computation that meets a mismatch leaves no attachment behind. -/
theorem refines_orNext {other : Attaching α} {next : Except Stop α} (h : Refines send files x plain)
    (ho : Refines send files other next) :
    Refines send files (x.orNext other) (orNext plain next) := by
  intro parts
  have hx := h parts
  cases plain with
  | ok r =>
    show Attaching.orNext x other parts = _
    rw [Attaching.orNext, hx]
  | error stop =>
    obtain ⟨more, hx⟩ := hx
    cases stop with
    | fault f => exact ⟨more, by rw [Attaching.orNext, hx]⟩
    | mismatch m =>
      -- cutting the attachments back to their number before gives those before
      have hback : Attaching.orNext x other parts = other parts := by
        rw [Attaching.orNext, hx]
        show other ((parts ++ more).take parts.length) = other parts
        rw [List.take_left]
      rw [hback]
      exact ho parts

theorem refines_map {sendB : Nat → β → β} {filesB : β → List InputFile} (f : α → β)
    (hs : ∀ n a, sendB n (f a) = f (send n a)) (hf : ∀ a, filesB (f a) = files a)
    (h : Refines send files x plain) : Refines sendB filesB (f <$> x) (f <$> plain) := by
  intro parts
  have hx := h parts
  cases plain with
  | ok r =>
    show EStateM.map f x parts = .ok (sendB parts.length (f r)) (parts ++ partsFrom parts.length (filesB (f r)))
    rw [EStateM.map, hx, hs, hf]
  | error stop =>
    obtain ⟨more, hx⟩ := hx
    exact ⟨more, by show EStateM.map f x parts = _; rw [EStateM.map, hx]⟩

/-- Two computations in a row: the second counts on from the attachments of the first. -/
theorem refines_seq {sendB : Nat → β → β} {filesB : β → List InputFile} {y : Attaching β}
    {plainB : Except Stop β} {sendC : Nat → γ → γ} {filesC : γ → List InputFile} (f : α → β → γ)
    (hs : ∀ n a b, sendC n (f a b) = f (send n a) (sendB (n + (files a).length) b))
    (hf : ∀ a b, filesC (f a b) = files a ++ filesB b)
    (hx : Refines send files x plain) (hy : Refines sendB filesB y plainB) :
    Refines sendC filesC (do let a ← x; let b ← y; pure (f a b))
      (do let a ← plain; let b ← plainB; pure (f a b)) := by
  intro parts
  have hx := hx parts
  -- the plain computations decide the case, so they are kept in sight
  show match (plain >>= fun a => plainB >>= fun b => pure (f a b) : Except Stop γ) with
    | .ok r => EStateM.bind x (fun a => EStateM.bind y fun b => pure (f a b)) parts = _
    | .error stop => ∃ more, EStateM.bind x (fun a => EStateM.bind y fun b => pure (f a b)) parts = _
  cases plain with
  | error stop =>
    obtain ⟨more, hx⟩ := hx
    exact ⟨more, by rw [EStateM.bind, hx]⟩
  | ok a =>
    -- the second starts with what the first has attached
    have hy := hy (parts ++ partsFrom parts.length (files a))
    rw [List.length_append, length_partsFrom] at hy
    rw [EStateM.bind, hx]
    cases plainB with
    | error stop =>
      -- what both have attached by then
      obtain ⟨more, hy⟩ := hy
      refine ⟨partsFrom parts.length (files a) ++ more, ?_⟩
      show EStateM.bind y _ _ = _
      rw [EStateM.bind, hy, List.append_assoc]
    | ok b =>
      show EStateM.bind y _ _ = .ok (sendC parts.length (f a b)) (parts ++ partsFrom parts.length (filesC (f a b)))
      rw [EStateM.bind, hy, hs, hf, partsFrom_append, ← List.append_assoc]
      rfl

/-- Refinement depends on how results are sent only for the result there is. -/
theorem Refines.congr {sendB : Nat → α → α} {filesB : α → List InputFile}
    (h : Refines send files x plain)
    (hr : ∀ r, plain = .ok r → (∀ n, sendB n r = send n r) ∧ filesB r = files r) :
    Refines sendB filesB x plain := by
  intro parts
  have hx := h parts
  cases plain with
  | ok r =>
    obtain ⟨hs, hf⟩ := hr r rfl
    show x parts = .ok (sendB parts.length r) (parts ++ partsFrom parts.length (filesB r))
    rw [hs, hf]
    exact hx
  | error stop => exact hx

end

/-! ## Conversions -/

section

variable {types : Table TypeBinding} {name : String} {type : TypeBinding}

theorem convert_unknown (h : types.find? name = none) (opens : Nat) (top : Bool) (v : Value) :
    convert types opens top (.ref name) v = throw (.fault (.unknownType name)) := by
  rw [convert, h]

theorem convert_endless (h : types.find? name = some type) (ha : type.isAbstract = true) (top : Bool)
    (v : Value) : convert types 0 top (.ref name) v = throw (.fault (.endless name)) := by
  rw [convert, h]
  simp only [ha, if_true]

theorem convert_abstract (h : types.find? name = some type) (ha : type.isAbstract = true) (opens : Nat)
    (top : Bool) (v : Value) :
    convert types (opens + 1) top (.ref name) v =
      convertFirst types opens false (.ref name) (type.variants.map .ref) v := by
  rw [convert, h]
  simp only [ha, if_true]

theorem convert_concrete (h : types.find? name = some type) (hc : type.isAbstract = false) (opens : Nat)
    (top : Bool) (v : Value) :
    convert types opens top (.ref name) v =
      match entriesFor name v with
      | .error stop => throw stop
      | .ok entries =>
        match unknownKey? type.fields entries with
        | some k => throw (.refuseKey (.ref name) k)
        | none => Value.object <$> convertFields types type.fields entries := by
  rw [convert, h]
  simp only [hc, Bool.false_eq_true, if_false]
  cases entriesFor name v with
  | error stop => rfl
  | ok entries => rfl

end

/-- One step at a field, as `inPlaceFields_cons`. -/
theorem convertFields_cons (types : Table TypeBinding) (f : FieldBinding) (rest : List FieldBinding)
    (entries : List (Key × Value)) :
    convertFields types (f :: rest) entries =
      match given? entries f.wireName with
      | none =>
        if f.required then throw (.mismatch ⟨[.key f.wireName], f.type, .nothing⟩)
        else convertFields types rest entries
      | some v => (do
          let first ← Attaching.under (.key f.wireName) (convert types types.size false f.type v)
          let more ← convertFields types rest entries
          pure ((.text f.wireName, first) :: more)) := by
  rw [convertFields]
  split <;> rename_i h <;> rw [h]

theorem convertPrimitive_refines (p : Primitive) (top : Bool) (v : Value) :
    Refines (Value.sent top) (Value.nested top) (convertPrimitive p top v) (inPlacePrimitive p v) := by
  rw [convertPrimitive, inPlacePrimitive]
  by_cases ha : admits p v = true
  · rw [ha, Bool.not_true, if_neg Bool.false_ne_true, if_neg Bool.false_ne_true]
    by_cases hp : p = .inputFile
    · rw [if_pos hp, if_pos hp, convertFile]
      cases v.toFile? with
      | none => exact refines_throw _
      | some upload =>
        cases upload with
        | error fault => exact refines_throw _
        | ok f =>
          intro parts
          -- the argument itself is not attached
          cases top with
          | true =>
            show EStateM.Result.ok (Value.file f) parts = .ok (.file f) (parts ++ [])
            rw [List.append_nil]
          | false => rfl
    · rw [if_neg hp, if_neg hp]
      -- only files are replaced, and they are admitted by the file type alone
      have hv : (∀ n, v.sent top n = v) ∧ v.nested top = [] := by
        cases p <;> cases v <;>
          first
          | exact absurd rfl hp
          | exact absurd ha Bool.false_ne_true
          | exact ⟨fun _ => rfl, by rw [Value.nested, Value.files]; simp⟩
      exact refines_pure hv.1 hv.2
  · rw [Bool.not_eq_true] at ha
    rw [ha, Bool.not_false, if_pos rfl, if_pos rfl]
    exact refines_throw _

theorem convertItems_refines {types : Table TypeBinding} {item : TypeExpr} {items : List Value}
    (h : ∀ v ∈ items, Refines (Value.sent false) (Value.nested false) (convert types types.size false item v)
      (inPlace types types.size item v)) (i : Nat) :
    Refines Value.attachedItems Value.filesOfItems (convertItems types item i items)
      (inPlaceItems types item i items) := by
  induction items generalizing i with
  | nil =>
    rw [convertItems, inPlaceItems]
    exact refines_pure (fun _ => rfl) rfl
  | cons v rest ih =>
    rw [convertItems, inPlaceItems]
    refine refines_seq List.cons ?_ ?_ (refines_under _ (h v (List.mem_cons_self ..)))
      (ih (fun w hw => h w (List.mem_cons_of_mem _ hw)) (i + 1))
    · intro n w ws
      rw [Value.attachedItems, Value.sent_false, Value.nested_false]
    · intro w ws
      rw [Value.filesOfItems, Value.nested_false]

theorem convertFields_refines {types : Table TypeBinding} {entries : List (Key × Value)}
    {fields : List FieldBinding}
    (h : ∀ f ∈ fields, ∀ v, given? entries f.wireName = some v →
      Refines (Value.sent false) (Value.nested false) (convert types types.size false f.type v)
        (inPlace types types.size f.type v)) :
    Refines Value.attachedEntries Value.filesOfEntries (convertFields types fields entries)
      (inPlaceFields types fields entries) := by
  induction fields with
  | nil =>
    rw [convertFields, inPlaceFields]
    exact refines_pure (fun _ => rfl) rfl
  | cons f rest ih =>
    have hrest := ih fun g hg => h g (List.mem_cons_of_mem _ hg)
    rw [convertFields_cons, inPlaceFields_cons]
    cases hg : given? entries f.wireName with
    | none =>
      cases hf : f.required with
      | true => exact refines_throw _
      | false => exact hrest
    | some v =>
      have hfirst := h f (List.mem_cons_self ..) v hg
      refine refines_seq (fun w more => (Key.text f.wireName, w) :: more) ?_ ?_ (refines_under _ hfirst) hrest
      · intro n w more
        rw [Value.attachedEntries, Value.sent_false, Value.nested_false]
      · intro w more
        rw [Value.filesOfEntries, Value.nested_false]

theorem convertFirst_refines {types : Table TypeBinding} {opens : Nat} {top : Bool} {v : Value}
    (whole : TypeExpr) (options : List TypeExpr)
    (h : ∀ e ∈ options, Refines (Value.sent top) (Value.nested top) (convert types opens top e v)
      (inPlace types opens e v)) :
    Refines (Value.sent top) (Value.nested top) (convertFirst types opens top whole options v)
      (inPlaceFirst types opens whole options v) := by
  induction options with
  | nil =>
    rw [convertFirst, inPlaceFirst]
    exact refines_throw _
  | cons e rest ih =>
    rw [convertFirst, inPlaceFirst]
    exact refines_orNext (h e (List.mem_cons_self ..)) (ih fun e he => h e (List.mem_cons_of_mem _ he))

/-- A conversion comes to the conversion in place, its files attached after those before. -/
theorem convert_refines (types : Table TypeBinding) (opens : Nat) (top : Bool) (e : TypeExpr) (v : Value) :
    Refines (Value.sent top) (Value.nested top) (convert types opens top e v) (inPlace types opens e v) := by
  induction opens, e, v using conversion_induction generalizing top with
  | primitive opens p v =>
    rw [convert, inPlace]
    exact convertPrimitive_refines p top v
  | array opens item v ih =>
    -- a list and a tuple convert alike
    have hitems : ∀ items, Value.sizeItems items < v.size →
        Refines (Value.sent top) (Value.nested top) (Value.list <$> convertItems types item 0 items)
          (Value.list <$> inPlaceItems types item 0 items) := by
      intro items hsize
      refine refines_map Value.list (Value.sent_list top) (Value.nested_list top)
        (convertItems_refines (fun w hw => ih w ?_ types.size item false) 0)
      exact Nat.lt_trans (Value.size_lt_of_mem_items hw) hsize
    rw [convert.eq_def, inPlace.eq_def]
    cases v with
    | list items => exact hitems items (by rw [Value.size]; omega)
    | tuple items => exact hitems items (by rw [Value.size]; omega)
    | _ => exact refines_throw _
  | union opens options v ih =>
    rw [convert, inPlace]
    exact convertFirst_refines _ options fun e he => ih e he top
  | ref opens name v smaller fewer =>
    cases htype : types.find? name with
    | none =>
      rw [convert_unknown htype, inPlace_unknown htype]
      exact refines_throw _
    | some type =>
      cases ha : type.isAbstract with
      | true =>
        cases opens with
        | zero =>
          rw [convert_endless htype ha, inPlace_endless htype ha]
          exact refines_throw _
        | succ opens =>
          -- below an abstract type nothing is the argument itself, but there only mappings arise
          have hfirst := convertFirst_refines (.ref name) (type.variants.map .ref)
            fun e _ => fewer opens (Nat.lt_succ_self opens) e false
          rw [convert_abstract htype ha, inPlace_abstract htype ha]
          refine hfirst.congr fun r hr => ?_
          rw [← inPlace_abstract htype ha] at hr
          obtain ⟨entries, rfl⟩ := exists_object_of_inPlace_ref hr
          exact ⟨fun _ => rfl, by rw [Value.nested_object, Value.nested_object]⟩
      | false =>
        rw [convert_concrete htype ha, inPlace_concrete htype ha]
        cases hentries : entriesFor name v with
        | error stop => exact refines_throw _
        | ok entries =>
          show Refines _ _ (match unknownKey? type.fields entries with | some k => _ | none => _)
            (match unknownKey? type.fields entries with | some k => _ | none => _)
          cases unknownKey? type.fields entries with
          | some k => exact refines_throw _
          | none =>
            -- below the entries nothing is the argument itself
            refine refines_map Value.object (Value.sent_object top) (Value.nested_object top)
              (convertFields_refines fun f _ w hw => smaller w ?_ types.size f.type false)
            exact Nat.lt_trans (size_lt_of_given? hw) (sizeEntries_lt_of_entriesFor hentries)

end BotApi.Request
