import BotApi.Proofs.Response.Envelopes
import BotApi.Proofs.Response.Fitting
import BotApi.Proofs.Response.Watched
import Mathlib

/-!
# What the log changes

A log that takes remarks has the keys put in order that a type leaves aside, and nothing else about decoding depends on
the log. Keys of a body that was read can always be put in order, as they are texts. Those of a mapping that was handed
over may have no order, and then decoding ends under such a log, and goes on under any other.

## Main results

* `log_changes_nothing` — responses and objects under any two thresholds.
* `log_breaks_decoding` — a response whose result can be decoded only if the log takes no remarks.
-/

namespace BotApi.Response

section

variable {types : Table TypeBinding} {p : Value}

/-- Whether one of two logs takes remarks, and the result under that log is that keys have no order. -/
def BreaksUnder {ε α : Type} (e : ε) (result : Threshold → Except ε α) (t t' : Threshold) : Prop :=
  ∃ s ∈ [t, t'], s.admits .debug = true ∧ result s = .error e

theorem decodeLogged_levels (types : Table TypeBinding) (t t' : Threshold) (root : String) (e : TypeExpr) (p : Value) :
    (decodeLogged t types root e p).result = (decodeLogged t' types root e p).result ∨
      LeavesUnordered types p ∧
        BreaksUnder (.fault .unorderedKeys) (fun t => (decodeLogged t types root e p).result) t t' := by
  rcases decodeLogged_cases_of_remarks t types root e p with h | ⟨hdebug, hkeys, hfault⟩
  · rcases decodeLogged_cases_of_remarks t' types root e p with h' | ⟨hdebug, hkeys, hfault⟩
    · exact .inl (h.trans h'.symm)
    · exact .inr ⟨hkeys, t', by simp, hdebug, hfault⟩
  · exact .inr ⟨hkeys, t, by simp, hdebug, hfault⟩

theorem decodeEnvelope_levels (types : Table TypeBinding) (t t' : Threshold) (method : MethodBinding)
    (envelope : Value) :
    (decodeEnvelope t types method envelope).result = (decodeEnvelope t' types method envelope).result ∨
      (∃ p, IsSuccess envelope p ∧ LeavesUnordered types p) ∧
        BreaksUnder (.fault .unorderedKeys) (fun t => (decodeEnvelope t types method envelope).result) t t' := by
  by_cases hsuccess : ∃ p, IsSuccess envelope p
  · obtain ⟨p, hp⟩ := hsuccess
    have hresult : ∀ t, (decodeEnvelope t types method envelope).result =
        ofDecoded method (decodeLogged t types "result" method.returns p).result := decodeEnvelope_of_isSuccess hp
    rcases decodeLogged_levels types t t' "result" method.returns p with h | ⟨hkeys, s, hs, hdebug, hfault⟩
    · exact .inl (by rw [hresult, hresult, h])
    · refine .inr ⟨⟨p, hp, hkeys⟩, s, hs, hdebug, ?_⟩
      exact (hresult s).trans (congrArg (ofDecoded method) hfault)
  · exact .inl (decodeEnvelope_of_not_isSuccess (fun p hp => hsuccess ⟨p, hp⟩) t t')

/-- A body has text keys only. -/
theorem not_leavesUnordered_of_isBody {raw envelope : Value} (hbody : isBody raw = true)
    (hload : load raw = .ok envelope) (hp : IsSuccess envelope p) : ¬ LeavesUnordered types p := by
  intro hkeys
  rcases load_cases hbody with ⟨v, -, hjson, hv⟩ | ⟨-, ⟨reason, hreason⟩ | ⟨text, n, -, -, hlong⟩⟩
  · rw [hload] at hv
    cases hv
    obtain ⟨entries, rfl, -, hresult⟩ := hp
    have htexts : p.throughout hasTextKeys = true :=
      Value.throughout_mono (fun _ h => hasTextKeys_of_isPlain (isPlain_of_isJson h))
        (Value.throughout_of_lookup hjson hresult)
    rw [hkeys.hasTextKeys] at htexts
    cases htexts
  · rw [hload] at hreason
    cases hreason
  · rw [hload] at hlong
    cases hlong

end

/-- Under any two thresholds a response comes to the same, and so does an object without an envelope. The exception is
one that was handed over as a mapping and has keys, left aside by a type, without an order: if the log takes remarks,
decoding may end there. It never does for a body. -/
theorem log_changes_nothing (types : Table TypeBinding) (t t' : Threshold) :
    (∀ method raw,
        (read t types method raw).result = (read t' types method raw).result ∨
          (isBody raw = false ∧ ∃ envelope p, load raw = .ok envelope ∧ IsSuccess envelope p ∧
            LeavesUnordered types p) ∧
          BreaksUnder (.fault .unorderedKeys) (fun t => (read t types method raw).result) t t') ∧
      ∀ name p,
        (readObject t types name p).result = (readObject t' types name p).result ∨
          LeavesUnordered types p ∧
            BreaksUnder (.fault .unorderedKeys) (fun t => (readObject t types name p).result) t t' := by
  constructor
  · intro method raw
    cases hload : load raw with
    | error e =>
      -- nothing was decoded yet
      refine .inl ?_
      rw [read, read, hload]
      cases e <;> rfl
    | ok envelope =>
      have hread : ∀ t, (read t types method raw).result = (decodeEnvelope t types method envelope).result := by
        intro t
        rw [read, hload]
      simp only [hread]
      refine (decodeEnvelope_levels types t t' method envelope).imp_right ?_
      rintro ⟨⟨p, hp, hkeys⟩, hbreaks⟩
      refine ⟨⟨?_, envelope, p, rfl, hp, hkeys⟩, hbreaks⟩
      rw [← Bool.not_eq_true]
      exact fun hbody => not_leavesUnordered_of_isBody hbody hload hp hkeys
  · intro name p
    cases find : types.find? name with
    | none => exact .inl (by rw [readObject_of_unknown find, readObject_of_unknown find])
    | some type =>
      have hobject := fun t => readObject_of_find? find t p
      rcases decodeLogged_levels types t t' name (.ref name) p with h | ⟨hkeys, s, hs, hdebug, hfault⟩
      · exact .inl (by rw [hobject, hobject, h])
      · exact .inr ⟨hkeys, s, hs, hdebug, (hobject s).trans (congrArg (objectOfDecoded name) hfault)⟩

/-! ### A point with mixed keys -/

/-- A point with two further keys, a number and a text. -/
def mixedPoint : Value := .object [(.text "x", .int 1), (.int 5, .null), (.text "colour", .null)]

theorem find?_point : pointTypes.find? "Point" = some (pointType "Point" "y") := rfl

/-- Neither key is a key of points, and there is no order between them. -/
theorem decodeLogged_mixedPoint (root : String) :
    (decodeLogged .all pointTypes root (.ref "Point") mixedPoint).result = .error (.fault .unorderedKeys) := by
  have hfields : watchedFields true pointTypes (pointType "Point" "y").fields
      [(.text "x", .int 1), (.int 5, .null), (.text "colour", .null)] =
        .ok [(⟨"x", "x", true⟩, .int 1), (⟨"y", "y", false⟩, .absent)] := by
    cbv
  have hkeys : undeclared (pointType "Point" "y").fields
      [(.text "x", .int 1), (.int 5, .null), (.text "colour", .null)] = [.int 5, .text "colour"] := by
    decide
  have hunordered : sortedKeys [.int 5, .text "colour"] = none := by
    rw [← Option.not_isSome_iff_eq_none, isSome_sortedKeys_iff]
    simp [Key.isText, position?, keyOctets?]
  rw [result_of_decodeLogged_eq, mixedPoint, watched_object find?_point rfl]
  -- the fields are decoded first, and the remark comes after them
  refine bind_eq_error_iff.2 (.inr ⟨_, hfields, ?_⟩)
  rw [hkeys, heeding, canMake]
  simp [hunordered, Threshold.admits]

/-- A method that returns a point. -/
def pointMethod : MethodBinding := getMethod "getPoint" "get_point" (.ref "Point")

/-- The point is decoded, unless the log takes remarks. -/
theorem log_breaks_decoding :
    ∃ b, (Bindings.build pointSchema).result = .ok b ∧
      (read (.from .info) b.types pointMethod (successEnvelope mixedPoint)).result = .ok (.ok (point "Point" "y")) ∧
      (read .all b.types pointMethod (successEnvelope mixedPoint)).result = .error (.fault .unorderedKeys) ∧
      (readObject (.from .info) b.types "Point" mixedPoint).result = .ok (point "Point" "y") ∧
      (readObject .all b.types "Point" mixedPoint).result = .error (.fault .unorderedKeys) := by
  obtain ⟨b, hb, htypes, -⟩ := build_pointSchema
  refine ⟨b, hb, ?_⟩
  rw [htypes]
  refine ⟨by cbv, ?_, by cbv, ?_⟩
  · refine (decodeEnvelope_of_isSuccess (isSuccess_successEnvelope mixedPoint) .all).trans ?_
    exact congrArg (ofDecoded pointMethod) (decodeLogged_mixedPoint "result")
  · rw [readObject_of_find? find?_point, decodeLogged_mixedPoint]
    rfl

end BotApi.Response
