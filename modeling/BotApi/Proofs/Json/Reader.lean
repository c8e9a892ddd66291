import BotApi.Json.Reader
import BotApi.Proofs.Results
import BotApi.Proofs.Value.Payload
import Mathlib.Algebra.Group.Nat.Defs
import Mathlib.Data.List.TakeDrop
import Mathlib.Data.List.TakeWhile

/-!
# What is read from a text

A text that is read gives a value of what JSON has, in which each whole number is short enough to be written again.
Reading stops at what is no JSON, or at a whole number that is too long; then so many digits stand in the text in
a row.

## Main results

* `readValue_reads` — what the reader makes of any text, with any bound on its nesting.
* `read_cases` — a text has a value, is malformed, or has a run of digits that is too long.
-/

namespace BotApi

namespace Number

theorem natOfDigits_lt {digits : List Char} (h : ∀ c ∈ digits, Json.isDigit c = true) :
    natOfDigits digits < 10 ^ digits.length := by
  -- digits that are still to come add one place each
  have hfold : ∀ (digits : List Char) (n k : Nat), (∀ c ∈ digits, Json.isDigit c = true) → n < 10 ^ k →
      digits.foldl (fun n c => 10 * n + (c.toNat - '0'.toNat)) n < 10 ^ (k + digits.length) := by
    intro digits
    induction digits with
    | nil => exact fun n k _ hn => hn
    | cons c rest ih =>
      intro n k hdigits hn
      obtain ⟨hc, hrest⟩ := List.forall_mem_cons.1 hdigits
      have hnine : c.toNat - '0'.toNat ≤ 9 := by
        simp only [Json.isDigit, Bool.and_eq_true, decide_eq_true_eq] at hc
        have hle : c.toNat ≤ '9'.toNat := hc.2
        have h0 : '0'.toNat = 48 := rfl
        have h9 : '9'.toNat = 57 := rfl
        omega
      have hstep : 10 * n + (c.toNat - '0'.toNat) < 10 ^ (k + 1) := by
        rw [Nat.pow_succ]
        omega
      have hfinal := ih _ (k + 1) hrest hstep
      rw [List.foldl_cons, List.length_cons, Nat.add_comm rest.length 1, ← Nat.add_assoc]
      exact hfinal
  have hall := hfold digits 0 0 h (by simp)
  rwa [Nat.zero_add] at hall

end Number

namespace Json

/-- Whether a value is one that JSON has, as far as the values in it are, and short if it is a whole number. -/
def isJson : Value → Bool
  | .null | .bool _ | .float _ | .text _ | .list _ => true
  | .int n => n.natAbs < Nat.pow 10 Number.maxDigits
  | .object entries => entries.all fun e => e.1.isText
  | _ => false

/-- Whether so many digits stand in a text in a row, and are too many for a whole number. -/
def HasLongRun (n : Nat) (cs : List Char) : Prop :=
  Number.maxDigits < n ∧ ∃ digits, digits.length = n ∧ (∀ c ∈ digits, isDigit c = true) ∧ digits <:+: cs

/-- Whether reading comes to something good and leaves an end of the text, or else stops for a reason: what there is
is malformed, or a run of digits is too long. -/
def Reads {α : Type} (good : α → Prop) (cs : List Char) : Except Fault (α × List Char) → Prop
  | .ok (a, rest) => good a ∧ rest <:+ cs
  | .error (.malformed _ _) => True
  | .error (.tooManyDigits n) => HasLongRun n cs

namespace Reads

variable {α β : Type} {good : α → Prop} {better : β → Prop} {cs cs' : List Char}
  {x : Except Fault (α × List Char)}

theorem of_suffix (h : Reads good cs x) (hs : cs <:+ cs') : Reads good cs' x := by
  rcases x with (⟨problem, ahead⟩ | n) | ⟨a, rest⟩
  · trivial
  · obtain ⟨hlong, digits, hlength, hdigits, hinfix⟩ := h
    exact ⟨hlong, digits, hlength, hdigits, hinfix.trans hs.isInfix⟩
  · exact ⟨h.1, h.2.trans hs⟩

theorem bind {f : α × List Char → Except Fault (β × List Char)} (h : Reads good cs x)
    (hf : ∀ a rest, good a → rest <:+ cs → Reads better cs (f (a, rest))) : Reads better cs (x >>= f) := by
  rcases x with (⟨problem, ahead⟩ | n) | ⟨a, rest⟩
  · trivial
  · exact h
  · exact hf a rest h.1 h.2

end Reads

theorem skip_suffix (cs : List Char) : skip cs <:+ cs := List.dropWhile_suffix _

/-! ## Texts -/

theorem lowSurrogate_ne (cs : List Char) (n : Nat) : lowSurrogate cs ≠ .error (.tooManyDigits n) := by
  unfold lowSurrogate
  split
  · split <;> simp
  · simp

theorem unicodeEscape_ne (ahead : Nat) (cs : List Char) (n : Nat) :
    unicodeEscape ahead cs ≠ .error (.tooManyDigits n) := by
  unfold unicodeEscape
  split
  · split
    · simp
    · split
      · intro h
        rcases bind_eq_error_iff.1 h with h | ⟨low, -, h⟩
        · exact lowSurrogate_ne _ n h
        · split at h <;> cases h
      · simp
  · simp

theorem readEscape_ne (start : Nat) (cs : List Char) (n : Nat) :
    readEscape start cs ≠ .error (.tooManyDigits n) := by
  unfold readEscape
  split
  · simp
  · intro h
    -- of all the escapes only one by number goes on reading
    simp only [ite_eq_iff, reduceCtorEq, Except.error.injEq, and_false, false_or, or_false] at h
    obtain ⟨-, -, -, -, -, -, -, h⟩ := h
    exact unicodeEscape_ne _ _ n (map_eq_error_iff.1 h)

theorem readText_reads (start used : Nat) (cs : List Char) : Reads (fun _ => True) cs (readText start used cs) := by
  induction cs generalizing used with
  | nil => trivial
  | cons c rest ih =>
    have hrest : ∀ used, Reads (fun _ => True) (c :: rest) (readText start used rest) := fun used =>
      (ih used).of_suffix (List.suffix_cons c rest)
    cases used with
    | succ used => exact hrest used
    | zero =>
      rw [readText]
      split
      · exact ⟨trivial, List.suffix_cons c rest⟩
      · split
        · -- an escape is malformed or used up, and no number is read
          cases hescape : readEscape start rest with
          | error fault =>
            cases fault with
            | malformed problem ahead => trivial
            | tooManyDigits n => exact absurd hescape (readEscape_ne start rest n)
          | ok escape => exact (hrest escape.2).bind fun text tail _ hs => ⟨trivial, hs⟩
        · split
          · trivial
          · exact (hrest 0).bind fun text tail _ hs => ⟨trivial, hs⟩

/-! ## Numbers and words -/

theorem readWhole_append (cs : List Char) : (readWhole cs).1 ++ (readWhole cs).2 = cs := by
  unfold readWhole
  split
  · rfl
  · rw [List.span_eq_takeWhile_dropWhile]
    exact List.takeWhile_append_dropWhile

theorem isDigit_of_mem_readWhole {cs : List Char} : ∀ c ∈ (readWhole cs).1, isDigit c = true := by
  unfold readWhole
  split
  · intro c hc
    rw [List.mem_singleton.1 hc]
    rfl
  · rw [List.span_eq_takeWhile_dropWhile]
    exact fun c hc => List.mem_takeWhile_imp hc

/-- What follows a fraction, or the text itself if there is none. -/
theorem readFraction_suffix (cs : List Char) : ((readFraction cs).getD ([], cs)).2 <:+ cs := by
  unfold readFraction
  split
  · split
    · next d rest _ =>
      rw [List.span_eq_takeWhile_dropWhile]
      exact (List.dropWhile_suffix _).trans (List.suffix_cons '.' (d :: rest))
    · exact List.suffix_rfl
  · exact List.suffix_rfl

/-- What follows an exponent, or the text itself if there is none. -/
theorem readExponent_suffix (cs : List Char) : ((readExponent cs).getD (0, cs)).2 <:+ cs := by
  unfold readExponent
  split
  · exact List.suffix_rfl
  · next e rest =>
    split
    · -- the digits come after a sign, if there is one
      split
      next negative body hsign =>
        have hbody : body <:+ rest := by
          split at hsign <;> cases hsign
          · exact List.suffix_cons _ _
          · exact List.suffix_cons _ _
          · exact List.suffix_rfl
        rw [List.span_eq_takeWhile_dropWhile]
        dsimp only
        split
        · exact List.suffix_rfl
        · exact (List.dropWhile_suffix _).trans (hbody.trans (List.suffix_cons e rest))
    · exact List.suffix_rfl

/-- A whole number of not too many digits is one of JSON, with a sign or without. -/
theorem isJson_of_digits {whole : List Char} (hdigits : ∀ c ∈ whole, isDigit c = true)
    (hshort : ¬ Number.maxDigits < whole.length) (negative : Bool) :
    (Value.int (if negative then -Number.natOfDigits whole else Number.natOfDigits whole)).throughout isJson =
      true := by
  have hlt : Number.natOfDigits whole < 10 ^ Number.maxDigits :=
    Nat.lt_of_lt_of_le (Number.natOfDigits_lt hdigits) (Nat.pow_le_pow_right (by omega) (by omega))
  have habs : (if negative = true then -(Number.natOfDigits whole : Int)
      else (Number.natOfDigits whole : Int)).natAbs = Number.natOfDigits whole := by
    split <;> simp
  rw [Value.throughout.eq_def, Bool.and_true, isJson, decide_eq_true_eq, habs]
  exact hlt

/-- A whole number that was read is short, and one that is not read has too many digits. -/
theorem readNumber_reads (cs : List Char) : Reads (fun v => v.throughout isJson = true) cs (readNumber cs) := by
  unfold readNumber
  split
  next negative body hsign =>
    have hbody : body <:+ cs := by
      split at hsign <;> cases hsign
      · exact List.suffix_cons _ _
      · exact List.suffix_rfl
    have happend := readWhole_append body
    have hdigits : ∀ c ∈ (readWhole body).1, isDigit c = true := isDigit_of_mem_readWhole
    split
    next whole rest hwhole =>
      rw [hwhole] at happend hdigits
      have hrest : rest <:+ cs := by
        refine List.IsSuffix.trans ?_ hbody
        rw [← happend]
        exact List.suffix_append whole rest
      have hfraction := readFraction_suffix rest
      have hexponent := readExponent_suffix ((readFraction rest).getD ([], rest)).2
      split
      · trivial
      · dsimp only at hfraction hexponent ⊢
        generalize (readFraction rest).getD ([], rest) = fraction at hfraction hexponent ⊢
        obtain ⟨places, afterFraction⟩ := fraction
        dsimp only at hfraction hexponent ⊢
        generalize (readExponent afterFraction).getD (0, afterFraction) = exponent at hexponent ⊢
        obtain ⟨power, afterExponent⟩ := exponent
        have hend : afterExponent <:+ cs := (hexponent.trans hfraction).trans hrest
        dsimp only
        split
        · exact ⟨rfl, hend⟩
        · split
          · next hlong =>
            -- the digits stand at the start of the text, after the sign
            refine ⟨hlong, whole, rfl, hdigits, List.IsInfix.trans ?_ hbody.isInfix⟩
            rw [← happend]
            exact (List.prefix_append whole rest).isInfix
          · next hshort => exact ⟨isJson_of_digits hdigits hshort negative, hend⟩

theorem readWord_reads {cs : List Char} {result : Value × List Char} (h : readWord cs = some result) :
    result.1.throughout isJson = true ∧ result.2 <:+ cs := by
  unfold readWord at h
  obtain ⟨⟨word, v⟩, hm, hword⟩ := List.exists_of_findSome?_eq_some h
  simp only at hword
  split at hword
  · cases hword
    refine ⟨?_, List.drop_suffix _ _⟩
    have hall : ∀ e ∈ words, e.2.throughout isJson = true := by decide +kernel
    exact hall _ hm
  · cases hword

/-! ## Values -/

mutual

/-- A value that was read is one of JSON, and reading stops for no other number than one that is too long. -/
theorem readValue_reads : ∀ (fuel : Nat) (cs : List Char),
    Reads (fun v => v.throughout isJson = true) cs (readValue fuel cs)
  | 0, cs => by
    rw [readValue]
    trivial
  | fuel + 1, cs => by
    rw [readValue.eq_def]
    dsimp only
    split
    · next rest =>
      exact ((readText_reads _ 0 rest).of_suffix (List.suffix_cons '"' rest)).bind fun text tail _ hs => ⟨rfl, hs⟩
    · next rest =>
      have hrest := (skip_suffix rest).trans (List.suffix_cons '[' rest)
      split
      · next tail htail => exact ⟨rfl, (List.suffix_cons _ tail).trans (htail ▸ hrest)⟩
      · next body _ =>
        refine ((readItems_reads fuel _).of_suffix hrest).bind fun items tail hitems hs => ⟨?_, hs⟩
        exact Value.throughout_list_iff.2 ⟨rfl, hitems⟩
    · next rest =>
      have hrest := (skip_suffix rest).trans (List.suffix_cons '\x7b' rest)
      split
      · next tail htail => exact ⟨rfl, (List.suffix_cons _ tail).trans (htail ▸ hrest)⟩
      · next body _ =>
        refine ((readMembers_reads fuel _).of_suffix hrest).bind fun members tail hmembers hs => ⟨?_, hs⟩
        -- what was merged is among the members
        refine Value.throughout_object_iff.2 ⟨List.all_eq_true.2 fun e he => ?_, fun k v hm => ?_⟩
        · exact (hmembers e (Entries.mem_of_mem_merge he)).1
        · exact (hmembers (k, v) (Entries.mem_of_mem_merge hm)).2
    · split
      · next result hresult => exact readWord_reads hresult
      · exact readNumber_reads cs

theorem readItems_reads : ∀ (fuel : Nat) (cs : List Char),
    Reads (fun items => ∀ v ∈ items, v.throughout isJson = true) cs (readItems fuel cs)
  | 0, cs => by
    rw [readItems]
    trivial
  | fuel + 1, cs => by
    rw [readItems]
    refine (readValue_reads fuel cs).bind fun v rest hv hrest => ?_
    have hskip := (skip_suffix rest).trans hrest
    dsimp only
    split
    · next tail htail =>
      exact ⟨List.forall_mem_singleton.2 hv, (List.suffix_cons _ tail).trans (htail ▸ hskip)⟩
    · next more hmore =>
      have hmore : skip more <:+ cs := (skip_suffix more).trans ((List.suffix_cons _ more).trans (hmore ▸ hskip))
      refine ((readItems_reads fuel _).of_suffix hmore).bind fun items tail hitems hs => ⟨?_, hs⟩
      exact List.forall_mem_cons.2 ⟨hv, hitems⟩
    · trivial

theorem readMembers_reads : ∀ (fuel : Nat) (cs : List Char),
    Reads (fun members => ∀ e ∈ members, e.1.isText = true ∧ e.2.throughout isJson = true) cs
      (readMembers fuel cs)
  | 0, cs => by
    rw [readMembers]
    trivial
  | fuel + 1, cs => by
    rw [readMembers.eq_def]
    dsimp only
    split
    · next rest =>
      refine ((readText_reads _ 0 rest).of_suffix (List.suffix_cons '"' rest)).bind fun name afterName _ hname => ?_
      have hcolon := (skip_suffix afterName).trans hname
      dsimp only
      split
      · next more hmore =>
        have hmore : skip more <:+ '"' :: rest :=
          (skip_suffix more).trans ((List.suffix_cons _ more).trans (hmore ▸ hcolon))
        refine ((readValue_reads fuel _).of_suffix hmore).bind fun v afterValue hv hvalue => ?_
        have hnext := (skip_suffix afterValue).trans hvalue
        dsimp only
        split
        · next tail htail =>
          exact ⟨List.forall_mem_singleton.2 ⟨rfl, hv⟩, (List.suffix_cons _ tail).trans (htail ▸ hnext)⟩
        · next following hfollowing =>
          have hfollowing : skip following <:+ '"' :: rest :=
            (skip_suffix following).trans ((List.suffix_cons _ following).trans (hfollowing ▸ hnext))
          refine ((readMembers_reads fuel _).of_suffix hfollowing).bind fun members tail hmembers hs => ⟨?_, hs⟩
          exact List.forall_mem_cons.2 ⟨⟨rfl, hv⟩, hmembers⟩
        · trivial
      · trivial
    · trivial

end

/-- A text has a value, or it is malformed, or there are too many digits in a row in it. -/
theorem read_cases (text : List Char) :
    (∃ v, read text = .ok v ∧ v.throughout isJson = true) ∨
      (∃ problem position, read text = .error (.malformed problem position)) ∨
        ∃ n, read text = .error (.tooManyDigits n) ∧ HasLongRun n text := by
  unfold read readAll
  split
  · exact .inr (.inl ⟨_, _, rfl⟩)
  · have hreads := (readValue_reads (2 * (skip text).length + 2) (skip text)).of_suffix (skip_suffix text)
    dsimp only
    cases hvalue : readValue (2 * (skip text).length + 2) (skip text) with
    | error fault =>
      rw [hvalue] at hreads
      cases fault with
      | malformed problem ahead => exact .inr (.inl ⟨_, _, rfl⟩)
      | tooManyDigits n => exact .inr (.inr ⟨n, rfl, hreads⟩)
    | ok result =>
      obtain ⟨v, rest⟩ := result
      rw [hvalue] at hreads
      -- nothing but white space may follow the value
      simp only [bind, Except.bind]
      cases hskip : skip rest with
      | nil => exact .inl ⟨v, rfl, hreads.1⟩
      | cons c more => exact .inr (.inl ⟨_, _, rfl⟩)

end Json

end BotApi
