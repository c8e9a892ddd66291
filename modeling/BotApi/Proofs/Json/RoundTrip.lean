import BotApi.Json.Reader
import BotApi.Json.Writer
import BotApi.Proofs.Results
import BotApi.Proofs.Value.Payload
import Mathlib.Data.List.TakeDrop
import Mathlib.Data.List.TakeWhile
import Mathlib.Tactic.IntervalCases

/-!
# Reading what was written

A text that was written is read as the value that it was written for, as long as no decimal number is in it, which the
reader may round, and no mapping that has one key twice or keys that are no texts. The reader goes on from the end of
each value. It can tell where a whole number ends by what follows, and gets along with a bound on its nesting that is
no more than the length of the text.

## Main results

* `readText_writeText`, `readNumber_writeInt` — texts and whole numbers are read back.
* `readValue_write` — so are all values, whatever follows them.
* `read_write` — a whole text is read as the value that it was written for.
-/

namespace BotApi.Json

/-! ## Texts -/

theorem hex_four (n : Nat) :
    Text.hex 4 n =
      [Text.hexDigit (n / 16 / 16 / 16 % 16), Text.hexDigit (n / 16 / 16 % 16), Text.hexDigit (n / 16 % 16),
        Text.hexDigit (n % 16)] := rfl

/-- The digits of a control character give its number. -/
theorem hex4_control : ∀ n < 0x20,
    hex4 (Text.hexDigit (n / 16 / 16 / 16 % 16)) (Text.hexDigit (n / 16 / 16 % 16)) (Text.hexDigit (n / 16 % 16))
      (Text.hexDigit (n % 16)) = some n := by
  decide

/-- An escape by number is read if anything follows it. -/
theorem unicodeEscape_control {c : Char} (hc : c.toNat < 0x20) (ahead : Nat) {cs : List Char} (hcs : cs ≠ []) :
    unicodeEscape ahead (Text.hex 4 c.toNat ++ cs) = .ok (c, 4) := by
  obtain ⟨d, rest, rfl⟩ := List.exists_cons_of_ne_nil hcs
  have hunit : unitChar c.toNat = c := by
    rw [unitChar, if_neg (by simp; omega), Char.ofNat_toNat]
  rw [hex_four]
  -- a control character is no half of a pair, so what follows is not looked at
  simp only [List.cons_append, List.nil_append, unicodeEscape, hex4_control _ hc, hunit]
  rw [if_neg (by simp; omega)]

/-- Characters that an escape has used up are passed over. -/
theorem readText_used (start : Nat) (escape cs : List Char) :
    readText start escape.length (escape ++ cs) = readText start 0 cs := by
  induction escape with
  | nil => rfl
  | cons c rest ih => rw [List.length_cons, List.cons_append, readText, ih]

theorem readText_escape {start : Nat} (escape : List Char) {cs : List Char} {c : Char}
    (h : readEscape start (escape ++ cs) = .ok (c, escape.length)) :
    readText start 0 ('\\' :: escape ++ cs) = (fun r => (c :: r.1, r.2)) <$> readText start 0 cs := by
  rw [List.cons_append, readText, if_neg (by decide), if_pos rfl, h]
  show (readText start escape.length (escape ++ cs) >>= _) = _
  rw [readText_used]
  cases readText start 0 cs <;> rfl

/-- A character is read from its escape. -/
theorem readText_escapeChar (start : Nat) (c : Char) {cs : List Char} (hcs : cs ≠ []) :
    readText start 0 (escapeChar c ++ cs) = (fun r => (c :: r.1, r.2)) <$> readText start 0 cs := by
  -- one case for each form in which a character is written
  unfold escapeChar
  split
  · next hc =>
    refine readText_escape [c] ?_
    rw [List.singleton_append, readEscape, if_pos (by simp_all)]
    rfl
  next hquote =>
  split
  · next hc =>
    subst hc
    exact readText_escape ['n'] rfl
  split
  · next hc =>
    subst hc
    exact readText_escape ['r'] rfl
  split
  · next hc =>
    subst hc
    exact readText_escape ['t'] rfl
  split
  · next hc =>
    rw [show c = Char.ofNat 0x08 by rw [← hc, Char.ofNat_toNat]]
    exact readText_escape ['b'] rfl
  split
  · next hc =>
    rw [show c = Char.ofNat 0x0C by rw [← hc, Char.ofNat_toNat]]
    exact readText_escape ['f'] rfl
  split
  · next hc =>
    refine readText_escape ('u' :: Text.hex 4 c.toNat) ?_
    have hescape : ∀ ahead, unicodeEscape ahead (Text.hex 4 c.toNat ++ cs) = .ok (c, 4) := fun ahead =>
      unicodeEscape_control hc ahead hcs
    show (fun e => (e.1, e.2 + 1)) <$> unicodeEscape _ (Text.hex 4 c.toNat ++ cs) = _
    rw [hescape]
    rfl
  · next hc =>
    -- any other character stands for itself
    simp only [Bool.or_eq_true, decide_eq_true_eq, not_or] at hquote
    rw [List.singleton_append, readText, if_neg hquote.1, if_neg hquote.2, if_neg hc]
    cases readText start 0 cs <;> rfl

/-- A text is read up to its closing quote. -/
theorem readText_writeText (start : Nat) (cs rest : List Char) :
    readText start 0 (cs.flatMap escapeChar ++ '"' :: rest) = .ok (cs, rest) := by
  induction cs with
  | nil => rw [List.flatMap_nil, List.nil_append, readText, if_pos rfl]
  | cons c cs ih =>
    rw [List.flatMap_cons, List.append_assoc, readText_escapeChar start c (by simp), ih]
    rfl

/-! ## Numbers -/

theorem isDigit_of_mem_toDigits {n : Nat} {c : Char} (h : c ∈ Nat.toDigits 10 n) : isDigit c = true := by
  have hdigit := Nat.isDigit_of_mem_toDigits (by omega) (by omega) h
  simpa [isDigit, Char.isDigit, Char.le_def] using hdigit

/-- The digits of a number start with a digit. -/
theorem exists_head_toDigits (n : Nat) : ∃ c cs, Nat.toDigits 10 n = c :: cs ∧ isDigit c = true := by
  obtain ⟨c, cs, hdigits⟩ := List.exists_cons_of_ne_nil (Nat.toDigits_ne_nil (n := n) (b := 10))
  refine ⟨c, cs, hdigits, isDigit_of_mem_toDigits (n := n) ?_⟩
  rw [hdigits]
  exact List.mem_cons_self ..

theorem ne_of_isDigit {c d : Char} (hc : isDigit c = true) (hd : isDigit d = false) : c ≠ d := by
  rintro rfl
  rw [hd] at hc
  cases hc

/-- The digits of a number that is not zero do not start with a zero. -/
theorem head_toDigits {n : Nat} (hn : 0 < n) : ∃ c cs, Nat.toDigits 10 n = c :: cs ∧ c ≠ '0' := by
  induction n using Nat.strongRecOn with
  | _ n ih =>
    by_cases hlt : n < 10
    · rw [Nat.toDigits_of_lt_base hlt]
      refine ⟨_, _, rfl, ?_⟩
      interval_cases n <;> decide
    · -- the first digit is that of the number without its last one
      obtain ⟨c, cs, hdigits, hc⟩ := ih (n / 10) (by omega) (by omega)
      rw [Nat.toDigits_of_base_le (by omega) (by omega), hdigits]
      exact ⟨c, _, rfl, hc⟩

/-- Whether a text does not go on with a number that ends before it. -/
def EndsNumber (rest : List Char) : Prop :=
  ∀ c ∈ rest.head?, isDigit c = false ∧ c ≠ '.' ∧ c ≠ 'e' ∧ c ≠ 'E'

section

variable {rest : List Char}

theorem readWhole_toDigits (n : Nat) (hrest : EndsNumber rest) :
    readWhole (Nat.toDigits 10 n ++ rest) = (Nat.toDigits 10 n, rest) := by
  -- a zero is read on its own, and any other number goes on as long as there are digits
  rcases Nat.eq_zero_or_pos n with rfl | hn
  · rfl
  · obtain ⟨c, cs, hdigits, hc⟩ := head_toDigits hn
    have hall : ∀ d ∈ Nat.toDigits 10 n, isDigit d = true := fun d => isDigit_of_mem_toDigits
    have hend : rest.takeWhile isDigit = [] ∧ rest.dropWhile isDigit = rest := by
      cases rest with
      | nil => exact ⟨rfl, rfl⟩
      | cons d rest => simp [(hrest d rfl).1]
    have hspan : (Nat.toDigits 10 n ++ rest).span isDigit = (Nat.toDigits 10 n, rest) := by
      rw [List.span_eq_takeWhile_dropWhile, List.takeWhile_append_of_pos hall, List.dropWhile_append_of_pos hall,
        hend.1, hend.2, List.append_nil]
    rw [readWhole.eq_def]
    split
    · next heq =>
      rw [hdigits] at heq
      cases heq
      exact (hc rfl).elim
    · exact hspan

theorem readFraction_of_endsNumber (hrest : EndsNumber rest) : readFraction rest = none := by
  unfold readFraction
  split
  · exact absurd rfl (hrest '.' rfl).2.1
  · rfl

theorem readExponent_of_endsNumber (hrest : EndsNumber rest) : readExponent rest = none := by
  cases rest with
  | nil => rfl
  | cons c rest =>
    obtain ⟨-, -, he, hE⟩ := hrest c rfl
    simp [readExponent, he, hE]

theorem writeInt_eq_ok_iff {n : Int} {text : List Char} :
    writeInt n = .ok text ↔
      n.natAbs < Nat.pow 10 Number.maxDigits ∧
        text = (if n < 0 then ['-'] else []) ++ Nat.toDigits 10 n.natAbs := by
  have htext : (toString n).toList = (if n < 0 then ['-'] else []) ++ Nat.toDigits 10 n.natAbs := by
    rw [Int.toString_eq_repr, Int.repr_eq_if]
    by_cases hn : n < 0
    · rw [if_neg (by omega), if_pos hn, show (-n).toNat = n.natAbs by omega, String.toList_append,
        Nat.repr_eq_ofList_toDigits, String.toList_ofList]
      simp
    · rw [if_pos (by omega), if_neg hn, show n.toNat = n.natAbs by omega, Nat.repr_eq_ofList_toDigits,
        String.toList_ofList]
      rfl
  rw [writeInt, Number.intText]
  by_cases hshort : n.natAbs < Nat.pow 10 Number.maxDigits
  · rw [if_pos hshort]
    simp only [hshort, Except.ok.injEq, true_and, htext, eq_comm]
  · rw [if_neg hshort]
    exact iff_of_false (by simp) fun h => hshort h.1

/-- The digits of a short number are read as that number, with a sign or without. -/
theorem readNumber_toDigits (negative : Bool) {n : Nat} (hshort : n < Nat.pow 10 Number.maxDigits)
    (hrest : EndsNumber rest) :
    readNumber ((if negative then ['-'] else []) ++ Nat.toDigits 10 n ++ rest) =
      .ok (.int (if negative then -n else n), rest) := by
  obtain ⟨c, cs, hdigits, hc⟩ := exists_head_toDigits n
  have hlength : ¬ Number.maxDigits < (Nat.toDigits 10 n).length := by
    have hpos : 0 < Number.maxDigits := by
      rw [Number.maxDigits]
      omega
    rw [Nat.not_lt]
    exact (Nat.length_toDigits_le_iff (by omega) hpos).2 hshort
  have hvalue : Number.natOfDigits (Nat.toDigits 10 n) = n := Nat.ofDigitChars_ten_toDigits
  unfold readNumber
  split
  next sign body hsign =>
    -- digits do not start with a sign, so the sign is the one that was written
    have hbody : (sign, body) = (negative, Nat.toDigits 10 n ++ rest) := by
      rw [← hsign]
      cases negative with
      | true => rfl
      | false =>
        rw [if_neg Bool.false_ne_true, List.nil_append, hdigits]
        split
        · next heq =>
          cases heq
          cases hc
        · rfl
    cases hbody
    rw [readWhole_toDigits n hrest]
    simp only [readFraction_of_endsNumber hrest, readExponent_of_endsNumber hrest, Option.getD_none,
      Option.isSome_none, Bool.or_false, Bool.false_eq_true, if_false, if_neg hlength, hvalue]
    rw [hdigits, List.isEmpty_cons, if_neg Bool.false_ne_true]

/-- A whole number is read as it was written. -/
theorem readNumber_writeInt {n : Int} {text : List Char} (h : writeInt n = .ok text) (hrest : EndsNumber rest) :
    readNumber (text ++ rest) = .ok (.int n, rest) := by
  obtain ⟨hshort, rfl⟩ := writeInt_eq_ok_iff.1 h
  have hread := readNumber_toDigits (decide (n < 0)) hshort hrest
  simp only [decide_eq_true_eq] at hread
  rw [hread]
  congr 3
  split <;> omega

/-- A whole number is none of the words that stand for values. -/
theorem readWord_toDigits (negative : Bool) (n : Nat) (rest : List Char) :
    readWord ((if negative then ['-'] else []) ++ Nat.toDigits 10 n ++ rest) = none := by
  obtain ⟨c, cs, hdigits, hc⟩ := exists_head_toDigits n
  -- no word has a digit at its start, nor after a sign
  have hne : ∀ d, isDigit d = false → (d == c) = false := fun d hd =>
    beq_eq_false_iff_ne.2 (ne_of_isDigit hc hd).symm
  have hnone : ∀ e ∈ words,
      e.1.isPrefixOf ((if negative then ['-'] else []) ++ Nat.toDigits 10 n ++ rest) = false := by
    rw [hdigits]
    cases negative with
    | true => simp [words, List.isPrefixOf, hne 'I' rfl]
    | false =>
      simp [words, List.isPrefixOf, hne 'n' rfl, hne 't' rfl, hne 'f' rfl, hne 'N' rfl, hne 'I' rfl, hne '-' rfl]
  rw [readWord, List.findSome?_eq_none_iff]
  intro e he
  simp only [hnone e he, Bool.false_eq_true, if_false]

end

/-! ## Values -/

/-- Whether a value is read as it was written, as far as the values in it are. -/
def isExact : Value → Bool
  | .null | .bool _ | .int _ | .text _ | .list _ => true
  | .object entries => entries.all (fun e => e.1.isText) && decide ((entries.map Prod.fst).Nodup)
  | _ => false

/-- Values that are read back do not start like white space, like the end of a list or like a mark of byte order. -/
theorem head_write {v : Value} {text : List Char} (hv : isExact v = true) (h : write v = .ok text) :
    ∃ c cs, text = c :: cs ∧ isBlank c = false ∧ c ≠ ']' ∧ c ≠ Char.ofNat 0xFEFF := by
  cases v with
  | null =>
    cases h
    exact ⟨'n', _, rfl, by decide⟩
  | bool b =>
    cases h
    cases b with
    | true => exact ⟨'t', _, rfl, by decide⟩
    | false => exact ⟨'f', _, rfl, by decide⟩
  | int n =>
    rw [write] at h
    obtain ⟨-, rfl⟩ := writeInt_eq_ok_iff.1 h
    split
    · exact ⟨'-', _, rfl, by decide⟩
    · obtain ⟨c, cs, hdigits, hc⟩ := exists_head_toDigits n.natAbs
      refine ⟨c, cs, hdigits, ?_, ne_of_isDigit hc rfl, ne_of_isDigit hc rfl⟩
      simp [isBlank, ne_of_isDigit hc (d := ' ') rfl, ne_of_isDigit hc (d := '\t') rfl,
        ne_of_isDigit hc (d := '\n') rfl, ne_of_isDigit hc (d := '\r') rfl]
  | text s =>
    cases h
    exact ⟨'"', _, rfl, by decide⟩
  | list items =>
    rw [write] at h
    obtain ⟨parts, -, h⟩ := bind_eq_ok_iff.1 h
    cases h
    exact ⟨'[', _, rfl, by decide⟩
  | object entries =>
    rw [write] at h
    obtain ⟨parts, -, h⟩ := bind_eq_ok_iff.1 h
    cases h
    exact ⟨'\x7b', _, rfl, by decide⟩
  | _ => cases hv

theorem skip_cons {c : Char} (h : isBlank c = false) (cs : List Char) : skip (c :: cs) = c :: cs := by
  rw [skip, List.dropWhile_cons_of_neg (by simp [h])]

section

variable {rest : List Char}

theorem endsNumber_nil : EndsNumber [] := by
  simp [EndsNumber]

theorem endsNumber_comma (rest : List Char) : EndsNumber (',' :: rest) := by
  simp [EndsNumber, isDigit]

theorem endsNumber_bracket (rest : List Char) : EndsNumber (']' :: rest) := by
  simp [EndsNumber, isDigit]

theorem endsNumber_brace (rest : List Char) : EndsNumber ('\x7d' :: rest) := by
  simp [EndsNumber, isDigit]

theorem readValue_of_writeInt {n : Int} {text : List Char} (h : writeInt n = .ok text) (hrest : EndsNumber rest)
    (fuel : Nat) : readValue (fuel + 1) (text ++ rest) = .ok (.int n, rest) := by
  have hread := readNumber_writeInt h hrest
  obtain ⟨-, rfl⟩ := writeInt_eq_ok_iff.1 h
  obtain ⟨c, cs, hdigits, hc⟩ := exists_head_toDigits n.natAbs
  have hword := readWord_toDigits (decide (n < 0)) n.natAbs rest
  simp only [decide_eq_true_eq] at hword
  -- the text starts with a sign or a digit
  rw [readValue.eq_def]
  dsimp only
  split
  · next heq =>
    rw [hdigits] at heq
    split at heq <;> cases heq
    cases hc
  · next heq =>
    rw [hdigits] at heq
    split at heq <;> cases heq
    cases hc
  · next heq =>
    rw [hdigits] at heq
    split at heq <;> cases heq
    cases hc
  · rw [hword]
    exact hread

end

/-! ## Lists and mappings -/

theorem intercalate_cons_cons (part next : List Char) (parts : List (List Char)) :
    [','].intercalate (part :: next :: parts) = part ++ ',' :: [','].intercalate (next :: parts) := by
  simp [List.intercalate]

theorem intercalate_singleton (part : List Char) : [','].intercalate [part] = part := by
  simp [List.intercalate]

/-- What is written of several parts starts as the first of them does. -/
theorem exists_intercalate_cons (c : Char) (cs : List Char) (parts : List (List Char)) :
    ∃ more, [','].intercalate ((c :: cs) :: parts) = c :: more := by
  cases parts with
  | nil => exact ⟨cs, intercalate_singleton _⟩
  | cons next parts => exact ⟨_, intercalate_cons_cons _ next parts⟩

theorem writeItems_cons_eq_ok_iff {v : Value} {more : List Value} {parts : List (List Char)} :
    writeItems (v :: more) = .ok parts ↔
      ∃ part others, write v = .ok part ∧ writeItems more = .ok others ∧ parts = part :: others := by
  rw [writeItems, bind_eq_ok_iff]
  constructor
  · rintro ⟨part, hpart, h⟩
    obtain ⟨others, hothers, h⟩ := bind_eq_ok_iff.1 h
    cases h
    exact ⟨part, others, hpart, hothers, rfl⟩
  · rintro ⟨part, others, hpart, hothers, rfl⟩
    exact ⟨part, hpart, bind_eq_ok_iff.2 ⟨others, hothers, rfl⟩⟩

theorem writeEntries_text_cons_eq_ok_iff {name : String} {v : Value} {more : List (Key × Value)}
    {parts : List (List Char)} :
    writeEntries ((.text name, v) :: more) = .ok parts ↔
      ∃ part others, write v = .ok part ∧ writeEntries more = .ok others ∧
        parts = ('"' :: (name.toList.flatMap escapeChar ++ '"' :: ':' :: part)) :: others := by
  have hkey : ∀ part, writeText name ++ ':' :: part =
      '"' :: (name.toList.flatMap escapeChar ++ '"' :: ':' :: part) := by
    intro part
    rw [writeText, List.cons_append, List.cons_append, List.append_assoc]
    rfl
  rw [writeEntries, writeKey, bind_eq_ok_iff]
  constructor
  · rintro ⟨key, hk, h⟩
    cases hk
    obtain ⟨part, hpart, h⟩ := bind_eq_ok_iff.1 h
    obtain ⟨others, hothers, h⟩ := bind_eq_ok_iff.1 h
    cases h
    exact ⟨part, others, hpart, hothers, by rw [hkey]⟩
  · rintro ⟨part, others, hpart, hothers, rfl⟩
    rw [← hkey]
    exact ⟨_, rfl, bind_eq_ok_iff.2 ⟨part, hpart, bind_eq_ok_iff.2 ⟨others, hothers, rfl⟩⟩⟩

/-- Items are written with nothing before the first of them that could be taken for something else. -/
theorem head_writeItems {v : Value} {more : List Value} {parts : List (List Char)} (hv : isExact v = true)
    (h : writeItems (v :: more) = .ok parts) :
    ∃ c cs, [','].intercalate parts = c :: cs ∧ isBlank c = false ∧ c ≠ ']' := by
  obtain ⟨part, others, hpart, -, rfl⟩ := writeItems_cons_eq_ok_iff.1 h
  obtain ⟨c, cs, rfl, hblank, hend, -⟩ := head_write hv hpart
  obtain ⟨rest, hrest⟩ := exists_intercalate_cons c cs others
  exact ⟨c, rest, hrest, hblank, hend⟩

/-- Entries are written with the quote of the first key before all else. -/
theorem head_writeEntries {e : Key × Value} {more : List (Key × Value)} {parts : List (List Char)}
    (hk : e.1.isText = true) (h : writeEntries (e :: more) = .ok parts) :
    ∃ cs, [','].intercalate parts = '"' :: cs := by
  obtain ⟨k, v⟩ := e
  cases k with
  | text name =>
    obtain ⟨part, others, -, -, rfl⟩ := writeEntries_text_cons_eq_ok_iff.1 h
    exact exists_intercalate_cons '"' _ others
  | _ => cases hk

section

variable {fuel : Nat} {c : Char} {cs tail : List Char} {v : Value} {name : String}

theorem readValue_list (hblank : isBlank c = false) (hend : c ≠ ']') :
    readValue (fuel + 1) ('[' :: c :: cs) = (fun r => (.list r.1, r.2)) <$> readItems fuel (c :: cs) := by
  rw [readValue, skip_cons hblank]
  split
  · next heq =>
    cases heq
    exact (hend rfl).elim
  · cases readItems fuel (c :: cs) <;> rfl

theorem readValue_object :
    readValue (fuel + 1) ('\x7b' :: '"' :: cs) =
      (fun r => (.object (Entries.merge r.1), r.2)) <$> readMembers fuel ('"' :: cs) := by
  rw [readValue, skip_cons rfl]
  show (readMembers fuel ('"' :: cs) >>= _) = _
  cases readMembers fuel ('"' :: cs) <;> rfl

/-- A list ends after its last item. -/
theorem readItems_last (h : readValue fuel cs = .ok (v, ']' :: tail)) :
    readItems (fuel + 1) cs = .ok ([v], tail) := by
  rw [readItems, h]
  rfl

/-- After a comma there is another item. -/
theorem readItems_next (hblank : isBlank c = false) (h : readValue fuel cs = .ok (v, ',' :: c :: tail)) :
    readItems (fuel + 1) cs = (fun r => (v :: r.1, r.2)) <$> readItems fuel (c :: tail) := by
  rw [readItems, h]
  show (readItems fuel (skip (c :: tail)) >>= _) = _
  rw [skip_cons hblank]
  cases readItems fuel (c :: tail) <;> rfl

/-- A mapping ends after its last entry. -/
theorem readMembers_last (hblank : isBlank c = false) (h : readValue fuel (c :: cs) = .ok (v, '\x7d' :: tail)) :
    readMembers (fuel + 1) ('"' :: (name.toList.flatMap escapeChar ++ '"' :: ':' :: c :: cs)) =
      .ok ([(.text name, v)], tail) := by
  rw [readMembers, readText_writeText]
  show (readValue fuel (skip (c :: cs)) >>= _) = _
  rw [skip_cons hblank, h]
  show Except.ok ([(Key.text (String.ofList name.toList), v)], tail) = _
  rw [String.ofList_toList]

/-- After a comma there is another entry. -/
theorem readMembers_next (hblank : isBlank c = false) (h : readValue fuel (c :: cs) = .ok (v, ',' :: '"' :: tail)) :
    readMembers (fuel + 1) ('"' :: (name.toList.flatMap escapeChar ++ '"' :: ':' :: c :: cs)) =
      (fun r => ((.text name, v) :: r.1, r.2)) <$> readMembers fuel ('"' :: tail) := by
  rw [readMembers, readText_writeText]
  show (readValue fuel (skip (c :: cs)) >>= _) = _
  rw [skip_cons hblank, h]
  show (readMembers fuel ('"' :: tail) >>= _) = _
  rw [String.ofList_toList]
  cases readMembers fuel ('"' :: tail) <;> rfl

end

mutual

/-- A value is read as it was written, whatever follows it. -/
theorem readValue_write : ∀ (v : Value) {text rest : List Char} {fuel : Nat}, v.throughout isExact = true →
    write v = .ok text → EndsNumber rest → text.length ≤ fuel → readValue fuel (text ++ rest) = .ok (v, rest)
  | .null, text, rest, fuel => by
    intro _ h _ hfuel
    cases h
    obtain ⟨fuel, rfl⟩ : ∃ n, fuel = n + 1 := ⟨fuel - 1, by simp at hfuel; omega⟩
    rfl
  | .bool b, text, rest, fuel => by
    intro _ h _ hfuel
    cases h
    cases b with
    | true =>
      obtain ⟨fuel, rfl⟩ : ∃ n, fuel = n + 1 := ⟨fuel - 1, by simp at hfuel; omega⟩
      rfl
    | false =>
      obtain ⟨fuel, rfl⟩ : ∃ n, fuel = n + 1 := ⟨fuel - 1, by simp at hfuel; omega⟩
      rfl
  | .int n, text, rest, fuel => by
    intro hv h hrest hfuel
    obtain ⟨c, cs, rfl, -⟩ := head_write (Value.holds_of_throughout hv) h
    rw [List.length_cons] at hfuel
    obtain ⟨fuel, rfl⟩ : ∃ n, fuel = n + 1 := ⟨fuel - 1, by omega⟩
    exact readValue_of_writeInt h hrest fuel
  | .text s, text, rest, fuel => by
    intro _ h _ hfuel
    cases h
    obtain ⟨fuel, rfl⟩ : ∃ n, fuel = n + 1 := ⟨fuel - 1, by simp [writeText] at hfuel; omega⟩
    rw [writeText]
    simp only [List.cons_append, List.append_assoc, List.nil_append]
    rw [readValue, readText_writeText]
    show Except.ok (Value.text (String.ofList s.toList), rest) = _
    rw [String.ofList_toList]
  | .list items, text, rest, fuel => by
    intro hv h hrest hfuel
    rw [write] at h
    obtain ⟨parts, hparts, h⟩ := bind_eq_ok_iff.1 h
    cases h
    simp only [List.length_append, List.length_cons, List.length_nil] at hfuel
    obtain ⟨fuel, rfl⟩ : ∃ n, fuel = n + 1 := ⟨fuel - 1, by omega⟩
    simp only [List.cons_append, List.append_assoc, List.nil_append]
    cases items with
    | nil =>
      cases hparts
      rfl
    | cons v more =>
      obtain ⟨-, heach⟩ := Value.throughout_list_iff.1 hv
      have hread : readItems fuel ([','].intercalate parts ++ ']' :: rest) = .ok (v :: more, rest) :=
        readItems_write (v :: more) (by simp) (Value.throughoutItems_iff.2 heach) hparts (by omega)
      obtain ⟨c, cs, hhead, hblank, hend⟩ :=
        head_writeItems (Value.holds_of_throughout (heach v (List.mem_cons_self ..))) hparts
      rw [hhead, List.cons_append] at hread ⊢
      rw [readValue_list hblank hend, hread]
      rfl
  | .object entries, text, rest, fuel => by
    intro hv h hrest hfuel
    rw [write] at h
    obtain ⟨parts, hparts, h⟩ := bind_eq_ok_iff.1 h
    cases h
    simp only [List.length_append, List.length_cons, List.length_nil] at hfuel
    obtain ⟨fuel, rfl⟩ : ∃ n, fuel = n + 1 := ⟨fuel - 1, by omega⟩
    simp only [List.cons_append, List.append_assoc, List.nil_append]
    obtain ⟨hroot, heach⟩ := Value.throughout_object_iff.1 hv
    simp only [isExact, Bool.and_eq_true, decide_eq_true_eq] at hroot
    cases entries with
    | nil =>
      cases hparts
      rfl
    | cons e more =>
      have hread : readMembers fuel ([','].intercalate parts ++ '\x7d' :: rest) = .ok (e :: more, rest) :=
        readMembers_write (e :: more) (by simp) hroot.1 (Value.throughoutEntries_iff.2 heach) hparts (by omega)
      obtain ⟨cs, hhead⟩ := head_writeEntries (List.all_eq_true.1 hroot.1 e (List.mem_cons_self ..)) hparts
      rw [hhead, List.cons_append] at hread ⊢
      rw [readValue_object, hread]
      -- no key stands twice, so nothing is merged
      show Except.ok (Value.object (Entries.merge (e :: more)), rest) = _
      rw [Entries.merge_of_nodup hroot.2]
  | .absent, _, _, _ | .float _, _, _, _ | .bytes _, _, _, _ | .bytearray _, _, _, _ | .file _, _, _, _
  | .stream _, _, _, _ | .tuple _, _, _, _ | .record _ _, _, _, _ | .foreign _ _, _, _, _ =>
    fun hv => absurd (Value.holds_of_throughout hv) Bool.false_ne_true

/-- Items are read as they were written, up to the end of their list. -/
theorem readItems_write : ∀ (items : List Value) {parts : List (List Char)} {rest : List Char} {fuel : Nat},
    items ≠ [] → Value.throughoutItems isExact items = true → writeItems items = .ok parts →
      ([','].intercalate parts).length < fuel →
        readItems fuel ([','].intercalate parts ++ ']' :: rest) = .ok (items, rest)
  | [], _, _, _ => fun h => absurd rfl h
  | v :: more, parts, rest, fuel => by
    intro _ hv h hfuel
    rw [Value.throughoutItems, Bool.and_eq_true] at hv
    obtain ⟨part, others, hpart, hothers, rfl⟩ := writeItems_cons_eq_ok_iff.1 h
    obtain ⟨fuel, rfl⟩ : ∃ n, fuel = n + 1 := ⟨fuel - 1, by omega⟩
    cases more with
    | nil =>
      cases hothers
      rw [intercalate_singleton] at hfuel ⊢
      exact readItems_last (readValue_write v hv.1 hpart (endsNumber_bracket rest) (by omega))
    | cons w more =>
      obtain ⟨next, others, hnext, hmore, rfl⟩ := writeItems_cons_eq_ok_iff.1 hothers
      rw [intercalate_cons_cons] at hfuel ⊢
      rw [List.length_append, List.length_cons] at hfuel
      have hread : readItems fuel ([','].intercalate (next :: others) ++ ']' :: rest) = .ok (w :: more, rest) :=
        readItems_write (w :: more) (by simp) hv.2 hothers (by omega)
      have hw := Value.throughoutItems_iff.1 hv.2 w (List.mem_cons_self ..)
      obtain ⟨c, cs, hhead, hblank, -⟩ := head_writeItems (Value.holds_of_throughout hw) hothers
      rw [hhead, List.cons_append] at hread
      rw [List.append_assoc, List.cons_append, hhead, List.cons_append]
      rw [readItems_next hblank (readValue_write v hv.1 hpart (endsNumber_comma _) (by omega)), hread]
      rfl

/-- Entries are read as they were written, up to the end of their mapping. -/
theorem readMembers_write : ∀ (entries : List (Key × Value)) {parts : List (List Char)} {rest : List Char}
    {fuel : Nat}, entries ≠ [] → (entries.all fun e => e.1.isText) = true →
      Value.throughoutEntries isExact entries = true → writeEntries entries = .ok parts →
        ([','].intercalate parts).length < fuel →
          readMembers fuel ([','].intercalate parts ++ '\x7d' :: rest) = .ok (entries, rest)
  | [], _, _, _ => fun h => absurd rfl h
  | (k, v) :: more, parts, rest, fuel => by
    intro _ hkeys hv h hfuel
    rw [List.all_cons, Bool.and_eq_true] at hkeys
    rw [Value.throughoutEntries, Bool.and_eq_true] at hv
    cases k with
    | text name =>
      obtain ⟨part, others, hpart, hothers, rfl⟩ := writeEntries_text_cons_eq_ok_iff.1 h
      obtain ⟨c, cs, rfl, hblank, -, -⟩ := head_write (Value.holds_of_throughout hv.1) hpart
      obtain ⟨fuel, rfl⟩ : ∃ n, fuel = n + 1 := ⟨fuel - 1, by omega⟩
      cases more with
      | nil =>
        cases hothers
        rw [intercalate_singleton] at hfuel ⊢
        simp only [List.length_cons, List.length_append] at hfuel
        have hread : readValue fuel (c :: cs ++ '\x7d' :: rest) = .ok (v, '\x7d' :: rest) :=
          readValue_write v hv.1 hpart (endsNumber_brace rest) (by rw [List.length_cons]; omega)
        rw [List.cons_append] at hread
        simp only [List.cons_append, List.append_assoc]
        exact readMembers_last hblank hread
      | cons e more =>
        obtain ⟨cs', hhead⟩ := head_writeEntries (List.all_eq_true.1 hkeys.2 e (List.mem_cons_self ..)) hothers
        obtain ⟨next, others, rfl⟩ : ∃ next more, others = next :: more := by
          cases others with
          | nil => cases hhead
          | cons next more => exact ⟨next, more, rfl⟩
        rw [intercalate_cons_cons] at hfuel ⊢
        simp only [List.length_cons, List.length_append] at hfuel
        have hread : readValue fuel (c :: cs ++ ',' :: '"' :: (cs' ++ '\x7d' :: rest)) =
            .ok (v, ',' :: '"' :: (cs' ++ '\x7d' :: rest)) :=
          readValue_write v hv.1 hpart (endsNumber_comma _) (by rw [List.length_cons]; omega)
        have hmore : readMembers fuel ([','].intercalate (next :: others) ++ '\x7d' :: rest) = .ok (e :: more, rest) :=
          readMembers_write (e :: more) (by simp) hkeys.2 hv.2 hothers (by omega)
        rw [hhead, List.cons_append] at hmore
        rw [List.cons_append] at hread
        simp only [hhead, List.cons_append, List.append_assoc]
        rw [readMembers_next hblank hread, hmore]
        rfl
    | _ => cases hkeys.1

end

/-- A text is read as the value that it was written for. -/
theorem read_write {v : Value} {text : List Char} (hv : v.throughout isExact = true) (h : write v = .ok text) :
    read text = .ok v := by
  obtain ⟨c, cs, htext, hblank, -, hmark⟩ := head_write (Value.holds_of_throughout hv) h
  have hvalue : readValue (2 * text.length + 2) (text ++ []) = .ok (v, []) :=
    readValue_write v hv h endsNumber_nil (by omega)
  rw [List.append_nil] at hvalue
  -- the value starts at once, with nothing to pass over
  have hskip : skip text = text := by
    rw [htext]
    exact skip_cons hblank cs
  rw [read, readAll, if_neg (by simp [htext, hmark]), hskip]
  show Except.mapError _ (readValue (2 * text.length + 2) text >>= _) = _
  rw [hvalue]
  rfl

end BotApi.Json
