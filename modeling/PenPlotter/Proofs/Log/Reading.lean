import PenPlotter.Proofs.Decimal.Shortest
import PenPlotter.Proofs.Log.Reader

/-!
# JSON read back

What is written as JSON is read as what it was written for: every character of a text, escaped or
not, and every number to the last digit.
-/

set_option autoImplicit false

namespace PenPlotter.Log.Json

open Decimal Text

/-! ## 1. Texts read back -/

-- The four digits of a code unit.
theorem hex_four {n : Nat} (h : n < 0x10000) :
    hex 4 n = [n / 4096, n / 256 % 16, n / 16 % 16, n % 16].map Nat.digitChar := by
  have hdigits (m : Nat) : Nat.toDigits 16 m =
      if m < 16 then [Nat.digitChar m] else Nat.toDigits 16 (m / 16) ++ [Nat.digitChar (m % 16)] :=
    Nat.toDigits_eq_if (by decide)
  have h256 : n / 16 / 16 = n / 256 := by omega
  have h4096 : n / 256 / 16 = n / 4096 := by omega
  rw [hex]
  -- By the number of digits that are not filled in.
  by_cases h1 : n < 16
  · rw [hdigits, if_pos h1, Nat.div_eq_of_lt (by omega : n < 4096),
      Nat.div_eq_of_lt (by omega : n < 256), Nat.div_eq_of_lt h1, Nat.mod_eq_of_lt h1]
    rfl
  rw [hdigits, if_neg h1]
  by_cases h2 : n / 16 < 16
  · rw [hdigits, if_pos h2, Nat.div_eq_of_lt (by omega : n < 4096),
      Nat.div_eq_of_lt (by omega : n < 256), Nat.mod_eq_of_lt h2]
    rfl
  rw [hdigits, if_neg h2, h256]
  by_cases h3 : n / 256 < 16
  · rw [hdigits, if_pos h3, Nat.div_eq_of_lt (by omega : n < 4096), Nat.mod_eq_of_lt h3]
    rfl
  rw [hdigits, if_neg h3, h4096, hdigits, if_pos (by omega)]
  rfl

theorem hexDigit?_digitChar {k : Nat} (h : k < 16) : hexDigit? (Nat.digitChar k) = some k :=
  (by decide : ∀ k < 16, hexDigit? (Nat.digitChar k) = some k) k h

theorem hexNumber?_hex {n : Nat} (h : n < 0x10000) : hexNumber? (hex 4 n) = some n := by
  have h1 := hexDigit?_digitChar (by omega : n / 4096 < 16)
  have h2 := hexDigit?_digitChar (by omega : n / 256 % 16 < 16)
  have h3 := hexDigit?_digitChar (by omega : n / 16 % 16 < 16)
  have h4 := hexDigit?_digitChar (by omega : n % 16 < 16)
  rw [hex_four h]
  simp [hexNumber?, ofDigits, h1, h2, h3, h4]
  omega

theorem units?_unitEscape {n : Nat} (h : n < 0x10000) (rest : List Char) :
    units? (unitEscape n ++ rest) = (units? rest).map (Prod.map (n :: ·) id) := by
  have hread := hexNumber?_hex h
  rw [hex_four h] at hread
  rw [unitEscape, hex_four h]
  simp only [List.map_cons, List.map_nil, List.cons_append, List.nil_append] at hread ⊢
  rw [units?, hread]
  rfl

theorem units?_escape {c : Char} {n : Nat} (hc : c ≠ 'u') (hn : escapes.lookup c = some n)
    (rest : List Char) :
    units? ('\\' :: c :: rest) = (units? rest).map (Prod.map (n :: ·) id) := by
  simp [units?, hc, hn]

theorem units?_plain {c : Char} (hquote : c ≠ '"') (hslash : c ≠ '\\') (hplain : 32 ≤ c.toNat)
    (rest : List Char) : units? (c :: rest) = (units? rest).map (Prod.map (c.toNat :: ·) id) := by
  rw [units?, if_neg (Nat.not_lt.2 hplain)]
  · exact hquote
  · exact fun _ _ _ _ _ h => absurd h hslash
  · exact fun _ _ h => absurd h hslash

def codeUnits (c : Char) : List Nat :=
  if c.toNat < 0x10000 then [c.toNat]
  else [0xd800 + (c.toNat - 0x10000) / 0x400, 0xdc00 + (c.toNat - 0x10000) % 0x400]

-- A character that is one code unit.
theorem codeUnits_single {c : Char} (h : c.toNat < 0x10000) : codeUnits c = [c.toNat] := if_pos h

theorem units?_escaped (c : Char) (rest : List Char) :
    units? (escaped c ++ rest) = (units? rest).map (Prod.map (codeUnits c ++ ·) id) := by
  have hvalid : c.toNat < 0xd800 ∨ 0xdfff < c.toNat ∧ c.toNat < 0x110000 := c.valid
  unfold escaped
  simp only
  split_ifs with hquote hplain hnewline hreturn htab hback hfeed hunit
  · simp only [Bool.or_eq_true, decide_eq_true_eq] at hquote
    rcases hquote with rfl | rfl
    · exact units?_escape (by decide) rfl rest
    · exact units?_escape (by decide) rfl rest
  · simp only [Bool.or_eq_true, decide_eq_true_eq, not_or] at hquote
    simp only [Bool.and_eq_true, decide_eq_true_eq] at hplain
    rw [codeUnits_single (by omega)]
    exact units?_plain hquote.1 hquote.2 hplain.1 rest
  · subst hnewline
    exact units?_escape (by decide) rfl rest
  · subst hreturn
    exact units?_escape (by decide) rfl rest
  · subst htab
    exact units?_escape (by decide) rfl rest
  · rw [codeUnits_single (by omega), hback]
    exact units?_escape (by decide) rfl rest
  · rw [codeUnits_single (by omega), hfeed]
    exact units?_escape (by decide) rfl rest
  · rw [codeUnits_single hunit]
    exact units?_unitEscape hunit rest
  · rw [codeUnits, if_neg hunit, List.append_assoc, units?_unitEscape (by omega),
      units?_unitEscape (by omega), Option.map_map]
    rfl

theorem units?_quoted (s rest : List Char) :
    units? (s.flatMap escaped ++ '"' :: rest) = some (s.flatMap codeUnits, rest) := by
  induction s with
  | nil => rw [List.flatMap_nil, List.nil_append, units?, List.flatMap_nil]
  | cons c s ih =>
    rw [List.flatMap_cons, List.append_assoc, units?_escaped, ih, List.flatMap_cons]
    rfl

theorem character?_toNat (c : Char) : character? c.toNat = some c := by
  have hvalid : c.toNat.isValidChar := c.valid
  rw [character?, if_pos hvalid, Char.ofNat_toNat]

theorem joined?_cons {n : Nat} (h : ¬(0xd800 ≤ n ∧ n < 0xdc00)) (units : List Nat) :
    joined? (n :: units) = (character? n).bind fun c => (joined? units).map (c :: ·) := by
  cases units with
  | nil =>
    rw [joined?, joined?]
    cases character? n <;> rfl
  | cons m rest =>
    rw [joined?, if_neg fun hpair => h ⟨hpair.1, hpair.2.1⟩]
    rfl

/-- The code units of a text make the text. -/
theorem joined?_codeUnits (s : List Char) : joined? (s.flatMap codeUnits) = some s := by
  induction s with
  | nil => rfl
  | cons c s ih =>
    have hvalid : c.toNat < 0xd800 ∨ 0xdfff < c.toNat ∧ c.toNat < 0x110000 := c.valid
    rw [List.flatMap_cons]
    by_cases hunit : c.toNat < 0x10000
    · rw [codeUnits_single hunit, List.singleton_append, joined?_cons (by omega), ih,
        character?_toNat]
      rfl
    · have hpair : 0x10000 + (0xd800 + (c.toNat - 0x10000) / 0x400 - 0xd800) * 0x400 +
          (0xdc00 + (c.toNat - 0x10000) % 0x400 - 0xdc00) = c.toNat := by omega
      rw [codeUnits, if_neg hunit]
      simp only [List.cons_append, List.nil_append]
      rw [joined?, if_pos (by omega), hpair, character?_toNat, ih]
      rfl

theorem text?_quoted (s : String) (rest : List Char) :
    text? (s.toList.flatMap escaped ++ '"' :: rest) = some (s, rest) := by
  rw [text?, units?_quoted]
  simp [joined?_codeUnits]

/-! ## 2. Numbers read back -/

def Stops (rest : List Char) : Prop := ∀ c ∈ rest.head?, c = ',' ∨ c = ']' ∨ c = '\x7d'

theorem stops_nil : Stops [] := by simp [Stops]

theorem stops_cons {c : Char} (h : c = ',' ∨ c = ']' ∨ c = '\x7d') (rest : List Char) :
    Stops (c :: rest) := fun d hd => by
  obtain rfl : d = c := by simpa using hd.symm
  exact h

-- After the digits of a number stands an exponent, or the end.
theorem head?_power_append {power : Option Int} {rest : List Char} (hrest : Stops rest) {c : Char}
    (hc : c ∈ (power.elim [] exponent ++ rest).head?) :
    c = 'e' ∨ c = ',' ∨ c = ']' ∨ c = '\x7d' := by
  cases power with
  | none => exact .inr (hrest c hc)
  | some e => exact .inl (by simpa [exponent] using hc.symm)

theorem isDigit_head?_power (power : Option Int) {rest : List Char} (hrest : Stops rest) :
    ∀ c ∈ (power.elim [] exponent ++ rest).head?, c.isDigit = false := by
  intro c hc
  rcases head?_power_append hrest hc with rfl | rfl | rfl | rfl <;> rfl

theorem isDigit_head?_of_stops {rest : List Char} (hrest : Stops rest) :
    ∀ c ∈ rest.head?, c.isDigit = false := isDigit_head?_power none hrest

theorem fractionOf_tail {p : Parts} (hp : p.WellFormed) {rest : List Char} (hrest : Stops rest) :
    fractionOf (p.tail ++ rest) = (p.fraction, p.power.elim [] exponent ++ rest) := by
  have hstop := isDigit_head?_power p.power hrest
  by_cases hnil : p.fraction = []
  · have htail : p.tail = p.power.elim [] exponent := by simp [Parts.tail, hnil]
    rw [htail, hnil, fractionOf]
    intro more heq
    have hpoint := head?_power_append (c := '.') hrest (by rw [heq]; rfl)
    exact absurd hpoint (by decide)
  · have htail : p.tail ++ rest = '.' :: (p.fraction ++ (p.power.elim [] exponent ++ rest)) := by
      simp [Parts.tail, hnil]
    rw [htail, fractionOf, takeWhile_append_of_all hp.allDigits_fraction hstop,
      dropWhile_append_of_all hp.allDigits_fraction hstop, if_neg (by simpa using hnil)]

theorem powerOf_append (power : Option Int) {rest : List Char} (hrest : Stops rest) :
    powerOf (power.elim [] exponent ++ rest) = (power, rest) := by
  cases power with
  | none =>
    rw [Option.elim_none, List.nil_append]
    cases rest with
    | nil => rfl
    | cons c rest =>
      have hmark : (decide (c = 'e') || decide (c = 'E')) = false := by
        rcases hrest c rfl with rfl | rfl | rfl <;> rfl
      simp [powerOf, hmark]
  | some e =>
    have hs := allDigits_padLeft (allDigits_digits e.natAbs) 2
    have hstop := isDigit_head?_of_stops hrest
    have hne : (padLeft 2 (digits e.natAbs)).isEmpty = false := by
      simpa using padLeft_digits_ne_nil 2 e.natAbs
    rw [Option.elim_some, exponent, List.cons_append, List.cons_append, powerOf]
    simp only [takeSign_sign]
    rw [takeWhile_append_of_all hs hstop, dropWhile_append_of_all hs hstop, ofDigits_padLeft,
      signed_natAbs, hne]
    rfl

theorem takeMinus_signed (negative : Bool) {s : List Char} (hs : ∀ c ∈ s.head?, c ≠ '-') :
    takeMinus (signed negative s) = (negative, s) := by
  cases negative with
  | true => rfl
  | false =>
    rw [signed, if_neg Bool.false_ne_true, takeMinus]
    rintro rest rfl
    exact hs '-' rfl rfl

theorem number?_text (negative : Bool) {p : Parts} (hp : p.Standard) {rest : List Char}
    (hrest : Stops rest) :
    number? (signed negative p.text ++ rest) = some (numberOf negative p, rest) := by
  have hstop : ∀ c ∈ (p.tail ++ rest).head?, c.isDigit = false := by
    intro c hc
    by_cases htail : p.tail = []
    · rw [htail] at hc
      exact isDigit_head?_of_stops hrest c hc
    · rw [List.head?_append_of_ne_nil _ htail] at hc
      rcases Parts.head?_tail hc with rfl | rfl <;> rfl
  have htext : signed negative p.text ++ rest = signed negative (p.whole ++ (p.tail ++ rest)) := by
    cases negative <;> simp [signed, Parts.text]
  have hminus : ∀ c ∈ (p.whole ++ (p.tail ++ rest)).head?, c ≠ '-' := by
    rw [List.head?_append_of_ne_nil _ hp.whole_ne_nil]
    rintro c hc rfl
    exact absurd (hp.allDigits_whole _ (List.mem_of_mem_head? hc)) (by decide)
  have hwhole : (p.whole.isEmpty ||
      (decide (p.whole.head? = some '0') && decide (p.whole.length ≠ 1))) = false := by
    have hne : p.whole.isEmpty = false := by simpa using hp.whole_ne_nil
    by_cases hlead : p.whole.head? = some '0'
    · rw [hp.lead hlead]
      rfl
    · simp [hne, hlead]
  unfold number?
  rw [htext, takeMinus_signed negative hminus]
  simp only [takeWhile_append_of_all hp.allDigits_whole hstop,
    dropWhile_append_of_all hp.allDigits_whole hstop, fractionOf_tail hp.toWellFormed hrest,
    powerOf_append p.power hrest, hwhole]
  rfl

-- No word starts like a number.
theorem word?_of_isDigit (negative : Bool) {c : Char} (hc : c.isDigit = true) (s : List Char) :
    word? (signed negative (c :: s)) = none := by
  have hne {d : Char} (hd : d.isDigit = false) : c ≠ d := by
    rintro rfl
    exact Bool.false_ne_true (hd.symm.trans hc)
  have hminus := hne (rfl : '-'.isDigit = false)
  have hn := hne (rfl : 'n'.isDigit = false)
  have ht := hne (rfl : 't'.isDigit = false)
  have hf := hne (rfl : 'f'.isDigit = false)
  have hN := hne (rfl : 'N'.isDigit = false)
  have hI := hne (rfl : 'I'.isDigit = false)
  cases negative <;>
    simp [signed, word?, words, List.dropPrefix?, hminus, hn, ht, hf, hN, hI]

theorem number_cases (n : Number) :
    (∃ negative p, numberChars n = signed negative p.text ∧ p.Standard ∧ numberOf negative p = n) ∨
      n = .double .nan ∨ ∃ negative, n = .double (.inf negative) := by
  cases n with
  | int n =>
    left
    refine ⟨decide (n < 0), ⟨digits n.natAbs, [], none⟩, ?_, ⟨⟨allDigits_digits _,
      digits_ne_nil _, by simp [AllDigits]⟩, ?_⟩, ?_⟩
    · simp [numberChars, Number.intChars, Parts.text, Parts.tail]
    · intro hlead
      by_cases hzero : n.natAbs = 0
      · rw [hzero]
        rfl
      · exact absurd hlead (head?_digits hzero)
    · have hnumber : Parts.number ⟨digits n.natAbs, [], none⟩ = n.natAbs := by
        simp [Parts.number, ofDigits_digits]
      rw [numberOf, if_pos (by rfl), hnumber, signed_natAbs]
  | double x =>
    cases x with
    | finite s r =>
      left
      obtain ⟨p, htext, hp, hwhole, hrank⟩ := Double.exists_parts_textChars s r
      refine ⟨s, p, htext, hp, ?_⟩
      rw [numberOf, hwhole, if_neg Bool.false_ne_true, ofDecimal_eq_ofRank, hrank,
        Double.ofRank_of_lt s r.isLt]
    | inf s => exact .inr (.inr ⟨s, rfl⟩)
    | nan => exact .inr (.inl rfl)

/-- Numbers are read back exactly, in whatever notation they are written. -/
theorem scalar?_number (n : Number) {rest : List Char} (hrest : Stops rest) :
    scalar? (numberChars n ++ rest) = some (.number n, rest) := by
  rcases number_cases n with ⟨negative, p, htext, hp, hn⟩ | rfl | ⟨negative, rfl⟩
  · obtain ⟨c, t, hw⟩ := List.exists_cons_of_ne_nil hp.whole_ne_nil
    have hc : c.isDigit = true := hp.allDigits_whole c (by simp [hw])
    have hword : word? (signed negative p.text ++ rest) = none := by
      have hcons : signed negative p.text ++ rest = signed negative (c :: (t ++ p.tail ++ rest)) := by
        cases negative <;> simp [signed, Parts.text, hw]
      rw [hcons]
      exact word?_of_isDigit negative hc _
    rw [scalar?, htext, hword, number?_text negative hp hrest, hn]
    rfl
  · simp [scalar?, numberChars, doubleChars, word?, words, List.dropPrefix?]
  · cases negative <;> simp [scalar?, numberChars, doubleChars, word?, words, List.dropPrefix?]

/-! ## 3. Values read back -/

theorem skip_cons {c : Char} (hc : isGap c = false) (s : List Char) : skip (c :: s) = c :: s := by
  rw [skip, List.dropWhile_cons_of_neg (by simp [hc])]

def StartsNumber (c : Char) : Prop := c.isDigit = true ∨ c = '-' ∨ c = 'N' ∨ c = 'I'

instance (c : Char) : Decidable (StartsNumber c) := inferInstanceAs (Decidable (_ ∨ _))

theorem exists_cons_numberChars (n : Number) : ∃ c s, numberChars n = c :: s ∧ StartsNumber c := by
  rcases number_cases n with ⟨negative, p, htext, hp, -⟩ | rfl | ⟨negative, rfl⟩
  · obtain ⟨c, t, hw⟩ := List.exists_cons_of_ne_nil hp.whole_ne_nil
    have hc : c.isDigit = true := hp.allDigits_whole c (by simp [hw])
    rw [htext]
    cases negative with
    | true => exact ⟨'-', p.text, rfl, .inr (.inl rfl)⟩
    | false => exact ⟨c, t ++ p.tail, by simp [signed, Parts.text, hw], .inl hc⟩
  · exact ⟨'N', ['a', 'N'], by simp [numberChars, doubleChars], by decide⟩
  · cases negative with
    | true => exact ⟨'-', "Infinity".toList, by simp [numberChars, doubleChars], by decide⟩
    | false => exact ⟨'I', "nfinity".toList, by simp [numberChars, doubleChars], by decide⟩

theorem isGap_of_starts {c : Char} (hc : StartsNumber c) : isGap c = false := by
  have hne {d : Char} (hd : ¬StartsNumber d) : c ≠ d := by
    rintro rfl
    exact hd hc
  simp [isGap, hne (show ¬StartsNumber ' ' by decide), hne (show ¬StartsNumber '\t' by decide),
    hne (show ¬StartsNumber '\n' by decide), hne (show ¬StartsNumber '\r' by decide)]

-- Neither a blank nor a bracket that ends something stands at the front of a value.
theorem exists_cons_chars (j : Json) :
    ∃ c s, chars j = c :: s ∧ isGap c = false ∧ c ≠ ']' := by
  cases j with
  | null => exact ⟨'n', ['u', 'l', 'l'], by simp [chars], by decide, by decide⟩
  | bool b =>
    cases b with
    | true => exact ⟨'t', ['r', 'u', 'e'], by simp [chars], by decide, by decide⟩
    | false => exact ⟨'f', ['a', 'l', 's', 'e'], by simp [chars], by decide, by decide⟩
  | number n =>
    obtain ⟨c, s, hs, hc⟩ := exists_cons_numberChars n
    refine ⟨c, s, hs, ?_⟩
    exact ⟨isGap_of_starts hc, by rintro rfl; exact absurd hc (by decide)⟩
  | text s => exact ⟨'"', _, by rw [chars, quotedChars]; rfl, by decide, by decide⟩
  | array items => exact ⟨'[', _, by rw [chars]; rfl, by decide, by decide⟩
  | object entries => exact ⟨'\x7b', _, by rw [chars]; rfl, by decide, by decide⟩

theorem value?_of_scalar {c : Char} (hgap : isGap c = false) (hquote : c ≠ '"') (hbracket : c ≠ '[')
    (hbrace : c ≠ '\x7b') (fuel : Nat) (s : List Char) :
    value? (fuel + 1) (c :: s) = scalar? (c :: s) := by
  rw [value?, skip_cons hgap]
  simp [hquote, hbracket, hbrace]

theorem value?_number (n : Number) (fuel : Nat) {rest : List Char} (hrest : Stops rest) :
    value? (fuel + 1) (numberChars n ++ rest) = some (.number n, rest) := by
  obtain ⟨c, s, hs, hc⟩ := exists_cons_numberChars n
  have hne {d : Char} (hd : ¬StartsNumber d) : c ≠ d := by
    rintro rfl
    exact hd hc
  have hread := scalar?_number n hrest
  rw [hs, List.cons_append] at hread ⊢
  rw [value?_of_scalar (isGap_of_starts hc) (hne (by decide)) (hne (by decide)) (hne (by decide)),
    hread]

theorem value?_quoted (t : String) (fuel : Nat) (rest : List Char) :
    value? (fuel + 1) (quotedChars t.toList ++ rest) = some (.text t, rest) := by
  rw [quotedChars, List.append_assoc, List.cons_append, value?, skip_cons (by decide)]
  simp only [List.singleton_append, text?_quoted]
  rfl

theorem value?_array {fuel : Nat} {c : Char} {s rest : List Char} {items : List Json}
    (hgap : isGap c = false) (hclose : c ≠ ']') (h : items? fuel (c :: s) = some (items, rest)) :
    value? (fuel + 1) ('[' :: c :: s) = some (.array items, rest) := by
  rw [value?, skip_cons (by decide)]
  simp [skip_cons hgap, hclose, h]

theorem value?_object {fuel : Nat} {s rest : List Char} {entries : List (String × Json)}
    (h : entries? fuel ('"' :: s) = some (entries, rest)) :
    value? (fuel + 1) ('\x7b' :: '"' :: s) = some (.object entries, rest) := by
  rw [value?, skip_cons (by decide)]
  simp [skip_cons (by decide : isGap '"' = false), h]

theorem value?_space (fuel : Nat) (s : List Char) : value? fuel (' ' :: s) = value? fuel s := by
  cases fuel <;> rfl

theorem items?_space (fuel : Nat) (s : List Char) : items? fuel (' ' :: s) = items? fuel s := by
  cases fuel with
  | zero => rfl
  | succ fuel => rw [items?, items?, value?_space]

theorem entries?_space (fuel : Nat) (s : List Char) :
    entries? fuel (' ' :: s) = entries? fuel s := by
  cases fuel <;> rfl

theorem items?_last {fuel : Nat} {s rest : List Char} {j : Json}
    (h : value? fuel s = some (j, ']' :: rest)) : items? (fuel + 1) s = some ([j], rest) := by
  rw [items?, h]
  rfl

theorem items?_more {fuel : Nat} {s more rest : List Char} {j : Json} {items : List Json}
    (h : value? fuel s = some (j, ',' :: more)) (hmore : items? fuel more = some (items, rest)) :
    items? (fuel + 1) s = some (j :: items, rest) := by
  rw [items?, h]
  simp [skip_cons (by decide : isGap ',' = false), hmore]

-- A member is read up to its value.
theorem entries?_quoted (fuel : Nat) (name : String) (s : List Char) :
    entries? (fuel + 1) (quotedChars name.toList ++ ':' :: s) =
      (value? fuel s).bind fun (j, rest) =>
        match skip rest with
        | ',' :: rest => (entries? fuel rest).map (Prod.map ((name, j) :: ·) id)
        | '\x7d' :: rest => some ([(name, j)], rest)
        | _ => none := by
  rw [quotedChars, List.append_assoc, List.cons_append, entries?, skip_cons (by decide)]
  simp only [List.singleton_append, text?_quoted]
  rw [Option.bind_eq_bind, Option.bind_some, skip_cons (by decide)]
  rfl

theorem entries?_last {fuel : Nat} {s rest : List Char} {j : Json} (name : String)
    (h : value? fuel s = some (j, '\x7d' :: rest)) :
    entries? (fuel + 1) (quotedChars name.toList ++ ':' :: ' ' :: s) = some ([(name, j)], rest) := by
  rw [entries?_quoted, value?_space, h]
  rfl

theorem entries?_more {fuel : Nat} {s more rest : List Char} {j : Json}
    {entries : List (String × Json)} (name : String) (h : value? fuel s = some (j, ',' :: more))
    (hmore : entries? fuel more = some (entries, rest)) :
    entries? (fuel + 1) (quotedChars name.toList ++ ':' :: ' ' :: s) =
      some ((name, j) :: entries, rest) := by
  rw [entries?_quoted, value?_space, h]
  simp [skip_cons (by decide : isGap ',' = false), hmore]

theorem exists_cons_itemChars {items : List Json} (h : items ≠ []) (rest : List Char) :
    ∃ c s, itemChars items ++ rest = c :: s ∧ isGap c = false ∧ c ≠ ']' := by
  match items, h with
  | [j], _ =>
    obtain ⟨c, s, hs, hc⟩ := exists_cons_chars j
    exact ⟨c, s ++ rest, by rw [itemChars, hs, List.cons_append], hc⟩
  | j :: k :: more, _ =>
    obtain ⟨c, s, hs, hc⟩ := exists_cons_chars j
    exact ⟨c, _, by rw [itemChars, hs, List.cons_append, List.cons_append]; simp, hc⟩

theorem exists_cons_entryChars {entries : List (String × Json)} (h : entries ≠ [])
    (rest : List Char) : ∃ s, entryChars entries ++ rest = '"' :: s := by
  match entries, h with
  | [(name, j)], _ => exact ⟨_, by rw [entryChars, quotedChars]; rfl⟩
  | (name, j) :: k :: more, _ => exact ⟨_, by rw [entryChars, quotedChars]; rfl; simp⟩

theorem exists_fuel {j : Json} {fuel : Nat} (h : 2 * (chars j).length ≤ fuel) :
    ∃ f, fuel = f + 1 := by
  obtain ⟨c, s, hs, -⟩ := exists_cons_chars j
  rw [hs, List.length_cons] at h
  exact ⟨fuel - 1, by omega⟩

-- The induction is on the value: what is inside it is written in fewer characters.
mutual

theorem value?_chars : ∀ (j : Json) {fuel : Nat} {rest : List Char},
    2 * (chars j).length ≤ fuel → Stops rest → value? fuel (chars j ++ rest) = some (j, rest)
  | .null, fuel, rest, hfuel, _ => by
    obtain ⟨f, rfl⟩ := exists_fuel hfuel
    simp [chars, value?, skip, isGap, scalar?, word?, words, List.dropPrefix?]
  | .bool b, fuel, rest, hfuel, _ => by
    obtain ⟨f, rfl⟩ := exists_fuel hfuel
    cases b <;> simp [chars, value?, skip, isGap, scalar?, word?, words, List.dropPrefix?]
  | .number n, fuel, rest, hfuel, hrest => by
    obtain ⟨f, rfl⟩ := exists_fuel hfuel
    rw [chars]
    exact value?_number n f hrest
  | .text s, fuel, rest, hfuel, _ => by
    obtain ⟨f, rfl⟩ := exists_fuel hfuel
    rw [chars]
    exact value?_quoted s f rest
  | .array items, fuel, rest, hfuel, _ => by
    obtain ⟨f, rfl⟩ := exists_fuel hfuel
    by_cases hne : items = []
    · subst hne
      rfl
    · have hshort : 2 * (itemChars items).length + 1 ≤ f := by
        rw [chars, List.length_append, List.length_cons, List.length_singleton] at hfuel
        omega
      have hread := @items?_itemChars items f rest hne hshort
      obtain ⟨c, s, hs, hgap, hclose⟩ := exists_cons_itemChars hne (']' :: rest)
      rw [hs] at hread
      rw [chars, List.append_assoc, List.cons_append, List.singleton_append, hs]
      exact value?_array hgap hclose hread
  | .object entries, fuel, rest, hfuel, _ => by
    obtain ⟨f, rfl⟩ := exists_fuel hfuel
    by_cases hne : entries = []
    · subst hne
      rfl
    · have hshort : 2 * (entryChars entries).length + 1 ≤ f := by
        rw [chars, List.length_append, List.length_cons, List.length_singleton] at hfuel
        omega
      have hread := @entries?_entryChars entries f rest hne hshort
      obtain ⟨s, hs⟩ := exists_cons_entryChars hne ('\x7d' :: rest)
      rw [hs] at hread
      rw [chars, List.append_assoc, List.cons_append, List.singleton_append, hs]
      exact value?_object hread

theorem items?_itemChars : ∀ (items : List Json) {fuel : Nat} {rest : List Char}, items ≠ [] →
    2 * (itemChars items).length + 1 ≤ fuel →
      items? fuel (itemChars items ++ ']' :: rest) = some (items, rest)
  | [], _, _, hne, _ => absurd rfl hne
  | [j], fuel, rest, _, hfuel => by
    obtain ⟨f, rfl⟩ : ∃ f, fuel = f + 1 := ⟨fuel - 1, by omega⟩
    rw [itemChars] at hfuel ⊢
    exact items?_last (value?_chars j (by omega) (stops_cons (by decide) rest))
  | j :: k :: more, fuel, rest, _, hfuel => by
    obtain ⟨f, rfl⟩ : ∃ f, fuel = f + 1 := ⟨fuel - 1, by omega⟩
    rw [itemChars, List.length_append, List.length_cons, List.length_cons] at hfuel
    · have hmore := @items?_itemChars (k :: more) f rest (by simp) (by omega)
      rw [← items?_space] at hmore
      rw [itemChars, List.append_assoc, List.cons_append, List.cons_append]
      · exact items?_more (value?_chars j (by omega) (stops_cons (by decide) _)) hmore
      · simp
    · simp

theorem entries?_entryChars : ∀ (entries : List (String × Json)) {fuel : Nat} {rest : List Char},
    entries ≠ [] → 2 * (entryChars entries).length + 1 ≤ fuel →
      entries? fuel (entryChars entries ++ '\x7d' :: rest) = some (entries, rest)
  | [], _, _, hne, _ => absurd rfl hne
  | [(name, j)], fuel, rest, _, hfuel => by
    obtain ⟨f, rfl⟩ : ∃ f, fuel = f + 1 := ⟨fuel - 1, by omega⟩
    rw [entryChars, List.length_append, List.length_cons, List.length_cons] at hfuel
    rw [entryChars, List.append_assoc, List.cons_append, List.cons_append]
    exact entries?_last name (value?_chars j (by omega) (stops_cons (by decide) rest))
  | (name, j) :: k :: more, fuel, rest, _, hfuel => by
    obtain ⟨f, rfl⟩ : ∃ f, fuel = f + 1 := ⟨fuel - 1, by omega⟩
    rw [entryChars, List.length_append, List.length_cons, List.length_cons, List.length_append,
      List.length_cons, List.length_cons] at hfuel
    · have hmore := @entries?_entryChars (k :: more) f rest (by simp) (by omega)
      rw [← entries?_space] at hmore
      rw [entryChars, List.append_assoc, List.cons_append, List.cons_append, List.append_assoc,
        List.cons_append, List.cons_append]
      · exact entries?_more name (value?_chars j (by omega) (stops_cons (by decide) _)) hmore
      · simp
    · simp

end

/-- **What is written is read back**, to the last digit of every number. -/
theorem read?_line (j : Json) : read? j.line = some j := by
  have hread := @value?_chars j (2 * (chars j).length + 2) [] (by omega) stops_nil
  rw [List.append_nil] at hread
  rw [read?, line, String.toList_ofList, hread]
  rfl

end PenPlotter.Log.Json
