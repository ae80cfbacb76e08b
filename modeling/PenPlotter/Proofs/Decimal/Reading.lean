import Mathlib.Tactic.IntervalCases
import PenPlotter.Decimal.Fixed
import PenPlotter.Decimal.Numeral
import PenPlotter.Replay.Instruction
import PenPlotter.Proofs.Text.Lines

/-!
# Reading back decimal text

The digits that `digits` writes, alone or with a point among them, are read back to the number they
were written for, also where other text follows.
-/

set_option autoImplicit false

namespace PenPlotter

attribute [local instance (high)] instPowNat

namespace Decimal

open Text

/-! ## 1. Digits -/

theorem digit?_of_isDigit {c : Char} (h : c.isDigit = true) : digit? c = some (c.toNat - 48) := by
  simp only [Char.isDigit, Bool.and_eq_true, decide_eq_true_eq] at h
  have hlow : 48 ≤ c.toNat := h.1
  have hhigh : c.toNat ≤ 57 := h.2
  -- One of the ten characters: each is looked up in the table of digits.
  rw [← Char.ofNat_toNat c]
  generalize c.toNat = n at *
  interval_cases n <;> decide

theorem isDigit_of_isDigit {c : Char} (h : c.isDigit = true) : Text.isDigit c = true := by
  rw [Text.isDigit, digit?_of_isDigit h]
  rfl

def AllDigits (s : List Char) : Prop := ∀ c ∈ s, c.isDigit = true

theorem AllDigits.isDigit {s : List Char} (hs : AllDigits s) : ∀ c ∈ s, Text.isDigit c = true :=
  fun c hc => isDigit_of_isDigit (hs c hc)

theorem AllDigits.append {s t : List Char} (hs : AllDigits s) (ht : AllDigits t) :
    AllDigits (s ++ t) := fun c hc => (List.mem_append.1 hc).elim (hs c) (ht c)

theorem AllDigits.take {s : List Char} (hs : AllDigits s) (n : Nat) : AllDigits (s.take n) :=
  fun c hc => hs c (List.mem_of_mem_take hc)

theorem AllDigits.drop {s : List Char} (hs : AllDigits s) (n : Nat) : AllDigits (s.drop n) :=
  fun c hc => hs c (List.mem_of_mem_drop hc)

theorem allDigits_digits (n : Nat) : AllDigits (digits n) := fun _ hc =>
  Nat.isDigit_of_mem_toDigits (by decide) (by decide) hc

theorem allDigits_zeros (z : Nat) : AllDigits (List.replicate z '0') := fun _ hc => by
  rw [List.eq_of_mem_replicate hc]
  rfl

theorem allDigits_padLeft {s : List Char} (hs : AllDigits s) (width : Nat) :
    AllDigits (padLeft width s) := (allDigits_zeros _).append hs

theorem digits_ne_nil (n : Nat) : digits n ≠ [] := Nat.toDigits_ne_nil

def EndsNumber (rest : List Char) : Prop :=
  ∀ c ∈ rest.head?, Text.isDigit c = false ∧ c ≠ '.'

theorem endsNumber_nil : EndsNumber [] := by simp [EndsNumber]

theorem endsNumber_space (rest : List Char) : EndsNumber (' ' :: rest) := by
  intro c hc
  obtain rfl : c = ' ' := by simpa using hc.symm
  exact ⟨by decide, by decide⟩

theorem EndsNumber.isDigit_eq_false {rest : List Char} (h : EndsNumber rest) :
    ∀ c ∈ rest.head?, Text.isDigit c = false := fun c hc => (h c hc).1

theorem isDigit_head?_point (rest : List Char) :
    ∀ c ∈ ('.' :: rest).head?, Text.isDigit c = false := by
  intro c hc
  obtain rfl : c = '.' := by simpa using hc.symm
  decide

theorem filterMap_digit? {s : List Char} (hs : AllDigits s) :
    s.filterMap digit? = s.map fun c => c.toNat - 48 := by
  induction s with
  | nil => rfl
  | cons c s ih =>
    rw [List.filterMap_cons_some (digit?_of_isDigit (hs c List.mem_cons_self)), List.map_cons,
      ih fun d hd => hs d (List.mem_cons_of_mem c hd)]

theorem filterMap_digit?_ne_nil {s : List Char} (hs : AllDigits s) (hne : s ≠ []) :
    s.filterMap digit? ≠ [] := by
  rw [filterMap_digit? hs]
  simpa using hne

theorem takeDigits_append {s rest : List Char} (hs : AllDigits s)
    (hrest : ∀ c ∈ rest.head?, Text.isDigit c = false) :
    takeDigits (s ++ rest) = (s.filterMap digit?, rest) := by
  rw [takeDigits, takeWhile_append_of_all hs.isDigit hrest,
    dropWhile_append_of_all hs.isDigit hrest]

theorem takeDigits_of_allDigits {s : List Char} (hs : AllDigits s) :
    takeDigits s = (s.filterMap digit?, []) := by
  have hread := @takeDigits_append s [] hs (by simp)
  rwa [List.append_nil] at hread

theorem ofDigits_eq_ofDigitChars {s : List Char} (hs : AllDigits s) :
    ofDigits 10 (s.filterMap digit?) = Nat.ofDigitChars 10 s 0 := by
  rw [filterMap_digit? hs, ofDigits, List.foldl_map, Nat.ofDigitChars_eq_foldl]
  rfl

theorem ofDigits_digits (n : Nat) : ofDigits 10 ((digits n).filterMap digit?) = n := by
  rw [ofDigits_eq_ofDigitChars (allDigits_digits n), digits, Nat.ofDigitChars_ten_toDigits]

theorem ofDigits_append_zeros {s : List Char} (hs : AllDigits s) (z : Nat) :
    ofDigits 10 ((s ++ List.replicate z '0').filterMap digit?) =
      ofDigits 10 (s.filterMap digit?) * 10 ^ z := by
  rw [ofDigits_eq_ofDigitChars (hs.append (allDigits_zeros z)), ofDigits_eq_ofDigitChars hs,
    Nat.ofDigitChars_append, Nat.ofDigitChars_replicate_zero, Nat.mul_comm]

-- Leading zeros do not count.
theorem ofDigits_zeros_append (z : Nat) {s : List Char} (hs : AllDigits s) :
    ofDigits 10 ((List.replicate z '0' ++ s).filterMap digit?) =
      ofDigits 10 (s.filterMap digit?) := by
  rw [ofDigits_eq_ofDigitChars ((allDigits_zeros z).append hs), ofDigits_eq_ofDigitChars hs,
    Nat.ofDigitChars_append, Nat.ofDigitChars_replicate_zero, Nat.mul_zero]

theorem ofDigits_padLeft (width n : Nat) :
    ofDigits 10 ((padLeft width (digits n)).filterMap digit?) = n := by
  rw [padLeft, ofDigits_zeros_append _ (allDigits_digits n), ofDigits_digits]

/-! ## 2. Signs and points -/

theorem takeSign_signed (negative : Bool) {s : List Char} (hs : AllDigits (s.take 1)) :
    takeSign (signed negative s) = (negative, s) := by
  cases negative
  · -- The first character is a digit, so none of it is taken for a sign.
    cases s with
    | nil => rfl
    | cons c s =>
      have hc : c.isDigit = true := hs c (by simp)
      have hminus : c ≠ '-' := by rintro rfl; exact absurd hc (by decide)
      have hplus : c ≠ '+' := by rintro rfl; exact absurd hc (by decide)
      simp only [signed, Bool.false_eq_true, if_false]
      unfold takeSign
      split
      · simp_all
      · simp_all
      · rfl
  · rfl

/-- A number with a point: digits on either side of it, of which `places` stand after it. -/
structure Pointed (places n : Nat) (whole fraction : List Char) : Prop where
  allDigits : AllDigits (whole ++ fraction)
  whole_ne_nil : whole ≠ []
  length_fraction : fraction.length = places
  number : ofDigits 10 ((whole ++ fraction).filterMap digit?) = n

theorem exists_pointed (places n : Nat) (hplaces : 0 < places) :
    ∃ whole fraction, point places n = whole ++ '.' :: fraction ∧ Pointed places n whole fraction := by
  have hdigits : AllDigits (padLeft (places + 1) (digits n)) :=
    allDigits_padLeft (allDigits_digits n) _
  have hlength : places + 1 ≤ (padLeft (places + 1) (digits n)).length := by
    rw [padLeft, List.length_append, List.length_replicate]
    omega
  have hnumber := ofDigits_padLeft (places + 1) n
  have hpoint : point places n =
      (padLeft (places + 1) (digits n)).take ((padLeft (places + 1) (digits n)).length - places) ++
        '.' :: (padLeft (places + 1) (digits n)).drop
          ((padLeft (places + 1) (digits n)).length - places) := by
    rw [point, if_neg (by omega)]
  -- The padding leaves one digit or more before the point.
  generalize padLeft (places + 1) (digits n) = ds at *
  refine ⟨_, _, hpoint, ?_, ?_, ?_, ?_⟩
  · rwa [List.take_append_drop]
  · intro hnil
    have hzero := congrArg List.length hnil
    rw [List.length_take, List.length_nil] at hzero
    omega
  · rw [List.length_drop]
    omega
  · rwa [List.take_append_drop]

namespace Pointed

variable {places n : Nat} {whole fraction : List Char}

theorem allDigits_whole (p : Pointed places n whole fraction) : AllDigits whole :=
  fun c hc => p.allDigits c (List.mem_append_left _ hc)

theorem allDigits_fraction (p : Pointed places n whole fraction) : AllDigits fraction :=
  fun c hc => p.allDigits c (List.mem_append_right _ hc)

theorem take_one (p : Pointed places n whole fraction) (rest : List Char) :
    AllDigits ((whole ++ rest).take 1) := by
  cases hw : whole with
  | nil => exact absurd hw p.whole_ne_nil
  | cons c s =>
    intro d hd
    obtain rfl : d = c := by simpa using hd
    exact p.allDigits_whole d (by simp [hw])

end Pointed

/-! ## 3. Numbers in text -/

def leadingFraction : List Char → List Char
  | '.' :: rest => '.' :: rest.takeWhile Text.isDigit
  | _ => []

theorem leadingFraction_of_endsNumber {rest : List Char} (h : EndsNumber rest) :
    leadingFraction rest = [] := by
  unfold leadingFraction
  split
  · exact absurd rfl (h '.' rfl).2
  · rfl

/-- A number that starts with a digit after its sign is read up to the end of its fraction. -/
theorem leadingNumeral?_signed (negative : Bool) {c : Char} (s : List Char) (hc : c.isDigit = true) :
    Replay.leadingNumeral? (signed negative (c :: s)) =
      some (signed negative ((c :: s).takeWhile Text.isDigit ++
        leadingFraction ((c :: s).dropWhile Text.isDigit))) := by
  have hplus : c ≠ '+' := by rintro rfl; exact absurd hc (by decide)
  have hminus : c ≠ '-' := by rintro rfl; exact absurd hc (by decide)
  have hwhole : ((c :: s).takeWhile Text.isDigit).isEmpty = false := by
    rw [List.takeWhile_cons_of_pos (isDigit_of_isDigit hc)]
    rfl
  -- The sign decides where the whole digits begin; from there both cases read alike.
  unfold Replay.leadingNumeral?
  cases negative
  · simp only [signed, Bool.false_eq_true, if_false]
    split
    · simp_all
    · simp_all
    · simp only [hwhole, Bool.false_and, Bool.false_eq_true, if_false, List.nil_append]
      generalize (c :: s).dropWhile Text.isDigit = rest
      unfold leadingFraction
      split <;> simp
  · simp only [signed, if_true, hwhole, Bool.false_and, Bool.false_eq_true, if_false]
    generalize (c :: s).dropWhile Text.isDigit = rest
    unfold leadingFraction
    split <;> simp

-- The number is read off the front of a text, up to where it ends.
theorem leadingNumeral?_digits (negative : Bool) {s rest : List Char} (hs : AllDigits s)
    (hne : s ≠ []) (hrest : EndsNumber rest) :
    Replay.leadingNumeral? (signed negative s ++ rest) = some (signed negative s) := by
  obtain ⟨c, t, rfl⟩ : ∃ c t, s = c :: t := List.exists_cons_of_ne_nil hne
  have hsigned : signed negative (c :: t) ++ rest = signed negative (c :: (t ++ rest)) := by
    cases negative <;> rfl
  rw [hsigned, leadingNumeral?_signed negative (t ++ rest) (hs c List.mem_cons_self),
    ← List.cons_append, takeWhile_append_of_all hs.isDigit hrest.isDigit_eq_false,
    dropWhile_append_of_all hs.isDigit hrest.isDigit_eq_false,
    leadingFraction_of_endsNumber hrest, List.append_nil]

theorem leadingNumeral?_point (negative : Bool) {places n : Nat} {whole fraction rest : List Char}
    (p : Pointed places n whole fraction) (hrest : EndsNumber rest) :
    Replay.leadingNumeral? (signed negative (whole ++ '.' :: fraction) ++ rest) =
      some (signed negative (whole ++ '.' :: fraction)) := by
  obtain ⟨c, t, rfl⟩ : ∃ c t, whole = c :: t := List.exists_cons_of_ne_nil p.whole_ne_nil
  have hsigned : signed negative (c :: t ++ '.' :: fraction) ++ rest =
      signed negative (c :: (t ++ '.' :: (fraction ++ rest))) := by
    cases negative <;> simp [signed]
  rw [hsigned,
    leadingNumeral?_signed negative _ (p.allDigits_whole c List.mem_cons_self),
    ← List.cons_append,
    takeWhile_append_of_all p.allDigits_whole.isDigit (isDigit_head?_point _),
    dropWhile_append_of_all p.allDigits_whole.isDigit (isDigit_head?_point _), leadingFraction,
    takeWhile_append_of_all p.allDigits_fraction.isDigit hrest.isDigit_eq_false]

/-! ## 4. Decimals -/

theorem takeSign_sign (e : Int) (s : List Char) :
    takeSign ((if e < 0 then '-' else '+') :: s) = (decide (e < 0), s) := by
  by_cases he : e < 0 <;> simp [he, takeSign]

theorem signed_natAbs (e : Int) :
    (if decide (e < 0) = true then -(e.natAbs : Int) else e.natAbs) = e := by
  by_cases he : e < 0
  · rw [decide_eq_true he, if_pos rfl, Int.ofNat_natAbs_of_nonpos he.le, Int.neg_neg]
  · rw [decide_eq_false he, if_neg Bool.false_ne_true, Int.natAbs_of_nonneg (by omega)]

theorem padLeft_digits_ne_nil (width n : Nat) : padLeft width (digits n) ≠ [] := by
  rw [padLeft]
  simpa using fun _ => digits_ne_nil n

theorem exponent?_exponent (e : Int) : exponent? (exponent e) = some e := by
  have hs := allDigits_padLeft (allDigits_digits e.natAbs) 2
  have hdigits := filterMap_digit?_ne_nil hs (padLeft_digits_ne_nil 2 e.natAbs)
  simp only [exponent, exponent?, takeSign_sign, takeDigits_of_allDigits hs, ofDigits_padLeft]
  rw [if_pos (by decide), if_neg (by simp [hdigits]), signed_natAbs]

/-- A decimal as it is written: digits before the point, digits after it and an exponent.  Where no
digits come after the point, there is none. -/
structure Parts where
  whole : List Char
  fraction : List Char
  power : Option Int

namespace Parts

variable {p : Parts}

def tail (p : Parts) : List Char :=
  (if p.fraction.isEmpty then [] else '.' :: p.fraction) ++ p.power.elim [] exponent

def text (p : Parts) : List Char := p.whole ++ p.tail

def number (p : Parts) : Nat := ofDigits 10 ((p.whole ++ p.fraction).filterMap digit?)

def place (p : Parts) : Int := p.power.getD 0 - p.fraction.length

structure WellFormed (p : Parts) : Prop where
  allDigits_whole : AllDigits p.whole
  whole_ne_nil : p.whole ≠ []
  allDigits_fraction : AllDigits p.fraction

/-- As decimals are usually written: no zero stands needlessly in front. -/
structure Standard (p : Parts) : Prop extends p.WellFormed where
  lead : p.whole.head? = some '0' → p.whole = ['0']

def isWhole (p : Parts) : Bool := p.fraction.isEmpty && p.power.isNone

theorem head?_power {c : Char} (power : Option Int) (hc : c ∈ (power.elim [] exponent).head?) :
    c = 'e' := by
  cases power with
  | none => simp at hc
  | some e => simpa [exponent] using hc.symm

theorem head?_tail {c : Char} (hc : c ∈ p.tail.head?) : c = '.' ∨ c = 'e' := by
  unfold tail at hc
  split at hc
  · exact .inr (head?_power p.power (by simpa using hc))
  · exact .inl (by simpa using hc.symm)

theorem exponent?_power (power : Option Int) :
    exponent? (power.elim [] exponent) = some (power.getD 0) := by
  cases power with
  | none => rfl
  | some e => exact exponent?_exponent e

/-- What is written as a decimal is read as one. -/
theorem bareDecimal?_text (negative : Bool) (h : p.WellFormed) :
    bareDecimal? (signed negative p.text) =
      some (Double.ofDecimal negative p.number p.place) := by
  have hsign : takeSign (signed negative p.text) = (negative, p.text) := by
    apply takeSign_signed
    obtain ⟨c, s, hw⟩ := List.exists_cons_of_ne_nil h.whole_ne_nil
    intro d hd
    obtain rfl : d = c := by simpa [text, hw] using hd
    exact h.allDigits_whole d (by simp [hw])
  have hwhole : takeDigits p.text = (p.whole.filterMap digit?, p.tail) := by
    apply takeDigits_append h.allDigits_whole
    intro c hc
    rcases head?_tail hc with rfl | rfl <;> decide
  have hne := filterMap_digit?_ne_nil h.allDigits_whole h.whole_ne_nil
  simp only [bareDecimal?, hsign, hwhole]
  by_cases hnil : p.fraction = []
  · -- Without a fraction there is no point, and the exponent follows at once.
    have hplace : p.place = p.power.getD 0 := by simp [place, hnil]
    have hnumber : p.number = ofDigits 10 (p.whole.filterMap digit?) := by simp [number, hnil]
    rw [hplace, hnumber]
    cases hp : p.power with
    | none => simp [tail, hnil, hp, hne, exponent?]
    | some e =>
      have hread := exponent?_exponent e
      rw [exponent] at hread
      simp [tail, hnil, hp, hne, hread, exponent]
  · have htail : p.tail = '.' :: (p.fraction ++ p.power.elim [] exponent) := by
      simp [tail, hnil]
    have hfraction : takeDigits (p.fraction ++ p.power.elim [] exponent) =
        (p.fraction.filterMap digit?, p.power.elim [] exponent) := by
      apply takeDigits_append h.allDigits_fraction
      intro c hc
      rw [head?_power p.power hc]
      decide
    simp [htail, hfraction, hne, exponent?_power, place, number, filterMap_digit?
      h.allDigits_fraction]

end Parts

theorem bareDecimal?_digits (negative : Bool) (n : Nat) :
    bareDecimal? (signed negative (digits n)) = some (Double.ofDecimal negative n 0) := by
  have hread := Parts.bareDecimal?_text (p := ⟨digits n, [], none⟩) negative
    ⟨allDigits_digits n, digits_ne_nil n, by simp [AllDigits]⟩
  simpa [Parts.text, Parts.tail, Parts.number, Parts.place, ofDigits_digits] using hread

theorem bareDecimal?_point (negative : Bool) {places n : Nat} {whole fraction : List Char}
    (hplaces : 0 < places) (p : Pointed places n whole fraction) :
    bareDecimal? (signed negative (whole ++ '.' :: fraction)) =
      some (Double.ofDecimal negative n (-places)) := by
  have hfraction : fraction ≠ [] := by
    rintro rfl
    exact hplaces.ne p.length_fraction
  have hread := Parts.bareDecimal?_text (p := ⟨whole, fraction, none⟩) negative
    ⟨p.allDigits_whole, p.whole_ne_nil, p.allDigits_fraction⟩
  simpa [Parts.text, Parts.tail, Parts.number, Parts.place, hfraction, p.length_fraction,
    -List.filterMap_append, p.number] using hread

end Decimal

end PenPlotter
