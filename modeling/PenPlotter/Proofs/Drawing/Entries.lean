import PenPlotter.Drawing.File
import PenPlotter.Proofs.Program.Loaded

/-!
# Which values are drawings

What a value has to be to hold the entries of a drawing, and an entry to hold the coordinates of a
segment, and what becomes of all other values when a drawing is read.
-/

set_option autoImplicit false

namespace PenPlotter

open Files

/-! ## 1. Numbers in collections -/

namespace Value

variable {whole : Value} {items : List Value} {numbers : List Number} {depth : Nat}

theorem length_closeAll (whole : Value) (depth : Nat) (items : List Value) :
    (closeAll whole depth items).length = items.length := by
  induction items with
  | nil => rfl
  | cons v rest ih => rw [closeAll, List.length_cons, ih, List.length_cons]

-- What a place in a collection stands for is the collection, which is no number.
theorem close_eq_number {v : Value} {n : Number} (hwhole : ∀ m, whole ≠ .number m) :
    close whole depth v = .number n ↔ v = .number n := by
  cases v with
  | enclosing level =>
    rw [close]
    split
    · simp [hwhole n]
    · simp
  | _ => simp [close]

theorem closeAll_eq_numbers (hwhole : ∀ m, whole ≠ .number m) :
    closeAll whole depth items = numbers.map .number ↔ items = numbers.map .number := by
  induction items generalizing numbers with
  | nil => rw [closeAll]
  | cons v rest ih =>
    cases numbers with
    | nil => simp [closeAll]
    | cons n numbers => simp [closeAll, close_eq_number hwhole, ih]

end Value

/-! ## 2. Entries -/

namespace Segment

/-- Whether a value holds numbers as the coordinates of a segment, in a sequence or by name.  Bytes
are a sequence of numbers, texts are none. -/
inductive HeldBy (s : Segment) : Value → Prop where
  | list : s.HeldBy (.list (s.coordinates.map .number))
  | tuple : s.HeldBy (.tuple (s.coordinates.map .number))
  | bytes {bs : List UInt8} (coordinates : s.coordinates = bs.map fun b => .int b.toNat) :
      s.HeldBy (.bytes bs)
  | mapping {v : Value} (x1 : v.get? "x1" = some (.number s.x1))
      (y1 : v.get? "y1" = some (.number s.y1)) (x2 : v.get? "x2" = some (.number s.x2))
      (y2 : v.get? "y2" = some (.number s.y2)) : s.HeldBy v

variable {s t : Segment} {entry : Value} {values : List Value}

/-- A mapping gives the values of the four names. -/
theorem valuesOf_mapping {entries : List (Value × Value)} :
    valuesOf (.mapping entries) = .ok values ↔
      ∃ x1 y1 x2 y2, values = [x1, y1, x2, y2] ∧
        (Value.mapping entries).get? "x1" = some x1 ∧ (Value.mapping entries).get? "y1" = some y1 ∧
        (Value.mapping entries).get? "x2" = some x2 ∧
        (Value.mapping entries).get? "y2" = some y2 := by
  simp only [valuesOf, names, List.filter_cons, List.filter_nil, List.filterMap_cons,
    List.filterMap_nil]
  generalize (Value.mapping entries).get? "x1" = x1, (Value.mapping entries).get? "y1" = y1,
    (Value.mapping entries).get? "x2" = x2, (Value.mapping entries).get? "y2" = y2
  cases x1 <;> cases y1 <;> cases x2 <;> cases y2 <;> simp [eq_comm]

theorem valuesOf_sequence {items : List Value} (h : entry = .list items ∨ entry = .tuple items) :
    valuesOf entry = .ok values ↔ items.length = 4 ∧ Value.closeAll entry 0 items = values := by
  obtain rfl | rfl := h
  all_goals
    rw [valuesOf]
    split
    · next hlength => simp [Value.items?, hlength]
    · next hlength => simp [hlength]

theorem valuesOf_bytes {bs : List UInt8} :
    valuesOf (.bytes bs) = .ok values ↔
      bs.length = 4 ∧ bs.map (fun b => .number (.int b.toNat)) = values := by
  rw [valuesOf]
  split
  · next hlength => simp [hlength]
  · next hlength => simp [hlength]

theorem length_of_valuesOf (h : valuesOf entry = .ok values) : values.length = 4 := by
  cases entry with
  | mapping entries =>
    obtain ⟨x1, y1, x2, y2, rfl, -⟩ := valuesOf_mapping.mp h
    rfl
  | list items =>
    obtain ⟨hlength, rfl⟩ := (valuesOf_sequence (.inl rfl)).mp h
    rw [Value.length_closeAll, hlength]
  | tuple items =>
    obtain ⟨hlength, rfl⟩ := (valuesOf_sequence (.inr rfl)).mp h
    rw [Value.length_closeAll, hlength]
  | bytes bs =>
    obtain ⟨hlength, rfl⟩ := valuesOf_bytes.mp h
    rw [List.length_map, hlength]
  | _ => cases h

theorem isEntry_iff : s.IsEntry entry ↔ s.HeldBy entry := by
  constructor
  · intro h
    cases entry with
    | mapping entries =>
      obtain ⟨x1, y1, x2, y2, hvalues, h1, h2, h3, h4⟩ := valuesOf_mapping.mp h
      simp only [coordinates, List.map_cons, List.map_nil, List.cons.injEq, and_true] at hvalues
      obtain ⟨rfl, rfl, rfl, rfl⟩ := hvalues
      exact .mapping h1 h2 h3 h4
    | list items =>
      obtain ⟨-, hitems⟩ := (valuesOf_sequence (.inl rfl)).mp h
      have hwhole : ∀ n, Value.list items ≠ .number n := by simp
      obtain rfl := (Value.closeAll_eq_numbers hwhole).mp hitems
      exact .list
    | tuple items =>
      obtain ⟨-, hitems⟩ := (valuesOf_sequence (.inr rfl)).mp h
      have hwhole : ∀ n, Value.tuple items ≠ .number n := by simp
      obtain rfl := (Value.closeAll_eq_numbers hwhole).mp hitems
      exact .tuple
    | bytes bs =>
      obtain ⟨-, hbytes⟩ := valuesOf_bytes.mp h
      refine .bytes (List.map_injective_iff.mpr (fun _ _ => Value.number.inj) ?_)
      rw [← hbytes, List.map_map]
      rfl
    | _ => cases h
  · intro h
    cases h with
    | list => exact isEntry_list s
    | tuple => exact isEntry_tuple s
    | @bytes bs hbytes =>
      have hlength : bs.length = 4 := by rw [← List.length_map, ← hbytes]; rfl
      refine valuesOf_bytes.mpr ⟨hlength, ?_⟩
      rw [hbytes, List.map_map]
      rfl
    | mapping h1 h2 h3 h4 =>
      cases entry with
      | mapping entries => exact valuesOf_mapping.mpr ⟨_, _, _, _, rfl, h1, h2, h3, h4⟩
      | _ => cases h1

theorem valuesOf_ne_overflow : valuesOf entry ≠ .error .overflow := by
  unfold valuesOf
  split
  · dsimp only
    split <;> simp
  · split <;> simp
  · split <;> simp
  · split <;> simp
  · simp

theorem valuesOf_ne_notNumber {v : Value} : valuesOf entry ≠ .error (.notNumber v) := by
  unfold valuesOf
  split
  · dsimp only
    split <;> simp
  · split <;> simp
  · split <;> simp
  · split <;> simp
  · simp

theorem mapM_coordinateOf {numbers : List Number} :
    values.mapM coordinateOf = .ok numbers ↔ values = numbers.map .number := by
  induction values generalizing numbers with
  | nil => cases numbers <;> simp [pure, Except.pure]
  | cons v rest ih =>
    rw [List.mapM_cons, bind_eq_ok]
    constructor
    · rintro ⟨n, hn, h⟩
      obtain ⟨others, hothers, h⟩ := bind_eq_ok.mp h
      obtain rfl := Except.ok.inj h
      rw [ih.mp hothers]
      cases v with
      | number m => rw [Except.ok.inj hn]; rfl
      | _ => cases hn
    · intro h
      cases numbers with
      | nil => cases h
      | cons n numbers =>
        obtain ⟨rfl, hrest⟩ := List.cons.inj h
        exact ⟨n, rfl, bind_eq_ok.mpr ⟨numbers, ih.mpr hrest, rfl⟩⟩

theorem mapM_coordinateOf_ne_overflow : values.mapM coordinateOf ≠ .error .overflow := by
  induction values with
  | nil => simp [pure, Except.pure]
  | cons v rest ih =>
    intro h
    rw [List.mapM_cons] at h
    obtain h | ⟨n, -, h⟩ := bind_eq_error.mp h
    · cases v <;> cases h
    obtain h | ⟨others, -, h⟩ := bind_eq_error.mp h
    · exact ih h
    · cases h

/-- An entry holds the coordinates of a segment, or is rejected. -/
theorem exists_isEntry_or_rejected (entry : Value) :
    (∃ s : Segment, s.IsEntry entry) ∨ ∃ fault, ofEntry entry = .error fault ∧ fault ≠ .overflow := by
  cases hvalues : valuesOf entry with
  | error fault =>
    refine .inr ⟨fault, by rw [ofEntry, hvalues]; rfl, ?_⟩
    rintro rfl
    exact valuesOf_ne_overflow hvalues
  | ok values =>
  cases hnumbers : values.mapM coordinateOf with
  | error fault =>
    refine .inr ⟨fault, by rw [ofEntry, hvalues, ok_bind, hnumbers]; rfl, ?_⟩
    rintro rfl
    exact mapM_coordinateOf_ne_overflow hnumbers
  | ok numbers =>
    obtain rfl := mapM_coordinateOf.mp hnumbers
    have hlength := length_of_valuesOf hvalues
    rcases numbers with _ | ⟨x1, _ | ⟨y1, _ | ⟨x2, _ | ⟨y2, _ | ⟨other, rest⟩⟩⟩⟩⟩ <;>
      simp at hlength
    exact .inl ⟨⟨x1, y1, x2, y2⟩, hvalues⟩

theorem ofEntry_eq_ok :
    ofEntry entry = .ok t ↔ ∃ s : Segment, s.HeldBy entry ∧ s.fitsDouble = true ∧ t = s.asDoubles := by
  constructor
  · intro h
    obtain ⟨s, hs⟩ | ⟨fault, hfault, -⟩ := exists_isEntry_or_rejected entry
    · rw [ofEntry_of_isEntry hs] at h
      split at h
      · next hfits => exact ⟨s, isEntry_iff.mp hs, hfits, (Except.ok.inj h).symm⟩
      · cases h
    · rw [hfault] at h
      cases h
  · rintro ⟨s, hs, hfits, rfl⟩
    rw [ofEntry_of_isEntry (isEntry_iff.mpr hs), if_pos hfits]

theorem ofEntry_eq_overflow :
    ofEntry entry = .error .overflow ↔ ∃ s : Segment, s.HeldBy entry ∧ s.fitsDouble = false := by
  constructor
  · intro h
    obtain ⟨s, hs⟩ | ⟨fault, hfault, hrejected⟩ := exists_isEntry_or_rejected entry
    · rw [ofEntry_of_isEntry hs] at h
      split at h
      · cases h
      · next hlarge => exact ⟨s, isEntry_iff.mp hs, Bool.eq_false_of_not_eq_true hlarge⟩
    · rw [hfault] at h
      exact absurd (Except.error.inj h) hrejected
  · rintro ⟨s, hs, hlarge⟩
    rw [ofEntry_of_isEntry (isEntry_iff.mpr hs), hlarge, if_neg Bool.false_ne_true]

/-! ## 3. What is shown of an entry that is rejected -/

def Fault.value? : Fault → Option Value
  | .missing _ v | .unsupported v | .notNumber v => some v
  | .count _ | .overflow => none

/-- Whether the message about an entry that is rejected shows a value: the entry, if it is a mapping
that lacks a name, or neither a mapping nor a sequence; else its first coordinate that is no number. -/
inductive Blames : Value → Value → Prop where
  | unnamed {entries : List (Value × Value)} {name : String} (named : name ∈ names)
      (absent : (Value.mapping entries).get? name = none) :
      Blames (.mapping entries) (.mapping entries)
  | unsupported {entry : Value} (mapping : ∀ entries, entry ≠ .mapping entries)
      (list : ∀ items, entry ≠ .list items) (tuple : ∀ items, entry ≠ .tuple items)
      (bytes : ∀ bs, entry ≠ .bytes bs) : Blames entry entry
  | coordinate {entry v : Value} {numbers : List Number} {rest : List Value}
      (values : valuesOf entry = .ok (numbers.map .number ++ v :: rest))
      (notNumber : ∀ n, v ≠ .number n) : Blames entry v

variable {v : Value} {fault : Fault} {room : Nat} {reason : NoText}

theorem valuesOf_eq_missing {missing : List String} (h : valuesOf entry = .error (.missing missing v)) :
    Blames entry v := by
  unfold valuesOf at h
  dsimp only at h
  split at h
  · next entries =>
    split at h
    · cases h
    · next hsome =>
      obtain ⟨-, rfl⟩ := Fault.missing.inj (Except.error.inj h)
      rw [List.isEmpty_iff, List.filter_eq_nil_iff] at hsome
      push Not at hsome
      obtain ⟨name, hname, habsent⟩ := hsome
      exact .unnamed hname (Option.isNone_iff_eq_none.mp habsent)
  · split at h <;> cases h
  · split at h <;> cases h
  · split at h <;> cases h
  · cases h

theorem valuesOf_eq_unsupported (h : valuesOf entry = .error (.unsupported v)) : Blames entry v := by
  unfold valuesOf at h
  dsimp only at h
  split at h
  · split at h <;> cases h
  · split at h <;> cases h
  · split at h <;> cases h
  · split at h <;> cases h
  · next hmapping hlist htuple hbytes =>
    obtain rfl := Fault.unsupported.inj (Except.error.inj h)
    exact .unsupported hmapping hlist htuple hbytes

theorem mapM_coordinateOf_eq_error (h : values.mapM coordinateOf = .error fault) :
    ∃ (numbers : List Number) (v : Value) (rest : List Value),
      values = numbers.map .number ++ v :: rest ∧ (∀ n, v ≠ .number n) ∧ fault = .notNumber v := by
  induction values with
  | nil => cases h
  | cons first rest ih =>
    rw [List.mapM_cons, bind_eq_error] at h
    obtain h | ⟨n, hn, h⟩ := h
    · refine ⟨[], first, rest, rfl, ?_, ?_⟩
      · rintro n rfl
        cases h
      · cases first <;> cases h <;> rfl
    · obtain h | ⟨others, -, h⟩ := bind_eq_error.mp h
      · obtain ⟨numbers, v, rest', rfl, hv, rfl⟩ := ih h
        refine ⟨n :: numbers, v, rest', ?_, hv, rfl⟩
        cases first <;> cases hn
        rfl
      · cases h

theorem mapM_coordinateOf_of_notNumber {numbers : List Number} {rest : List Value}
    (hv : ∀ n, v ≠ .number n) :
    (numbers.map Value.number ++ v :: rest).mapM coordinateOf = .error (.notNumber v) := by
  induction numbers with
  | nil =>
    rw [List.map_nil, List.nil_append, List.mapM_cons]
    cases v with
    | number n => exact absurd rfl (hv n)
    | _ => rfl
  | cons n numbers ih =>
    rw [List.map_cons, List.cons_append, List.mapM_cons, bind_eq_error]
    exact .inr ⟨n, rfl, bind_eq_error.mpr (.inl ih)⟩

theorem mapM_rounded_eq_error {numbers : List Number} (h : numbers.mapM rounded = .error fault) :
    fault = .overflow := by
  induction numbers with
  | nil => cases h
  | cons n rest ih =>
    rw [List.mapM_cons, bind_eq_error] at h
    obtain h | ⟨x, -, h⟩ := h
    · rw [rounded] at h
      split at h
      · cases h
      · exact (Except.error.inj h).symm
    · obtain h | ⟨others, -, h⟩ := bind_eq_error.mp h
      · exact ih h
      · cases h

-- An entry that is rejected is blamed for it, or a coordinate of it, unless all values are numbers.
theorem blames_iff : Blames entry v ↔ ∃ fault, ofEntry entry = .error fault ∧ fault.value? = some v := by
  constructor
  · intro h
    cases h with
    | @unnamed entries name hname habsent =>
      have hmissing : (names.filter fun k => ((Value.mapping entries).get? k).isNone).isEmpty = false := by
        rw [List.isEmpty_eq_false_iff, ne_eq, List.filter_eq_nil_iff]
        push Not
        exact ⟨name, hname, by rw [habsent]; rfl⟩
      refine ⟨.missing (names.filter fun k => ((Value.mapping entries).get? k).isNone) _, ?_, rfl⟩
      rw [ofEntry, valuesOf, hmissing, if_neg Bool.false_ne_true]
      rfl
    | unsupported hmapping hlist htuple hbytes =>
      refine ⟨.unsupported entry, ?_, rfl⟩
      cases entry with
      | mapping entries => exact absurd rfl (hmapping entries)
      | list items => exact absurd rfl (hlist items)
      | tuple items => exact absurd rfl (htuple items)
      | bytes bs => exact absurd rfl (hbytes bs)
      | _ => rfl
    | coordinate hvalues hnot =>
      refine ⟨.notNumber v, ?_, rfl⟩
      rw [ofEntry, hvalues, ok_bind, mapM_coordinateOf_of_notNumber hnot]
      rfl
  · rintro ⟨fault, h, hvalue⟩
    rw [ofEntry] at h
    obtain h | ⟨values, hvalues, h⟩ := bind_eq_error.mp h
    · cases fault with
      | missing missing w =>
        obtain rfl := Option.some.inj hvalue
        exact valuesOf_eq_missing h
      | unsupported w =>
        obtain rfl := Option.some.inj hvalue
        exact valuesOf_eq_unsupported h
      | notNumber w => exact absurd h valuesOf_ne_notNumber
      | count length => cases hvalue
      | overflow => cases hvalue
    obtain h | ⟨numbers, -, h⟩ := bind_eq_error.mp h
    · obtain ⟨numbers, w, rest, rfl, hnot, rfl⟩ := mapM_coordinateOf_eq_error h
      obtain rfl := Option.some.inj hvalue
      exact .coordinate hvalues hnot
    obtain h | ⟨rounded, -, h⟩ := bind_eq_error.mp h
    · rw [mapM_rounded_eq_error h] at hvalue
      cases hvalue
    · split at h
      · cases h
      · rw [← Except.error.inj h] at hvalue
        cases hvalue

theorem error_eq_noText :
    fault.error room = .noText reason ↔ ∃ v, fault.value? = some v ∧ v.shown room = .error reason := by
  cases fault with
  | missing names v | unsupported v | notNumber v =>
    cases hshown : v.shown room <;> simp [Fault.error, Fault.message, Fault.value?, hshown]
  | count length => simp [Fault.error, Fault.message, Fault.value?]
  | overflow => simp [Fault.error, Fault.value?]

theorem error_eq_overflow : fault.error room = .overflow ↔ fault = .overflow := by
  by_cases h : fault = .overflow
  · simp [h, Fault.error]
  · refine iff_of_false ?_ h
    unfold Fault.error
    split
    · exact absurd rfl h
    · split <;> simp

theorem ofValue_eq_ok :
    ofValue room entry = .ok t ↔
      ∃ s : Segment, s.HeldBy entry ∧ s.fitsDouble = true ∧ t = s.asDoubles := by
  rw [ofValue, mapError_eq_ok, ofEntry_eq_ok]

theorem ofValue_eq_overflow :
    ofValue room entry = .error .overflow ↔ ∃ s : Segment, s.HeldBy entry ∧ s.fitsDouble = false := by
  simp only [ofValue, mapError_eq_error, error_eq_overflow, exists_eq_right, ofEntry_eq_overflow]

/-- There is no message about an entry exactly if it shows a value without a text. -/
theorem ofValue_eq_noText :
    ofValue room entry = .error (.noText reason) ↔
      ∃ v, Blames entry v ∧ v.shown room = .error reason := by
  simp only [ofValue, mapError_eq_error, error_eq_noText, blames_iff]
  constructor
  · rintro ⟨fault, hfault, v, hv, hshown⟩
    exact ⟨v, ⟨fault, hfault, hv⟩, hshown⟩
  · rintro ⟨v, ⟨fault, hfault, hv⟩, hshown⟩
    exact ⟨fault, hfault, v, hv, hshown⟩

end Segment

/-! ## 4. Entry by entry -/

variable {room : Nat} {path : String} {index place : Nat} {entries : List Value} {segments : List Segment}
  {v : Value} {e : DrawingError}

theorem segmentsOf_eq_ok : segmentsOf room path index entries = .ok segments ↔
    ∃ recorded : List Segment, List.Forall₂ Segment.HeldBy recorded entries ∧
      (∀ s ∈ recorded, s.fitsDouble = true) ∧ segments = recorded.map .asDoubles := by
  induction entries generalizing index segments with
  | nil =>
    rw [segmentsOf]
    constructor
    · intro h
      exact ⟨[], .nil, by simp, (Except.ok.inj h).symm⟩
    · rintro ⟨recorded, hrecorded, -, rfl⟩
      cases hrecorded
      rfl
  | cons entry rest ih =>
    rw [segmentsOf, bind_eq_ok]
    constructor
    · rintro ⟨t, ht, h⟩
      obtain ⟨others, hothers, h⟩ := bind_eq_ok.mp h
      obtain rfl := Except.ok.inj h
      obtain ⟨s, hs, hfits, rfl⟩ := Segment.ofValue_eq_ok.mp (mapError_eq_ok.mp ht)
      obtain ⟨recorded, hrecorded, hall, rfl⟩ := ih.mp hothers
      exact ⟨s :: recorded, .cons hs hrecorded, List.forall_mem_cons.mpr ⟨hfits, hall⟩, rfl⟩
    · rintro ⟨recorded, hrecorded, hall, rfl⟩
      cases hrecorded with
      | @cons s _ recorded _ hs hrest =>
        obtain ⟨hfits, hall⟩ := List.forall_mem_cons.mp hall
        refine ⟨s.asDoubles, mapError_eq_ok.mpr (Segment.ofValue_eq_ok.mpr ⟨s, hs, hfits, rfl⟩), ?_⟩
        exact bind_eq_ok.mpr ⟨_, ih.mpr ⟨recorded, hrest, hall, rfl⟩, rfl⟩

/-- Reading stops at the first entry that is no segment. -/
theorem segmentsOf_eq_error : segmentsOf room path index entries = .error e ↔
    ∃ before entry rest segments error, entries = before ++ entry :: rest ∧
      segmentsOf room path index before = .ok segments ∧ Segment.ofValue room entry = .error error ∧
      e = .entry path (index + before.length) error := by
  induction entries generalizing index with
  | nil =>
    rw [segmentsOf]
    simp
  | cons entry rest ih =>
    rw [segmentsOf, bind_eq_error]
    constructor
    · rintro (h | ⟨s, hs, h⟩)
      · obtain ⟨error, herror, rfl⟩ := mapError_eq_error.mp h
        exact ⟨[], entry, rest, [], error, rfl, rfl, herror, rfl⟩
      · obtain h | ⟨others, -, h⟩ := bind_eq_error.mp h
        · obtain ⟨before, stop, rest, segments, error, rfl, hbefore, herror, rfl⟩ := ih.mp h
          refine ⟨entry :: before, stop, rest, s :: segments, error, rfl, ?_, herror, ?_⟩
          · rw [segmentsOf, hs, ok_bind, hbefore]
            rfl
          · rw [List.length_cons, Nat.add_right_comm, Nat.add_assoc]
        · cases h
    · rintro ⟨before, stop, rest', segments, error, hentries, hbefore, herror, rfl⟩
      cases before with
      | nil =>
        obtain ⟨rfl, rfl⟩ := List.cons.inj hentries
        exact .inl (mapError_eq_error.mpr ⟨error, herror, rfl⟩)
      | cons first before =>
        obtain ⟨rfl, rfl⟩ := List.cons.inj hentries
        rw [segmentsOf] at hbefore
        obtain ⟨s, hs, h⟩ := bind_eq_ok.mp hbefore
        obtain ⟨others, hothers, -⟩ := bind_eq_ok.mp h
        refine .inr ⟨s, hs, bind_eq_error.mpr (.inl (ih.mpr ?_))⟩
        refine ⟨before, stop, rest', others, error, rfl, hothers, herror, ?_⟩
        rw [List.length_cons, Nat.add_right_comm, Nat.add_assoc]

def DrawingError.isFormat : DrawingError → Bool
  | .document _ | .entry _ _ .overflow | .entry _ _ (.noText _) => false
  | _ => true

/-- Reading stops at an entry that is no segment, after entries that hold the coordinates of
segments. -/
theorem segmentsOf_eq_entry {error : Segment.Error} :
    segmentsOf room path index entries = .error (.entry path place error) ↔
      ∃ before entry rest recorded, entries = before ++ entry :: rest ∧
        place = index + before.length ∧ List.Forall₂ Segment.HeldBy recorded before ∧
        (∀ s ∈ recorded, s.fitsDouble = true) ∧ Segment.ofValue room entry = .error error := by
  rw [segmentsOf_eq_error]
  constructor
  · rintro ⟨before, entry, rest, segments, error, hentries, hbefore, herror, hentry⟩
    obtain ⟨-, hplace, rfl⟩ := DrawingError.entry.inj hentry
    obtain ⟨recorded, hrecorded, hfits, -⟩ := segmentsOf_eq_ok.mp hbefore
    exact ⟨before, entry, rest, recorded, hentries, hplace, hrecorded, hfits, herror⟩
  · rintro ⟨before, entry, rest, recorded, hentries, rfl, hrecorded, hfits, herror⟩
    have hbefore : segmentsOf room path index before = .ok (recorded.map .asDoubles) :=
      segmentsOf_eq_ok.mpr ⟨recorded, hrecorded, hfits, rfl⟩
    exact ⟨before, entry, rest, _, _, hentries, hbefore, herror, rfl⟩

theorem isFormat_of_segmentsOf (h : segmentsOf room path index entries = .error e) :
    e.isFormat = true ∨ (∃ place, e = .entry path place .overflow) ∨
      ∃ place reason, e = .entry path place (.noText reason) := by
  obtain ⟨before, entry, rest, segments, error, -, -, -, rfl⟩ := segmentsOf_eq_error.mp h
  cases error with
  | format message => exact .inl rfl
  | overflow => exact .inr (.inl ⟨_, rfl⟩)
  | noText reason => exact .inr (.inr ⟨_, _, rfl⟩)

/-! ## 5. Drawings -/

/-- Whether a value holds the entries of a drawing: nothing, a list of them, or a mapping with such a
list, or with anything void, under the name for it. -/
inductive Value.HoldsEntries : Value → List Value → Prop where
  | null : HoldsEntries .null []
  | list {items entries : List Value} (whole : (Value.list items).items? = some entries) :
      HoldsEntries (.list items) entries
  | void {v segments : Value} (named : v.get? "segments" = some segments)
      (void : segments.isVoid = true) : HoldsEntries v []
  | mapping {v : Value} {items entries : List Value} (named : v.get? "segments" = some (.list items))
      (whole : (Value.list items).items? = some entries) : HoldsEntries v entries

theorem drawingEntries_eq_ok : drawingEntries path v = .ok entries ↔ v.HoldsEntries entries := by
  constructor
  · intro h
    unfold drawingEntries at h
    dsimp only at h
    split at h
    · obtain rfl := Except.ok.inj h
      exact .null
    · split at h
      · cases h
      next segments hnamed =>
      split at h
      next hvoid =>
        obtain rfl := Except.ok.inj h
        exact .void hnamed hvoid
      split at h
      · obtain rfl := Except.ok.inj h
        exact .mapping hnamed rfl
      · cases h
    · split at h
      · obtain rfl := Except.ok.inj h
        exact .list rfl
      · cases h
  · intro h
    cases h with
    | null => rfl
    | list whole =>
      obtain rfl := Option.some.inj whole
      rfl
    | void named void =>
      cases v with
      | mapping members => simp [drawingEntries, named, void]
      | _ => cases named
    | @mapping _ items _ named whole =>
      cases v with
      | mapping members =>
        obtain rfl := Option.some.inj whole
        cases items <;> simp [drawingEntries, named, Value.isVoid, Value.items?, Value.closeAll]
      | _ => cases named

theorem drawingEntries_eq_error (h : drawingEntries path v = .error e) :
    e = .noSegments path ∨ ∃ typeName, e = .notList path typeName := by
  unfold drawingEntries at h
  dsimp only at h
  split at h
  · cases h
  · split at h
    · exact .inl (Except.error.inj h).symm
    split at h
    · cases h
    split at h
    · cases h
    · exact .inr ⟨_, (Except.error.inj h).symm⟩
  · split at h
    · cases h
    · exact .inr ⟨_, (Except.error.inj h).symm⟩

variable {files : Store} {p : Runtime} {file : Path}

theorem readDrawing_eq (h : files.readValue p file = .ok v) :
    readDrawing files p file = drawingEntries file.text v >>= segmentsOf p.room file.text 0 := by
  rw [readDrawing, h]
  rfl

theorem readDrawing_eq_entry {error : Segment.Error} (h : files.readValue p file = .ok v) :
    readDrawing files p file = .error (.entry file.text index error) ↔
      ∃ before entry rest recorded, v.HoldsEntries (before ++ entry :: rest) ∧
        before.length = index ∧ List.Forall₂ Segment.HeldBy recorded before ∧
        (∀ s ∈ recorded, s.fitsDouble = true) ∧ Segment.ofValue p.room entry = .error error := by
  have hlisted : drawingEntries file.text v ≠ .error (.entry file.text index error) := by
    intro hentries
    obtain h | ⟨typeName, h⟩ := drawingEntries_eq_error hentries <;> cases h
  rw [readDrawing_eq h, bind_eq_error, or_iff_right hlisted]
  simp only [drawingEntries_eq_ok, segmentsOf_eq_entry, Nat.zero_add]
  constructor
  · rintro ⟨_, hentries, before, entry, rest, recorded, rfl, rfl, hall⟩
    exact ⟨before, entry, rest, recorded, hentries, rfl, hall⟩
  · rintro ⟨before, entry, rest, recorded, hentries, rfl, hall⟩
    exact ⟨_, hentries, before, entry, rest, recorded, rfl, rfl, hall⟩

/-- **Which values are read as drawings.**  A value is a drawing if it holds entries that hold numbers
as the coordinates of segments, and none of these is an integer too large for a double.  Then there is
a segment for each entry, in order, with the coordinates rounded.  If a number is too large, or a
rejected entry cannot be shown in the message about it, reading breaks off at this entry for that
reason.  In all other cases an error says that the value is no drawing. -/
theorem readDrawing_iff (h : files.readValue p file = .ok v) :
    (∀ segments, readDrawing files p file = .ok segments ↔
      ∃ entries recorded, v.HoldsEntries entries ∧ List.Forall₂ Segment.HeldBy recorded entries ∧
        (∀ s ∈ recorded, s.fitsDouble = true) ∧ segments = recorded.map .asDoubles) ∧
    (∀ index, readDrawing files p file = .error (.entry file.text index .overflow) ↔
      ∃ before entry rest recorded, ∃ s : Segment, v.HoldsEntries (before ++ entry :: rest) ∧
        before.length = index ∧ List.Forall₂ Segment.HeldBy recorded before ∧
        (∀ s ∈ recorded, s.fitsDouble = true) ∧ s.HeldBy entry ∧ s.fitsDouble = false) ∧
    (∀ index reason, readDrawing files p file = .error (.entry file.text index (.noText reason)) ↔
      ∃ before entry rest recorded culprit, v.HoldsEntries (before ++ entry :: rest) ∧
        before.length = index ∧ List.Forall₂ Segment.HeldBy recorded before ∧
        (∀ s ∈ recorded, s.fitsDouble = true) ∧ Segment.Blames entry culprit ∧
        culprit.shown p.room = .error reason) ∧
    ∀ e, readDrawing files p file = .error e →
      e.isFormat = true ∨ (∃ index, e = .entry file.text index .overflow) ∨
        ∃ index reason, e = .entry file.text index (.noText reason) := by
  refine ⟨fun segments => ?_, fun index => ?_, fun index reason => ?_, fun e he => ?_⟩
  · rw [readDrawing_eq h]
    simp only [bind_eq_ok, drawingEntries_eq_ok, segmentsOf_eq_ok, exists_and_left]
  · rw [readDrawing_eq_entry h]
    simp only [Segment.ofValue_eq_overflow, exists_and_left]
  · rw [readDrawing_eq_entry h]
    simp only [Segment.ofValue_eq_noText, exists_and_left]
  · rw [readDrawing_eq h] at he
    obtain hentries | ⟨entries, -, hsegments⟩ := bind_eq_error.mp he
    · obtain rfl | ⟨typeName, rfl⟩ := drawingEntries_eq_error hentries <;> exact .inl rfl
    · exact isFormat_of_segmentsOf hsegments

def listedFiles : Store :=
  .ofTexts [("d.yaml", "- [0, 0, 10, 0.5]\n- {x1: 1, y1: 0, x2: 2, y2: 3}\n")]

theorem readDrawing_iff_listed : ∃ v entries recorded,
    listedFiles.readValue .standard (.ofText "d.yaml") = .ok v ∧
    v.HoldsEntries entries ∧ List.Forall₂ Segment.HeldBy recorded entries ∧
    recorded.map Segment.asDoubles = [
      ⟨.double 0, .double 0, .double 10, .double (.ofRatio false 1 2)⟩,
      ⟨.double 1, .double 0, .double 2, .double 3⟩] := by
  have hread : (readDrawing listedFiles .standard (.ofText "d.yaml")).toOption = some [
      ⟨.double 0, .double 0, .double 10, .double (.ofRatio false 1 2)⟩,
      ⟨.double 1, .double 0, .double 2, .double 3⟩] := by
    decide +kernel
  have hread := eq_ok_of_toOption hread
  obtain ⟨v, hvalue, -⟩ := bind_eq_ok.mp hread
  have hv := mapError_eq_ok.mp hvalue
  obtain ⟨entries, recorded, hentries, hrecorded, -, hsegments⟩ :=
    ((readDrawing_iff hv).1 _).mp hread
  exact ⟨v, entries, recorded, hv, hentries, hrecorded, hsegments.symm⟩

def voidFiles : Store := .ofTexts [("d.yaml", "segments: false\n")]

/-- False under the name for the entries is accepted.  A number that is too large breaks reading off
without saying that this is no drawing, and so does an entry with too many digits to be shown. -/
theorem readDrawing_void_and_large :
    ((voidFiles.readValue .standard (.ofText "d.yaml")).toOption.bind (·.get? "segments")).map
      Value.typeName = some "bool" ∧
    (readDrawing voidFiles .standard (.ofText "d.yaml")).toOption = some [] ∧
    (segmentsOf 100 "d.yaml" 0 [.list [.number (.int Double.integerLimit), .number (.int 0),
      .number (.int 0), .number (.int 0)]]).mapError DrawingError.isFormat = .error false ∧
    (segmentsOf 100 "d.yaml" 0 [.number (.int (10 ^ 4300))]).mapError DrawingError.isFormat =
      .error false := by
  refine ⟨?_, ?_, ?_, ?_⟩
  · decide +kernel
  · decide +kernel
  · decide +kernel
  · decide +kernel

end PenPlotter
