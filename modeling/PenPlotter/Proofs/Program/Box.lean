import PenPlotter.Proofs.Drawing.Extent
import PenPlotter.Proofs.Program.Tracing

/-!
# The box of a program

A drawing of one kind of numbers is printed within its own extent, scaled: every step from a
coordinate to its text is monotone, and none makes a sign out of nothing.
-/

set_option autoImplicit false

namespace PenPlotter

open Decimal

attribute [local instance (high)] instPowNat

attribute [local irreducible] Double.unitsPerOne

/-! ## 1. Texts without a sign -/

/-- The exact number that a decimal numeral stands for. -/
def decimalValue (s : List Char) : ℚ :=
  let magnitude : ℚ := Text.ofDigits 10 (s.filterMap Text.digit?) /
    10 ^ (s.dropWhile (· ≠ '.')).tail.length
  if '-' ∈ s then -magnitude else magnitude

-- A numeral in thousandths.
theorem decimalValue_point (n : Nat) :
    '-' ∉ point 3 n ∧ decimalValue (point 3 n) = n / 1000 := by
  obtain ⟨whole, fraction, hpoint, p⟩ := exists_pointed 3 n (by decide)
  have hdigit : ∀ c ∈ whole ++ fraction, c ≠ '-' ∧ c ≠ '.' := by
    intro c hc
    have hisDigit := p.allDigits c hc
    constructor
    · rintro rfl
      exact absurd hisDigit (by decide)
    · rintro rfl
      exact absurd hisDigit (by decide)
  have hsign : '-' ∉ point 3 n := by
    rw [hpoint]
    intro hmem
    simp only [List.mem_append, List.mem_cons] at hmem
    rcases hmem with h | h | h
    · exact (hdigit '-' (List.mem_append_left _ h)).1 rfl
    · exact absurd h (by decide)
    · exact (hdigit '-' (List.mem_append_right _ h)).1 rfl
  have hplaces : ((point 3 n).dropWhile (· ≠ '.')).tail.length = 3 := by
    rw [hpoint, List.dropWhile_append_of_pos]
    · simp [p.length_fraction]
    · intro c hc
      exact decide_eq_true (hdigit c (List.mem_append_left _ hc)).2
  refine ⟨hsign, ?_⟩
  rw [decimalValue, if_neg hsign, hplaces, ofDigits_point]
  norm_num

theorem thousandths_zero : thousandths 0 = 0 := by
  simp [thousandths, roundDiv]

theorem thousandths_mono {r q : Nat} (h : r ≤ q) : thousandths r ≤ thousandths q :=
  roundDiv_mono Double.unitsPerOne_pos (Nat.mul_le_mul_right 1000 (Double.units_mono h))

-- What is not negative, or zero, is printed without a sign.
theorem coordinateText_of_unsigned {s : Bool} {r : Fin rankLimit} (h : s = true → r.val = 0) :
    (coordinateText (.finite s r)).toList = point 3 (thousandths r) := by
  have hsign : (s && decide (thousandths r ≠ 0)) = false := by
    cases s
    · rfl
    · rw [h rfl, thousandths_zero]
      rfl
  rw [coordinateText_finite, hsign]
  rfl

/-- Whether a numeral has no sign and stands for no more than another. -/
structure WithinText (text bound : String) : Prop where
  unsigned : '-' ∉ text.toList
  nonneg : 0 ≤ decimalValue text.toList
  le : decimalValue text.toList ≤ decimalValue bound.toList

theorem withinText_of_le {s t : Bool} {r q : Fin rankLimit} (hs : s = true → r.val = 0)
    (ht : t = true → q.val = 0) (hle : r.val ≤ q.val) :
    WithinText (coordinateText (.finite s r)) (coordinateText (.finite t q)) := by
  obtain ⟨hunsigned, hvalue⟩ := decimalValue_point (thousandths r)
  have hbound := (decimalValue_point (thousandths q)).2
  have hcast : (thousandths r : ℚ) ≤ thousandths q := Nat.cast_le.2 (thousandths_mono hle)
  constructor
  · rwa [coordinateText_of_unsigned hs]
  · rw [coordinateText_of_unsigned hs, hvalue]
    exact div_nonneg (Nat.cast_nonneg _) (by norm_num)
  · rw [coordinateText_of_unsigned hs, coordinateText_of_unsigned ht, hvalue, hbound]
    exact div_le_div_of_nonneg_right hcast (by norm_num)

/-! ## 2. Scaled differences -/

namespace Double

def scaledRank (u q : Nat) : Nat := nearestRank (units (nearestRank u 1) * units q) unitsPerOne

theorem scaledRank_zero (q : Nat) : scaledRank 0 q = 0 := by
  rw [scaledRank, nearestRank_zero, units_zero, Nat.zero_mul, nearestRank_zero]

theorem nearestRank_one_mono {u v : Nat} (h : u ≤ v) : nearestRank u 1 ≤ nearestRank v 1 :=
  nearestRank_mono Nat.one_pos Nat.one_pos (Nat.mul_le_mul_right 1 h)

theorem scaledRank_mono {u v : Nat} (h : u ≤ v) (q : Nat) : scaledRank u q ≤ scaledRank v q := by
  have hunits := Nat.mul_le_mul_right (units q) (units_mono (nearestRank_one_mono h))
  exact nearestRank_mono unitsPerOne_pos unitsPerOne_pos (Nat.mul_le_mul_right _ hunits)

-- A finite product of what a rank stands for has a finite factor.
theorem ofRank_mul_finite {s : Bool} {r : Nat} {q : Fin rankLimit}
    (h : (ofRank s r * finite false q).isFinite = true) :
    r < rankLimit ∧ ofRank s r * finite false q =
      ofRank s (nearestRank (units r * units q) unitsPerOne) := by
  rcases Nat.lt_or_ge r rankLimit with hlt | hge
  · rw [ofRank_of_lt s hlt, mul_eq_ofRank, Bool.xor_false]
    exact ⟨hlt, rfl⟩
  · rw [ofRank_of_le s hge] at h
    change (mul _ _).isFinite = true at h
    rw [mul] at h
    split at h <;> cases h

end Double

namespace Number

/-- Two integers or two finite doubles. -/
inductive Alike : Number → Number → Prop where
  | ints (i j : Int) : Alike (.int i) (.int j)
  | doubles (s t : Bool) (r q : Fin rankLimit) :
    Alike (.double (.finite s r)) (.double (.finite t q))

theorem place_int (i : Int) : (int i).place = i * Double.unitsPerOne := rfl

theorem place_finite (s : Bool) (r : Fin rankLimit) :
    (double (.finite s r)).place = Double.signedUnits s r := rfl

/-- Whether the way from one number to another is finite once it is scaled. -/
def FiniteSpan (high low : Number) (scale : Double) : Prop :=
  ∃ span, span.isFinite = true ∧ (high.sub low >>= (·.mul (.double scale))) = .ok (.double span)

def differenceRank (m n : Number) : Nat := Double.nearestRank (m.place - n.place).natAbs 1

theorem toDouble_int_eq_ok {i : Int} {a : Double} :
    (int i).toDouble = .ok a ↔ a.isFinite = true ∧ Double.ofInt i = a := by
  have hsome : (int i).toDouble = .ok a ↔ Double.ofInt? i = some a := by
    rw [toDouble]
    generalize Double.ofInt? i = o
    cases o <;> simp
  rw [hsome, Double.ofInt?]
  generalize Double.ofInt i = x
  by_cases hx : x.isFinite = true
  · rw [if_pos hx, Option.some.injEq]
    exact ⟨fun h => ⟨h ▸ hx, h⟩, fun h => h.2⟩
  · rw [if_neg hx]
    constructor
    · intro h
      cases h
    · rintro ⟨ha, rfl⟩
      exact absurd ha hx

namespace Alike

variable {m n : Number}

theorem isPlaced (h : Alike m n) : m.IsPlaced ∧ n.IsPlaced := by
  cases h <;> exact ⟨rfl, rfl⟩

theorem neg (h : Alike m n) :
    Alike m.neg n.neg ∧ m.neg.place = -m.place ∧ n.neg.place = -n.place := by
  refine ⟨?_, place_neg m, place_neg n⟩
  cases h with
  | ints i j => exact .ints _ _
  | doubles s t r q => exact .doubles _ _ _ _

/-- The difference of like numbers is rounded once, to a double that is negative only if they are in
that order or equal.  If it is finite there is no overflow. -/
theorem exists_sub (h : Alike m n) :
    ∃ d s, m.sub n = .ok d ∧ (s = true → m.place ≤ n.place) ∧
      (∀ a, d.toDouble = .ok a → a = .ofRank s (differenceRank m n)) ∧
      (differenceRank m n < rankLimit →
        d.toDouble = .ok (.ofRank s (differenceRank m n))) := by
  cases h with
  | ints i j =>
    -- The difference of integers is exact, and is rounded where it is made a double.
    have hplace : ((int i).place - (int j).place).natAbs = (i - j).natAbs * Double.unitsPerOne := by
      rw [place_int, place_int, ← Int.sub_mul, Int.natAbs_mul, Int.natAbs_natCast]
    have hofInt : Double.ofInt (i - j) =
        .ofRank (decide (i - j < 0)) (differenceRank (int i) (int j)) := by
      rw [Double.ofInt, Double.ofRatio, Double.ofUnits, differenceRank, hplace]
    refine ⟨int (i - j), decide (i - j < 0), rfl, ?_, ?_, ?_⟩
    · intro hneg
      have hlt : i ≤ j := by have := of_decide_eq_true hneg; omega
      rw [place_int, place_int]
      exact Int.mul_le_mul_of_nonneg_right hlt (Int.natCast_nonneg _)
    · intro a ha
      rw [← (toDouble_int_eq_ok.1 ha).2, hofInt]
    · intro hlt
      exact toDouble_int_eq_ok.2 ⟨Double.isFinite_ofRank.2 hlt, hofInt⟩
  | doubles s t r q =>
    -- The difference of doubles is rounded at once, and may overflow without an error.
    obtain ⟨sign, hsub, hsign⟩ := Double.sub_eq_ofRank s t r q
    rw [differenceRank, place_finite, place_finite]
    refine ⟨double (.finite s r - .finite t q), sign, rfl, hsign, fun a ha => ?_, fun _ => ?_⟩
    · rw [← hsub]
      exact (Except.ok.inj ha).symm
    · rw [← hsub, toDouble]

variable {q : Fin rankLimit}

/-- A scaled difference that is finite has the rank that its places give, and no sign if it is not
negative. -/
theorem scaled_of_ok (h : Alike m n) (hle : n.place ≤ m.place) {X : Double}
    (hX : (m.sub n >>= (·.mul (.double (.finite false q)))) = .ok (.double X))
    (hfinite : X.isFinite = true) :
    ∃ (s : Bool) (r : Fin rankLimit), X = .finite s r ∧ (s = true → r.val = 0) ∧
      r.val = Double.scaledRank (m.place - n.place).natAbs q ∧
      differenceRank m n < rankLimit := by
  obtain ⟨d, a, hd, ha, rfl⟩ := scaled_eq_ok.1 hX
  obtain ⟨d', s, hsub, hsign, hround, -⟩ := h.exists_sub
  obtain rfl : d = d' := Except.ok.inj (hd.symm.trans hsub)
  rw [hround a ha] at hfinite ⊢
  obtain ⟨hlt, hproduct⟩ := Double.ofRank_mul_finite hfinite
  rw [hproduct] at hfinite ⊢
  have hrank := Double.isFinite_ofRank.1 hfinite
  refine ⟨s, ⟨_, hrank⟩, Double.ofRank_of_lt s hrank, ?_, rfl, hlt⟩
  intro hs
  have hzero : (m.place - n.place).natAbs = 0 := by
    have := hsign hs
    omega
  change Double.scaledRank (m.place - n.place).natAbs q = 0
  rw [hzero, Double.scaledRank_zero]

theorem finiteSpan (h : Alike m n) (hdifference : differenceRank m n < rankLimit)
    (hscaled : Double.scaledRank (m.place - n.place).natAbs q < rankLimit) :
    m.FiniteSpan n (.finite false q) := by
  obtain ⟨d, s, hsub, -, -, hfinite⟩ := h.exists_sub
  refine ⟨_, ?_, scaled_eq_ok.2 ⟨d, _, hsub, hfinite hdifference, rfl⟩⟩
  rw [Double.ofRank_of_lt s hdifference, Double.mul_eq_ofRank, Double.isFinite_ofRank]
  exact hscaled

-- Where a span is finite, so is every other between places that are not farther apart.
theorem finiteSpan_within {c base high low : Number} (h : Alike c base) (h' : Alike high low)
    (hle : low.place ≤ high.place)
    (hdistance : (c.place - base.place).natAbs ≤ (high.place - low.place).natAbs)
    (hspan : high.FiniteSpan low (.finite false q)) : c.FiniteSpan base (.finite false q) := by
  obtain ⟨span, hfinite, hscaled⟩ := hspan
  obtain ⟨s, r, rfl, -, hrank, hdifference⟩ := h'.scaled_of_ok hle hscaled hfinite
  apply h.finiteSpan
  · exact (Double.nearestRank_one_mono hdistance).trans_lt hdifference
  · have hmono := Double.scaledRank_mono hdistance q
    have := r.isLt
    omega

/-- A scaled difference is printed within a scaled difference of places farther apart. -/
theorem withinText {c base high low : Number} (h : Alike c base) (hle : base.place ≤ c.place)
    (h' : Alike high low) (hle' : low.place ≤ high.place)
    (hdistance : c.place - base.place ≤ high.place - low.place) {X width : Double}
    (hX : (c.sub base >>= (·.mul (.double (.finite false q)))) = .ok (.double X))
    (hwidth : (high.sub low >>= (·.mul (.double (.finite false q)))) = .ok (.double width))
    (hfinite : X.isFinite = true) (hfinite' : width.isFinite = true) :
    WithinText (coordinateText X) (coordinateText width) := by
  obtain ⟨s, r, rfl, hs, hr, -⟩ := h.scaled_of_ok hle hX hfinite
  obtain ⟨t, r', rfl, ht, hr', -⟩ := h'.scaled_of_ok hle' hwidth hfinite'
  apply withinText_of_le hs ht
  rw [hr, hr']
  exact Double.scaledRank_mono (by omega) q

end Alike

end Number

/-! ## 3. Drawings of one kind -/

namespace Settings

-- A positive percentage has no sign.
theorem exists_percent (settings : Settings) :
    ∃ r : Fin rankLimit, settings.scalePercent = .finite false r := by
  obtain ⟨s, r, hpercent⟩ := Double.isFinite_iff.1 settings.scale_finite
  have hzero : (0 : Double) = .finite false ⟨0, by decide⟩ := by decide +kernel
  have hpos := settings.scale_pos
  rw [hpercent, hzero] at hpos
  have hplace : (Double.units 0 : Int) < Double.signedUnits s r := of_decide_eq_true hpos
  cases s
  · exact ⟨r, hpercent⟩
  · rw [Double.units_zero, Double.signedUnits, if_pos rfl] at hplace
    omega

theorem scale_of_percent {settings : Settings} {r : Fin rankLimit}
    (hpercent : settings.scalePercent = .finite false r) :
    ∃ q : Fin rankLimit, settings.scale = .finite false q ∧
      q = Double.nearestRank (Double.units r * Double.unitsPerOne) (100 * Double.unitsPerOne) := by
  obtain ⟨hundred, hhundred, hunits⟩ := Double.exists_ofInt_of_le (show 100 ≤ _ by decide)
  have hone := Double.unitsPerOne_pos
  have hdivisor : hundred.val ≠ 0 := by
    intro hzero
    rw [hzero, Double.units_zero] at hunits
    omega
  -- Dividing by a hundred makes nothing larger, so the scale is finite with the percentage.
  have hle : Double.nearestRank (Double.units r * Double.unitsPerOne) (100 * Double.unitsPerOne) ≤
      r := by
    apply Double.nearestRank_le_of_le (by omega)
    exact Nat.mul_le_mul_left _ (Nat.le_mul_of_pos_left _ (by decide))
  refine ⟨⟨_, hle.trans_lt r.isLt⟩, ?_, rfl⟩
  rw [scale, hpercent, show (100 : Double) = _ from hhundred]
  change Double.div _ _ = _
  rw [Double.div, if_neg hdivisor, hunits, Double.ofUnits, Double.ofRank_of_lt]
  rfl

/-- The scale is a finite factor without a sign: a positive percentage, divided by a hundred. -/
theorem exists_scale (settings : Settings) :
    ∃ q : Fin rankLimit, settings.scale = .finite false q := by
  obtain ⟨r, hpercent⟩ := settings.exists_percent
  obtain ⟨q, hq, -⟩ := scale_of_percent hpercent
  exact ⟨q, hq⟩

end Settings

def OfOneKind (segments : List Segment) : Prop :=
  (∀ s ∈ segments, ∀ n ∈ s.coordinates, ∃ i, n = .int i) ∨
    ∀ s ∈ segments, ∀ n ∈ s.coordinates, ∃ x, n = .double x ∧ x.isFinite = true

theorem OfOneKind.alike {segments : List Segment} (h : OfOneKind segments) :
    (∀ m ∈ coordinatesX segments, ∀ n ∈ coordinatesX segments, m.Alike n) ∧
      ∀ m ∈ coordinatesY segments, ∀ n ∈ coordinatesY segments, m.Alike n := by
  have hints {m n : Number} (hm : ∃ i, m = .int i) (hn : ∃ j, n = .int j) : m.Alike n := by
    obtain ⟨i, rfl⟩ := hm
    obtain ⟨j, rfl⟩ := hn
    exact .ints i j
  have hdoubles {m n : Number} (hm : ∃ x, m = .double x ∧ x.isFinite = true)
      (hn : ∃ y, n = .double y ∧ y.isFinite = true) : m.Alike n := by
    obtain ⟨x, rfl, hx⟩ := hm
    obtain ⟨y, rfl, hy⟩ := hn
    obtain ⟨_, _, rfl⟩ := Double.isFinite_iff.1 hx
    obtain ⟨_, _, rfl⟩ := Double.isFinite_iff.1 hy
    exact .doubles _ _ _ _
  rcases h with h | h
  · obtain ⟨hX, hY⟩ := forall_coordinates_iff.1 h
    exact ⟨fun m hm n hn => hints (hX m hm) (hX n hn), fun m hm n hn => hints (hY m hm) (hY n hn)⟩
  · obtain ⟨hX, hY⟩ := forall_coordinates_iff.1 h
    exact ⟨fun m hm n hn => hdoubles (hX m hm) (hX n hn),
      fun m hm n hn => hdoubles (hY m hm) (hY n hn)⟩

section Axes

variable {numbers : List Number} {turn : Number → Number} {base : Number} {q : Fin rankLimit}

/-- How coordinates lie from a base once they are turned in a way: none before it, none farther from it
than their extent is wide, and one that far. -/
structure LiesFrom (turn : Number → Number) (base : Number) (numbers : List Number) : Prop where
  extent : (Number.highest numbers).Alike (Number.lowest numbers)
  alike : ∀ n ∈ numbers, (turn n).Alike base
  near : ∀ n ∈ numbers, base.place ≤ (turn n).place
  within : ∀ n ∈ numbers, (turn n).place - base.place ≤
    (Number.highest numbers).place - (Number.lowest numbers).place
  far : ∃ n ∈ numbers, (turn n).place - base.place =
    (Number.highest numbers).place - (Number.lowest numbers).place

theorem liesFrom_lowest (hne : numbers ≠ []) (halike : ∀ m ∈ numbers, ∀ n ∈ numbers, m.Alike n) :
    LiesFrom id (Number.lowest numbers) numbers := by
  have hline : ∀ n ∈ numbers, n.IsPlaced := fun n hn => (halike n hn n hn).isPlaced.1
  obtain ⟨hlowest, hlow⟩ := Number.lowest_spec hne hline
  obtain ⟨hhighest, hhigh⟩ := Number.highest_spec hne hline
  exact {
    extent := halike _ hhighest _ hlowest
    alike := fun n hn => halike n hn _ hlowest
    near := hlow
    within := fun n hn => Int.sub_le_sub_right (hhigh n hn) _
    far := ⟨_, hhighest, rfl⟩ }

-- Turned around, the greatest of them is the least, and the least the farthest.
theorem liesFrom_highest (hne : numbers ≠ []) (halike : ∀ m ∈ numbers, ∀ n ∈ numbers, m.Alike n) :
    LiesFrom Number.neg (Number.highest numbers).neg numbers := by
  have hline : ∀ n ∈ numbers, n.IsPlaced := fun n hn => (halike n hn n hn).isPlaced.1
  obtain ⟨hlowest, hlow⟩ := Number.lowest_spec hne hline
  obtain ⟨hhighest, hhigh⟩ := Number.highest_spec hne hline
  refine ⟨halike _ hhighest _ hlowest, fun n hn => (halike n hn _ hhighest).neg.1, fun n hn => ?_,
    fun n hn => ?_, _, hlowest, ?_⟩
  · rw [Number.place_neg, Number.place_neg]
    exact Int.neg_le_neg (hhigh n hn)
  · rw [Number.place_neg, Number.place_neg]
    have hbelow := hlow n hn
    omega
  · rw [Number.place_neg, Number.place_neg]
    omega

theorem LiesFrom.le (h : LiesFrom turn base numbers) :
    (Number.lowest numbers).place ≤ (Number.highest numbers).place := by
  obtain ⟨n, hn, hfar⟩ := h.far
  have hnear := h.near n hn
  omega

/-- All coordinates are placed exactly if their extent is finite. -/
theorem LiesFrom.finiteSpan_iff (h : LiesFrom turn base numbers) :
    (∀ n ∈ numbers, (turn n).FiniteSpan base (.finite false q)) ↔
      (Number.highest numbers).FiniteSpan (Number.lowest numbers) (.finite false q) := by
  constructor
  · intro hspans
    obtain ⟨n, hn, hfar⟩ := h.far
    exact h.extent.finiteSpan_within (h.alike n hn) (h.near n hn) (by omega) (hspans n hn)
  · intro hextent n hn
    have hnear := h.near n hn
    have hwithin := h.within n hn
    exact (h.alike n hn).finiteSpan_within h.extent h.le (by omega) hextent

/-- The scaled extent is finite where all placed coordinates are, and these are printed within it. -/
theorem LiesFrom.exists_extent (h : LiesFrom turn base numbers)
    (hspans : ∀ n ∈ numbers, (turn n).FiniteSpan base (.finite false q)) :
    ∃ extent, ((Number.highest numbers).sub (Number.lowest numbers) >>=
        (·.mul (.double (.finite false q)))) = .ok (.double extent) ∧
      ∀ n ∈ numbers, ∀ X, X.isFinite = true →
        ((turn n).sub base >>= (·.mul (.double (.finite false q)))) = .ok (.double X) →
        WithinText (coordinateText X) (coordinateText extent) := by
  obtain ⟨extent, hfinite, hextent⟩ := h.finiteSpan_iff.1 hspans
  refine ⟨extent, hextent, fun n hn X hX hscaled => ?_⟩
  exact (h.alike n hn).withinText (h.near n hn) h.extent h.le (h.within n hn) hscaled hextent hX hfinite

end Axes

/-! ## 4. Programs -/

namespace Placement

variable {p : Placement} {q : Double} {segments : List Segment} {strokes : List Stroke}

theorem finiteSpan_of_apply (hscale : p.scale = .double q) {x y : Number} {X Y : Double}
    (h : p.apply x y = .ok (.double X, .double Y)) (hX : X.isFinite = true)
    (hY : Y.isFinite = true) : x.FiniteSpan p.xShift q ∧ y.neg.FiniteSpan p.yShift q := by
  obtain ⟨hx, hy⟩ := apply_eq_ok h
  rw [Number.FiniteSpan, Number.FiniteSpan, ← hscale]
  exact ⟨⟨X, hX, hx⟩, Y, hY, hy⟩

/-- Every coordinate of a drawing is an end of a stroke once it is placed. -/
theorem Places.finiteSpan (hscale : p.scale = .double q) (h : p.Places segments strokes) :
    (∀ n ∈ coordinatesX segments, n.FiniteSpan p.xShift q) ∧
      ∀ n ∈ coordinatesY segments, n.neg.FiniteSpan p.yShift q := by
  have hspans {s : Segment} (hs : s ∈ segments) :
      (s.x1.FiniteSpan p.xShift q ∧ s.y1.neg.FiniteSpan p.yShift q) ∧
        s.x2.FiniteSpan p.xShift q ∧ s.y2.neg.FiniteSpan p.yShift q := by
    obtain ⟨k, hk, hstroke⟩ := h.exists_stroke hs
    obtain ⟨hx1, hy1, hx2, hy2⟩ := h.isFinite k hk
    obtain ⟨hstart, hfinish⟩ := apply_of_stroke hscale hstroke
    exact ⟨finiteSpan_of_apply hscale hstart hx1 hy1, finiteSpan_of_apply hscale hfinish hx2 hy2⟩
  refine ⟨fun n hn => ?_, fun n hn => ?_⟩
  · obtain ⟨s, hs, rfl | rfl⟩ := mem_coordinatesOn.1 hn
    · exact (hspans hs).1.1
    · exact (hspans hs).2.1
  · obtain ⟨s, hs, rfl | rfl⟩ := mem_coordinatesOn.1 hn
    · exact (hspans hs).1.2
    · exact (hspans hs).2.2

/-- Every end of a stroke is a coordinate of the drawing on each axis. -/
theorem Places.exists_coordinates (hscale : p.scale = .double q) (h : p.Places segments strokes)
    {k : Stroke} (hk : k ∈ strokes) {x y : Double}
    (hends : (x = k.x1 ∧ y = k.y1) ∨ (x = k.x2 ∧ y = k.y2)) :
    (∃ n ∈ coordinatesX segments, (n.sub p.xShift >>= (·.mul (.double q))) = .ok (.double x)) ∧
      (∃ n ∈ coordinatesY segments,
        (n.neg.sub p.yShift >>= (·.mul (.double q))) = .ok (.double y)) ∧
      x.isFinite = true ∧ y.isFinite = true := by
  obtain ⟨s, hs, hstroke⟩ := h.exists_segment hk
  obtain ⟨hx1, hy1, hx2, hy2⟩ := h.isFinite k hk
  obtain ⟨hstart, hfinish⟩ := apply_of_stroke hscale hstroke
  rw [← hscale]
  rcases hends with ⟨rfl, rfl⟩ | ⟨rfl, rfl⟩
  · obtain ⟨hX, hY⟩ := apply_eq_ok hstart
    exact ⟨⟨s.x1, mem_coordinatesOn.2 ⟨s, hs, .inl rfl⟩, hX⟩,
      ⟨s.y1, mem_coordinatesOn.2 ⟨s, hs, .inl rfl⟩, hY⟩, hx1, hy1⟩
  · obtain ⟨hX, hY⟩ := apply_eq_ok hfinish
    exact ⟨⟨s.x2, mem_coordinatesOn.2 ⟨s, hs, .inr rfl⟩, hX⟩,
      ⟨s.y2, mem_coordinatesOn.2 ⟨s, hs, .inr rfl⟩, hY⟩, hx2, hy2⟩

end Placement

namespace Draft

/-- **The tool stays in the box.**  In the program of a drawing of one kind, every move leads to a point
whose printed coordinates have no sign and are at most those of the drawing's extent, scaled. -/
theorem goals_rebuild {d d' : Draft} {text : String} {box : Extent}
    (hrebuild : d.rebuild = (d', .ok text)) (hbox : Extent.of? d.history.segments = some box)
    (hkind : OfOneKind d.history.segments) :
    ∃ width height,
      (box.maxX.sub box.minX >>= (·.mul (.double d.settings.scale))) = .ok (.double width) ∧
      (box.maxY.sub box.minY >>= (·.mul (.double d.settings.scale))) = .ok (.double height) ∧
      ∀ line ∈ d'.lines, ∀ x y, line.goal? = some (x, y) →
        WithinText (coordinateText x) (coordinateText width) ∧
          WithinText (coordinateText y) (coordinateText height) := by
  obtain ⟨hcompile, -⟩ := rebuild_eq_ok hrebuild
  obtain ⟨hne, rfl⟩ := Extent.of?_eq_some hbox
  obtain ⟨strokes, hplaces, -, hlines⟩ := exists_strokes_of_compile hcompile hbox
  -- From here on the scale is a factor without a sign, and each axis is a matter of its own.
  obtain ⟨q, hq⟩ := d.settings.exists_scale
  rw [hq] at hplaces ⊢
  obtain ⟨hX, hY⟩ := hplaces.finiteSpan rfl
  obtain ⟨width, hwidth, hwithinX⟩ :=
    (liesFrom_lowest (coordinatesOn_ne_nil hne) hkind.alike.1).exists_extent hX
  obtain ⟨height, hheight, hwithinY⟩ :=
    (liesFrom_highest (coordinatesOn_ne_nil hne) hkind.alike.2).exists_extent hY
  refine ⟨width, height, hwidth, hheight, fun line hline x y hgoal => ?_⟩
  rw [hlines] at hline
  obtain ⟨k, hk, hpoint⟩ := goal_of_mem_strokesProgram hline hgoal
  obtain ⟨⟨m, hm, hx⟩, ⟨n, hn, hy⟩, hfx, hfy⟩ := hplaces.exists_coordinates rfl hk hpoint
  exact ⟨hwithinX m hm x hfx hx, hwithinY n hn y hfy hy⟩

def zeroSample : Draft :=
  (new .standard).record ⟨.double (.ofRank true 0), .double 3, .double 4, .double 0⟩

theorem goals_rebuild_zeroSample :
    ∃ box width height, Extent.of? zeroSample.history.segments = some box ∧
      OfOneKind zeroSample.history.segments ∧
      ∀ line ∈ zeroSample.rebuild.1.lines, ∀ x y, line.goal? = some (x, y) →
        WithinText (coordinateText x) (coordinateText width) ∧
          WithinText (coordinateText y) (coordinateText height) := by
  have hbox := Extent.of?_of_ne_nil (show zeroSample.history.segments ≠ [] by decide)
  have hkind : OfOneKind zeroSample.history.segments := by
    right
    intro s hs n hn
    obtain rfl := List.mem_singleton.1 hs
    simp only [Segment.coordinates, List.mem_cons, List.not_mem_nil, or_false] at hn
    rcases hn with rfl | rfl | rfl | rfl
    all_goals exact ⟨_, rfl, by decide +kernel⟩
  have hrebuild : zeroSample.rebuild = (zeroSample.rebuild.1, .ok zeroSample.rebuild.1.text) :=
    rebuild_of_isOk (by decide +kernel)
  obtain ⟨width, height, -, -, hgoals⟩ := goals_rebuild hrebuild hbox hkind
  exact ⟨_, width, height, hbox, hkind, hgoals⟩

end Draft

end PenPlotter
