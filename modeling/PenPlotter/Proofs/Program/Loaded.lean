import PenPlotter.Proofs.Program.Box
import PenPlotter.Proofs.Program.Translation

/-!
# Recorded and loaded drawings

A drawing that is loaded has its coordinates rounded to doubles; one that is recorded keeps its integers.
An integer of at most fifty-three bits is a double, and a difference of two such is rounded to the same
double whether they were rounded before or not, so both drawings have the same program.
-/

set_option autoImplicit false

namespace PenPlotter

attribute [local instance (high)] instPowNat

attribute [local irreducible] Double.unitsPerOne

/-! ## 1. Integers as doubles -/

namespace Double

variable {i j : Int}

theorem exists_ofInt (hi : i.natAbs ≤ 2 ^ (53 : Nat)) :
    ∃ r : Fin rankLimit, ofInt i = .finite (decide (i < 0)) r ∧
      signedUnits (decide (i < 0)) r = i * unitsPerOne := by
  obtain ⟨r, hround, hunits⟩ := exists_ofInt_of_le (show i.natAbs ≤ 2 * blockSize from hi)
  rw [ofInt, ofRatio, ofUnits, ofRank_eq_finite_iff, Int.natAbs_natCast] at hround
  refine ⟨r, ?_, ?_⟩
  · rw [ofInt, ofRatio, ofUnits, ofRank_eq_finite_iff]
    exact ⟨rfl, hround.2⟩
  · by_cases hneg : i < 0
    · rw [decide_eq_true hneg, signedUnits, if_pos rfl, hunits, Int.natCast_mul, ← Int.neg_mul,
        show -(i.natAbs : Int) = i by omega]
    · rw [decide_eq_false hneg, signedUnits, if_neg Bool.false_ne_true, hunits, Int.natCast_mul,
        show (i.natAbs : Int) = i by omega]

-- A sum of whole numbers is zero only if their integers are, and then its sign is told apart.
theorem ofIntUnits_mul_unitsPerOne {z : Bool} (hz : i = 0 → z = false) :
    ofIntUnits (i * unitsPerOne) z = ofInt i := by
  have hone : (0 : Int) < unitsPerOne := Int.natCast_pos.2 unitsPerOne_pos
  by_cases hi : i = 0
  · subst hi
    rw [hz rfl, Int.zero_mul, ofIntUnits, if_pos rfl, ofInt, ofRatio, ofUnits, Int.natAbs_zero,
      Nat.zero_mul, nearestRank_zero]
    rfl
  · have hne : i * (unitsPerOne : Int) ≠ 0 := Int.mul_ne_zero hi hone.ne'
    have hsign : decide (i * (unitsPerOne : Int) < 0) = decide (i < 0) := by
      rw [decide_eq_decide]
      constructor
      · intro h
        exact neg_of_mul_neg_left h hone.le
      · intro h
        exact Int.mul_neg_of_neg_of_pos h hone
    rw [ofIntUnits, if_neg hne, hsign, Int.natAbs_mul, Int.natAbs_natCast, ofInt, ofRatio]

theorem sub_eq_ofInt {s t : Bool} {r q : Fin rankLimit} (hr : signedUnits s r = i * unitsPerOne)
    (hq : signedUnits t q = j * unitsPerOne) (hsign : i = j → s = t) :
    finite s r - finite t q = ofInt (i - j) := by
  rw [sub_finite, hr, hq, ← Int.sub_mul]
  apply ofIntUnits_mul_unitsPerOne
  intro hzero
  rw [hsign (by omega), Bool.and_not_self, Bool.false_and]

/-- Between integers that are doubles the difference of the doubles is the difference, rounded; turned
around likewise, where a zero comes to have a sign. -/
theorem ofInt_sub_ofInt (hi : i.natAbs ≤ 2 ^ (53 : Nat)) (hj : j.natAbs ≤ 2 ^ (53 : Nat)) :
    ofInt i - ofInt j = ofInt (i - j) ∧ -ofInt i - -ofInt j = ofInt (-i - -j) := by
  obtain ⟨r, hr, hunits⟩ := exists_ofInt hi
  obtain ⟨q, hq, hunits'⟩ := exists_ofInt hj
  rw [hr, hq]
  constructor
  · apply sub_eq_ofInt hunits hunits'
    intro hij
    rw [hij]
  · show finite (!decide (i < 0)) r - finite (!decide (j < 0)) q = _
    apply sub_eq_ofInt
    · rw [signedUnits_not, hunits, Int.neg_mul]
    · rw [signedUnits_not, hunits', Int.neg_mul]
    · intro hij
      rw [Int.neg_inj.1 hij]

/-- The integers from here on are too large for a double: they lie halfway from the last one to the
next power of two, or beyond. -/
def integerLimit : Nat := 2 ^ (1024 : Nat) - 2 ^ (970 : Nat)

theorem units_top :
    units (rankLimit - 1) + units (rankLimit - 1 + 1) = 2 * (integerLimit * unitsPerOne) := by
  decide +kernel

theorem isFinite_ofInt_iff : (ofInt i).isFinite = true ↔ i.natAbs < integerLimit := by
  have hlimit : 0 < rankLimit := by decide
  -- The rank of the last double is odd, so what lies halfway is rounded up.
  have hodd : (rankLimit - 1) % 2 ≠ 0 := by decide
  have hrank : nearestRank (i.natAbs * unitsPerOne) 1 < rankLimit ↔
      nearestRank (i.natAbs * unitsPerOne) 1 ≤ rankLimit - 1 := by omega
  rw [ofInt, ofRatio, ofUnits, isFinite_ofRank, hrank, nearestRank_le_iff _ _ _ Nat.one_pos,
    units_top, Nat.one_mul, or_iff_left fun h => hodd h.2, Nat.mul_lt_mul_left Nat.two_pos,
    Nat.mul_lt_mul_right unitsPerOne_pos]

theorem two_pow_lt_integerLimit : 2 ^ (54 : Nat) < integerLimit := by
  decide +kernel

theorem isFinite_ofInt (hi : i.natAbs ≤ 2 ^ (54 : Nat)) : (ofInt i).isFinite = true :=
  isFinite_ofInt_iff.2 (hi.trans_lt two_pow_lt_integerLimit)

end Double

attribute [local irreducible] Double.integerLimit

/-! ## 2. Numbers -/

namespace Number

def IsExact (n : Number) : Prop := ∃ i : Int, n = .int i ∧ i.natAbs ≤ 2 ^ (53 : Nat)

def asDouble : Number → Number
  | .int i => .double (.ofInt i)
  | .double x => .double x

variable {m n : Number} {numbers : List Number}

theorem IsExact.place_asDouble (h : n.IsExact) :
    n.asDouble.IsPlaced ∧ n.asDouble.place = n.place := by
  obtain ⟨i, rfl, hi⟩ := h
  obtain ⟨r, hr, hunits⟩ := Double.exists_ofInt hi
  show (double (.ofInt i)).IsPlaced ∧ (double (.ofInt i)).place = (int i).place
  rw [hr]
  exact ⟨rfl, hunits⟩

/-- Whether a number can be rounded to a double; only integers can be too large. -/
def fitsDouble : Number → Bool
  | .int i => i.natAbs < Double.integerLimit
  | .double _ => true

theorem IsExact.fitsDouble (h : n.IsExact) : n.fitsDouble = true := by
  obtain ⟨i, rfl, hi⟩ := h
  have hpow : 2 ^ (53 : Nat) ≤ 2 ^ (54 : Nat) := Nat.pow_le_pow_right (by decide) (by decide)
  exact decide_eq_true ((hi.trans hpow).trans_lt Double.two_pow_lt_integerLimit)

theorem isWritable_int {i : Int} :
    (int i).isWritable = true ↔ i.natAbs < 10 ^ Decimal.integerDigitLimit := by
  rw [isWritable, decide_eq_true_iff]
  exact Nat.length_toDigits_le_iff (by decide) (by decide)

theorem IsExact.isWritable (h : n.IsExact) : n.isWritable = true := by
  obtain ⟨i, rfl, hi⟩ := h
  have hpow : 2 ^ (53 : Nat) < 10 ^ (16 : Nat) := by decide
  have hlimit : 10 ^ (16 : Nat) ≤ 10 ^ Decimal.integerDigitLimit :=
    Nat.pow_le_pow_right (by decide) (by decide)
  exact isWritable_int.2 ((hi.trans_lt hpow).trans_le hlimit)

theorem isWritable_asDouble (n : Number) : n.asDouble.isWritable = true := by cases n <;> rfl

theorem rounded_eq (n : Number) :
    Segment.rounded n = if n.fitsDouble then .ok n.asDouble else .error .overflow := by
  cases n with
  | double x => rfl
  | int i =>
    have hfits : (int i).fitsDouble = (Double.ofInt i).isFinite := by
      rw [Bool.eq_iff_iff, Double.isFinite_ofInt_iff]
      exact decide_eq_true_iff
    rw [Segment.rounded, toDouble, Double.ofInt?, hfits]
    generalize (Double.ofInt i).isFinite = finite
    cases finite <;> rfl

-- The difference of integers is rounded where it is multiplied with a double.
theorem scaled_of_sub_eq_ofInt {a b : Double} {i j : Int} (hi : i.natAbs ≤ 2 ^ (53 : Nat))
    (hj : j.natAbs ≤ 2 ^ (53 : Nat)) (h : a - b = .ofInt (i - j)) (scale : Double) :
    ((double a).sub (double b) >>= (·.mul (.double scale))) =
      ((int i).sub (int j) >>= (·.mul (.double scale))) := by
  have hpow : 2 ^ (54 : Nat) = 2 ^ (53 : Nat) + 2 ^ (53 : Nat) := Nat.two_pow_succ 53
  have hfinite : (Double.ofInt (i - j)).isFinite = true := Double.isFinite_ofInt (by omega)
  have hdoubles : ((double a).sub (double b) >>= (·.mul (.double scale))) =
      .ok (.double ((a - b) * scale)) :=
    scaled_eq_ok.2 ⟨_, _, rfl, rfl, rfl⟩
  have hints : ((int i).sub (int j) >>= (·.mul (.double scale))) =
      .ok (.double (.ofInt (i - j) * scale)) :=
    scaled_eq_ok.2 ⟨_, _, rfl, toDouble_int_eq_ok.2 ⟨hfinite, rfl⟩, rfl⟩
  rw [hdoubles, hints, h]

/-- Nothing of a placed drawing shows whether its integers were rounded. -/
theorem keepsDifferences_asDouble (h : ∀ n ∈ numbers, n.IsExact) (scale : Double) :
    KeepsDifferences id asDouble scale numbers ∧ KeepsDifferences neg asDouble scale numbers := by
  have horder : KeepsOrder asDouble numbers := by
    constructor
    · intro n hn
      obtain ⟨i, rfl, -⟩ := h n hn
      exact ⟨rfl, (h _ hn).place_asDouble.1⟩
    · intro m hm n hn
      rw [(h m hm).place_asDouble.2, (h n hn).place_asDouble.2]
  refine ⟨⟨horder, ?_⟩, ⟨horder, ?_⟩⟩
  · intro m hm n hn
    obtain ⟨i, rfl, hi⟩ := h m hm
    obtain ⟨j, rfl, hj⟩ := h n hn
    exact scaled_of_sub_eq_ofInt hi hj (Double.ofInt_sub_ofInt hi hj).1 scale
  · intro m hm n hn
    obtain ⟨i, rfl, hi⟩ := h m hm
    obtain ⟨j, rfl, hj⟩ := h n hn
    have hi' : (-i).natAbs ≤ 2 ^ (53 : Nat) := by rwa [Int.natAbs_neg]
    have hj' : (-j).natAbs ≤ 2 ^ (53 : Nat) := by rwa [Int.natAbs_neg]
    exact scaled_of_sub_eq_ofInt hi' hj' (Double.ofInt_sub_ofInt hi hj).2 scale

end Number

/-! ## 3. Entries -/

namespace Segment

def IsExact (s : Segment) : Prop := ∀ n ∈ s.coordinates, n.IsExact

def IsEntry (s : Segment) (entry : Value) : Prop :=
  valuesOf entry = .ok (s.coordinates.map .number)

def asDoubles : Segment → Segment := mapAxes .asDouble .asDouble

variable {s : Segment} {entry : Value}

theorem isEntry_tuple (s : Segment) : s.IsEntry (.tuple (s.coordinates.map .number)) := rfl

theorem isEntry_list (s : Segment) : s.IsEntry (.list (s.coordinates.map .number)) := rfl

def fitsDouble (s : Segment) : Bool := s.coordinates.all Number.fitsDouble

theorem IsExact.fitsDouble (h : s.IsExact) : s.fitsDouble = true :=
  List.all_eq_true.2 fun n hn => (h n hn).fitsDouble

theorem ofEntry_of_isEntry (hentry : s.IsEntry entry) :
    ofEntry entry = if s.fitsDouble then .ok s.asDoubles else .error .overflow := by
  obtain ⟨x1, y1, x2, y2⟩ := s
  have hnumbers : ([x1, y1, x2, y2].map Value.number).mapM coordinateOf = .ok [x1, y1, x2, y2] := rfl
  have hvalues : valuesOf entry = .ok ([x1, y1, x2, y2].map Value.number) := hentry
  rw [ofEntry, hvalues, ok_bind, hnumbers, ok_bind]
  simp only [List.mapM_cons, List.mapM_nil, Number.rounded_eq, fitsDouble, coordinates,
    List.all_cons, List.all_nil, Bool.and_true]
  cases x1.fitsDouble <;> cases y1.fitsDouble <;> cases x2.fitsDouble <;> cases y2.fitsDouble <;> rfl

theorem IsExact.isWritable (h : s.IsExact) : s.isWritable = true :=
  List.all_eq_true.2 fun n hn => (h n hn).isWritable

theorem isWritable_asDoubles (s : Segment) : s.asDoubles.isWritable = true := by
  simp [isWritable, asDoubles, mapAxes, coordinates, Number.isWritable_asDouble]

end Segment

def CompileError.map (f : Segment → Segment) : CompileError → CompileError
  | .notFinite s => .notFinite (f s)
  | .overflow => .overflow
  | .tooManyDigits => .tooManyDigits

section Entries

variable {segments : List Segment} {entries : List Value}

theorem mapM_ofValue (room : Nat) (h : ∀ s ∈ segments, s.IsExact)
    (hentries : List.Forall₂ Segment.IsEntry segments entries) :
    entries.mapM (Segment.ofValue room) = .ok (segments.map .asDoubles) := by
  induction hentries with
  | nil => rfl
  | cons hentry _ ih =>
    obtain ⟨hs, hrest⟩ := List.forall_mem_cons.1 h
    rw [List.mapM_cons, Segment.ofValue, Segment.ofEntry_of_isEntry hentry, if_pos hs.fitsDouble,
      ih hrest]
    rfl

theorem stroke_asDoubles (scale : Double) (h : ∀ s ∈ segments, s.IsExact) {box : Extent}
    (hbox : Extent.of? segments = some box) :
    ∃ box', Extent.of? (segments.map .asDoubles) = some box' ∧
      ∀ s ∈ segments, (Placement.grounding box' scale).stroke s.asDoubles =
        ((Placement.grounding box scale).stroke s).mapError (.map .asDoubles) := by
  obtain ⟨hX, hY⟩ := forall_coordinates_iff.1 h
  exact stroke_mapAxes (Number.keepsDifferences_asDouble hX scale).1
    (Number.keepsDifferences_asDouble hY scale).2 hbox

end Entries

namespace Draft

/-- **A program does not depend on how the drawing came in.**  A drawing of integers of at most
fifty-three bits that is recorded as it is has the program that it has if its entries are read, with
their coordinates rounded to doubles, or fails for the same reason at the same segment. -/
theorem rebuild_loaded (settings : Settings) {segments : List Segment} {entries : List Value}
    (h : ∀ s ∈ segments, s.IsExact) (hentries : List.Forall₂ Segment.IsEntry segments entries)
    (room : Nat) : ∃ loaded, entries.mapM (Segment.ofValue room) = .ok loaded ∧
      (ofDrawing settings loaded).rebuild.2 =
        (ofDrawing settings segments).rebuild.2.mapError (.map .asDoubles) := by
  refine ⟨_, mapM_ofValue room h hentries, ?_⟩
  have hcompile := compile_map fun box => stroke_asDoubles settings.scale h
  rw [snd_rebuild_ofDrawing, snd_rebuild_ofDrawing, hcompile]
  cases hanswer : (compile settings segments).2 with
  | ok lines => rfl
  | error trouble =>
    -- A segment that is named can be written, as an integer or as a double.
    refine congrArg Except.error ?_
    cases trouble with
    | notFinite s =>
      have hs := (h s (mem_of_compile_error (Prod.ext rfl hanswer))).isWritable
      simp only [Trouble.map, Trouble.error, hs, s.isWritable_asDoubles, if_true]
      rfl
    | _ => rfl

/-- A drawing as wide as integers of fifty-three bits go, with a zero that is turned around. -/
theorem rebuild_loaded_wide :
    let segments : List Segment :=
      [⟨.int (-9007199254740992), .int (-3), .int 9007199254740992, .int 0⟩,
        ⟨.int 9007199254740991, .int 0, .int 5, .int (-9007199254740992)⟩]
    let entries : List Value :=
      [.tuple [.number (.int (-9007199254740992)), .number (.int (-3)),
          .number (.int 9007199254740992), .number (.int 0)],
        .list [.number (.int 9007199254740991), .number (.int 0), .number (.int 5),
          .number (.int (-9007199254740992))]]
    (∀ s ∈ segments, s.IsExact) ∧ List.Forall₂ Segment.IsEntry segments entries ∧
      (ofDrawing .standard segments).rebuild.2.isOk = true ∧
      ∃ loaded, entries.mapM (Segment.ofValue 100) = .ok loaded ∧
        (ofDrawing .standard loaded).rebuild.2 =
          (ofDrawing .standard segments).rebuild.2.mapError (.map .asDoubles) := by
  intro segments entries
  have hexact : ∀ s ∈ segments, s.IsExact := by
    simp [segments, Segment.IsExact, Segment.coordinates, Number.IsExact]
  have hentries : List.Forall₂ Segment.IsEntry segments entries :=
    .cons (Segment.isEntry_tuple _) (.cons (Segment.isEntry_list _) .nil)
  exact ⟨hexact, hentries, by decide +kernel, rebuild_loaded .standard hexact hentries 100⟩

end Draft

end PenPlotter
