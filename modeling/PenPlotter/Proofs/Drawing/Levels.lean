import Mathlib.Data.Int.ConditionallyCompleteOrder
import Mathlib.Order.Std
import Mathlib.Order.WithBot
import PenPlotter.Number
import PenPlotter.Proofs.Double.Value

/-!
# Levels of numbers

Every number but `nan` has a level on the line with both infinities, and comparisons are those of
levels.  Of numbers that are compared one after the other, the first in an order is kept: downwards the
least of them, upwards the greatest.
-/

set_option autoImplicit false

namespace PenPlotter

namespace Number

variable {m n : Number} {numbers others : List Number}

/-! ## 1. The extended line -/

/-- The value of a number, in units, on the line with both infinities; `nan` has none. -/
def level? : Number → Option (WithBot (WithTop Int))
  | .int n => some ((n * Double.unitsPerOne : Int) : WithTop Int)
  | .double (.finite s r) => some ((Double.signedUnits s r : Int) : WithTop Int)
  | .double (.inf s) => some (if s then ⊥ else ⊤)
  | .double .nan => none

theorem coe_lt_top (a : Int) : ((a : WithTop Int) : WithBot (WithTop Int)) < ⊤ := by
  rw [← WithBot.coe_top, WithBot.coe_lt_coe]
  exact WithTop.coe_lt_top a

-- Where a number has its place in units, and where it has none.
theorem level?_cases (n : Number) :
    (∃ a : Int, n.units? = some a ∧ n.level? = some ((a : WithTop Int) : WithBot (WithTop Int))) ∨
      n = .double (.inf true) ∨ n = .double (.inf false) ∨ n = .double .nan := by
  rcases n with n | ⟨s, r⟩ | ⟨_ | _⟩ | _
  · exact .inl ⟨_, rfl, rfl⟩
  · exact .inl ⟨_, rfl, rfl⟩
  · exact .inr (.inr (.inl rfl))
  · exact .inr (.inl rfl)
  · exact .inr (.inr (.inr rfl))

theorem units?_inf (s : Bool) : units? (.double (.inf s)) = none := rfl

theorem units?_nan : units? (.double .nan) = none := rfl

theorem level?_inf (s : Bool) : level? (.double (.inf s)) = some (if s then ⊥ else ⊤) := rfl

theorem level?_nan : level? (.double .nan) = none := rfl

theorem lt_iff_level : m < n ↔ ∃ a ∈ m.level?, ∃ b ∈ n.level?, a < b := by
  change m.blt n = true ↔ _
  obtain ⟨a, hm, hm'⟩ | rfl | rfl | rfl := level?_cases m <;>
    obtain ⟨b, hn, hn'⟩ | rfl | rfl | rfl := level?_cases n <;>
      simp [blt, units?_inf, units?_nan, level?_inf, level?_nan, coe_lt_top, *]

theorem same_iff_level : m.same n = true ↔ ∃ a ∈ n.level?, m.level? = some a := by
  obtain ⟨a, hm, hm'⟩ | rfl | rfl | rfl := level?_cases m <;>
    obtain ⟨b, hn, hn'⟩ | rfl | rfl | rfl := level?_cases n <;>
      simp [same, units?_inf, units?_nan, level?_inf, level?_nan, *]

theorem units?_neg (n : Number) : n.neg.units? = n.units?.map (-·) := by
  rcases n with n | ⟨s, r⟩ | s | _
  · exact congrArg some (Int.neg_mul n _)
  · exact congrArg some (Double.signedUnits_not s r)
  · rfl
  · rfl

/-! ## 2. Places -/

def place (n : Number) : Int := n.units?.getD 0

/-- Whether a number has a place on the line, that is, a level between the infinities. -/
def IsPlaced (n : Number) : Prop := n.units? = some n.place

theorem IsPlaced.level? (h : n.IsPlaced) :
    n.level? = some ((n.place : WithTop Int) : WithBot (WithTop Int)) := by
  obtain ⟨a, hunits, hlevel⟩ | rfl | rfl | rfl := level?_cases n
  · rw [hlevel, place, hunits, Option.getD_some]
  · cases h
  · cases h
  · cases h

theorem lt_iff (hm : m.IsPlaced) (hn : n.IsPlaced) : m < n ↔ m.place < n.place := by
  simp [lt_iff_level, hm.level?, hn.level?]

theorem same_iff (hm : m.IsPlaced) (hn : n.IsPlaced) : m.same n = true ↔ m.place = n.place := by
  simp [same_iff_level, hm.level?, hn.level?]

theorem IsPlaced.lt_inf (h : n.IsPlaced) : n < .double (.inf false) := by
  simp [lt_iff_level, h.level?, level?_inf, coe_lt_top]

theorem IsPlaced.inf_lt (h : n.IsPlaced) : (double (.inf true)) < n := by
  simp [lt_iff_level, h.level?, level?_inf]

theorem place_neg (n : Number) : n.neg.place = -n.place := by
  rw [place, units?_neg, place]
  cases n.units? with
  | none => rfl
  | some a => rfl

theorem isPlaced_neg : n.neg.IsPlaced ↔ n.IsPlaced := by
  rw [IsPlaced, place_neg, units?_neg, IsPlaced]
  cases n.units? <;> simp

theorem isPlaced_double {x : Double} : (double x).IsPlaced ↔ x.isFinite = true := by
  cases x with
  | finite s r => exact ⟨fun _ => rfl, fun _ => rfl⟩
  | inf s => constructor <;> intro h <;> cases h
  | nan => constructor <;> intro h <;> cases h

theorem same_neg (h : m.same n = true) : m.neg.same n.neg = true := by
  unfold same at *
  rw [units?_neg, units?_neg]
  cases hm : m.units? <;> cases hn : n.units? <;> rw [hm, hn] at h
  · -- Without a place in units only an infinity is the same as itself.
    obtain ⟨rfl, hnan⟩ : m = n ∧ m ≠ .double .nan := by simpa using h
    rcases m with m | ⟨s, r⟩ | s | _
    · cases hm
    · cases hm
    · simp [neg, show -Double.inf s = .inf (!s) from rfl]
    · exact absurd rfl hnan
  · cases h
  · cases h
  · simpa using h

/-! ## 3. The first in an order -/

section Orders

variable {R : Number → Number → Prop} [DecidableRel R]

/-- The second of two numbers if it comes strictly before the first; of equal ones the first is kept. -/
def former (R : Number → Number → Prop) [DecidableRel R] (m n : Number) : Number :=
  if R n m then n else m

theorem former_cases (m n : Number) : former R m n = m ∨ former R m n = n := by
  unfold former
  split
  · exact .inr rfl
  · exact .inl rfl

/-- The first of numbers in an order, starting from a number after all of them. -/
def foremost (R : Number → Number → Prop) [DecidableRel R] (start : Number) (numbers : List Number) :
    Number :=
  numbers.foldl (former R) start

theorem foremost_mem (start : Number) : foremost R start numbers ∈ start :: numbers := by
  unfold foremost
  induction numbers generalizing start with
  | nil => exact List.mem_singleton.2 rfl
  | cons n rest ih =>
    rw [List.foldl_cons]
    rcases List.mem_cons.1 (ih (former R start n)) with h | h
    · rw [h]
      rcases former_cases (R := R) start n with hstart | hn
      · simp [hstart]
      · simp [hn]
    · exact List.mem_cons_of_mem _ (List.mem_cons_of_mem _ h)

-- A number before the start takes its place.
theorem foremost_cons {first start : Number} (h : R first start) (rest : List Number) :
    foremost R start (first :: rest) = foremost R first rest := by
  rw [foremost, List.foldl_cons, former, if_pos h, foremost]

-- Whichever comes first still does so where all are changed in a way that keeps the order.
theorem foremost_map_of_start {g : Number → Number} {start : Number}
    (hg : ∀ m ∈ start :: numbers, ∀ n ∈ start :: numbers, R (g m) (g n) ↔ R m n) :
    foremost R (g start) (numbers.map g) = g (foremost R start numbers) := by
  unfold foremost
  induction numbers generalizing start with
  | nil => rfl
  | cons next rest ih =>
    have hstep : former R (g start) (g next) = g (former R start next) := by
      unfold former
      by_cases h : R next start
      · rw [if_pos h, if_pos ((hg next (by simp) start (by simp)).2 h)]
      · rw [if_neg h, if_neg (mt (hg next (by simp) start (by simp)).1 h)]
    rw [List.map_cons, List.foldl_cons, List.foldl_cons, hstep]
    apply ih
    have hmem : ∀ k ∈ former R start next :: rest, k ∈ start :: next :: rest := by
      intro k hk
      rcases List.mem_cons.1 hk with rfl | hk
      · rcases former_cases (R := R) start next with h | h <;> simp [h]
      · simp [hk]
    exact fun m hm n hn => hg m (hmem m hm) n (hmem n hn)

theorem foremost_map {g : Number → Number} {start : Number} (hne : numbers ≠ [])
    (hstart : ∀ n ∈ numbers, R n start ∧ R (g n) start)
    (hg : ∀ m ∈ numbers, ∀ n ∈ numbers, R (g m) (g n) ↔ R m n) :
    foremost R start (numbers.map g) = g (foremost R start numbers) := by
  obtain ⟨first, rest, rfl⟩ := List.exists_cons_of_ne_nil hne
  obtain ⟨hfirst, hfirst'⟩ := hstart first List.mem_cons_self
  rw [List.map_cons, foremost_cons hfirst, foremost_cons hfirst', foremost_map_of_start hg]

/-! ## 4. Orders of values -/

variable {L : Type} [LinearOrder L] [OrderTop L]

/-- An order of numbers that is one of values.  A number without a value comes neither before nor after
another, and the start has the last value. -/
structure Ranks (R : Number → Number → Prop) (value : Number → Option L) (start : Number) : Prop where
  iff : ∀ {m n}, R m n ↔ ∃ a ∈ value m, ∃ b ∈ value n, a < b
  start : value start = some ⊤

namespace Ranks

variable {value : Number → Option L} {start : Number} (h : Ranks R value start) {a : L}
include h

-- What has no value is never chosen, and never hides what comes after it.
theorem value_former (ha : value m = some a) :
    value (former R m n) = some ((value n).elim a (min a)) := by
  unfold former
  cases hn : value n with
  | none =>
    rw [if_neg, ha]
    · rfl
    · simp [h.iff, hn]
  | some b =>
    have hlt : R n m ↔ b < a := by simp [h.iff, ha, hn]
    by_cases hba : b < a
    · rw [if_pos (hlt.2 hba), hn, Option.elim_some, min_eq_right hba.le]
    · rw [if_neg (mt hlt.1 hba), ha, Option.elim_some, min_eq_left (not_lt.1 hba)]

theorem value_foldl (ha : value m = some a) :
    value (numbers.foldl (former R) m) = some ((numbers.filterMap value).foldl min a) := by
  induction numbers generalizing m a with
  | nil => exact ha
  | cons n rest ih =>
    rw [List.foldl_cons, ih (h.value_former ha)]
    cases hn : value n with
    | none => rw [List.filterMap_cons_none hn]; rfl
    | some b => rw [List.filterMap_cons_some hn]; rfl

/-- The first of numbers has the least of their values. -/
theorem value_foremost :
    value (foremost R start numbers) = some ((numbers.filterMap value).foldl min ⊤) :=
  h.value_foldl h.start

theorem value_foremost_perm (hperm : numbers.Perm others) :
    value (foremost R start numbers) = value (foremost R start others) := by
  rw [h.value_foremost, h.value_foremost, (hperm.filterMap value).foldl_eq]

/-- No number comes before the first of them, which is one of them. -/
theorem foremost_spec (hne : numbers ≠ []) (hstart : ∀ n ∈ numbers, R n start) :
    foremost R start numbers ∈ numbers ∧ ∀ n ∈ numbers, ¬R n (foremost R start numbers) := by
  obtain ⟨least, hleast⟩ : ∃ least, (numbers.filterMap value).min? = some least := by
    obtain ⟨n, hn⟩ := List.exists_mem_of_ne_nil numbers hne
    obtain ⟨b, hb, -⟩ := h.iff.1 (hstart n hn)
    exact Option.isSome_iff_exists.1
      (List.isSome_min?_of_mem (List.mem_filterMap.2 ⟨n, hn, hb⟩))
  have hvalue : value (foremost R start numbers) = some least := by
    rw [h.value_foremost, List.foldl_min, hleast, min_eq_right le_top, Option.getD_some]
  obtain ⟨hmem, hle⟩ := List.min?_eq_some_iff.1 hleast
  constructor
  · refine (List.mem_cons.1 (foremost_mem start)).resolve_left fun hlast => ?_
    obtain ⟨n, hn, hb⟩ := List.mem_filterMap.1 hmem
    obtain ⟨b, hb', c, hc, hlt⟩ := h.iff.1 (hstart n hn)
    rw [hlast] at hvalue
    obtain rfl := Option.some.inj (hb.symm.trans hb')
    exact absurd hlt (by rw [Option.some.inj (hc.symm.trans hvalue)]; exact lt_irrefl _)
  · intro n hn hbefore
    obtain ⟨b, hb, c, hc, hlt⟩ := h.iff.1 hbefore
    obtain rfl := Option.some.inj (hc.symm.trans hvalue)
    exact absurd (hle b (List.mem_filterMap.2 ⟨n, hn, hb⟩)) (not_le.2 hlt)

end Ranks

end Orders

/-! ## 5. Least and greatest -/

def lowest (numbers : List Number) : Number := foremost (· < ·) (.double (.inf false)) numbers

def highest (numbers : List Number) : Number := foremost (· > ·) (.double (.inf true)) numbers

theorem ranks_lt : Ranks (· < ·) level? (.double (.inf false)) := ⟨lt_iff_level, rfl⟩

-- Upwards, levels are compared the other way around.
theorem ranks_gt :
    Ranks (L := (WithBot (WithTop Int))ᵒᵈ) (· > ·) level? (.double (.inf true)) where
  iff := by
    intro m n
    change n < m ↔ ∃ a ∈ m.level?, ∃ b ∈ n.level?, b < a
    rw [lt_iff_level]
    exact ⟨fun ⟨b, hb, a, ha, h⟩ => ⟨a, ha, b, hb, h⟩, fun ⟨a, ha, b, hb, h⟩ => ⟨b, hb, a, ha, h⟩⟩
  start := rfl

/-- The least of numbers is the minimum of their levels, infinity if there are none. -/
theorem level?_lowest :
    (lowest numbers).level? = some ((numbers.filterMap level?).min?.getD ⊤) := by
  rw [lowest, ranks_lt.value_foremost, List.foldl_min, min_eq_right le_top]

theorem level?_highest :
    (highest numbers).level? = some ((numbers.filterMap level?).max?.getD ⊥) := by
  have hfold : (highest numbers).level? = some ((numbers.filterMap level?).foldl max ⊥) :=
    ranks_gt.value_foremost
  rw [hfold, List.foldl_max, max_eq_right bot_le]

theorem same_lowest (h : numbers.Perm others) : (lowest numbers).same (lowest others) = true :=
  same_iff_level.2 ⟨_, level?_lowest, (ranks_lt.value_foremost_perm h).trans level?_lowest⟩

theorem same_highest (h : numbers.Perm others) : (highest numbers).same (highest others) = true :=
  same_iff_level.2 ⟨_, level?_highest, (ranks_gt.value_foremost_perm h).trans level?_highest⟩

theorem lowest_spec (hne : numbers ≠ []) (hplaced : ∀ n ∈ numbers, n.IsPlaced) :
    lowest numbers ∈ numbers ∧ ∀ n ∈ numbers, (lowest numbers).place ≤ n.place := by
  obtain ⟨hmem, hfirst⟩ := ranks_lt.foremost_spec hne fun n hn => (hplaced n hn).lt_inf
  exact ⟨hmem, fun n hn =>
    Int.not_lt.1 (mt (lt_iff (hplaced n hn) (hplaced _ hmem)).2 (hfirst n hn))⟩

theorem highest_spec (hne : numbers ≠ []) (hplaced : ∀ n ∈ numbers, n.IsPlaced) :
    highest numbers ∈ numbers ∧ ∀ n ∈ numbers, n.place ≤ (highest numbers).place := by
  obtain ⟨hmem, hfirst⟩ := ranks_gt.foremost_spec hne fun n hn => (hplaced n hn).inf_lt
  exact ⟨hmem, fun n hn =>
    Int.not_lt.1 (mt (lt_iff (hplaced _ hmem) (hplaced n hn)).2 (hfirst n hn))⟩

structure KeepsOrder (g : Number → Number) (numbers : List Number) : Prop where
  placed : ∀ n ∈ numbers, n.IsPlaced ∧ (g n).IsPlaced
  place_lt : ∀ m ∈ numbers, ∀ n ∈ numbers, (g m).place < (g n).place ↔ m.place < n.place

section KeepsOrder

variable {g : Number → Number}

theorem KeepsOrder.lt_iff (h : KeepsOrder g numbers) (hm : m ∈ numbers) (hn : n ∈ numbers) :
    g m < g n ↔ m < n := by
  obtain ⟨hm', hgm⟩ := h.placed m hm
  obtain ⟨hn', hgn⟩ := h.placed n hn
  rw [Number.lt_iff hgm hgn, h.place_lt m hm n hn, Number.lt_iff hm' hn']

theorem lowest_map (hne : numbers ≠ []) (h : KeepsOrder g numbers) :
    lowest (numbers.map g) = g (lowest numbers) :=
  foremost_map hne (fun n hn => (h.placed n hn).imp IsPlaced.lt_inf IsPlaced.lt_inf)
    fun _ hm _ hn => h.lt_iff hm hn

theorem highest_map (hne : numbers ≠ []) (h : KeepsOrder g numbers) :
    highest (numbers.map g) = g (highest numbers) :=
  foremost_map hne (fun n hn => (h.placed n hn).imp IsPlaced.inf_lt IsPlaced.inf_lt)
    fun _ hm _ hn => h.lt_iff hn hm

end KeepsOrder

end Number

end PenPlotter
