import Mathlib.Data.List.DropRight

/-!
# Runs of operations

A run performs operations one after the other, each on the state that the one before it left, whether
that one failed or not.  What is said of the operations of a run as a whole is said here through what
one operation more adds at the end, so that it can be proved by induction from the last one on.
-/

set_option autoImplicit false

namespace PenPlotter

structure Step (σ ω α : Type) where
  before : σ
  operation : ω
  answer : α
  after : σ

namespace Run

/-! ## 1. Steps -/

section Steps

variable {σ ω α : Type} (perform : σ → ω → σ × α)

def step (s : σ) (op : ω) : Step σ ω α := ⟨s, op, (perform s op).2, (perform s op).1⟩

def steps (s : σ) : List ω → List (Step σ ω α)
  | [] => []
  | op :: ops => step perform s op :: steps (perform s op).1 ops

def final (s : σ) (ops : List ω) : σ := ops.foldl (fun s op => (perform s op).1) s

theorem final_cons (s : σ) (op : ω) (ops : List ω) :
    final perform s (op :: ops) = final perform (perform s op).1 ops :=
  List.foldl_cons

theorem final_append (s : σ) (ops more : List ω) :
    final perform s (ops ++ more) = final perform (final perform s ops) more :=
  List.foldl_append

theorem final_concat (s : σ) (ops : List ω) (op : ω) :
    final perform s (ops ++ [op]) = (perform (final perform s ops) op).1 :=
  final_append perform s ops [op]

theorem final_invariant {P : σ → Prop} (hstep : ∀ s op, P s → P (perform s op).1) {s : σ} (hs : P s)
    (ops : List ω) : P (final perform s ops) := by
  induction ops generalizing s with
  | nil => exact hs
  | cons op ops ih => exact ih (hstep s op hs)

theorem steps_append (s : σ) (ops more : List ω) :
    steps perform s (ops ++ more) =
      steps perform s ops ++ steps perform (final perform s ops) more := by
  induction ops generalizing s with
  | nil => rfl
  | cons op ops ih => exact congrArg (step perform s op :: ·) (ih (perform s op).1)

theorem steps_concat (s : σ) (ops : List ω) (op : ω) :
    steps perform s (ops ++ [op]) =
      steps perform s ops ++ [step perform (final perform s ops) op] :=
  steps_append perform s ops [op]

theorem map_operation_steps (s : σ) (ops : List ω) :
    (steps perform s ops).map (·.operation) = ops := by
  induction ops generalizing s with
  | nil => rfl
  | cons op ops ih => exact congrArg (op :: ·) (ih (perform s op).1)

-- A step of a run is one from some state, with all that its operation does there.
theorem exists_of_mem_steps {s : σ} {ops : List ω} {st : Step σ ω α} (h : st ∈ steps perform s ops) :
    ∃ before op, st = step perform before op := by
  induction ops generalizing s with
  | nil => cases h
  | cons op ops ih =>
    rcases List.mem_cons.1 h with rfl | hrest
    · exact ⟨s, op, rfl⟩
    · exact ih hrest

end Steps

/-! ## 2. The last of its kind -/

section Last

variable {α : Type} {p q : α → Bool}

def sinceLast (p : α → Bool) (l : List α) : List α := l.rtakeWhile fun a => !p a

theorem sinceLast_concat (l : List α) (a : α) :
    sinceLast p (l ++ [a]) = if p a then [] else sinceLast p l ++ [a] := by
  unfold sinceLast
  rw [List.rtakeWhile_concat]
  cases p a <;> rfl

theorem filterMap_concat {β : Type} (f : α → Option β) (l : List α) (a : α) :
    (l ++ [a]).filterMap f = l.filterMap f ++ (f a).toList := by
  rw [List.filterMap_append]
  cases h : f a <;> simp [h]

-- What is gathered since the last element with a property begins anew with each of these.
theorem filterMap_sinceLast_concat {β : Type} (f : α → Option β) (l : List α) (a : α) :
    (sinceLast p (l ++ [a])).filterMap f =
      if p a then [] else (sinceLast p l).filterMap f ++ (f a).toList := by
  rw [sinceLast_concat]
  cases p a with
  | true => rfl
  | false => exact filterMap_concat f (sinceLast p l) a

theorem getLast?_filterMap_concat {β : Type} (f : α → Option β) (l : List α) (a : α) :
    ((l ++ [a]).filterMap f).getLast? = (f a).or (l.filterMap f).getLast? := by
  rw [filterMap_concat, List.getLast?_append]
  cases f a <;> rfl

-- What holds of every element and those before it holds of the last one and all others.
theorem forall_split_concat {P : List α → α → Prop} {l : List α} {a : α} :
    (∀ front b rest, l ++ [a] = front ++ b :: rest → P front b) ↔
      (∀ front b rest, l = front ++ b :: rest → P front b) ∧ P l a := by
  constructor
  · intro h
    exact ⟨fun front b rest hl => h front b (rest ++ [a]) (by simp [hl]), h l a [] rfl⟩
  · rintro ⟨h, ha⟩ front b rest hsplit
    rcases List.eq_nil_or_concat rest with rfl | ⟨rest, c, rfl⟩
    · obtain ⟨rfl, hab⟩ := List.append_inj' hsplit rfl
      obtain rfl := List.singleton_inj.1 hab
      exact ha
    · have hinner : l ++ [a] = (front ++ b :: rest) ++ [c] := by simpa using hsplit
      exact h front b rest (List.append_inj' hinner rfl).1

/-- Whether something with the property `p` has come and nothing with `q` after it. -/
def Since (p q : α → Bool) (l : List α) : Prop :=
  ∃ front a rest, l = front ++ a :: rest ∧ p a = true ∧ ∀ b ∈ rest, q b = false

theorem not_since_nil : ¬Since p q [] := by
  rintro ⟨front, a, rest, h, -⟩
  simp at h

theorem since_concat {l : List α} {a : α} :
    Since p q (l ++ [a]) ↔ p a = true ∨ q a = false ∧ Since p q l := by
  constructor
  · rintro ⟨front, b, rest, h, hb, hrest⟩
    -- Either the last element is the one with `p`, or it is the last of those after it.
    rcases List.eq_nil_or_concat rest with rfl | ⟨rest, c, rfl⟩
    · obtain ⟨-, hab⟩ := List.append_inj' h rfl
      obtain rfl := List.singleton_inj.1 hab
      exact .inl hb
    · have hsplit : l ++ [a] = (front ++ b :: rest) ++ [c] := by simpa using h
      obtain ⟨rfl, hac⟩ := List.append_inj' hsplit rfl
      obtain rfl := List.singleton_inj.1 hac
      exact .inr ⟨hrest a (by simp), front, b, rest, rfl, hb, fun d hd => hrest d (by simp [hd])⟩
  · rintro (ha | ⟨ha, front, b, rest, rfl, hb, hrest⟩)
    · exact ⟨l, a, [], rfl, ha, by simp⟩
    · refine ⟨front, b, rest ++ [a], by simp, hb, ?_⟩
      rw [List.forall_mem_append, List.forall_mem_singleton]
      exact ⟨hrest, ha⟩

theorem since_cons {l : List α} {a : α} :
    Since p q (a :: l) ↔ Since p q l ∨ p a = true ∧ ∀ b ∈ l, q b = false := by
  constructor
  · rintro ⟨front, b, rest, h, hb, hrest⟩
    cases front with
    | nil =>
      obtain ⟨rfl, rfl⟩ := List.cons.inj h
      exact .inr ⟨hb, hrest⟩
    | cons c front =>
      obtain ⟨rfl, rfl⟩ := List.cons.inj h
      exact .inl ⟨front, b, rest, rfl, hb, hrest⟩
  · rintro (⟨front, b, rest, rfl, hb, hrest⟩ | ⟨ha, hl⟩)
    · exact ⟨a :: front, b, rest, rfl, hb, hrest⟩
    · exact ⟨[], a, l, rfl, ha, hl⟩

theorem exists_of_since {l : List α} (h : Since p q l) : ∃ a ∈ l, p a = true := by
  obtain ⟨front, a, rest, rfl, ha, -⟩ := h
  exact ⟨a, by simp, ha⟩

theorem since_self_iff {l : List α} : Since p p l ↔ ∃ a ∈ l, p a = true := by
  induction l using List.reverseRecOn with
  | nil => exact iff_of_false not_since_nil (by simp)
  | append_singleton l a ih =>
    rw [since_concat, ih]
    cases ha : p a with
    | true => simp [ha]
    | false => simp [ha, or_and_right, exists_or]

-- What is stopped within a list is stopped there in any longer one.
theorem takeWhile_append_of_stopped {l more : List α} (h : ∃ a ∈ l, p a = false) :
    (l ++ more).takeWhile p = l.takeWhile p := by
  obtain ⟨a, ha, hp⟩ := h
  rw [List.takeWhile_append, if_neg]
  intro hlength
  have hall := List.takeWhile_eq_self_iff.1 ((List.takeWhile_prefix p).eq_of_length hlength)
  exact Bool.false_ne_true (hp.symm.trans (hall a ha))

end Last

end Run

end PenPlotter
