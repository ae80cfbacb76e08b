import Mathlib.Data.List.Induction
import Mathlib.Data.List.Nodup
import PenPlotter.Settings.Patch

/-!
# What a mapping proposes

All that counts of an entry is the field that its key names, by either name, and its content, if it has
one.  A mapping therefore comes down to the proposals of its entries, of which the last for a field
counts, and to any set of them if no field has two.
-/

set_option autoImplicit false

namespace PenPlotter

variable {s : String} {f g : Field} {key v : Value}

/-! ## 1. Names of fields -/

def Value.Names (key : Value) (f : Field) : Prop :=
  ∃ s, key = .text s ∧ (s = f.name ∨ f.alias? = some s)

namespace Field

theorem called?_eq_some : called? s = some f ↔ s = f.name ∨ f.alias? = some s := by
  constructor
  · intro h
    have hname := List.find?_some h
    rw [Bool.or_eq_true, decide_eq_true_eq, decide_eq_true_eq] at hname
    exact hname.imp_left Eq.symm
  · rintro (rfl | halias)
    · cases f <;> rfl
    · cases f <;> simp only [alias?, Option.some.injEq, reduceCtorEq] at halias
      all_goals
        subst halias
        rfl

theorem mem_all (f : Field) : f ∈ all := by cases f <;> decide

@[simp] theorem named?_name (f : Field) : named? f.name = some f := by cases f <;> rfl

@[simp] theorem called?_name (f : Field) : called? f.name = some f := called?_eq_some.2 (.inl rfl)

end Field

theorem Value.names_text : (Value.text s).Names f ↔ Field.called? s = some f := by
  rw [Field.called?_eq_some]
  constructor
  · rintro ⟨_, heq, h⟩
    cases heq
    exact h
  · intro h
    exact ⟨s, rfl, h⟩

namespace Patch

/-! ## 2. Proposals -/

def proposal? : Value × Value → Option (Field × Value)
  | (_, .null) => none
  | (.text key, v) => (Field.called? key).map (·, v)
  | _ => none

def proposals (entries : List (Value × Value)) : List (Field × Value) :=
  entries.filterMap proposal?

def ofProposals (ps : List (Field × Value)) : Patch := ps.foldl (fun p e => p.put e.1 e.2) empty

variable {ps qs : List (Field × Value)}

theorem proposal?_eq_some {w : Value} :
    proposal? (key, v) = some (f, w) ↔ key.Names f ∧ v ≠ .null ∧ v = w := by
  by_cases hv : v = .null
  · simp [hv, proposal?]
  cases key with
  | text s =>
    have hproposal : proposal? (.text s, v) = (Field.called? s).map (·, v) := by
      cases v with
      | null => exact absurd rfl hv
      | _ => rfl
    simp [hproposal, hv, Value.names_text]
  | _ => cases v <;> simp [proposal?, Value.Names]

-- An entry proposes nothing if it has no content, or its key names no field.
theorem proposal?_eq_none : proposal? (key, v) = none ↔ v = .null ∨ ∀ f, ¬key.Names f := by
  rw [Option.eq_none_iff_forall_ne_some, Prod.forall]
  simp only [ne_eq, proposal?_eq_some]
  constructor
  · intro h
    by_cases hv : v = .null
    · exact .inl hv
    · exact .inr fun f hf => h f v ⟨hf, hv, rfl⟩
  · rintro h f w ⟨hf, hv, -⟩
    exact h.elim hv (· f hf)

theorem ofEntries_eq (entries : List (Value × Value)) :
    ofEntries entries = ofProposals (proposals entries) := by
  rw [ofEntries, ofProposals, proposals, List.foldl_filterMap]
  congr 1
  funext p e
  rcases e with ⟨key, v⟩
  cases v with
  | null => rfl
  | _ =>
    cases key with
    | text s =>
      simp only [proposal?]
      cases Field.called? s <;> rfl
    | _ => rfl

theorem ofProposals_concat (ps : List (Field × Value)) (e : Field × Value) :
    ofProposals (ps ++ [e]) = (ofProposals ps).put e.1 e.2 := by
  rw [ofProposals, List.foldl_append]
  rfl

theorem put_apply (p : Patch) (f : Field) (v : Value) (g : Field) :
    p.put f v g = if g = f then some v else p g := rfl

theorem mem_of_ofProposals (h : ofProposals ps f = some v) : (f, v) ∈ ps := by
  induction ps using List.reverseRecOn with
  | nil => cases h
  | append_singleton ps e ih =>
    rw [ofProposals_concat, put_apply] at h
    split at h
    · next hf =>
      obtain rfl := Option.some.inj h
      simp [hf]
    · exact List.mem_append_left _ (ih h)

-- Without a second proposal for its field a proposal counts wherever it stands.
theorem ofProposals_eq_some (h : (ps.map Prod.fst).Nodup) :
    ofProposals ps f = some v ↔ (f, v) ∈ ps := by
  refine ⟨mem_of_ofProposals, fun hmem => ?_⟩
  induction ps using List.reverseRecOn with
  | nil => cases hmem
  | append_singleton ps e ih =>
    rw [List.map_append, List.nodup_append] at h
    obtain ⟨hps, -, hnew⟩ := h
    rw [ofProposals_concat, put_apply]
    obtain hmem | hmem := List.mem_append.1 hmem
    · have hf : f ≠ e.1 := hnew f (List.mem_map.2 ⟨_, hmem, rfl⟩) e.1 (by simp)
      rw [if_neg hf]
      exact ih hps hmem
    · obtain rfl := List.mem_singleton.1 hmem
      rw [if_pos rfl]

/-- Proposals for different fields give the same patch in any order. -/
theorem ofProposals_perm (h : (ps.map Prod.fst).Nodup) (hperm : qs.Perm ps) :
    ofProposals qs = ofProposals ps := by
  have h' : (qs.map Prod.fst).Nodup := (hperm.map _).nodup_iff.2 h
  funext f
  apply Option.ext
  intro v
  rw [ofProposals_eq_some h, ofProposals_eq_some h', hperm.mem_iff]

/-! ## 3. Patches on patches -/

def overriddenBy (p q : Patch) : Patch := fun f => (q f).or (p f)

theorem ofProposals_append (ps qs : List (Field × Value)) :
    ofProposals (ps ++ qs) = (ofProposals ps).overriddenBy (ofProposals qs) := by
  induction qs using List.reverseRecOn with
  | nil =>
    rw [List.append_nil]
    rfl
  | append_singleton qs e ih =>
    rw [← List.append_assoc, ofProposals_concat, ofProposals_concat, ih]
    funext f
    simp only [put_apply, overriddenBy]
    split <;> rfl

/-! ## 4. Patches as mappings -/

def named (ps : List (Field × Value)) : List (Value × Value) :=
  ps.map fun e => (.text e.1.name, e.2)

def toProposals (p : Patch) : List (Field × Value) := Field.all.filterMap fun f => (p f).map (f, ·)

def entries (p : Patch) : List (Value × Value) := named p.toProposals

theorem named_append (ps qs : List (Field × Value)) : named (ps ++ qs) = named ps ++ named qs :=
  List.map_append

theorem ofNamed_named (ps : List (Field × Value)) : ofNamed (named ps) = ofProposals ps := by
  rw [ofNamed, named, List.foldl_map, ofProposals]
  simp only [Field.named?_name]

theorem proposals_named (h : ∀ e ∈ ps, e.2 ≠ .null) : proposals (named ps) = ps := by
  rw [proposals, named, List.filterMap_map]
  conv_rhs => rw [← List.filterMap_some (l := ps)]
  refine List.filterMap_congr fun e he => ?_
  exact proposal?_eq_some.2 ⟨Value.names_text.2 (Field.called?_name e.1), h e he, rfl⟩

theorem mem_toProposals {p : Patch} : (f, v) ∈ p.toProposals ↔ p f = some v := by
  rw [toProposals, List.mem_filterMap]
  constructor
  · rintro ⟨g, -, hg⟩
    obtain ⟨w, hw, heq⟩ := Option.map_eq_some_iff.1 hg
    cases heq
    exact hw
  · intro h
    exact ⟨f, f.mem_all, by rw [h]; rfl⟩

theorem nodup_toProposals (p : Patch) : (p.toProposals.map Prod.fst).Nodup := by
  rw [toProposals, List.map_filterMap]
  refine List.Nodup.filterMap ?_ (show Field.all.Nodup by decide)
  intro f g h hf hg
  rw [Option.map_map] at hf hg
  obtain ⟨v, -, rfl⟩ := Option.map_eq_some_iff.1 hf
  obtain ⟨w, -, hw⟩ := Option.map_eq_some_iff.1 hg
  exact hw.symm

theorem ofProposals_toProposals (p : Patch) : ofProposals p.toProposals = p := by
  funext f
  apply Option.ext
  intro v
  rw [ofProposals_eq_some (nodup_toProposals p), mem_toProposals]

theorem ofEntries_ne_null (d : List (Value × Value)) (f : Field) : ofEntries d f ≠ some .null := by
  intro h
  rw [ofEntries_eq] at h
  obtain ⟨⟨key, v⟩, -, he⟩ := List.mem_filterMap.1 (mem_of_ofProposals h)
  obtain ⟨-, hv, rfl⟩ := proposal?_eq_some.1 he
  exact hv rfl

/-- A patch that came from mappings is what it is as a mapping. -/
theorem ofEntries_entries {p : Patch} (h : ∀ f, p f ≠ some .null) : ofEntries p.entries = p := by
  rw [ofEntries_eq, entries, proposals_named, ofProposals_toProposals]
  rintro ⟨f, v⟩ hmem rfl
  exact h f (mem_toProposals.1 hmem)

end Patch

end PenPlotter
