import Mathlib.Logic.Relation
import PenPlotter.Proofs.Settings.Proposals

/-!
# How a mapping is written down

The order of the entries of a mapping, the names by which they call the fields, keys that name no field
and entries without a content do not matter, as long as no field is called twice.
-/

set_option autoImplicit false

namespace PenPlotter

/-- No two entries with a content call the same field. -/
def Unambiguous (d : List (Value × Value)) : Prop :=
  d.Pairwise fun a b => ∀ f, a.1.Names f → b.1.Names f → a.2 = .null ∨ b.2 = .null

/-- One mapping is the other in another order, or with one entry more or less, or one key renamed.  The
new key may be there already: entries that propose nothing are not seen either way. -/
inductive Rewords : List (Value × Value) → List (Value × Value) → Prop where
  | permute {d d' : List (Value × Value)} (order : d.Perm d') : Rewords d d'
  /-- A key gives way to another one for the same field, or for none as well. -/
  | rename (front : List (Value × Value)) {back : List (Value × Value)} {key key' v : Value}
    (same : ∀ f, key.Names f ↔ key'.Names f) :
    Rewords (front ++ (key, v) :: back) (front ++ (key', v) :: back)
  | addUnknown {d : List (Value × Value)} {key v : Value} (unknown : ∀ f, ¬key.Names f) :
    Rewords d ((key, v) :: d)
  | addNull {d : List (Value × Value)} (key : Value) : Rewords d ((key, .null) :: d)
  | dropNull {d : List (Value × Value)} (key : Value) : Rewords ((key, .null) :: d) d

variable {d d' : List (Value × Value)}

namespace Patch

theorem nodup_proposals (h : Unambiguous d) : ((proposals d).map Prod.fst).Nodup := by
  rw [List.Nodup, List.pairwise_map, proposals, List.pairwise_filterMap]
  refine h.imp ?_
  rintro ⟨key, v⟩ ⟨key', v'⟩ hab ⟨f, w⟩ ha ⟨g, w'⟩ hb rfl
  obtain ⟨hf, hv, -⟩ := proposal?_eq_some.1 ha
  obtain ⟨hg, hv', -⟩ := proposal?_eq_some.1 hb
  exact (hab f hf hg).elim hv hv'

theorem proposals_cons_of_none {e : Value × Value} (h : proposal? e = none) :
    proposals (e :: d) = proposals d := List.filterMap_cons_none h

theorem proposals_perm_of_rewords (h : Rewords d d') : (proposals d').Perm (proposals d) := by
  cases h with
  | permute order => exact (order.filterMap _).symm
  | @rename front back key key' v same =>
    have hproposal : proposal? (key', v) = proposal? (key, v) := by
      apply Option.ext
      rintro ⟨f, w⟩
      rw [proposal?_eq_some, proposal?_eq_some, same]
    rw [proposals, proposals, List.filterMap_append, List.filterMap_append, List.filterMap_cons,
      List.filterMap_cons, hproposal]
  | addUnknown unknown => rw [proposals_cons_of_none (proposal?_eq_none.2 (.inr unknown))]
  | addNull key => rw [proposals_cons_of_none (proposal?_eq_none.2 (.inl rfl))]
  | dropNull key => rw [proposals_cons_of_none (proposal?_eq_none.2 (.inl rfl))]

theorem proposals_perm (h : Relation.ReflTransGen Rewords d d') :
    (proposals d').Perm (proposals d) := by
  induction h with
  | refl => exact .refl _
  | tail _ hstep ih => exact (proposals_perm_of_rewords hstep).trans ih

theorem ofEntries_reworded (hd : Unambiguous d) (h : Relation.ReflTransGen Rewords d d') :
    ofEntries d' = ofEntries d := by
  rw [ofEntries_eq, ofEntries_eq]
  exact ofProposals_perm (nodup_proposals hd) (proposals_perm h)

end Patch

namespace Settings

/-- **The presentation of a mapping does not matter.**  A mapping that calls no field twice gives the
same settings, or the same rejections in the same order, however it is written down, on its own and on
top of any settings. -/
theorem revise_reworded (c : Settings) (hd : Unambiguous d)
    (h : Relation.ReflTransGen Rewords d d') :
    c.revise (.ofEntries d') = c.revise (.ofEntries d) ∧
      Settings.ofEntries d' = Settings.ofEntries d := by
  have hpatch := Patch.ofEntries_reworded hd h
  exact ⟨by rw [hpatch], by rw [Settings.ofEntries, hpatch, Settings.ofEntries]⟩

theorem names_iff_of_called {s t : String} {f : Field} (hs : Field.called? s = some f)
    (ht : Field.called? t = some f) (g : Field) : (Value.text s).Names g ↔ (Value.text t).Names g := by
  rw [Value.names_text, Value.names_text, hs, ht]

/-- Two faults are reported in the order of the fields, whichever comes first. -/
theorem revise_reworded_sample :
    let d : List (Value × Value) :=
      [(.text "feedRate", .text "fast"), (.text "end", .null), (.text "pen_up", .number (.int 5))]
    let d' : List (Value × Value) :=
      [(.text "laserPower", .bool true), (.text "penUp", .number (.int 5)),
        (.text "feed_rate", .text "fast")]
    Unambiguous d ∧ Relation.ReflTransGen Rewords d d' ∧
      standard.revise (.ofEntries d) =
        .error [⟨.penUp, .commandNotText "int"⟩, ⟨.feedRate, .feedMalformed⟩] ∧
      standard.revise (.ofEntries d') = standard.revise (.ofEntries d) ∧
      Settings.ofEntries d' = Settings.ofEntries d := by
  intro d d'
  have hfeed : Field.called? "feedRate" = some .feedRate := rfl
  have hpen : Field.called? "pen_up" = some .penUp := rfl
  have hd : Unambiguous d := by
    refine .cons ?_ (.cons ?_ (.cons ?_ .nil))
    · intro b hb f hf hf'
      simp only [List.mem_cons, List.not_mem_nil, or_false] at hb
      obtain rfl | rfl := hb
      · exact .inr rfl
      · rw [Value.names_text, hfeed] at hf
        rw [Value.names_text, hpen, ← hf] at hf'
        cases hf'
    · intro b _ f _ _
      exact .inl rfl
    · nofun
  have h : Relation.ReflTransGen Rewords d d' := by
    have hlast : ∀ e, Rewords [e, (.text "feedRate", .text "fast")]
        [e, (.text "feed_rate", .text "fast")] :=
      fun e => .rename [e] (names_iff_of_called hfeed rfl)
    have hfirst : ∀ e, Rewords [(.text "pen_up", .number (.int 5)), e]
        [(.text "penUp", .number (.int 5)), e] :=
      fun _ => .rename [] (names_iff_of_called hpen rfl)
    have hunknown : ∀ f, ¬(Value.text "laserPower").Names f := by
      intro f hf
      rw [Value.names_text] at hf
      cases hf
    refine .head (.permute (.swap _ _ _)) (.head (.dropNull _) ?_)
    refine .head (.permute (.swap _ _ _)) (.head (hlast _) (.head (hfirst _) ?_))
    exact .single (.addUnknown hunknown)
  exact ⟨hd, h, by decide +kernel, revise_reworded standard hd h⟩

end Settings

end PenPlotter
