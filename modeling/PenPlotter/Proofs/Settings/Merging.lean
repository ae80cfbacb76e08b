import PenPlotter.Proofs.Settings.Proposals

/-!
# Merging

Settings are merged with a mapping as if all of them were written down, overridden by what the mapping
proposes, and checked anew: what was accepted once is accepted again as it is.  Merging twice is merging
once with both mappings, the second on top of the first.
-/

set_option autoImplicit false

namespace PenPlotter

/-! ## 1. Accepted values -/

theorem commandOf_text (c : Command) : commandOf (.text c.text) = .ok c := by
  have hcommand : Command.of? c.text = some c := dif_pos c.single
  rw [commandOf, hcommand]

theorem feedOf_int {n : Int} (h : 0 < n) : feedOf (.number (.int n)) = .ok ⟨n, h⟩ :=
  dif_pos h

theorem scaleOf_double {x : Double} (hfinite : x.isFinite = true) (hpos : 0 < x) :
    scaleOf (.number (.double x)) = .ok ⟨x, hfinite, hpos⟩ := by
  show dite _ _ _ = _
  rw [dif_pos hfinite, dif_pos hpos]
  rfl

/-! ## 2. Fields -/

section Proposal

variable {α : Type} {p q : Patch} {f : Field} {check : Value → Except Fault α} {a b c other : α}

theorem proposal_self (h : proposal p f check a = .ok b) : proposal p f check b = .ok b := by
  unfold proposal at h ⊢
  cases hv : p f with
  | none => rfl
  | some v => simpa only [hv] using h

theorem proposal_overriddenBy (hp : proposal p f check a = .ok b)
    (hq : proposal q f check b = .ok c) : proposal (p.overriddenBy q) f check a = .ok c := by
  unfold proposal Patch.overriddenBy at *
  cases hv : q f with
  | none =>
    rw [hv] at hq
    rw [Option.none_or, hp]
    exact hq
  | some v =>
    rw [hv] at hq
    exact hq

-- A proposal that passes as the present value changes nothing, whatever else was in force.
theorem proposal_complete {value : Field → Value} (h : check (value f) = .ok a) :
    proposal (Patch.overriddenBy (fun g => some (value g)) p) f check other =
      proposal p f check a := by
  unfold proposal Patch.overriddenBy
  cases hv : p f with
  | none => simp [h]
  | some v => rfl

end Proposal

namespace Settings

variable {s s' s'' : Settings} {p q : Patch}

theorem revise_eq_ok : s.revise p = .ok s' ↔
    proposal p .penUp commandOf s.penUp = .ok s'.penUp ∧
    proposal p .penDown commandOf s.penDown = .ok s'.penDown ∧
    proposal p .feedRate feedOf ⟨s.feedRate, s.feed_pos⟩ = .ok ⟨s'.feedRate, s'.feed_pos⟩ ∧
    proposal p .start commandOf s.start = .ok s'.start ∧
    proposal p .finish commandOf s.finish = .ok s'.finish ∧
    proposal p .scalePercent scaleOf ⟨s.scalePercent, s.scale_finite, s.scale_pos⟩ =
      .ok ⟨s'.scalePercent, s'.scale_finite, s'.scale_pos⟩ := by
  unfold revise
  constructor
  · intro h
    dsimp only at h
    split at h
    · next h₁ h₂ h₃ h₄ h₅ h₆ =>
      obtain rfl := Except.ok.inj h
      exact ⟨h₁, h₂, h₃, h₄, h₅, h₆⟩
    · cases h
  · rintro ⟨h₁, h₂, h₃, h₄, h₅, h₆⟩
    simp only [h₁, h₂, h₃, h₄, h₅, h₆]

theorem revise_empty (s : Settings) : s.revise .empty = .ok s := rfl

/-- A patch that is in force changes nothing. -/
theorem revise_self (h : s.revise p = .ok s') : s'.revise p = .ok s' := by
  obtain ⟨h₁, h₂, h₃, h₄, h₅, h₆⟩ := revise_eq_ok.1 h
  exact revise_eq_ok.2 ⟨proposal_self h₁, proposal_self h₂, proposal_self h₃, proposal_self h₄,
    proposal_self h₅, proposal_self h₆⟩

/-- A patch and then another are one patch. -/
theorem revise_overriddenBy (hp : s.revise p = .ok s') (hq : s'.revise q = .ok s'') :
    s.revise (p.overriddenBy q) = .ok s'' := by
  obtain ⟨h₁, h₂, h₃, h₄, h₅, h₆⟩ := revise_eq_ok.1 hp
  obtain ⟨k₁, k₂, k₃, k₄, k₅, k₆⟩ := revise_eq_ok.1 hq
  exact revise_eq_ok.2 ⟨proposal_overriddenBy h₁ k₁, proposal_overriddenBy h₂ k₂,
    proposal_overriddenBy h₃ k₃, proposal_overriddenBy h₄ k₄, proposal_overriddenBy h₅ k₅,
    proposal_overriddenBy h₆ k₆⟩

/-! ## 3. Settings as values -/

def value (s : Settings) : Field → Value
  | .penUp => .text s.penUp.text
  | .penDown => .text s.penDown.text
  | .feedRate => .number (.int s.feedRate)
  | .start => .text s.start.text
  | .finish => .text s.finish.text
  | .scalePercent => .number (.double s.scalePercent)

def entries (s : Settings) : List (Value × Value) :=
  Patch.named (Field.all.map fun f => (f, s.value f))

/-- The settings that entries with the fields' own names give, the standard ones where they give
none. -/
def ofNamed (entries : List (Value × Value)) : Except (List Rejection) Settings :=
  standard.revise (.ofNamed entries)

/-- Writes all settings down, puts what a mapping proposes on top, and checks everything. -/
def merged (s : Settings) (d : List (Value × Value)) : Except (List Rejection) Settings :=
  ofNamed (s.entries ++ (Patch.ofEntries d).entries)

theorem revise_complete (s t : Settings) (p : Patch) :
    t.revise (Patch.overriddenBy (fun f => some (s.value f)) p) = s.revise p := by
  have hpenUp : commandOf (s.value .penUp) = .ok s.penUp := commandOf_text _
  have hpenDown : commandOf (s.value .penDown) = .ok s.penDown := commandOf_text _
  have hfeed : feedOf (s.value .feedRate) = .ok ⟨s.feedRate, s.feed_pos⟩ := feedOf_int s.feed_pos
  have hstart : commandOf (s.value .start) = .ok s.start := commandOf_text _
  have hfinish : commandOf (s.value .finish) = .ok s.finish := commandOf_text _
  have hscale : scaleOf (s.value .scalePercent) =
      .ok ⟨s.scalePercent, s.scale_finite, s.scale_pos⟩ :=
    scaleOf_double s.scale_finite s.scale_pos
  unfold revise
  rw [proposal_complete hpenUp, proposal_complete hpenDown, proposal_complete hfeed,
    proposal_complete hstart, proposal_complete hfinish, proposal_complete hscale]

theorem ofProposals_value (s : Settings) :
    Patch.ofProposals (Field.all.map fun f => (f, s.value f)) = fun f => some (s.value f) := by
  funext f
  have hfields : (Field.all.map fun f => (f, s.value f)).map Prod.fst = Field.all := rfl
  apply (Patch.ofProposals_eq_some (by rw [hfields]; decide)).2
  exact List.mem_map.2 ⟨f, f.mem_all, rfl⟩

/-- What was accepted is accepted again, so only the proposals of a mapping need a check. -/
theorem merged_eq_revise (s : Settings) (d : List (Value × Value)) :
    s.merged d = s.revise (.ofEntries d) := by
  rw [merged, ofNamed, entries, Patch.entries, ← Patch.named_append, Patch.ofNamed_named,
    Patch.ofProposals_append, ofProposals_value, Patch.ofProposals_toProposals, revise_complete]

/-! ## 4. Mappings -/

theorem ofEntries_eq_ofNamed (d : List (Value × Value)) :
    Settings.ofEntries d = ofNamed (Patch.ofEntries d).entries := by
  rw [Settings.ofEntries, ofNamed, Patch.entries, Patch.ofNamed_named,
    Patch.ofProposals_toProposals]

/-- **Merging is an action of mappings.**  Merging with nothing changes nothing, merging twice with one
mapping is merging once, and merging with one and then another is merging with the entries of the first,
overridden by those of the second.  It is the same whether the settings are written down and checked
anew or kept, so a mapping alone gives what the standard settings merged with it are, or the same
rejections. -/
theorem revise_action {c c' c'' : Settings} {p q : List (Value × Value)}
    (hp : c.revise (.ofEntries p) = .ok c') (hq : c'.revise (.ofEntries q) = .ok c'') :
    c.revise (.ofEntries []) = .ok c ∧
    c'.revise (.ofEntries p) = .ok c' ∧
    c.revise (.ofEntries ((Patch.ofEntries p).overriddenBy (.ofEntries q)).entries) = .ok c'' ∧
    (∀ (s : Settings) (d : List (Value × Value)), s.revise (.ofEntries d) = s.merged d) ∧
    ∀ d : List (Value × Value), Settings.ofEntries d = ofNamed (Patch.ofEntries d).entries ∧
      Settings.ofEntries d = standard.merged d := by
  refine ⟨revise_empty c, revise_self hp, ?_, fun s d => (merged_eq_revise s d).symm,
    fun d => ⟨ofEntries_eq_ofNamed d, (merged_eq_revise standard d).symm⟩⟩
  rw [Patch.ofEntries_entries]
  · exact revise_overriddenBy hp hq
  · intro f h
    rw [Patch.overriddenBy, Option.or_eq_some_iff] at h
    obtain h | ⟨-, h⟩ := h
    · exact Patch.ofEntries_ne_null q f h
    · exact Patch.ofEntries_ne_null p f h

/-- A feed as text that is overridden by an integer of more bits than a double has, and a scale as text. -/
theorem revise_action_sample :
    let p : List (Value × Value) :=
      [(.text "feedRate", .text " 1_500.0 "), (.text "penUp", .text "G0 Z5"), (.text "start", .null),
        (.number (.int 7), .text "ignored")]
    let q : List (Value × Value) :=
      [(.text "scalePercent", .text "75.5"),
        (.text "feed_rate", .number (.int 1000000000000000000000000000001))]
    let r := ((Patch.ofEntries p).overriddenBy (.ofEntries q)).entries
    ∃ c' c'' : Settings, standard.revise (.ofEntries p) = .ok c' ∧
      c'.revise (.ofEntries q) = .ok c'' ∧
      c'.feedRate = 1500 ∧ c''.feedRate = 1000000000000000000000000000001 ∧
      c'.revise (.ofEntries p) = .ok c' ∧ standard.revise (.ofEntries r) = .ok c'' := by
  intro p q r
  let c' : Settings :=
    { standard with penUp := ⟨"G0 Z5", by decide⟩, feedRate := 1500, feed_pos := by decide }
  let c'' : Settings :=
    { c' with
      feedRate := 1000000000000000000000000000001
      scalePercent := .ofDecimal false 755 (-1)
      feed_pos := by decide
      scale_finite := by decide +kernel
      scale_pos := by decide +kernel }
  have hp : standard.revise (.ofEntries p) = .ok c' := by decide +kernel
  have hq : c'.revise (.ofEntries q) = .ok c'' := by decide +kernel
  obtain ⟨-, hself, hboth, -⟩ := revise_action hp hq
  exact ⟨c', c'', hp, hq, rfl, rfl, hself, hboth⟩

end Settings

end PenPlotter
