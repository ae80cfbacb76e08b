import PenPlotter.CommandLine.Request
import PenPlotter.Proofs.Except

/-!
# Accepted requests

What is known of a request that was read from a command line: it asks for one drawing, and patterns
and levels are among those that there are.
-/

set_option autoImplicit false

namespace PenPlotter.CommandLine.Request

variable {r r' : Request} {p : Parameter} {text : String}

/-- At most one drawing is asked for, and what has to be among some choices is. -/
structure Sensible (r : Request) : Prop where
  pattern : ∀ name, r.pattern = .value name → name ∈ Pattern.names
  logLevel : ∀ level, r.logLevel = .value level → level ∈ levels
  single : r.segments = .absent ∨ r.pattern = .absent

theorem sensible_empty : empty.Sensible := ⟨nofun, nofun, .inl rfl⟩

theorem absent_of_isGiven {α : Type} {g : Given α} (h : ¬g.isGiven = true) : g = .absent := by
  cases g with
  | absent => rfl
  | blank => exact absurd rfl h
  | value a => exact absurd rfl h

theorem given_among {q : Parameter} {choices : List String} {f : String → String}
    {g : Given String} (h : given text (fun s => among q choices (f s)) = .ok g) :
    ∀ a, g = .value a → a ∈ choices := by
  rintro a rfl
  rw [given] at h
  split at h
  · cases h
  · cases hread : among q choices (f text) with
    | error e => simp [hread, Except.map] at h
    | ok b =>
      obtain rfl : b = a := by simpa [hread, Except.map] using h
      rw [among] at hread
      split at hread
      · next hmem =>
        obtain rfl := Except.ok.inj hread
        simpa using hmem
      · cases hread

theorem sensible_put (hr : r.Sensible) (h : r.put p text = .ok r') : r'.Sensible := by
  cases p with
  | segments =>
    simp only [put] at h
    split at h
    · cases h
    next hpattern =>
    obtain ⟨g, -, h⟩ := bind_eq_ok.mp h
    obtain rfl := Except.ok.inj h
    exact ⟨hr.pattern, hr.logLevel, .inr (absent_of_isGiven hpattern)⟩
  | pattern =>
    simp only [put] at h
    obtain ⟨g, hg, h⟩ := bind_eq_ok.mp h
    split at h
    · cases h
    next hsegments =>
    obtain rfl := Except.ok.inj h
    exact ⟨given_among (f := id) hg, hr.logLevel, .inl (absent_of_isGiven hsegments)⟩
  | logLevel =>
    obtain ⟨g, hg, h⟩ := bind_eq_ok.mp h
    obtain rfl := Except.ok.inj h
    exact ⟨hr.pattern, given_among hg, hr.single⟩
  | help | stdout | check =>
    obtain rfl := Except.ok.inj h
    exact hr
  | _ =>
    obtain ⟨g, -, h⟩ := bind_eq_ok.mp h
    obtain rfl := Except.ok.inj h
    exact ⟨hr.pattern, hr.logLevel, hr.single⟩

theorem sensible_set (hr : r.Sensible) (h : r.set p = .ok r') : r'.Sensible := by
  cases p with
  | help => cases h
  | _ =>
    obtain rfl := Except.ok.inj h
    exact ⟨hr.pattern, hr.logLevel, hr.single⟩

-- Words that belong to nothing are kept, and what follows them is read as if they were not there.
theorem read_of_keep {rest : List Word} {left : List String}
    (h : read.keep r text rest = .ok (r', left)) : ∃ left', r.read rest = .ok (r', left') := by
  rw [read.keep] at h
  obtain ⟨⟨r'', left'⟩, hread, h⟩ := bind_eq_ok.mp h
  obtain ⟨rfl, -⟩ := Prod.mk.inj (Except.ok.inj h)
  exact ⟨left', hread⟩

theorem sensible_read {words : List Word} {left : List String} (hr : r.Sensible)
    (h : r.read words = .ok (r', left)) : r'.Sensible := by
  induction r, words using Request.read.induct (fun r _ rest =>
      ∀ {left}, r.Sensible → r.read rest = .ok (r', left) → r'.Sensible)
    generalizing left with
  | case1 r text rest ih => exact ih ‹_› ‹_›
  | case2 r =>
    rw [read] at h
    obtain ⟨rfl, -⟩ := Prod.mk.inj (Except.ok.inj h)
    exact hr
  | case3 r text rest ih | case4 r text rest ih | case5 r rest ih =>
    rw [read] at h
    obtain ⟨left', hread⟩ := read_of_keep h
    exact ih hr hread
  | case6 r p name value rest htakes ih =>
    rw [read, if_pos htakes] at h
    obtain ⟨r₁, hput, h⟩ := bind_eq_ok.mp h
    exact ih r₁ (sensible_put hr hput) h
  | case7 r p name value rest htakes hlong ih =>
    rw [read, if_neg htakes, if_pos hlong] at h
    cases h
  | case8 r p name value rest htakes hshort ih =>
    rw [read, if_neg htakes, if_neg hshort] at h
    obtain ⟨-, -, h⟩ := bind_eq_ok.mp h
    obtain ⟨r₁, hset, h⟩ := bind_eq_ok.mp h
    exact ih r₁ (sensible_set hr hset) h
  | case9 r p name htakes value rest ih =>
    rw [read, if_pos htakes] at h
    obtain ⟨r₁, hput, h⟩ := bind_eq_ok.mp h
    exact ih r₁ (sensible_put hr hput) h
  | case10 r p name rest htakes hnone =>
    rw [read, if_pos htakes] at h
    · cases h
    · exact hnone
  | case11 r p name rest htakes ih =>
    rw [read.eq_def] at h
    dsimp only at h
    rw [if_neg htakes] at h
    obtain ⟨r₁, hset, h⟩ := bind_eq_ok.mp h
    exact ih r₁ (sensible_set hr hset) h

/-- A request that was read asks for exactly one drawing, in a sensible way. -/
theorem sensible_of_accepted {arguments : List String} (h : ofArguments arguments = .ok r) :
    r.Sensible ∧ (r.segments ≠ .absent ∨ r.pattern ≠ .absent) := by
  rw [ofArguments] at h
  obtain ⟨words, -, h⟩ := bind_eq_ok.mp h
  obtain ⟨⟨r₁, left⟩, hread, h⟩ := bind_eq_ok.mp h
  dsimp only at h
  split at h
  · cases h
  next hgiven =>
  split at h
  · obtain rfl := Except.ok.inj h
    refine ⟨sensible_read sensible_empty hread, ?_⟩
    by_cases hsegments : r₁.segments = .absent
    · refine .inr fun hpattern => hgiven ?_
      simp [hsegments, hpattern, Given.isGiven]
    · exact .inl hsegments
  · cases h

end PenPlotter.CommandLine.Request
