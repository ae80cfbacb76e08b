import PenPlotter.Proofs.Files.Places

/-!
# Making directories

Making the directories of a path adds directories where nothing was, on the way of the path.  They are
a row, each in the one before, so a path without double dots that goes into the first of them finds
nothing else there.
-/

set_option autoImplicit false

namespace PenPlotter.Files

open Store

variable {s s₁ s' s'' : Store} {p : Path} {d x place : Place} {k n : Nat} {e : Entry}

/-! ## 1. New directories -/

def Store.OnTheWay (s : Store) (p : Path) (place : Place) : Prop :=
  ∃ k n, s.Leads false n (s.start p) (p.parts.take k) place

theorem Store.OnTheWay.mono (h : s.WaysIn s') (hway : s.OnTheWay p place) : s'.OnTheWay p place := by
  obtain ⟨k, n, hleads⟩ := hway
  rw [← start_congr h.here] at hleads
  exact ⟨k, n, hleads.mono h (.inl rfl)⟩

theorem Store.OnTheWay.of_parent (hway : s.OnTheWay p.parent place) : s.OnTheWay p place := by
  obtain ⟨k, n, hleads⟩ := hway
  rw [Path.parent, List.dropLast_eq_take, List.take_take] at hleads
  exact ⟨_, n, hleads⟩

/-- What making the directories of a path does to a store: the second has directories in addition,
where nothing was, on the way of the path. -/
structure Paves (p : Path) (s s' : Store) : Prop where
  here : s'.here = s.here
  refuses : s'.refuses = s.refuses
  contents : s'.contents = s.contents
  entries : ∀ place, s'.entryAt? place = s.entryAt? place ∨
    s.entryAt? place = none ∧ s'.entryAt? place = some .directory ∧ s'.OnTheWay p place

theorem Paves.refl (p : Path) (s : Store) : Paves p s s := ⟨rfl, rfl, rfl, fun _ => .inl rfl⟩

theorem Paves.of_parent (h : Paves p.parent s s') : Paves p s s' :=
  { h with
    entries := fun place =>
      (h.entries place).imp_right fun ⟨hnone, hmade, hway⟩ => ⟨hnone, hmade, hway.of_parent⟩ }

theorem Paves.kept (h : Paves p s s') (he : s.entryAt? place = some e) : s'.entryAt? place = some e := by
  obtain hsame | ⟨hnone, -, -⟩ := h.entries place
  · rw [hsame, he]
  · rw [he] at hnone
    cases hnone

theorem Paves.content (h : Paves p s s') (m : Nat) : s'.content m = s.content m := by
  rw [Store.content, h.contents, Store.content]

theorem Paves.waysIn (h : Paves p s s') : s.WaysIn s' := ⟨h.here, h.refuses, fun _ _ _ => h.kept⟩

theorem Paves.trans (h : Paves p s s') (h' : Paves p s' s'') : Paves p s s'' where
  here := h'.here.trans h.here
  refuses := h'.refuses.trans h.refuses
  contents := h'.contents.trans h.contents
  entries place := by
    obtain hsame | ⟨hnone, hmade, hway⟩ := h.entries place
    · rw [← hsame]
      exact h'.entries place
    · exact .inr ⟨hnone, h'.kept hmade, hway.mono h'.waysIn⟩

theorem makeDirectory_eq_ok (h : s.makeDirectory p = .ok s') :
    p.endsInName = true ∧
      ∃ place, s.spot p = .ok place ∧ s.entryAt? place = none ∧ s' = s.put place .directory := by
  rw [makeDirectory] at h
  obtain ⟨place, hspot, h⟩ := bind_eq_ok.mp h
  split at h
  · next hfree =>
    rw [Bool.and_eq_true, Option.isNone_iff_eq_none] at hfree
    obtain ⟨-, -, h⟩ := bind_eq_ok.mp h
    exact ⟨hfree.1, place, hspot, hfree.2, (Except.ok.inj h).symm⟩
  · cases h

theorem paves_of_makeDirectory (h : s.makeDirectory p = .ok s') : Paves p s s' := by
  obtain ⟨-, place, hspot, hnone, rfl⟩ := makeDirectory_eq_ok h
  have hne := ne_nil_of_none hnone
  have hkept : ∀ q e, s.entryAt? q = some e → (s.put place .directory).entryAt? q = some e := by
    intro q e hq
    rw [entryAt?_put hne, if_neg, hq]
    rintro rfl
    rw [hnone] at hq
    cases hq
  refine ⟨rfl, rfl, rfl, fun q => ?_⟩
  rw [entryAt?_put hne]
  split
  · next hq =>
    subst hq
    obtain ⟨-, n, -, hleads⟩ := resolve_eq_ok.mp hspot
    refine .inr ⟨hnone, rfl, p.parts.length, n, ?_⟩
    rw [List.take_length]
    exact hleads.mono ⟨rfl, rfl, fun q e _ => hkept q e⟩ (.inl rfl)
  · exact .inl rfl

theorem unlessDirectory_fst (s : Store) (p : Path) (e : Error) : (unlessDirectory s p e).1 = s := by
  rw [unlessDirectory]
  split <;> rfl

theorem paves_makeDirectories (p : Path) (depth : Nat) (s : Store) :
    Paves p s (makeDirectories p depth s).1 := by
  induction depth generalizing p s with
  | zero =>
    rw [makeDirectories]
    split
    · next h => exact paves_of_makeDirectory h
    · exact .refl _ _
    · exact .refl _ _
    · rw [unlessDirectory_fst]
      exact .refl _ _
  | succ depth ih =>
    rw [makeDirectories]
    split
    · next h => exact paves_of_makeDirectory h
    · dsimp only
      split
      · exact .refl _ _
      have habove : Paves p s (makeDirectories p.parent depth s).1 := (ih p.parent s).of_parent
      split
      · next h =>
        rw [h] at habove
        exact habove
      · next h =>
        rw [h] at habove
        split
        · next h => exact habove.trans (paves_of_makeDirectory h)
        · exact habove
        · rw [unlessDirectory_fst]
          exact habove
    · exact .refl _ _
    · rw [unlessDirectory_fst]
      exact .refl _ _

theorem paves_ensureDirectory (s : Store) (p : Path) : Paves p s (ensureDirectory s p).1 :=
  paves_makeDirectories _ _ _

/-! ## 2. The row of new directories -/

def Store.Rooted (s : Store) : Prop := ∀ below ∈ s.entries, s.entryAt? below.1.dropLast = some .directory

theorem Store.Rooted.directory (h : s.Rooted) (he : s.entryAt? place = some e) :
    s.entryAt? place.dropLast = some .directory := by
  rw [entryAt?] at he
  split at he
  · next hroot =>
    rw [List.isEmpty_iff.mp hroot]
    rfl
  obtain ⟨⟨q, e⟩, hfind, rfl⟩ := Option.map_eq_some_iff.mp he
  have hq : q = place := by simpa using List.find?_some hfind
  rw [← hq]
  exact h _ (List.mem_of_find?_eq_some hfind)

/-- The last directory that was made for a path, where some of its first names lead.  All that were
made are above it. -/
structure Digs (p : Path) (s s' : Store) (k : Nat) (d : Place) : Prop where
  positive : 0 < k
  length_le : k ≤ p.parts.length
  leads : ∃ n, s'.Leads true n (s'.start p) (p.parts.take k) d
  new : s.entryAt? d = none
  others : ∀ q, s'.entryAt? q ≠ s.entryAt? q → q <+: d

theorem Digs.lt_length (h : Digs p.parent s s' k d) : k < p.parts.length := by
  have hpositive := h.positive
  have hle := h.length_le
  simp only [Path.parent, List.length_dropLast] at hle
  omega

theorem Digs.of_parent (h : Digs p.parent s s' k d) : Digs p s s' k d := by
  have hlt := h.lt_length
  have hleads := h.leads
  rw [Path.parent, List.dropLast_eq_take, List.take_take, Nat.min_eq_left (by omega)] at hleads
  exact ⟨h.positive, hlt.le, hleads, h.new, h.others⟩

-- There is nothing in the last of the new directories, and nothing was.
theorem Digs.empty (h : Digs p s s' k d) (hs : s.Rooted) (name : String) :
    s.entryAt? (d ++ [name]) = none ∧ s'.entryAt? (d ++ [name]) = none := by
  have hbefore : s.entryAt? (d ++ [name]) = none := by
    cases he : s.entryAt? (d ++ [name]) with
    | none => rfl
    | some e =>
      have hdirectory := hs.directory he
      rw [List.dropLast_concat, h.new] at hdirectory
      cases hdirectory
  refine ⟨hbefore, ?_⟩
  by_contra hother
  have hprefix := (h.others (d ++ [name]) (by rwa [hbefore])).length_le
  rw [List.length_append, List.length_singleton] at hprefix
  omega

-- So a walk that goes on from there has only one more name.
theorem Digs.stops (h : Digs p s s' k d) (hs : s.Rooted) {follow : Bool} {name : String}
    {rest : List String} (hdot : name ≠ ".") (hdots : name ≠ "..")
    (hx : s'.Leads follow n (s'.start p) (p.parts.take k ++ name :: rest) x) :
    rest = [] ∧ x = d ++ [name] := by
  obtain ⟨-, hempty⟩ := h.empty hs name
  obtain ⟨m, hd⟩ := h.leads
  obtain ⟨i, j, e, -, hd', hx⟩ := hx.of_append (List.cons_ne_nil _ _)
  obtain ⟨-, rfl⟩ := hd.unique hd'
  cases hx with
  | stay _ hdot' => exact absurd hdot' hdot
  | up _ hdots' => exact absurd hdots' hdots
  | down _ _ _ _ _ hx =>
    cases rest with
    | nil =>
      cases hx
      exact ⟨rfl, rfl⟩
    | cons next rest =>
      rw [hx.passable.1] at hempty
      cases hempty
  | jump _ _ _ _ hlink =>
    rw [hlink] at hempty
    cases hempty

-- A path without dots has only its name more.
theorem Digs.stops_parts (h : Digs p s s' k d) (hs : s.Rooted) {follow : Bool}
    (hdot : "." ∉ p.parts) (hdots : ".." ∉ p.parts) (hk : k < p.parts.length)
    (hx : s'.Leads follow n (s'.start p) p.parts x) : x = d ++ [p.name] := by
  have hmem := List.getElem_mem hk
  rw [← List.take_append_drop k p.parts, List.drop_eq_getElem_cons hk] at hx
  obtain ⟨hrest, rfl⟩ := h.stops hs (fun heq => hdot (heq ▸ hmem)) (fun heq => hdots (heq ▸ hmem)) hx
  rw [List.drop_eq_nil_iff] at hrest
  obtain rfl : k = p.parts.length - 1 := by omega
  have hne : p.parts ≠ [] := List.ne_nil_of_length_pos (by omega)
  rw [Path.name, List.getLast?_eq_some_getLast hne, List.getLast_eq_getElem, Option.getD_some]

theorem digs_of_makeDirectory (h : s.makeDirectory p = .ok s') :
    ∃ d, s.spot p = .ok d ∧ Digs p s s' p.parts.length d := by
  have hpaves := paves_of_makeDirectory h
  obtain ⟨hname, place, hspot, hnone, rfl⟩ := makeDirectory_eq_ok h
  have hne := ne_nil_of_none hnone
  have hparts := Path.parts_ne_nil (Path.name_ne_of_endsInName hname).1
  obtain ⟨-, n, -, hleads⟩ := resolve_eq_ok.mp hspot
  refine ⟨place, hspot, List.length_pos_of_ne_nil hparts, Nat.le_refl _, ⟨n, ?_⟩, hnone, fun q hq => ?_⟩
  · rw [List.take_length, start_congr hpaves.here]
    refine (hleads.mono hpaves.waysIn (.inl rfl)).followed fun absolute names => ?_
    rw [entryAt?_put hne, if_pos rfl]
    nofun
  · rw [entryAt?_put hne] at hq
    split at hq
    · next heq => rw [heq]
    · exact absurd rfl hq

-- One more directory lies in the last of those above it.
theorem digs_of_deeper (hs : s.Rooted) (hdot : "." ∉ p.parts) (hdots : ".." ∉ p.parts)
    (habove : (∀ q, s₁.entryAt? q = s.entryAt? q) ∨ ∃ k d, Digs p.parent s s₁ k d)
    (h : s₁.makeDirectory p = .ok s') : ∃ d, Digs p s s' p.parts.length d := by
  obtain ⟨d, hspot, hlast⟩ := digs_of_makeDirectory h
  obtain hsame | ⟨k, d₁, hdigs⟩ := habove
  · refine ⟨d, { hlast with new := (hsame d).symm.trans hlast.new, others := fun q hq => ?_ }⟩
    rw [← hsame] at hq
    exact hlast.others q hq
  · obtain ⟨-, n, -, hleads⟩ := resolve_eq_ok.mp hspot
    obtain rfl := hdigs.of_parent.stops_parts hs hdot hdots hdigs.lt_length hleads
    refine ⟨_, { hlast with new := (hdigs.empty hs _).1, others := fun q hq => ?_ }⟩
    by_cases hq' : s'.entryAt? q = s₁.entryAt? q
    · rw [hq'] at hq
      exact (hdigs.others q hq).trans (List.prefix_append _ _)
    · exact hlast.others q hq'

theorem digs_makeDirectories (hs : s.Rooted) (hdot : "." ∉ p.parts) (hdots : ".." ∉ p.parts)
    (depth : Nat) :
    (∀ q, (makeDirectories p depth s).1.entryAt? q = s.entryAt? q) ∨
      ∃ k d, Digs p s (makeDirectories p depth s).1 k d := by
  have hfirst : ∀ {s'}, s.makeDirectory p = .ok s' →
      (∀ q, s'.entryAt? q = s.entryAt? q) ∨ ∃ k d, Digs p s s' k d := fun h =>
    have ⟨d, _, hdigs⟩ := digs_of_makeDirectory h
    .inr ⟨_, d, hdigs⟩
  induction depth generalizing p with
  | zero =>
    rw [makeDirectories]
    split
    · next h => exact hfirst h
    · exact .inl fun _ => rfl
    · exact .inl fun _ => rfl
    · rw [unlessDirectory_fst]
      exact .inl fun _ => rfl
  | succ depth ih =>
    rw [makeDirectories]
    split
    · next h => exact hfirst h
    · dsimp only
      split
      · exact .inl fun _ => rfl
      have habove := ih (p := p.parent) (fun h => hdot (List.mem_of_mem_dropLast h))
        (fun h => hdots (List.mem_of_mem_dropLast h)) fun h =>
        have ⟨d, _, hdigs⟩ := digs_of_makeDirectory h
        .inr ⟨_, d, hdigs⟩
      have hlift : ∀ {s₁}, ((∀ q, s₁.entryAt? q = s.entryAt? q) ∨ ∃ k d, Digs p.parent s s₁ k d) →
          (∀ q, s₁.entryAt? q = s.entryAt? q) ∨ ∃ k d, Digs p s s₁ k d := fun h =>
        h.imp_right fun ⟨k, d, h⟩ => ⟨k, d, h.of_parent⟩
      split
      · next h =>
        rw [h] at habove
        exact hlift habove
      · next h =>
        rw [h] at habove
        split
        · next h => exact .inr ⟨_, digs_of_deeper hs hdot hdots habove h⟩
        · exact hlift habove
        · rw [unlessDirectory_fst]
          exact hlift habove
    · exact .inl fun _ => rfl
    · rw [unlessDirectory_fst]
      exact .inl fun _ => rfl

theorem digs_ensureDirectory (hs : s.Rooted) (hp : p.Plain) (hdots : ".." ∉ p.parts) :
    (∀ q, (ensureDirectory s p).1.entryAt? q = s.entryAt? q) ∨
      ∃ k d, Digs p s (ensureDirectory s p).1 k d :=
  digs_makeDirectories hs (fun h => (hp _ h).2.1 rfl) hdots _

end PenPlotter.Files
