import PenPlotter.Proofs.Files.WriteAtOnce

/-!
# What a path leads to after an attempt to write

A path leads to the file that was written there, and it leads to what it led to before if writing
failed.  The exceptions are links: a path may lead to what stands beside it, and be changed with that,
and a link that was taken away may have been on its way.
-/

set_option autoImplicit false

namespace PenPlotter.Files

open Store

variable {s s₁ s' : Store} {p : Path} {d q r t w x place : Place} {n : Nat} {e : Entry}
  {bytes : List UInt8} {names : List String}

/-! ## 1. Success -/

/-- A path is not found again once it is written: a link stands beside it, or the way to its directory
goes over a link at its own place. -/
def Store.Severed (s : Store) (p : Path) : Prop :=
  ∃ r t, s.spot p = .ok r ∧ s.spot p.beside = .ok t ∧
    ((∃ absolute names, s.entryAt? t = some (.link absolute names)) ∨ ¬s.Clear p r)

/-- What is read at a path is what was written, and there is a file to be read unless the path was
severed. -/
structure Holds (p : Path) (bytes : List UInt8) (s s' : Store) : Prop where
  read : ∀ content, s'.readBytes p = .ok content → content = bytes
  found : s.Severed p ∨ ∃ n, s'.lookup p = .ok (.file n) ∧ s'.content n = bytes

theorem Replaces.holds (h : Replaces p bytes r t w n s s') : Holds p bytes s s' where
  read _ := h.read
  found := by
    by_cases hlink : ∃ absolute names, s.entryAt? t = some (.link absolute names)
    · exact .inl ⟨r, t, h.target, h.beside, .inl hlink⟩
    by_cases hclear : s.Clear p r
    · have hw : w = t := (place_eq_spot_or_link h.beside h.written).resolve_right hlink
      have hno : ∀ absolute names, s.entryAt? t ≠ some (.link absolute names) := fun _ _ h =>
        hlink ⟨_, _, h⟩
      refine .inr ⟨n, lookup_eq_ok.mpr ⟨r, h.placed hno hclear, ?_⟩, ?_⟩
      · rw [h.entry_target, if_pos hw.symm]
      · rw [h.contents, if_pos rfl]
    · exact .inl ⟨r, t, h.target, h.beside, .inr hclear⟩

theorem holds_of_writeAtOnce (h : writeAtOnce s p bytes besideSuffix = (s', .ok ())) :
    Holds p bytes (ensureDirectory s p.parent).1 s' := by
  have houtcome := writeAtOnce_outcome s p bytes
  rw [h] at houtcome
  obtain ⟨r, t, w, n, hreplaces⟩ := houtcome
  exact hreplaces.holds

/-! ## 2. Failure -/

/-- What stands beside a path can change what the path leads to: it is a link, or it is what the path
leads to, or another name of that file. -/
def Store.Exposed (s : Store) (p : Path) : Prop :=
  ∃ t, s.spot p.beside = .ok t ∧
    ((∃ absolute names, s.entryAt? t = some (.link absolute names)) ∨ s.place p = .ok t ∨
      ∃ q n, s.place p = .ok q ∧ s.entryAt? q = some (.file n) ∧ s.entryAt? t = some (.file n))

/-- What a path led to is still there unchanged, and a path without double dots leads to nothing
new. -/
structure Keeps (s s' : Store) (p : Path) : Prop where
  kept : ∀ q e, s.place p = .ok q → s.entryAt? q = some e →
    s'.place p = .ok q ∧ s'.entryAt? q = some e ∧ ∀ n, e = .file n → s'.content n = s.content n
  fresh : s.Rooted → ".." ∉ p.parts → ∀ q e, s'.place p = .ok q → s'.entryAt? q = some e →
    s.place p = .ok q ∧ s.entryAt? q = some e

theorem Keeps.refl (s : Store) (p : Path) : Keeps s s p :=
  ⟨fun _ _ hq he => ⟨hq, he, fun _ _ => rfl⟩, fun _ _ _ _ hq he => ⟨hq, he⟩⟩

-- A path that leads through a directory stands for something.
theorem Store.Leads.stands (h : s.Leads true n d names x) (hx : s.entryAt? x ≠ none) :
    ∃ m ≤ n, ∃ y, s.Leads false m d names y ∧ s.entryAt? y ≠ none := by
  induction h with
  | arrive => exact ⟨0, Nat.le_refl _, _, .arrive, hx⟩
  | stay hd hdot h ih =>
    obtain ⟨m, hm, y, hy, hne⟩ := ih hx
    exact ⟨m, hm, y, .stay hd hdot hy, hne⟩
  | up hd hdots h ih =>
    obtain ⟨m, hm, y, hy, hne⟩ := ih hx
    exact ⟨m, hm, y, .up hd hdots hy, hne⟩
  | down hd hname hdot hdots hstop h ih =>
    obtain ⟨m, hm, y, hy, hne⟩ := ih hx
    have hno := hstop.resolve_right fun hend => Bool.noConfusion hend.2
    exact ⟨m, hm, y, .down hd hname hdot hdots (.inl hno) hy, hne⟩
  | @jump n d x name rest names absolute hd hname hdot hdots hlink hon hpass h ih =>
    by_cases hrest : rest = []
    · subst hrest
      exact ⟨0, Nat.zero_le _, _, .down hd hname hdot hdots (.inr ⟨rfl, rfl⟩) .arrive, by simp [hlink]⟩
    · obtain ⟨m, hm, y, hy, hne⟩ := ih hx
      exact ⟨m + 1, Nat.succ_le_succ hm, y, .jump hd hname hdot hdots hlink (.inl hrest) hpass hy, hne⟩

-- A directory is not made where something stands.
theorem makeDirectory_of_stands (hy : s.Leads false n (s.start p) p.parts place) (hn : n ≤ linkLimit)
    (hne : s.entryAt? place ≠ none ∨ p.endsInName = false) :
    ∃ e, s.makeDirectory p = .error e ∧ ∀ path, e ≠ .obstacle .missing path := by
  rw [makeDirectory]
  cases hspot : s.spot p with
  | error e =>
    refine ⟨e, rfl, fun path => ?_⟩
    rintro rfl
    rw [spot, resolve] at hspot
    split at hspot
    · cases hspot
    split at hspot
    · cases hspot
    · rw [walk_eq_ok.mpr ⟨n, hn, hy⟩] at hspot
      cases hspot
  | ok y =>
    obtain ⟨-, m, -, hy'⟩ := resolve_eq_ok.mp hspot
    obtain ⟨-, rfl⟩ := hy.unique hy'
    refine ⟨.obstacle .exists p.text, ?_, fun path h => by cases h⟩
    rw [ok_bind, if_neg]
    · rfl
    · obtain hne | hname := hne
      · simp [hne]
      · simp [hname]

-- The directory of a path that leads somewhere is there already.
theorem ensureDirectory_of_place (h : s.place p = .ok q) : (ensureDirectory s p.parent).1 = s := by
  obtain ⟨-, n, hn, hleads⟩ := resolve_eq_ok.mp h
  obtain ⟨e, he, hother⟩ : ∃ e, s.makeDirectory p.parent = .error e ∧
      ∀ path, e ≠ .obstacle .missing path := by
    by_cases hparts : p.parts = []
    · have hnone : p.parent.parts = [] := by simp [Path.parent, hparts]
      have hhere : s.Leads false 0 (s.start p.parent) p.parent.parts (s.start p.parent) := by
        rw [hnone]
        exact .arrive
      exact makeDirectory_of_stands hhere (Nat.zero_le _)
        (.inr (by simp [Path.endsInName, Path.name, hnone]))
    · rw [Path.parts_eq_concat hparts] at hleads
      obtain ⟨i, j, d, hij, hd, hlast⟩ := hleads.of_append (List.cons_ne_nil _ _)
      obtain ⟨m, hm, y, hy, hne⟩ := hd.stands (by simp [hlast.passable.1])
      exact makeDirectory_of_stands (p := p.parent) hy (by omega) (.inl hne)
  rw [ensureDirectory, makeDirectories]
  split
  · next hmade =>
    rw [he] at hmade
    cases hmade
  · next hmissing =>
    rw [he] at hmissing
    exact absurd (Except.error.inj hmissing) (hother _)
  · rfl
  · rw [unlessDirectory_fst]

variable {error : WriteError}

-- What a path leads to stays where nothing beside it touches it.
theorem Fails.kept (h : Fails p error s s') (hno : ¬s.Exposed p) (hq : s.place p = .ok q)
    (he : s.entryAt? q = some e) :
    s'.place p = .ok q ∧ s'.entryAt? q = some e ∧ ∀ n, e = .file n → s'.content n = s.content n := by
  have hsame : s'.entryAt? q = s.entryAt? q := by
    obtain hsame | ⟨-, ht, -⟩ | ⟨-, hnone, -, -⟩ := h.entries q
    · exact hsame
    · exact absurd ⟨q, ht, .inr (.inl hq)⟩ hno
    · rw [he] at hnone
      cases hnone
  have hways : s.WaysIn s' := by
    refine ⟨h.here, h.refuses, fun place way hway hplace => ?_⟩
    obtain hsame | ⟨-, ht, hleft⟩ | ⟨-, hnone, -, -⟩ := h.entries place
    · rw [hsame, hplace]
    · cases way with
      | directory => exact absurd hplace hleft
      | link absolute names => exact absurd ⟨place, ht, .inl ⟨_, _, hplace⟩⟩ hno
      | file | socket => exact hway.elim
    · rw [hplace] at hnone
      cases hnone
  refine ⟨hways.resolve hq (.inr fun absolute names hlink => hsame ▸ hlink), hsame.trans he, ?_⟩
  rintro n rfl
  obtain hsame | ⟨w, hw, hfile⟩ := h.contents n
  · exact hsame
  exfalso
  obtain hfile | ⟨-, rfl⟩ := hfile
  · obtain ⟨t, ht⟩ := exists_spot_of_place p.endsInName_beside hw
    obtain rfl | hlink := place_eq_spot_or_link ht hw
    · exact hno ⟨w, ht, .inr (.inr ⟨q, n, hq, he, hfile⟩)⟩
    · exact hno ⟨t, ht, .inl hlink⟩
  · exact absurd (lt_freshNumber_of_entryAt? he) (Nat.lt_irrefl _)

-- What was made for the path is empty, so it leads to nothing there.
theorem Fails.fresh (h : Fails p error (ensureDirectory s p.parent).1 s') (hno : ¬s.Exposed p)
    (hs : s.Rooted) (hp : p.Plain) (hdots : ".." ∉ p.parts) (hq : s'.place p = .ok q)
    (he : s'.entryAt? q = some e) : s.place p = .ok q ∧ s.entryAt? q = some e := by
  have hpaves := paves_ensureDirectory s p.parent
  have hdigs := digs_ensureDirectory (p := p.parent) hs
    (fun name hname => hp name (List.mem_of_mem_dropLast hname))
    fun hname => hdots (List.mem_of_mem_dropLast hname)
  generalize (ensureDirectory s p.parent).1 = s₁ at h hpaves hdigs
  have hback : s'.WaysIn s₁ := by
    refine ⟨h.here.symm, h.refuses.symm, fun place way hway hplace => ?_⟩
    obtain hsame | ⟨hgone, -, -⟩ | ⟨hnew, -, -, -⟩ := h.entries place
    · rw [← hsame, hplace]
    · rw [hplace] at hgone
      cases hgone
    · obtain rfl := Option.some.inj (hplace.symm.trans hnew)
      exact hway.elim
  have hq₁ : s₁.place p = .ok q := by
    refine hback.resolve hq (.inr fun absolute names hlink => ?_)
    obtain hsame | ⟨hgone, -, -⟩ | ⟨-, hnone, -, -⟩ := h.entries q
    · rw [hsame, hlink]
    · rw [he] at hgone
      cases hgone
    · rw [hlink] at hnone
      cases hnone
  obtain ⟨-, n, -, hleads⟩ := resolve_eq_ok.mp hq₁
  obtain hsame | ⟨k, d, hdigs⟩ := hdigs
  · have hways : s₁.WaysIn s :=
      ⟨hpaves.here.symm, hpaves.refuses.symm, fun place _ _ hplace => (hsame place).symm.trans hplace⟩
    have hlinks : ∀ place absolute names, s.entryAt? place = some (.link absolute names) →
        s₁.entryAt? place = some (.link absolute names) := fun place _ _ hlink =>
      (hsame place).trans hlink
    refine ⟨hways.resolve hq₁ (.inr (hlinks q)), ?_⟩
    obtain hkept | ⟨hgone, -, -⟩ | ⟨-, hnone, hw, -⟩ := h.entries q
    · rw [← hsame, ← hkept, he]
    · rw [he] at hgone
      cases hgone
    · -- The path leads to the new file, so it leads to what stands beside it.
      exfalso
      replace hw := hways.resolve hw (.inr (hlinks q))
      obtain ⟨t, ht⟩ := exists_spot_of_place p.endsInName_beside hw
      obtain rfl | hlink := place_eq_spot_or_link ht hw
      · exact hno ⟨q, ht, .inr (.inl (hways.resolve hq₁ (.inr (hlinks q))))⟩
      · exact hno ⟨t, ht, .inl hlink⟩
  · exfalso
    have hdot : "." ∉ p.parts := fun hname => (hp _ hname).2.1 rfl
    obtain rfl := hdigs.of_parent.stops_parts hs hdot hdots hdigs.lt_length hleads
    have hempty := (hdigs.empty hs p.name).2
    obtain hkept | ⟨hgone, -, -⟩ | ⟨-, -, hw, -⟩ := h.entries (d ++ [p.name])
    · rw [hkept, hempty] at he
      cases he
    · rw [he] at hgone
      cases hgone
    · -- What stands beside the path has another name.
      have hbeside : ∀ {name}, name ∉ p.parts → p.beside.name ≠ name → name ∉ p.beside.parts := by
        intro name hname hne hmem
        obtain hmem | hmem := List.mem_append.mp hmem
        · exact hname (List.mem_of_mem_dropLast hmem)
        · exact hne (by rw [Path.name_beside, List.mem_singleton.mp hmem])
      obtain ⟨-, hdot', hdots'⟩ := Path.name_ne_of_endsInName p.endsInName_beside
      rw [← Path.parent_beside] at hdigs
      obtain ⟨-, m, -, hw⟩ := resolve_eq_ok.mp hw
      have hnames := hdigs.of_parent.stops_parts hs (hbeside hdot hdot') (hbeside hdots hdots')
        hdigs.lt_length hw
      rw [Path.name_beside] at hnames
      exact p.name_ne_beside (by simpa using hnames)

/-- Writing that fails keeps what its path led to, unless that can be changed through what stands
beside it. -/
theorem keeps_of_writeAtOnce (hp : p.Plain) (hno : ¬s.Exposed p)
    (h : writeAtOnce s p bytes besideSuffix = (s', .error error)) : Keeps s s' p := by
  have hfails := writeAtOnce_outcome s p bytes
  rw [h] at hfails
  refine ⟨fun q e hq he => ?_, fun hs hdots q e hq he => hfails.fresh hno hs hp hdots hq he⟩
  have hfails : Fails p error (ensureDirectory s p.parent).1 s' := hfails
  rw [ensureDirectory_of_place hq] at hfails
  exact hfails.kept hno hq he

end PenPlotter.Files
