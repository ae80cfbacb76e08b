import PenPlotter.Proofs.Files.Directories
import PenPlotter.Proofs.Files.NullCharacters

/-!
# What writing at once leaves behind

Directories are made on the way to the file.  After that a file is written where the path beside it
leads, and takes the place of what the path stands for.  If writing fails, what stands beside the file
is taken away; the rest stays as it is.
-/

set_option autoImplicit false

namespace PenPlotter.Files

open Store

variable {s s₁ s' s'' : Store} {p beside : Path} {d r t w x place : Place} {n : Nat} {e : Entry}
  {bytes : List UInt8} {absolute : Bool} {names rest : List String}

/-! ## 1. Writing a file -/

/-- The second store is the first with a file where a path leads, which was there or is new.  Its
bytes may be any. -/
structure Fills (p : Path) (w : Place) (n : Nat) (s s' : Store) : Prop where
  here : s'.here = s.here
  refuses : s'.refuses = s.refuses
  place : s.place p = .ok w
  number : s.entryAt? w = some (.file n) ∨ s.entryAt? w = none ∧ n = s.freshNumber
  contents : ∀ m ≠ n, s'.content m = s.content m
  entries : ∀ q, s'.entryAt? q = if q = w then some (.file n) else s.entryAt? q

theorem fills_of_openForWriting (h : s.openForWriting p = .ok (s', w, n)) : Fills p w n s s' := by
  rw [openForWriting] at h
  obtain ⟨place, hplace, h⟩ := bind_eq_ok.mp h
  split at h
  · next hnone =>
    obtain ⟨-, -, h⟩ := bind_eq_ok.mp h
    cases h
    have hne := ne_nil_of_none hnone
    refine ⟨rfl, rfl, hplace, .inr ⟨hnone, rfl⟩, fun m hm => ?_, fun q => ?_⟩
    · rw [content_setContent, if_neg hm, content_put]
    · rw [entryAt?_setContent, entryAt?_put hne]
  · next hfile =>
    obtain ⟨-, -, h⟩ := bind_eq_ok.mp h
    cases h
    refine ⟨rfl, rfl, hplace, .inl hfile, fun _ _ => rfl, fun q => ?_⟩
    split
    · next hq => rw [hq, hfile]
    · rfl
  · cases h
  · obtain ⟨-, -, h⟩ := bind_eq_ok.mp h
    cases h
  · cases h

theorem Fills.setContent (h : Fills p w n s s') (content : List UInt8) :
    Fills p w n s (s'.setContent n content) :=
  { h with contents := fun m hm => by rw [content_setContent, if_neg hm, h.contents m hm] }

theorem fst_append (s : Store) (n : Nat) (bytes : List UInt8) :
    ∃ content, (s.append n bytes).1 = s.setContent n content := by
  rw [append]
  split
  · exact ⟨_, rfl⟩
  · split <;> exact ⟨_, rfl⟩

theorem append_eq_none (h : s.append n bytes = (s', none)) :
    s' = s.setContent n (s.content n ++ bytes) := by
  rw [append] at h
  split at h
  · exact (Prod.mk.inj h).1.symm
  split at h
  · exact (Prod.mk.inj h).1.symm
  · cases h

/-- Writing that fails does nothing, or leaves a file with some of the bytes. -/
theorem exists_fills_of_writeBytes {o : Except Error Unit} (h : s.writeBytes p bytes = (s', o)) :
    (∃ w n, Fills p w n s s' ∧ (o = .ok () → s'.content n = bytes)) ∨ s' = s ∧ o ≠ .ok () := by
  rw [writeBytes] at h
  split at h
  · obtain ⟨rfl, rfl⟩ := Prod.mk.inj h
    exact .inr ⟨rfl, fun h => by cases h⟩
  next s₁ w n hopen =>
  have hfills := (fills_of_openForWriting hopen).setContent []
  refine .inl ⟨w, n, ?_⟩
  split at h
  · next s₂ left reason happend =>
    obtain ⟨content, hcontent⟩ := fst_append (s₁.setContent n []) n bytes
    obtain rfl : s₂ = _ := (congrArg Prod.fst happend).symm.trans hcontent
    obtain ⟨rfl, rfl⟩ := Prod.mk.inj h
    exact ⟨hfills.setContent content, fun h => by cases h⟩
  · next s₂ happend =>
    have hs₂ := append_eq_none happend
    rw [content_setContent, if_pos rfl, List.nil_append] at hs₂
    have hs' : s' = s₂ := by
      split at h
      · exact (Prod.mk.inj h).1.symm
      · exact (Prod.mk.inj h).1.symm
    rw [hs', hs₂]
    exact ⟨hfills.setContent bytes, fun _ => by rw [content_setContent, if_pos rfl]⟩

-- Where a file is written there is no way.
theorem Fills.not_isWay (h : Fills p w n s s') (hw : s.entryAt? w = some e) : ¬IsWay e := by
  obtain hfile | ⟨hnone, -⟩ := h.number
  · obtain rfl := Option.some.inj (hfile.symm.trans hw)
    exact id
  · rw [hnone] at hw
    cases hw

theorem Fills.waysIn (h : Fills p w n s s') : s.WaysIn s' where
  here := h.here
  refuses := h.refuses
  ways q e he hq := by
    rw [h.entries, if_neg, hq]
    rintro rfl
    exact h.not_isWay hq he

theorem Fills.waysIn_symm (h : Fills p w n s s') : s'.WaysIn s where
  here := h.here.symm
  refuses := h.refuses.symm
  ways q e he hq := by
    rw [h.entries] at hq
    split at hq
    · obtain rfl := Option.some.inj hq
      exact he.elim
    · exact hq

theorem Fills.entry (h : Fills p w n s s') : s'.entryAt? w = some (.file n) := by
  rw [h.entries, if_pos rfl]

-- The path leads to the file that was written.
theorem Fills.placed (h : Fills p w n s s') : s'.place p = .ok w :=
  h.waysIn.resolve h.place (.inr (by simp [h.entry]))

theorem Fills.ne_nil (h : Fills p w n s s') : w ≠ [] := by
  rintro rfl
  exact h.not_isWay (e := .directory) rfl trivial

/-! ## 2. Taking away and moving -/

theorem remove_eq_ok (h : s.remove p = .ok s') :
    ∃ place e, s.spot p = .ok place ∧ s.entryAt? place = some e ∧ e ≠ .directory ∧
      s' = s.erase place := by
  rw [remove] at h
  obtain ⟨place, hspot, h⟩ := bind_eq_ok.mp h
  split at h
  · cases h
  split at h
  · cases h
  next e he =>
  obtain ⟨-, -, h⟩ := bind_eq_ok.mp h
  split at h
  · cases h
  next hno => exact ⟨place, e, hspot, he, hno, (Except.ok.inj h).symm⟩

theorem move_eq_ok {source : Path} (h : s.move source p = .ok s') :
    p.endsInName = true ∧ ∃ origin place, s.spot source = .ok origin ∧ s.spot p = .ok place ∧
      s.moveEntry origin place = .ok s' := by
  rw [move] at h
  obtain ⟨origin, horigin, h⟩ := bind_eq_ok.mp h
  obtain ⟨place, hplace, h⟩ := bind_eq_ok.mp h
  split at h
  · cases h
  next hnames =>
  rw [mapError_eq_ok] at horigin hplace h
  simp only [Bool.not_eq_true', Bool.not_eq_false, Bool.and_eq_true] at hnames
  exact ⟨hnames.2, origin, place, horigin, hplace, h⟩

theorem not_directory_of_allowAt (h : s.allowAt place e = .ok ()) (he : e ≠ .directory) :
    s.entryAt? place ≠ some .directory := by
  intro hdirectory
  rw [allowAt, hdirectory] at h
  dsimp only at h
  obtain ⟨-, -, h⟩ := bind_eq_ok.mp h
  cases e with
  | directory => exact he rfl
  | file | link | socket => cases h

theorem moveEntry_eq_ok {origin : Place} (h : s.moveEntry origin place = .ok s')
    (he : s.entryAt? origin = some e) (hno : e ≠ .directory) :
    (origin = place ∨ sameFile e (s.entryAt? place) = true) ∧ s' = s ∨
      ¬(origin = place ∨ sameFile e (s.entryAt? place) = true) ∧
        s.entryAt? place ≠ some .directory ∧ s' = (s.erase origin).put place e := by
  rw [moveEntry, he] at h
  dsimp only at h
  split at h
  · next hsame =>
    rw [Bool.or_eq_true, decide_eq_true_eq] at hsame
    exact .inl ⟨hsame, (Except.ok.inj h).symm⟩
  next hsame =>
  rw [Bool.or_eq_true, decide_eq_true_eq] at hsame
  split at h
  · cases h
  obtain ⟨-, h⟩ := allow_bind_eq_ok.mp h
  obtain ⟨⟨⟩, hallow, h⟩ := bind_eq_ok.mp h
  refine .inr ⟨hsame, not_directory_of_allowAt hallow hno, ?_⟩
  cases e with
  | directory => exact absurd rfl hno
  | file | link | socket => exact (Except.ok.inj h).symm

theorem readBytes_eq_ok {content : List UInt8} (h : s.readBytes p = .ok content) :
    ∃ place n, s.place p = .ok place ∧ s.entryAt? place = some (.file n) ∧ content = s.content n := by
  rw [readBytes] at h
  obtain ⟨place, hplace, h⟩ := bind_eq_ok.mp h
  split at h
  · cases h
  next e he =>
  obtain ⟨-, -, h⟩ := bind_eq_ok.mp h
  cases e with
  | file n => exact ⟨place, n, hplace, he, (Except.ok.inj h).symm⟩
  | directory | link | socket => cases h

/-! ## 3. Beside a file -/

-- A file and what stands beside it are in one directory.
theorem exists_of_spots (hname : p.endsInName = true) (hr : s.spot p = .ok r)
    (ht : s.spot p.beside = .ok t) :
    ∃ i d, i ≤ linkLimit ∧ s.Leads true i (s.start p) p.parts.dropLast d ∧ s.Passable d ∧
      p.name.utf8ByteSize ≤ nameLimit ∧ r = d ++ [p.name] ∧
      t = d ++ [p.name ++ besideSuffix] := by
  obtain ⟨-, i, j, d, hi, hd, hr⟩ := (resolve_eq_ok_of_name hname).mp hr
  obtain ⟨-, i', j', d', -, hd', ht⟩ := (resolve_eq_ok_of_name p.endsInName_beside).mp ht
  rw [Path.dropLast_parts_beside] at hd'
  rw [Path.name_beside] at ht
  obtain ⟨-, rfl⟩ := hd.unique hd'
  obtain ⟨-, hdot, hdots⟩ := Path.name_ne_of_endsInName hname
  obtain ⟨-, hdot', hdots'⟩ := Path.name_ne_of_endsInName p.endsInName_beside
  rw [Path.name_beside] at hdot' hdots'
  obtain ⟨hpassable, hsize, ⟨-, -, rfl⟩ | ⟨-, -, -, -, ⟨⟩, -⟩⟩ := (leads_singleton hdot hdots).mp hr
  obtain ⟨-, -, ⟨-, -, rfl⟩ | ⟨-, -, -, -, ⟨⟩, -⟩⟩ := (leads_singleton hdot' hdots').mp ht
  exact ⟨i, d, by omega, hd, hpassable, hsize, rfl, rfl⟩

theorem spot_ne_beside (hname : p.endsInName = true) (hr : s.spot p = .ok r)
    (ht : s.spot p.beside = .ok t) : r ≠ t := by
  obtain ⟨-, d, -, -, -, -, rfl, rfl⟩ := exists_of_spots hname hr ht
  exact fun heq => p.name_ne_beside (by simpa using heq)

/-! ## 4. Writing and moving -/

/-- The second store is the first with a file of the bytes where the path beside `p` led, and with
what then stood beside `p`, the file or a link to it, at the place of `p`.  Nothing stands beside `p`
any more, unless both were names of one file, which are left alone. -/
structure Replaces (p : Path) (bytes : List UInt8) (r t w : Place) (n : Nat) (s s' : Store) :
    Prop where
  here : s'.here = s.here
  refuses : s'.refuses = s.refuses
  named : p.endsInName = true
  target : s.spot p = .ok r
  beside : s.spot p.beside = .ok t
  written : s.place p.beside = .ok w
  number : s.entryAt? w = some (.file n) ∨ s.entryAt? w = none ∧ n = s.freshNumber
  free : s.entryAt? r ≠ some .directory
  contents : ∀ m, s'.content m = if m = n then bytes else s.content m
  entries : ∀ q, s'.entryAt? q =
    if q = r then if t = w then some (.file n) else s.entryAt? t
    else if q = t then
      if t = w ∧ s.entryAt? r = some (.file n) then some (.file n) else none
    else if q = w then some (.file n)
    else s.entryAt? q

theorem Replaces.apart (h : Replaces p bytes r t w n s s') : r ≠ t :=
  spot_ne_beside h.named h.target h.beside

-- What is moved is the file, or the link over which it was written.
theorem Fills.exists_beside (h : Fills p w n s s') (ht : s.spot p = .ok t) :
    ∃ e, s'.entryAt? t = some e ∧ e ≠ .directory ∧
      (t = w ∧ e = .file n ∨ t ≠ w ∧ e.number? = none ∧ s.entryAt? t = some e) := by
  obtain rfl | ⟨absolute, names, hlink⟩ := place_eq_spot_or_link ht h.place
  · exact ⟨.file n, h.entry, nofun, .inl ⟨rfl, rfl⟩⟩
  · have hne : t ≠ w := by
      rintro rfl
      exact h.not_isWay hlink trivial
    refine ⟨.link absolute names, ?_, nofun, .inr ⟨hne, rfl, hlink⟩⟩
    rw [h.entries, if_neg hne, hlink]

theorem entryAt?_erase_put {origin : Place} (horigin : s.entryAt? origin ≠ some .directory)
    (hplace : s.entryAt? place ≠ some .directory) (q : Place) :
    ((s.erase origin).put place e).entryAt? q =
      if q = place then some e else if q = origin then none else s.entryAt? q := by
  rw [entryAt?_put (ne_nil_of_ne_directory hplace), entryAt?_erase (ne_nil_of_ne_directory horigin)]

theorem replaces_of_writeAndMove (h : writeAndMove s p.beside p bytes = (s', .ok ())) :
    ∃ r t w n, Replaces p bytes r t w n s s' := by
  rw [writeAndMove] at h
  split at h
  · cases h
  next s₂ hwrite =>
  split at h
  · cases h
  next s₃ hmove =>
  obtain ⟨rfl, -⟩ := Prod.mk.inj h
  obtain ⟨w, n, hfills, hcontent⟩ | ⟨-, hfail⟩ := exists_fills_of_writeBytes hwrite
  swap
  · exact absurd rfl hfail
  obtain ⟨hname, t, r, ht, hr, hmove⟩ := move_eq_ok hmove
  replace ht := hfills.waysIn_symm.spot ht
  replace hr := hfills.waysIn_symm.spot hr
  have hapart := spot_ne_beside hname hr ht
  have hcontents : ∀ m, s₂.content m = if m = n then bytes else s.content m := by
    intro m
    split
    · next hm => rw [hm, hcontent rfl]
    · next hm => exact hfills.contents m hm
  obtain ⟨e, he, hno, hbeside⟩ := hfills.exists_beside ht
  have hone : sameFile e (s₂.entryAt? r) = true ↔ t = w ∧ s.entryAt? r = some (.file n) := by
    obtain ⟨rfl, rfl⟩ | ⟨hne, hnumber, -⟩ := hbeside
    · rw [hfills.entries, if_neg hapart]
      simp [sameFile, Entry.number?]
    · simp [sameFile, hnumber, hne]
  have hmoved : some e = if t = w then some (.file n) else s.entryAt? t := by
    obtain ⟨rfl, rfl⟩ | ⟨hne, -, hkept⟩ := hbeside
    · rw [if_pos rfl]
    · rw [if_neg hne, hkept]
  refine ⟨r, t, w, n, ?_⟩
  obtain ⟨hshared, rfl⟩ | ⟨hother, hfree, rfl⟩ := moveEntry_eq_ok hmove he hno
  · -- Both are names of one file, so nothing is moved.
    obtain ⟨rfl, hr'⟩ := hone.mp (hshared.resolve_left hapart.symm)
    refine ⟨hfills.here, hfills.refuses, hname, hr, ht, hfills.place, hfills.number, ?_, hcontents,
      fun q => ?_⟩
    · simp [hr']
    · rw [hfills.entries]
      by_cases hq : q = r
      · subst hq
        simp [hapart, hr']
      · by_cases hq' : q = t <;> simp [hq, hq', hr']
  · rw [not_or, hone] at hother
    have hfree' : s.entryAt? r ≠ some .directory := fun hr' =>
      hfree (hfills.waysIn.ways _ _ trivial hr')
    refine ⟨hfills.here, hfills.refuses, hname, hr, ht, hfills.place, hfills.number, hfree', hcontents,
      fun q => ?_⟩
    have hleft : s₂.entryAt? t ≠ some .directory := by
      rw [he]
      exact fun h => hno (Option.some.inj h)
    rw [entryAt?_erase_put hleft hfree, hmoved, if_neg hother.2, hfills.entries]

/-! ## 5. Reading back -/

/-- The directory of a path is found without what stands at a place. -/
def Store.Clear (s : Store) (p : Path) (r : Place) : Prop :=
  ∃ i d, (s.erase r).Leads true i (s.start p) p.parts.dropLast d ∧ (s.erase r).Passable d

-- A walk ends where it cannot go on.
theorem Store.Leads.eq_of_not_passable {i j : Nat} (h : s.Leads true i d names w)
    (hw : ¬s.Passable w) (h' : s.Leads true j d (names ++ rest) x) : x = w := by
  cases rest with
  | nil =>
    rw [List.append_nil] at h'
    exact (h'.unique h).2
  | cons name rest =>
    obtain ⟨i', j', e, -, hfirst, hlast⟩ := h'.of_append (List.cons_ne_nil _ _)
    obtain ⟨-, rfl⟩ := h.unique hfirst
    exact absurd hlast.passable hw

namespace Replaces

theorem not_isWay (h : Replaces p bytes r t w n s s') (hw : s.entryAt? w = some e) : ¬IsWay e := by
  obtain hfile | ⟨hnone, -⟩ := h.number
  · obtain rfl := Option.some.inj (hfile.symm.trans hw)
    exact id
  · rw [hnone] at hw
    cases hw

theorem not_passable (h : Replaces p bytes r t w n s s') : ¬s.Passable w := fun hw =>
  h.not_isWay hw.1 trivial

-- Ways elsewhere than at the place of the path were ways before.
theorem way (h : Replaces p bytes r t w n s s') (he : IsWay e) (hplace : s'.entryAt? place = some e)
    (hr : place ≠ r) : s.entryAt? place = some e := by
  rw [h.entries, if_neg hr] at hplace
  split at hplace
  · split at hplace
    · obtain rfl := Option.some.inj hplace
      exact he.elim
    · cases hplace
  split at hplace
  · obtain rfl := Option.some.inj hplace
    exact he.elim
  · exact hplace

theorem entry_target (h : Replaces p bytes r t w n s s') :
    s'.entryAt? r = if t = w then some (.file n) else s.entryAt? t := by
  rw [h.entries, if_pos rfl]

theorem passable (h : Replaces p bytes r t w n s s') (hd : s'.Passable d) : s.Passable d := by
  refine ⟨h.way trivial hd.1 ?_, by rw [← h.refuses, hd.2]⟩
  rintro rfl
  have hdirectory := hd.1
  rw [h.entry_target] at hdirectory
  split at hdirectory
  · cases hdirectory
  · next hne =>
    obtain rfl | ⟨absolute, names, hlink⟩ := place_eq_spot_or_link h.beside h.written
    · exact hne rfl
    · rw [hlink] at hdirectory
      cases hdirectory

-- Once a link has taken the place of the path, a walk over it ends at the file.
theorem leads_of_link (h : Replaces p bytes r t w n s s') {i k : Nat} {c : Place}
    {link : List String} (hr : r = d ++ [p.name]) (hlink : s.entryAt? t = some (.link absolute link))
    (hw : s.Leads true i (turn absolute d) link w) (hx : s'.Leads true k c names x) :
    s.Leads true k c names x ∨ x = w ∨ s'.entryAt? x = none := by
  have hne : t ≠ w := by
    rintro rfl
    exact h.not_isWay hlink trivial
  have htarget : s'.entryAt? r = some (.link absolute link) := by
    rw [h.entry_target, if_neg hne, hlink]
  induction hx with
  | arrive => exact .inl .arrive
  | stay hd hdot _ ih => exact ih.imp_left (.stay (h.passable hd) hdot)
  | up hd hdots _ ih => exact ih.imp_left (.up (h.passable hd) hdots)
  | @down k c x name rest hd hname hdot hdots hstop hx ih =>
    by_cases hbeside : c ++ [name] = t
    · -- Nothing stands beside the path now, so this is the end of the walk.
      have hgone : s'.entryAt? (c ++ [name]) = none := by
        rw [hbeside, h.entries, if_neg h.apart.symm, if_pos rfl, if_neg fun hsame => hne hsame.1]
      cases rest with
      | nil =>
        cases hx
        exact .inr (.inr hgone)
      | cons next rest =>
        have hdirectory := hx.passable.1
        rw [hgone] at hdirectory
        cases hdirectory
    · refine ih.imp_left (.down (h.passable hd) hname hdot hdots (.inl ?_))
      intro absolute' names' hbefore
      have hno := hstop.resolve_right fun hend => Bool.noConfusion hend.2
      refine hno absolute' names' ?_
      rw [h.entries, if_neg hbeside, if_neg, if_neg, hbefore]
      · intro hend
        rw [hend] at hbefore
        exact h.not_isWay hbefore trivial
      · intro hr'
        rw [hr'] at hno
        exact hno _ _ htarget
  | @jump k c x name rest names' absolute' hd hname hdot hdots hlink' hon hpass hx ih =>
    by_cases hr' : c ++ [name] = r
    · obtain ⟨rfl, -⟩ := List.append_inj' (hr'.trans hr) rfl
      rw [hr', htarget] at hlink'
      obtain ⟨rfl, rfl⟩ := Entry.link.inj (Option.some.inj hlink')
      exact ih.elim (fun hx => .inr (.inl (hw.eq_of_not_passable h.not_passable hx))) .inr
    · rw [h.refuses] at hpass
      exact ih.imp_left (.jump (h.passable hd) hname hdot hdots (h.way trivial hlink' hr') hon hpass)

-- Without a link beside it, the way to the path is what it was, as far as it is there.
theorem waysIn_symm (h : Replaces p bytes r t w n s s') (hw : t = w) : s'.WaysIn s where
  here := h.here.symm
  refuses := h.refuses.symm
  ways place e he hplace := by
    refine h.way he hplace ?_
    rintro rfl
    rw [h.entry_target, if_pos hw] at hplace
    obtain rfl := Option.some.inj hplace
    exact he

/-- If the path leads anywhere now, then to the file that was written. -/
theorem arrives (h : Replaces p bytes r t w n s s') (hx : s'.place p = .ok x)
    (he : s'.entryAt? x ≠ none) : t = w ∧ x = r ∨ t ≠ w ∧ x = w := by
  obtain ⟨i, d, -, hd, hpassable, -, hr, ht⟩ := exists_of_spots h.named h.target h.beside
  obtain ⟨-, hdot, hdots⟩ := Path.name_ne_of_endsInName h.named
  obtain ⟨-, i', j, d', -, hd', hx⟩ := (resolve_eq_ok_of_name h.named).mp hx
  rw [start_congr h.here] at hd'
  have hpassable' := hx.passable
  obtain rfl | ⟨absolute, link, hlink⟩ := place_eq_spot_or_link h.beside h.written
  · refine .inl ⟨rfl, ?_⟩
    have hways := h.waysIn_symm rfl
    obtain ⟨-, rfl⟩ := hd.unique (hd'.mono_passable hways (hways.passable hpassable'))
    obtain ⟨-, -, ⟨-, -, rfl⟩ | ⟨-, _, _, -, -, hlink, -⟩⟩ := (leads_singleton hdot hdots).mp hx
    · exact hr.symm
    · rw [← hr, h.entry_target, if_pos rfl] at hlink
      cases hlink
  · have hne : t ≠ w := by
      rintro rfl
      exact h.not_isWay hlink trivial
    refine .inr ⟨hne, ?_⟩
    -- The link that was beside the path leads to the file from where it stands now, too.
    obtain ⟨-, i₀, j₀, d₀, -, hd₀, hw⟩ := (resolve_eq_ok_of_name p.endsInName_beside).mp h.written
    rw [Path.dropLast_parts_beside] at hd₀
    obtain ⟨-, rfl⟩ := hd.unique hd₀
    obtain ⟨-, hdot', hdots'⟩ := Path.name_ne_of_endsInName p.endsInName_beside
    obtain ⟨-, -, ⟨-, -, hend⟩ | ⟨m, _, _, -, -, hlink', -, hw⟩⟩ :=
      (leads_singleton hdot' hdots').mp hw
    · rw [Path.name_beside, ← ht] at hend
      exact absurd hend.symm hne
    rw [Path.name_beside, ← ht, hlink] at hlink'
    obtain ⟨rfl, rfl⟩ := Entry.link.inj (Option.some.inj hlink')
    have hgo : ∀ {k : Nat} {c x : Place} {names : List String}, s'.Leads true k c names x →
        s.Leads true k c names x ∨ x = w ∨ s'.entryAt? x = none := fun hx =>
      h.leads_of_link hr hlink hw hx
    obtain hd' | rfl | hgone := hgo hd'
    · obtain ⟨-, rfl⟩ := hd.unique hd'
      obtain ⟨-, -, ⟨-, hstop, -⟩ | ⟨m, _, _, -, -, hlink', -, hx⟩⟩ :=
        (leads_singleton hdot hdots).mp hx
      · rw [← hr] at hstop
        exact absurd (.inr rfl) (hstop.not_on (by rw [h.entry_target, if_neg hne, hlink]))
      · rw [← hr, h.entry_target, if_neg hne, hlink] at hlink'
        obtain ⟨rfl, rfl⟩ := Entry.link.inj (Option.some.inj hlink')
        obtain hx | rfl | hgone := hgo hx
        · exact (hx.unique hw).2
        · rfl
        · exact absurd hgone he
    · exact absurd (h.passable hpassable') h.not_passable
    · rw [hpassable'.1] at hgone
      cases hgone

theorem read (h : Replaces p bytes r t w n s s') {content : List UInt8}
    (hread : s'.readBytes p = .ok content) : content = bytes := by
  obtain ⟨x, m, hx, hfile, rfl⟩ := readBytes_eq_ok hread
  have hm : m = n := by
    obtain ⟨hw, rfl⟩ | ⟨hne, rfl⟩ := h.arrives hx (by simp [hfile])
    · rw [h.entry_target, if_pos hw] at hfile
      cases hfile
      rfl
    · rw [h.entries] at hfile
      split at hfile
      · obtain hw | ⟨_, _, hlink⟩ := place_eq_spot_or_link h.beside h.written
        · exact absurd hw.symm hne
        · rw [hlink] at hfile
          cases hfile
      · rw [if_neg hne.symm, if_pos rfl] at hfile
        cases hfile
        rfl
  rw [hm, h.contents, if_pos rfl]

/-- The path leads to the file, unless it was written over a link or the way to its directory went
over a link at the place of the path. -/
theorem placed (h : Replaces p bytes r t w n s s')
    (hno : ∀ absolute names, s.entryAt? t ≠ some (.link absolute names)) (hclear : s.Clear p r) :
    s'.place p = .ok r := by
  obtain rfl : w = t := (place_eq_spot_or_link h.beside h.written).resolve_right
    fun ⟨_, _, hlink⟩ => hno _ _ hlink
  obtain ⟨i, d, hi, hd, -, hsize, hr, -⟩ := exists_of_spots h.named h.target h.beside
  obtain ⟨-, hdot, hdots⟩ := Path.name_ne_of_endsInName h.named
  obtain ⟨i', d', hd', hpassable⟩ := hclear
  have hne : r ≠ [] := ne_nil_of_ne_directory h.free
  have hbefore : (s.erase r).WaysIn s := by
    refine ⟨rfl, rfl, fun q e he hq => ?_⟩
    rw [entryAt?_erase hne] at hq
    split at hq
    · cases hq
    · exact hq
  have hafter : (s.erase r).WaysIn s' := by
    refine ⟨h.here, h.refuses, fun q e he hq => ?_⟩
    have hq' := hbefore.ways q e he hq
    have hqw : q ≠ w := by
      rintro rfl
      exact h.not_isWay hq' he
    rw [entryAt?_erase hne] at hq
    split at hq
    · cases hq
    next hqr => rw [h.entries, if_neg hqr, if_neg hqw, if_neg hqw, hq]
  obtain ⟨rfl, rfl⟩ :=
    hd.unique (hd'.mono_passable hbefore (hbefore.passable hpassable))
  refine (resolve_eq_ok_of_name h.named).mpr
    ⟨(resolve_eq_ok.mp h.target).1, i, 0, d, by omega, ?_, ?_⟩
  · rw [start_congr h.here]
    exact hd'.mono_passable hafter (hafter.passable hpassable)
  · refine (leads_singleton hdot hdots).mpr ⟨hafter.passable hpassable, hsize, .inl ⟨rfl, ?_, hr⟩⟩
    refine .inl fun absolute names hlink => ?_
    rw [← hr, h.entry_target, if_pos rfl] at hlink
    cases hlink

end Replaces

-- Without a link at its place, a path is not on its own way.
theorem clear_of_not_link (hname : p.endsInName = true) (hr : s.spot p = .ok r)
    (ht : s.spot p.beside = .ok t) (hfree : s.entryAt? r ≠ some .directory)
    (hno : ∀ absolute names, s.entryAt? r ≠ some (.link absolute names)) : s.Clear p r := by
  obtain ⟨i, d, -, hd, hpassable, -⟩ := exists_of_spots hname hr ht
  have hways : s.WaysIn (s.erase r) := by
    refine ⟨rfl, rfl, fun q e he hq => ?_⟩
    rw [entryAt?_erase (ne_nil_of_ne_directory hfree), if_neg, hq]
    rintro rfl
    cases e with
    | directory => exact hfree hq
    | link absolute names => exact hno _ _ hq
    | file | socket => exact he
  have hpassable' := hways.passable hpassable
  exact ⟨i, d, hd.mono_passable hways hpassable', hpassable'⟩

/-! ## 6. Failing -/

/-- The second store is the first, but for what stands beside the path, which may be gone, and for the
file that it leads to, which may have other bytes or be new.  A new file is left beside the path itself
only if it cannot be taken away. -/
structure Fails (p : Path) (e : WriteError) (s s' : Store) : Prop where
  here : s'.here = s.here
  refuses : s'.refuses = s.refuses
  contents : ∀ m, s'.content m = s.content m ∨ ∃ w, s.place p.beside = .ok w ∧
    (s.entryAt? w = some (.file m) ∨ s.entryAt? w = none ∧ m = s.freshNumber)
  entries : ∀ q, s'.entryAt? q = s.entryAt? q ∨
    s'.entryAt? q = none ∧ s.spot p.beside = .ok q ∧ s.entryAt? q ≠ some .directory ∨
    s'.entryAt? q = some (.file s.freshNumber) ∧ s.entryAt? q = none ∧ s.place p.beside = .ok q ∧
      (s.spot p.beside = .ok q → ∃ e', e = .cleanup e')

theorem Fails.refl (p : Path) (e : WriteError) (s : Store) : Fails p e s s :=
  ⟨rfl, rfl, fun _ => .inl rfl, fun _ => .inl rfl⟩

theorem cleanUp_cases {o : Except Error Unit} (h : cleanUp s beside = (s', o)) :
    s' = s ∧ (o = .ok () → s.exists? beside = .ok false) ∨
      ∃ t e, s.spot beside = .ok t ∧ s.entryAt? t = some e ∧ e ≠ .directory ∧ s' = s.erase t := by
  rw [cleanUp] at h
  split at h
  · obtain ⟨rfl, rfl⟩ := Prod.mk.inj h
    exact .inl ⟨rfl, fun h => by cases h⟩
  · next hexists =>
    obtain ⟨rfl, rfl⟩ := Prod.mk.inj h
    exact .inl ⟨rfl, fun _ => hexists⟩
  · split at h
    · next hremove =>
      obtain ⟨rfl, rfl⟩ := Prod.mk.inj h
      exact .inr (remove_eq_ok hremove)
    · obtain ⟨rfl, rfl⟩ := Prod.mk.inj h
      exact .inl ⟨rfl, fun h => by cases h⟩

theorem fills_of_writeAndMove {e : Error} (h : writeAndMove s beside p bytes = (s', .error e)) :
    s' = s ∨ ∃ w n, Fills beside w n s s' := by
  rw [writeAndMove] at h
  split at h
  · next hwrite =>
    obtain ⟨rfl, -⟩ := Prod.mk.inj h
    obtain ⟨w, n, hfills, -⟩ | ⟨rfl, -⟩ := exists_fills_of_writeBytes hwrite
    · exact .inr ⟨w, n, hfills⟩
    · exact .inl rfl
  next hwrite =>
  obtain ⟨w, n, hfills, -⟩ | ⟨-, hfail⟩ := exists_fills_of_writeBytes hwrite
  swap
  · exact absurd rfl hfail
  split at h
  · obtain ⟨rfl, -⟩ := Prod.mk.inj h
    exact .inr ⟨w, n, hfills⟩
  · cases h

-- What was not written is taken away beside the path, if it can be.
theorem fails_of_cleanUp {e : WriteError} {o : Except Error Unit}
    (h : cleanUp s p.beside = (s', o)) : Fails p e s s' := by
  obtain ⟨rfl, -⟩ | ⟨t, e, ht, he, hno, rfl⟩ := cleanUp_cases h
  · exact .refl _ _ _
  have hleft : s.entryAt? t ≠ some .directory := by
    rw [he]
    exact fun h => hno (Option.some.inj h)
  refine ⟨rfl, rfl, fun m => .inl rfl, fun q => ?_⟩
  rw [entryAt?_erase (ne_nil_of_ne_directory hleft)]
  split
  · next hq => exact .inr (.inl ⟨rfl, hq ▸ ht, hq ▸ hleft⟩)
  · exact .inl rfl

theorem Fills.contents_or (h : Fills p w n s s') (m : Nat) : s'.content m = s.content m ∨
    ∃ w, s.place p = .ok w ∧ (s.entryAt? w = some (.file m) ∨ s.entryAt? w = none ∧ m = s.freshNumber) := by
  by_cases hm : m = n
  · rw [hm]
    exact .inr ⟨w, h.place, h.number⟩
  · exact .inl (h.contents m hm)

-- What was written is taken away again, if it can be.
theorem Fills.fails {e : WriteError} {o : Except Error Unit} (h : Fills p.beside w n s s₁)
    (hclean : cleanUp s₁ p.beside = (s', o)) (he : ∀ e', o = .error e' → e = .cleanup e') :
    Fails p e s s' := by
  have hexists : s₁.exists? p.beside = .ok true := by
    rw [exists?, lookup_eq_ok.mpr ⟨w, h.placed, h.entry⟩]
  obtain ⟨rfl, ho⟩ | ⟨t, e₁, ht, he₁, hno, rfl⟩ := cleanUp_cases hclean
  · obtain ⟨e', rfl⟩ : ∃ e', o = .error e' := by
      cases o with
      | ok =>
        rw [ho rfl] at hexists
        cases hexists
      | error e' => exact ⟨e', rfl⟩
    refine ⟨h.here, h.refuses, h.contents_or, fun q => ?_⟩
    rw [h.entries]
    split
    · next hq =>
      obtain hfile | ⟨hnone, rfl⟩ := h.number
      · exact .inl (hq ▸ hfile.symm)
      · exact .inr (.inr ⟨rfl, hq ▸ hnone, hq ▸ h.place, fun _ => ⟨e', he e' rfl⟩⟩)
    · exact .inl rfl
  · replace ht := h.waysIn_symm.spot ht
    have hleft : s₁.entryAt? t ≠ some .directory := by
      rw [he₁]
      exact fun heq => hno (Option.some.inj heq)
    have hleft' : s.entryAt? t ≠ some .directory := fun heq =>
      hleft (h.waysIn.ways _ _ trivial heq)
    refine ⟨h.here, h.refuses, h.contents_or, fun q => ?_⟩
    rw [entryAt?_erase (ne_nil_of_ne_directory hleft), h.entries]
    split
    · next hq => exact .inr (.inl ⟨rfl, hq ▸ ht, hq ▸ hleft'⟩)
    next hqt =>
    split
    · next hq =>
      obtain hfile | ⟨hnone, rfl⟩ := h.number
      · exact .inl (hq ▸ hfile.symm)
      · refine .inr (.inr ⟨rfl, hq ▸ hnone, hq ▸ h.place, fun hspot => ?_⟩)
        exact absurd (Except.ok.inj (hspot.symm.trans ht)) hqt
    · exact .inl rfl

/-! ## 7. Writing at once -/

/-- Writing at once makes directories first.  After that it replaces what the path stands for, or it
fails and only what stands beside the path may change. -/
theorem writeAtOnce_outcome (s : Store) (p : Path) (bytes : List UInt8) :
    match writeAtOnce s p bytes besideSuffix with
    | (s', .ok ()) => ∃ r t w n, Replaces p bytes r t w n (ensureDirectory s p.parent).1 s'
    | (s', .error e) => Fails p e (ensureDirectory s p.parent).1 s' := by
  rw [writeAtOnce]
  cases hmade : ensureDirectory s p.parent with
  | mk s₁ made =>
  cases made with
  | error e => exact .refl _ _ _
  | ok =>
  dsimp only
  cases hbeside : p.withSuffix (p.suffix ++ besideSuffix) with
  | error e => exact .refl _ _ _
  | ok beside =>
  dsimp only
  cases hwritten : writeAndMove s₁ beside p bytes with
  | mk s₂ written =>
  have hnull := Path.holdsNull_of_withSuffix hbeside
  obtain ⟨-, rfl⟩ := Path.eq_of_withSuffix hbeside
  cases written with
  | ok => exact replaces_of_writeAndMove hwritten
  | error e =>
  have hfills := fills_of_writeAndMove hwritten
  have hfails : ∀ {s₃ o e'}, cleanUp s₂ p.beside = (s₃, o) →
      (∀ e, o = .error e → e' = .cleanup e) → Fails p e' s₁ s₃ := by
    intro s₃ o e' hclean he
    obtain rfl | ⟨w, n, hfills⟩ := hfills
    · exact fails_of_cleanUp hclean
    · exact hfills.fails hclean he
  cases e with
  | nullCharacter =>
    -- A null character is noticed before anything is written.
    have hwrite : s₁.writeBytes p.beside bytes = (s₁, .error .nullCharacter) := by
      rw [(writeAndMove_eq_nullCharacter hnull).mp (by rw [hwritten])] at hnull
      rw [writeBytes, openForWriting_eq_nullCharacter.mpr hnull]
    rw [writeAndMove, hwrite] at hwritten
    obtain ⟨rfl, -⟩ := Prod.mk.inj hwritten
    exact .refl _ _ _
  | obstacle | moving | stream =>
    dsimp only
    cases hclean : cleanUp s₂ p.beside with
    | mk s₃ cleaned =>
    cases cleaned with
    | ok => exact hfails hclean fun _ he => by cases he
    | error e => exact hfails hclean fun _ he => congrArg _ (Except.error.inj he)

end PenPlotter.Files
