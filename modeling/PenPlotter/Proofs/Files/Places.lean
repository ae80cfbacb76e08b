import Mathlib.Data.List.Infix
import PenPlotter.Proofs.Except
import PenPlotter.Proofs.Files.Names

/-!
# Places in a store

What the operations of a store do to its entries and contents, and where paths lead.  A walk that
succeeds is a row of steps, each through a directory or over a link, so it depends on the directories
and links on the way and on nothing else.
-/

set_option autoImplicit false

namespace PenPlotter.Files.Store

variable {s s' s'' : Store} {d d' x x' place other : Place} {name : String}
  {names rest target : List String} {follow absolute : Bool} {i j n : Nat} {p : Path} {e : Entry}
  {bytes : List UInt8}

/-! ## 1. Entries and contents -/

theorem ne_nil_of_ne_directory (h : s.entryAt? place ≠ some .directory) : place ≠ [] := by
  rintro rfl
  exact h rfl

theorem ne_nil_of_none (h : s.entryAt? place = none) : place ≠ [] :=
  ne_nil_of_ne_directory (s := s) (by simp [h])

theorem find?_filter_ne {α β : Type} [DecidableEq α] (l : List (α × β)) (a b : α) :
    (l.filter (·.1 ≠ a)).find? (·.1 = b) = if b = a then none else l.find? (·.1 = b) := by
  rw [List.find?_filter]
  split
  · next h =>
    subst h
    simp
  · next h =>
    congr 1
    funext y
    by_cases hy : y.1 = b <;> simp [hy, h]

theorem entryAt?_put (hne : place ≠ []) (e : Entry) (other : Place) :
    (s.put place e).entryAt? other = if other = place then some e else s.entryAt? other := by
  by_cases hroot : other = []
  · subst hroot
    rw [if_neg (Ne.symm hne)]
    rfl
  · simp only [ entryAt?, put, List.isEmpty_iff, hroot, if_false, List.find?_cons,
      find?_filter_ne]
    by_cases hother : other = place
    · simp [hother]
    · simp [hother, Ne.symm hother]

theorem entryAt?_erase (hne : place ≠ []) (other : Place) :
    (s.erase place).entryAt? other = if other = place then none else s.entryAt? other := by
  by_cases hroot : other = []
  · subst hroot
    rw [if_neg (Ne.symm hne)]
    rfl
  · simp only [ entryAt?, erase, List.isEmpty_iff, hroot, if_false, find?_filter_ne]
    split <;> rfl

@[simp] theorem entryAt?_setContent (number : Nat) (other : Place) :
    (s.setContent number bytes).entryAt? other = s.entryAt? other := rfl

@[simp] theorem content_put (number : Nat) : (s.put place e).content number = s.content number := rfl

@[simp] theorem content_erase (number : Nat) : (s.erase place).content number = s.content number := rfl

theorem content_setContent (number other : Nat) :
    (s.setContent number bytes).content other
      = if other = number then bytes else s.content other := by
  rw [content, setContent, List.find?_cons, find?_filter_ne]
  by_cases hother : other = number
  · simp [hother]
  · simp [hother, Ne.symm hother, content]

theorem le_foldl_max {l : List Nat} {a m : Nat} (h : m ∈ l ∨ m ≤ a) : m ≤ l.foldl max a := by
  induction l generalizing a with
  | nil => simpa using h
  | cons b l ih =>
    apply ih
    obtain h | h := h
    · obtain rfl | h := List.mem_cons.mp h
      · exact .inr (Nat.le_max_right _ _)
      · exact .inl h
    · exact .inr (h.trans (Nat.le_max_left _ _))

theorem lt_freshNumber_of_entryAt? (h : s.entryAt? place = some (.file n)) : n < s.freshNumber := by
  refine Nat.lt_succ_of_le (le_foldl_max (.inl ?_))
  rw [entryAt?] at h
  split at h
  · cases h
  obtain ⟨⟨q, e⟩, hfind, rfl⟩ := Option.map_eq_some_iff.mp h
  exact List.mem_append_left _ (List.mem_filterMap.mpr ⟨_, List.mem_of_find?_eq_some hfind, rfl⟩)

/-! ## 2. Walking -/

def Passable (s : Store) (d : Place) : Prop :=
  s.entryAt? d = some .directory ∧ s.refuses .pass d .directory = none

def Stops (s : Store) (follow : Bool) (place : Place) (rest : List String) : Prop :=
  (∀ absolute names, s.entryAt? place ≠ some (.link absolute names)) ∨ rest = [] ∧ follow = false

def turn (absolute : Bool) (d : Place) : Place := if absolute then [] else d

/-- Names lead from a directory to a place, over a number of links. -/
inductive Leads (s : Store) (follow : Bool) : Nat → Place → List String → Place → Prop
  | arrive {d : Place} : s.Leads follow 0 d [] d
  | stay {n : Nat} {d x : Place} {name : String} {rest : List String} (hd : s.Passable d)
      (hdot : name = ".") (h : s.Leads follow n d rest x) : s.Leads follow n d (name :: rest) x
  | up {n : Nat} {d x : Place} {name : String} {rest : List String} (hd : s.Passable d)
      (hdots : name = "..") (h : s.Leads follow n d.dropLast rest x) :
      s.Leads follow n d (name :: rest) x
  | down {n : Nat} {d x : Place} {name : String} {rest : List String} (hd : s.Passable d)
      (hname : name.utf8ByteSize ≤ nameLimit)
      (hdot : name ≠ ".") (hdots : name ≠ "..") (hstop : s.Stops follow (d ++ [name]) rest)
      (h : s.Leads follow n (d ++ [name]) rest x) : s.Leads follow n d (name :: rest) x
  | jump {n : Nat} {d x : Place} {name : String} {rest names : List String} {absolute : Bool}
      (hd : s.Passable d) (hname : name.utf8ByteSize ≤ nameLimit) (hdot : name ≠ ".") (hdots : name ≠ "..")
      (hlink : s.entryAt? (d ++ [name]) = some (.link absolute names))
      (hon : rest ≠ [] ∨ follow = true)
      (hpass : s.refuses .pass (d ++ [name]) (.link absolute names) = none)
      (h : s.Leads follow n (turn absolute d) (names ++ rest) x) :
      s.Leads follow (n + 1) d (name :: rest) x

theorem allow_bind_eq_ok {α : Type} {a : Access} {f : Unit → Except Obstacle α} {y : α} :
    s.allow a place e >>= f = .ok y ↔ s.refuses a place e = none ∧ f () = .ok y := by
  rw [allow]
  cases s.refuses a place e <;> simp [bind, Except.bind]

section
variable {jump : Place → Entry → Place → List String → Except Obstacle Place}

theorem walkWith_cons_eq_ok :
    s.walkWith follow jump d (name :: rest) = .ok x ↔
      s.Passable d ∧ name.utf8ByteSize ≤ nameLimit ∧
        (name = "." ∧ s.walkWith follow jump d rest = .ok x ∨
          name = ".." ∧ s.walkWith follow jump d.dropLast rest = .ok x ∨
          name ≠ "." ∧ name ≠ ".." ∧
            (s.Stops follow (d ++ [name]) rest ∧
                s.walkWith follow jump (d ++ [name]) rest = .ok x ∨
              ∃ absolute names, s.entryAt? (d ++ [name]) = some (.link absolute names) ∧
                (rest ≠ [] ∨ follow = true) ∧
                jump (d ++ [name]) (.link absolute names) (turn absolute d) (names ++ rest)
                  = .ok x)) := by
  rw [walkWith, Passable]
  cases hd : s.entryAt? d with
  | none => simp
  | some e =>
  cases e with
  | file | link | socket => simp
  | directory =>
  dsimp only
  rw [allow_bind_eq_ok, and_iff_right rfl]
  refine and_congr_right fun _ => ?_
  by_cases hlong : nameLimit < name.utf8ByteSize
  · simp [hlong, Nat.not_le.mpr hlong, throw, throwThe, MonadExceptOf.throw]
  rw [if_neg hlong, and_iff_right (Nat.not_lt.mp hlong)]
  by_cases hdot : name = "."
  · simp [hdot]
  by_cases hdots : name = ".."
  · simp [hdots]
  simp only [hdot, hdots, if_false, false_and, false_or, ne_eq, not_false_eq_true, true_and]
  cases hnext : s.entryAt? (d ++ [name]) with
  | none => simp [Stops, hnext]
  | some e =>
  cases e with
  | directory | file | socket => simp [Stops, hnext]
  | link absolute names =>
  by_cases hend : rest = [] ∧ follow = false
  · obtain ⟨rfl, rfl⟩ := hend
    simp [Stops, hnext, walkWith, pure, Except.pure]
  · have hon : rest ≠ [] ∨ follow = true := by
      rwa [not_and_or, Bool.not_eq_false] at hend
    have hgo : (rest.isEmpty && !follow) = false := by
      simpa [List.isEmpty_iff, or_iff_not_imp_left] using hon
    simp [Stops, hnext, hend, hon, hgo, turn]

end

theorem walk_eq_ok : s.walk follow n d names = .ok x ↔ ∃ k ≤ n, s.Leads follow k d names x := by
  induction n generalizing d names with
  | zero =>
    simp only [Nat.le_zero, exists_eq_left]
    rw [walk]
    induction names generalizing d with
    | nil =>
      rw [walkWith, Except.ok.injEq]
      exact ⟨fun h => h ▸ .arrive, fun h => by cases h; rfl⟩
    | cons name rest ih =>
      rw [walkWith_cons_eq_ok, ih, ih, ih]
      constructor
      · rintro ⟨hd, hname, ⟨hdot, h⟩ | ⟨hdots, h⟩ | ⟨hdot, hdots, ⟨hstop, h⟩ | ⟨_, _, _, _, h⟩⟩⟩
        · exact .stay hd hdot h
        · exact .up hd hdots h
        · exact .down hd hname hdot hdots hstop h
        · cases h
      · intro h
        cases h with
        | stay hd hdot h => exact ⟨hd, by subst hdot; decide, .inl ⟨hdot, h⟩⟩
        | up hd hdots h => exact ⟨hd, by subst hdots; decide, .inr (.inl ⟨hdots, h⟩)⟩
        | down hd hname hdot hdots hstop h =>
          exact ⟨hd, hname, .inr (.inr ⟨hdot, hdots, .inl ⟨hstop, h⟩⟩)⟩
  | succ n ihn =>
    rw [walk]
    induction names generalizing d with
    | nil =>
      rw [walkWith, Except.ok.injEq]
      exact ⟨fun h => h ▸ ⟨0, Nat.zero_le _, .arrive⟩, fun ⟨k, _, h⟩ => by cases h; rfl⟩
    | cons name rest ih =>
      rw [walkWith_cons_eq_ok, ih, ih, ih]
      simp only [allow_bind_eq_ok, ihn]
      constructor
      · rintro ⟨hd, hname, ⟨hdot, k, hk, h⟩ | ⟨hdots, k, hk, h⟩ | ⟨hdot, hdots, ⟨hstop, k, hk, h⟩ |
          ⟨_, _, hlink, hon, hpass, k, hk, h⟩⟩⟩
        · exact ⟨k, hk, .stay hd hdot h⟩
        · exact ⟨k, hk, .up hd hdots h⟩
        · exact ⟨k, hk, .down hd hname hdot hdots hstop h⟩
        · exact ⟨k + 1, Nat.succ_le_succ hk, .jump hd hname hdot hdots hlink hon hpass h⟩
      · rintro ⟨k, hk, h⟩
        cases h with
        | stay hd hdot h => exact ⟨hd, by subst hdot; decide, .inl ⟨hdot, k, hk, h⟩⟩
        | up hd hdots h => exact ⟨hd, by subst hdots; decide, .inr (.inl ⟨hdots, k, hk, h⟩)⟩
        | down hd hname hdot hdots hstop h =>
          exact ⟨hd, hname, .inr (.inr ⟨hdot, hdots, .inl ⟨hstop, k, hk, h⟩⟩)⟩
        | jump hd hname hdot hdots hlink hon hpass h =>
          exact ⟨hd, hname, .inr (.inr ⟨hdot, hdots,
            .inr ⟨_, _, hlink, hon, hpass, _, Nat.le_of_succ_le_succ hk, h⟩⟩)⟩

/-! ## 3. Walks -/

theorem Leads.passable (h : s.Leads follow n d (name :: rest) x) : s.Passable d := by
  cases h <;> assumption

-- A link is passed by or followed, not both.
theorem Stops.not_on (h : s.Stops follow place rest)
    (hlink : s.entryAt? place = some (.link absolute names)) : ¬(rest ≠ [] ∨ follow = true) := by
  obtain hno | ⟨rfl, rfl⟩ := h
  · exact absurd hlink (hno _ _)
  · simp

-- A walk cannot go in two ways.
theorem Leads.unique (h : s.Leads follow i d names x) (h' : s.Leads follow j d names x') :
    i = j ∧ x = x' := by
  induction h generalizing j with
  | arrive =>
    cases h'
    exact ⟨rfl, rfl⟩
  | stay hd hdot h ih =>
    subst hdot
    cases h' with
    | stay _ _ h' => exact ih h'
    | up _ hdots => exact absurd hdots (by decide)
    | down _ _ hdot => exact absurd rfl hdot
    | jump _ _ hdot => exact absurd rfl hdot
  | up hd hdots h ih =>
    subst hdots
    cases h' with
    | stay _ hdot => exact absurd hdot (by decide)
    | up _ _ h' => exact ih h'
    | down _ _ _ hdots => exact absurd rfl hdots
    | jump _ _ _ hdots => exact absurd rfl hdots
  | down hd hname hdot hdots hstop h ih =>
    cases h' with
    | stay _ hdot' => exact absurd hdot' hdot
    | up _ hdots' => exact absurd hdots' hdots
    | down _ _ _ _ _ h' => exact ih h'
    | jump _ _ _ _ hlink hon => exact absurd hon (hstop.not_on hlink)
  | jump hd hname hdot hdots hlink hon hpass h ih =>
    cases h' with
    | stay _ hdot' => exact absurd hdot' hdot
    | up _ hdots' => exact absurd hdots' hdots
    | down _ _ _ _ hstop => exact absurd hon (hstop.not_on hlink)
    | jump _ _ _ _ hlink' _ _ h' =>
      obtain ⟨rfl, rfl⟩ := Entry.link.inj (Option.some.inj (hlink.symm.trans hlink'))
      obtain ⟨rfl, hx⟩ := ih h'
      exact ⟨rfl, hx⟩

-- A link that more names come after is followed.
theorem Leads.of_append (hrest : rest ≠ []) (h : s.Leads follow n d (names ++ rest) x) :
    ∃ i j e, i + j = n ∧ s.Leads true i d names e ∧ s.Leads follow j e rest x := by
  generalize hall : names ++ rest = all at h
  induction h generalizing names with
  | arrive => exact absurd (List.append_eq_nil_iff.mp hall).2 hrest
  | stay hd hdot h ih =>
    cases names with
    | nil =>
      obtain rfl : rest = _ := hall
      exact ⟨0, _, _, Nat.zero_add _, .arrive, .stay hd hdot h⟩
    | cons name names =>
      obtain ⟨rfl, rfl⟩ := List.cons.inj hall
      obtain ⟨i, j, e, hij, hfirst, hlast⟩ := ih rfl
      exact ⟨i, j, e, hij, .stay hd hdot hfirst, hlast⟩
  | up hd hdots h ih =>
    cases names with
    | nil =>
      obtain rfl : rest = _ := hall
      exact ⟨0, _, _, Nat.zero_add _, .arrive, .up hd hdots h⟩
    | cons name names =>
      obtain ⟨rfl, rfl⟩ := List.cons.inj hall
      obtain ⟨i, j, e, hij, hfirst, hlast⟩ := ih rfl
      exact ⟨i, j, e, hij, .up hd hdots hfirst, hlast⟩
  | down hd hname hdot hdots hstop h ih =>
    cases names with
    | nil =>
      obtain rfl : rest = _ := hall
      exact ⟨0, _, _, Nat.zero_add _, .arrive, .down hd hname hdot hdots hstop h⟩
    | cons name names =>
      obtain ⟨rfl, rfl⟩ := List.cons.inj hall
      obtain ⟨i, j, e, hij, hfirst, hlast⟩ := ih rfl
      refine ⟨i, j, e, hij, .down hd hname hdot hdots (.inl ?_) hfirst, hlast⟩
      exact hstop.resolve_right fun hend => hrest (List.append_eq_nil_iff.mp hend.1).2
  | jump hd hname hdot hdots hlink hon hpass h ih =>
    cases names with
    | nil =>
      obtain rfl : rest = _ := hall
      exact ⟨0, _, _, Nat.zero_add _, .arrive, .jump hd hname hdot hdots hlink hon hpass h⟩
    | cons name names =>
      obtain ⟨rfl, rfl⟩ := List.cons.inj hall
      obtain ⟨i, j, e, hij, hfirst, hlast⟩ := ih (List.append_assoc _ _ _)
      refine ⟨i + 1, j, e, by omega, ?_, hlast⟩
      exact .jump hd hname hdot hdots hlink (.inr rfl) hpass hfirst

theorem Leads.append (hrest : rest ≠ []) (h : s.Leads true i d names d')
    (h' : s.Leads follow j d' rest x) : s.Leads follow (i + j) d (names ++ rest) x := by
  induction h with
  | arrive => rwa [Nat.zero_add]
  | stay hd hdot h ih => exact .stay hd hdot (ih h')
  | up hd hdots h ih => exact .up hd hdots (ih h')
  | down hd hname hdot hdots hstop h ih =>
    refine .down hd hname hdot hdots (.inl ?_) (ih h')
    exact hstop.resolve_right fun hend => Bool.noConfusion hend.2
  | jump hd hname hdot hdots hlink hon hpass h ih =>
    rw [Nat.add_right_comm]
    refine .jump hd hname hdot hdots hlink (.inl (by simp [hrest])) hpass ?_
    rw [List.append_eq, ← List.append_assoc]
    exact ih h'

-- Without a link at its end a path leads where it stands.
theorem Leads.followed (h : s.Leads false n d names x)
    (hx : ∀ absolute names, s.entryAt? x ≠ some (.link absolute names)) :
    s.Leads true n d names x := by
  induction h with
  | arrive => exact .arrive
  | stay hd hdot h ih => exact .stay hd hdot (ih hx)
  | up hd hdots h ih => exact .up hd hdots (ih hx)
  | down hd hname hdot hdots hstop h ih =>
    refine .down hd hname hdot hdots ?_ (ih hx)
    obtain hno | ⟨rfl, -⟩ := hstop
    · exact .inl hno
    · cases h
      exact .inl hx
  | jump hd hname hdot hdots hlink hon hpass h ih =>
    exact .jump hd hname hdot hdots hlink (.inr rfl) hpass (ih hx)

/-! ## 4. Ways -/

def IsWay : Entry → Prop
  | .directory | .link _ _ => True
  | .file _ | .socket => False

/-- All ways of one store are ways of the other, too. -/
structure WaysIn (s s' : Store) : Prop where
  here : s'.here = s.here
  refuses : s'.refuses = s.refuses
  ways : ∀ place e, IsWay e → s.entryAt? place = some e → s'.entryAt? place = some e

theorem WaysIn.refl (s : Store) : s.WaysIn s := ⟨rfl, rfl, fun _ _ _ h => h⟩

theorem WaysIn.trans (h : s.WaysIn s') (h' : s'.WaysIn s'') : s.WaysIn s'' where
  here := h'.here.trans h.here
  refuses := h'.refuses.trans h.refuses
  ways place e he hplace := h'.ways place e he (h.ways place e he hplace)

theorem WaysIn.passable (h : s.WaysIn s') (hd : s.Passable d) : s'.Passable d :=
  ⟨h.ways d _ trivial hd.1, by rw [h.refuses, hd.2]⟩

theorem Passable.not_link (hd : s.Passable d) (absolute : Bool) (names : List String) :
    s.entryAt? d ≠ some (.link absolute names) := by
  rw [hd.1]
  nofun

-- More ways lead no other way, unless there is a new link at the very end.
theorem Leads.mono (h : s.Leads follow n d names x) (hways : s.WaysIn s')
    (hx : follow = false ∨ ∀ absolute names, s'.entryAt? x = some (.link absolute names) →
      s.entryAt? x = some (.link absolute names)) :
    s'.Leads follow n d names x := by
  induction h with
  | arrive => exact .arrive
  | stay hd hdot h ih => exact .stay (hways.passable hd) hdot (ih hx)
  | up hd hdots h ih => exact .up (hways.passable hd) hdots (ih hx)
  | @down n d x name rest hd hname hdot hdots hstop h ih =>
    refine .down (hways.passable hd) hname hdot hdots ?_ (ih hx)
    cases rest with
    | nil =>
      cases h
      obtain hno | hend := hstop
      · exact hx.symm.imp (fun hx absolute names h => hno _ _ (hx _ _ h)) fun hfollow =>
          ⟨rfl, hfollow⟩
      · exact .inr hend
    | cons next rest => exact .inl (hways.passable h.passable).not_link
  | jump hd hname hdot hdots hlink hon hpass h ih =>
    refine .jump (hways.passable hd) hname hdot hdots (hways.ways _ _ trivial hlink) hon ?_ (ih hx)
    rw [hways.refuses, hpass]

-- A walk through a directory is the same with more ways.
theorem Leads.mono_passable (h : s.Leads follow n d names x) (hways : s.WaysIn s')
    (hx : s'.Passable x) : s'.Leads follow n d names x :=
  h.mono hways (.inr fun _ _ hlink => absurd hlink (hx.not_link _ _))

/-! ## 5. Paths -/

def Takes (p : Path) : Prop := p.holdsNull = false ∧ p.text.utf8ByteSize < pathLimit

theorem resolve_eq_ok : s.resolve follow p = .ok x ↔
    Takes p ∧ ∃ n ≤ linkLimit, s.Leads follow n (s.start p) p.parts x := by
  rw [resolve, Takes]
  split
  · next hnull => simp [hnull]
  next hnull =>
  rw [Bool.not_eq_true] at hnull
  split
  · next hlong => simp [Nat.not_lt.mpr hlong]
  next hlong =>
  rw [mapError_eq_ok, walk_eq_ok, and_iff_right ⟨hnull, Nat.not_le.mp hlong⟩]

-- The last name of a path is looked up in the directory that the others lead to.
theorem resolve_eq_ok_of_name (hname : p.endsInName = true) : s.resolve follow p = .ok x ↔
    Takes p ∧ ∃ i j d, i + j ≤ linkLimit ∧ s.Leads true i (s.start p) p.parts.dropLast d ∧
      s.Leads follow j d [p.name] x := by
  have hparts := Path.parts_eq_concat (Path.parts_ne_nil (Path.name_ne_of_endsInName hname).1)
  rw [resolve_eq_ok]
  refine and_congr_right fun _ => ?_
  constructor
  · rintro ⟨n, hn, h⟩
    rw [hparts] at h
    obtain ⟨i, j, d, rfl, hd, hx⟩ := h.of_append (List.cons_ne_nil _ _)
    exact ⟨i, j, d, hn, hd, hx⟩
  · rintro ⟨i, j, d, hn, hd, hx⟩
    refine ⟨i + j, hn, ?_⟩
    rw [hparts]
    exact hd.append (List.cons_ne_nil _ _) hx

-- One name leads to the entry of that name, or over the link there.
theorem leads_singleton (hdot : name ≠ ".") (hdots : name ≠ "..") :
    s.Leads follow n d [name] x ↔ s.Passable d ∧ name.utf8ByteSize ≤ nameLimit ∧
      (n = 0 ∧ s.Stops follow (d ++ [name]) [] ∧ x = d ++ [name] ∨
        ∃ m absolute names, n = m + 1 ∧ follow = true ∧
          s.entryAt? (d ++ [name]) = some (.link absolute names) ∧
          s.refuses .pass (d ++ [name]) (.link absolute names) = none ∧
          s.Leads follow m (turn absolute d) names x) := by
  constructor
  · intro h
    cases h with
    | stay _ hdot' => exact absurd hdot' hdot
    | up _ hdots' => exact absurd hdots' hdots
    | down hd hname _ _ hstop h =>
      cases h
      exact ⟨hd, hname, .inl ⟨rfl, hstop, rfl⟩⟩
    | jump hd hname _ _ hlink hon hpass h =>
      rw [List.append_nil] at h
      exact ⟨hd, hname, .inr ⟨_, _, _, rfl, hon.resolve_left (· rfl), hlink, hpass, h⟩⟩
  · rintro ⟨hd, hname, ⟨rfl, hstop, rfl⟩ | ⟨m, absolute, names, rfl, hfollow, hlink, hpass, h⟩⟩
    · exact .down hd hname hdot hdots hstop .arrive
    · refine .jump hd hname hdot hdots hlink (.inr hfollow) hpass ?_
      rwa [List.append_nil]

theorem start_congr (h : s'.here = s.here) (p : Path) : s'.start p = s.start p := by
  rw [start, start, h]

theorem WaysIn.resolve (h : s.WaysIn s') (hplace : s.resolve follow p = .ok x)
    (hx : follow = false ∨ ∀ absolute names, s'.entryAt? x = some (.link absolute names) →
      s.entryAt? x = some (.link absolute names)) :
    s'.resolve follow p = .ok x := by
  obtain ⟨htakes, n, hn, hleads⟩ := resolve_eq_ok.mp hplace
  rw [resolve_eq_ok, start_congr h.here]
  exact ⟨htakes, n, hn, hleads.mono h hx⟩

theorem WaysIn.spot (h : s.WaysIn s') (hspot : s.spot p = .ok x) : s'.spot p = .ok x :=
  h.resolve hspot (.inl rfl)

theorem lookup_eq_ok : s.lookup p = .ok e ↔
    ∃ place, s.place p = .ok place ∧ s.entryAt? place = some e := by
  unfold lookup
  cases s.place p with
  | error e => simp [bind, Except.bind]
  | ok place =>
    cases h : s.entryAt? place <;> simp [bind, Except.bind, h, pure, Except.pure, throw, throwThe,
      MonadExceptOf.throw]

theorem exists_spot_of_place (hname : p.endsInName = true) (h : s.place p = .ok x) :
    ∃ r, s.spot p = .ok r := by
  obtain ⟨htakes, i, j, d, hij, hd, hlast⟩ := (resolve_eq_ok_of_name hname).mp h
  obtain ⟨-, hdot, hdots⟩ := Path.name_ne_of_endsInName hname
  obtain ⟨hpassable, hsize, -⟩ := (leads_singleton hdot hdots).mp hlast
  refine ⟨d ++ [p.name], (resolve_eq_ok_of_name hname).mpr ⟨htakes, i, 0, d, by omega, hd, ?_⟩⟩
  exact (leads_singleton hdot hdots).mpr ⟨hpassable, hsize, .inl ⟨rfl, .inr ⟨rfl, rfl⟩, rfl⟩⟩

-- A path that does not lead where it stands stands for a link.
theorem place_eq_spot_or_link {r w : Place} (hspot : s.spot p = .ok r) (hplace : s.place p = .ok w) :
    w = r ∨ ∃ absolute names, s.entryAt? r = some (.link absolute names) := by
  by_contra! hno
  obtain ⟨-, i, -, hr⟩ := resolve_eq_ok.mp hspot
  obtain ⟨-, j, -, hw⟩ := resolve_eq_ok.mp hplace
  exact hno.1 ((hr.followed hno.2).unique hw).2.symm

end PenPlotter.Files.Store
