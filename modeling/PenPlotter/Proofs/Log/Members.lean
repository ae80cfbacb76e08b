import PenPlotter.Log.Journal
import PenPlotter.Proofs.Except
import PenPlotter.Proofs.Log.Reading
import PenPlotter.Proofs.Text.Lines

/-!
# What a line for programs says

A record laid out as JSON is one line, which is read back as an object.  Its members are those of the
record, over which those of the context are written, and over these the failure: what the record says
of itself comes back unless the context holds something else under one of its names.
-/

set_option autoImplicit false

namespace PenPlotter.Log

open Calendar Decimal Text

/-! ## 1. One line -/

namespace Json

def Plain (c : Char) : Prop := 32 ≤ c.toNat ∧ c.toNat < 127

instance (c : Char) : Decidable (Plain c) := inferInstanceAs (Decidable (_ ∧ _))

def AllPlain (s : List Char) : Prop := ∀ c ∈ s, Plain c

instance (s : List Char) : Decidable (AllPlain s) := List.decidableBAll Plain s

theorem AllPlain.append {s t : List Char} (hs : AllPlain s) (ht : AllPlain t) : AllPlain (s ++ t) :=
  fun c hc => (List.mem_append.1 hc).elim (hs c) (ht c)

theorem AllPlain.cons {c : Char} {s : List Char} (hc : Plain c) (hs : AllPlain s) :
    AllPlain (c :: s) := List.forall_mem_cons.2 ⟨hc, hs⟩

theorem allPlain_nil : AllPlain [] := List.forall_mem_nil _

theorem allPlain_of_allDigits {s : List Char} (hs : AllDigits s) : AllPlain s := by
  intro c hc
  have hdigit := hs c hc
  simp only [Char.isDigit, Bool.and_eq_true, decide_eq_true_eq] at hdigit
  have hlow : 48 ≤ c.toNat := hdigit.1
  have hhigh : c.toNat ≤ 57 := hdigit.2
  exact ⟨by omega, by omega⟩

theorem allPlain_unitEscape {n : Nat} (h : n < 0x10000) : AllPlain (unitEscape n) := by
  have hdigit (k : Nat) (hk : k < 16) : Plain (Nat.digitChar k) :=
    (by decide : ∀ k < 16, Plain (Nat.digitChar k)) k hk
  rw [unitEscape, hex_four h]
  exact .cons (by decide) (.cons (by decide) (.cons (hdigit _ (by omega)) (.cons (hdigit _ (by omega))
    (.cons (hdigit _ (by omega)) (.cons (hdigit _ (by omega)) allPlain_nil)))))

theorem allPlain_escaped (c : Char) : AllPlain (escaped c) := by
  have hvalid : c.toNat < 0xd800 ∨ 0xdfff < c.toNat ∧ c.toNat < 0x110000 := c.valid
  have hpair {d : Char} (hd : Plain d) : AllPlain ['\\', d] := .cons (by decide) (.cons hd allPlain_nil)
  unfold escaped
  simp only
  split_ifs with hquote hplain hnewline hreturn htab hback hfeed hunit
  · simp only [Bool.or_eq_true, decide_eq_true_eq] at hquote
    rcases hquote with rfl | rfl <;> exact hpair (by decide)
  · simp only [Bool.and_eq_true, decide_eq_true_eq] at hplain
    exact .cons hplain allPlain_nil
  · exact hpair (by decide)
  · exact hpair (by decide)
  · exact hpair (by decide)
  · exact hpair (by decide)
  · exact hpair (by decide)
  · exact allPlain_unitEscape hunit
  · exact (allPlain_unitEscape (by omega)).append (allPlain_unitEscape (by omega))

theorem allPlain_quotedChars (s : List Char) : AllPlain (quotedChars s) := by
  apply AllPlain.append _ (.cons (by decide) allPlain_nil)
  apply AllPlain.cons (by decide)
  intro d hd
  obtain ⟨c, -, hc⟩ := List.mem_flatMap.1 hd
  exact allPlain_escaped c d hc

theorem allPlain_parts {p : Parts} (hp : p.WellFormed) : AllPlain p.text := by
  apply (allPlain_of_allDigits hp.allDigits_whole).append
  apply AllPlain.append
  · split
    · exact allPlain_nil
    · exact .cons (by decide) (allPlain_of_allDigits hp.allDigits_fraction)
  · cases p.power with
    | none => exact allPlain_nil
    | some e =>
      refine .cons (by decide) (.cons ?_
        (allPlain_of_allDigits (allDigits_padLeft (allDigits_digits _) 2)))
      split <;> decide

theorem allPlain_numberChars (n : Number) : AllPlain (numberChars n) := by
  rcases number_cases n with ⟨negative, p, htext, hp, -⟩ | rfl | ⟨negative, rfl⟩
  · rw [htext]
    cases negative with
    | false => exact allPlain_parts hp.toWellFormed
    | true => exact .cons (by decide) (allPlain_parts hp.toWellFormed)
  · decide
  · cases negative <;> decide

mutual

theorem allPlain_chars : ∀ j : Json, AllPlain (chars j)
  | .null => by decide
  | .bool b => by cases b <;> decide
  | .number n => by
    rw [chars]
    exact allPlain_numberChars n
  | .text s => by
    rw [chars]
    exact allPlain_quotedChars s.toList
  | .array items => by
    rw [chars]
    exact .append (.cons (by decide) (allPlain_itemChars items)) (.cons (by decide) allPlain_nil)
  | .object entries => by
    rw [chars]
    exact .append (.cons (by decide) (allPlain_entryChars entries))
      (.cons (by decide) allPlain_nil)

theorem allPlain_itemChars : ∀ items : List Json, AllPlain (itemChars items)
  | [] => by
    rw [itemChars]
    exact allPlain_nil
  | [j] => by
    rw [itemChars]
    exact allPlain_chars j
  | j :: k :: more => by
    rw [itemChars]
    · exact (allPlain_chars j).append
        (.cons (by decide) (.cons (by decide) (allPlain_itemChars (k :: more))))
    · simp

theorem allPlain_entryChars : ∀ entries : List (String × Json), AllPlain (entryChars entries)
  | [] => by
    rw [entryChars]
    exact allPlain_nil
  | [(name, j)] => by
    rw [entryChars]
    exact (allPlain_quotedChars _).append
      (.cons (by decide) (.cons (by decide) (allPlain_chars j)))
  | (name, j) :: k :: more => by
    rw [entryChars]
    · exact (allPlain_quotedChars _).append (.cons (by decide) (.cons (by decide)
        ((allPlain_chars j).append
          (.cons (by decide) (.cons (by decide) (allPlain_entryChars (k :: more)))))))
    · simp

end

theorem allPlain_line (j : Json) : AllPlain j.line.toList := by
  rw [line, String.toList_ofList]
  exact allPlain_chars j

theorem line_ne_nil (j : Json) : j.line.toList ≠ [] := by
  obtain ⟨c, s, hs, -⟩ := exists_cons_chars j
  rw [line, String.toList_ofList, hs]
  simp

-- No break of a line is plain.
theorem AllPlain.unbroken {s : List Char} (hs : AllPlain s) : Unbroken s := by
  intro c hc
  obtain ⟨hlow, hhigh⟩ := hs c hc
  simp only [isLineBreak, Bool.or_eq_false_iff, Bool.and_eq_false_iff, decide_eq_false_iff_not]
  omega

end Json

/-! ## 2. Entries -/

section Entries

variable {α β : Type} {entries more : List (String × α)} {name n : String} {a b : α}

theorem any_name_iff : entries.any (·.1 = name) = true ↔ ∃ a, (name, a) ∈ entries := by
  simp only [List.any_eq_true, decide_eq_true_eq, Prod.exists]
  constructor
  · rintro ⟨n, a, hmem, rfl⟩
    exact ⟨a, hmem⟩
  · rintro ⟨a, hmem⟩
    exact ⟨name, a, hmem, rfl⟩

/-- What is stored under a name displaces what was there, and nothing else. -/
theorem mem_putEntry :
    (n, b) ∈ putEntry entries name a ↔ n = name ∧ b = a ∨ n ≠ name ∧ (n, b) ∈ entries := by
  unfold putEntry
  split_ifs with hany
  · obtain ⟨old, hold⟩ := any_name_iff.1 hany
    simp only [List.mem_map, Prod.exists]
    constructor
    · rintro ⟨m, c, hmem, heq⟩
      by_cases hm : m = name
      · rw [if_pos hm] at heq
        cases heq
        exact .inl ⟨rfl, rfl⟩
      · rw [if_neg hm] at heq
        cases heq
        exact .inr ⟨hm, hmem⟩
    · rintro (⟨rfl, rfl⟩ | ⟨hne, hmem⟩)
      · exact ⟨n, old, hold, if_pos rfl⟩
      · exact ⟨n, b, hmem, if_neg hne⟩
  · have hnone : ∀ c, (name, c) ∉ entries := fun c hc => hany (any_name_iff.2 ⟨c, hc⟩)
    rw [List.mem_append, List.mem_singleton, Prod.mk.injEq]
    constructor
    · rintro (hmem | hnew)
      · refine .inr ⟨?_, hmem⟩
        rintro rfl
        exact hnone b hmem
      · exact .inl hnew
    · rintro (hnew | ⟨-, hmem⟩)
      · exact .inr hnew
      · exact .inl hmem

def Distinct (entries : List (String × α)) : Prop := (entries.map Prod.fst).Nodup

theorem Distinct.putEntry (h : Distinct entries) (name : String) (a : α) :
    Distinct (putEntry entries name a) := by
  unfold Distinct Log.putEntry at *
  split_ifs with hany
  · have hnames : (entries.map fun e => if e.1 = name then (name, a) else e).map Prod.fst =
        entries.map Prod.fst := by
      rw [List.map_map]
      apply List.map_congr_left
      intro e _
      by_cases he : e.1 = name
      · simp [he]
      · simp [he]
    rwa [hnames]
  · have hname : name ∉ entries.map Prod.fst := by
      intro hmem
      obtain ⟨e, he, rfl⟩ := List.mem_map.1 hmem
      exact hany (any_name_iff.2 ⟨e.2, he⟩)
    rw [List.map_append, List.map_singleton, ← List.concat_eq_append]
    exact List.Nodup.concat hname h

theorem Distinct.putEntries (h : Distinct entries) (more : List (String × α)) :
    Distinct (putEntries entries more) := by
  induction more generalizing entries with
  | nil => exact h
  | cons e more ih => exact ih (h.putEntry e.1 e.2)

theorem putEntries_append (more last : List (String × α)) :
    putEntries entries (more ++ last) = putEntries (putEntries entries more) last :=
  List.foldl_append

/-- Entries without a name twice displace those that were there under their names. -/
theorem mem_putEntries (hmore : Distinct more) :
    (n, b) ∈ putEntries entries more ↔
      (n, b) ∈ more ∨ n ∉ more.map Prod.fst ∧ (n, b) ∈ entries := by
  induction more generalizing entries with
  | nil => simp [putEntries]
  | cons e more ih =>
    obtain ⟨m, c⟩ := e
    obtain ⟨hm, hrest⟩ := List.nodup_cons.1 hmore
    have hstep : putEntries entries ((m, c) :: more) = putEntries (putEntry entries m c) more := rfl
    rw [hstep, ih hrest, mem_putEntry]
    simp only [List.mem_cons, List.map_cons, Prod.mk.injEq]
    constructor
    · rintro (hmem | ⟨hout, ⟨rfl, rfl⟩ | ⟨hne, hmem⟩⟩)
      · exact .inl (.inr hmem)
      · exact .inl (.inl ⟨rfl, rfl⟩)
      · exact .inr ⟨not_or.2 ⟨hne, hout⟩, hmem⟩
    · rintro ((⟨rfl, rfl⟩ | hmem) | ⟨hout, hmem⟩)
      · exact .inr ⟨hm, .inl ⟨rfl, rfl⟩⟩
      · exact .inl hmem
      · exact .inr ⟨(not_or.1 hout).2, .inr ⟨(not_or.1 hout).1, hmem⟩⟩

theorem forall_mem_putEntries {P : α → Prop} (h : ∀ e ∈ entries, P e.2)
    (hmore : ∀ e ∈ more, P e.2) : ∀ e ∈ putEntries entries more, P e.2 := by
  induction more generalizing entries with
  | nil => exact h
  | cons e more ih =>
    obtain ⟨he, hrest⟩ := List.forall_mem_cons.1 hmore
    apply ih _ hrest
    rintro ⟨n, b⟩ hmem
    rcases mem_putEntry.1 hmem with ⟨-, rfl⟩ | ⟨-, hold⟩
    · exact he
    · exact h _ hold

theorem Distinct.eq_of_mem (h : Distinct entries) (ha : (n, a) ∈ entries) (hb : (n, b) ∈ entries) :
    a = b := congrArg Prod.snd (List.inj_on_of_nodup_map h ha hb rfl)

theorem map_putEntry (f : α → β) :
    (putEntry entries name a).map (Prod.map id f) =
      putEntry (entries.map (Prod.map id f)) name (f a) := by
  have hany : (entries.map (Prod.map id f)).any (·.1 = name) = entries.any (·.1 = name) := by
    rw [List.any_map]
    rfl
  unfold putEntry
  rw [hany]
  split_ifs with h
  · rw [List.map_map, List.map_map]
    apply List.map_congr_left
    intro e _
    by_cases he : e.1 = name
    · simp [he]
    · simp [he]
  · rw [List.map_append]
    rfl

theorem map_putEntries (f : α → β) :
    (putEntries entries more).map (Prod.map id f) =
      putEntries (entries.map (Prod.map id f)) (more.map (Prod.map id f)) := by
  induction more generalizing entries with
  | nil => rfl
  | cons e more ih =>
    rw [putEntries, List.foldl_cons, ← putEntries, ih, map_putEntry]
    rfl

theorem mapM_map_some (entries : List (String × α)) :
    (entries.map (Prod.map id some)).mapM (fun e => e.2.map (e.1, ·)) = some entries := by
  induction entries with
  | nil => rfl
  | cons e entries ih =>
    rw [List.map_cons, List.mapM_cons, ih]
    rfl

end Entries

/-! ## 3. Contexts -/

inductive Context.Change where
  | push (entries : List (String × Value))
  /-- Entries go by name, or all of them. -/
  | pop (names : Option (List String))

def Context.Change.Expressible (room : Nat) : Context.Change → Prop
  | .push entries => ∀ e ∈ entries, (Json.ofValue? room e.2).isSome = true
  | .pop _ => True

/-- Whether a context can be laid out as members of an object. -/
structure Context.Sound (room : Nat) (c : Context) : Prop where
  distinct : Distinct c
  expressible : ∀ e ∈ c, (Json.ofValue? room e.2).isSome = true

namespace Journal

def change (j : Journal) : Context.Change → Journal
  | .push entries => j.push entries
  | .pop names => j.pop names

def changed (j : Journal) (changes : List Context.Change) : Journal := changes.foldl change j

def contextAfter (changes : List Context.Change) : Context := (initial.changed changes).context

theorem sound_change {room : Nat} {j : Journal} (h : j.context.Sound room) {change : Context.Change}
    (hchange : change.Expressible room) : (j.change change).context.Sound room := by
  cases change with
  | push entries =>
    exact ⟨h.distinct.putEntries entries, forall_mem_putEntries
      (P := fun v => (Json.ofValue? room v).isSome = true) h.expressible hchange⟩
  | pop names =>
    cases names with
    | none => exact ⟨List.nodup_nil, List.forall_mem_nil _⟩
    | some names =>
      refine ⟨h.distinct.sublist ?_, fun e he => h.expressible e (List.mem_of_mem_filter he)⟩
      exact List.filter_sublist.map Prod.fst

theorem sound_contextAfter {room : Nat} {changes : List Context.Change}
    (hchanges : ∀ change ∈ changes, change.Expressible room) :
    (contextAfter changes).Sound room := by
  suffices hrun : ∀ j : Journal, j.context.Sound room → (j.changed changes).context.Sound room from
    hrun initial ⟨List.nodup_nil, List.forall_mem_nil _⟩
  induction changes with
  | nil => exact fun j h => h
  | cons change changes ih =>
    intro j h
    obtain ⟨hchange, hrest⟩ := List.forall_mem_cons.1 hchanges
    exact ih hrest _ (sound_change h hchange)

end Journal

/-! ## 4. Members -/

def Record.ownMembers (r : Record) (m : Moment) (message : String) : List (String × Json) :=
  [("t", .text (m.text "T")), ("lvl", .text r.level.name), ("name", .text r.logger),
    ("pid", .number (.int r.process)), ("msg", .text message)]

def Record.failureMembers (r : Record) : List (String × Json) :=
  r.failure.toList.map fun f => ("exc", .text f.text)

/-- What a line says of a record before the context is put over it: the process is the one that lays the
record out. -/
def Record.saidMembers (r : Record) (p : Runtime) (m : Moment) (message : String) :
    List (String × Json) :=
  { r with process := p.number }.ownMembers m message

def Context.members (room : Nat) (c : Context) : List (String × Json) :=
  c.filterMap fun e => (Json.ofValue? room e.2).map (e.1, ·)

theorem Context.Sound.map_eq {room : Nat} {c : Context} (h : c.Sound room) :
    c.map (fun e => (e.1, Json.ofValue? room e.2)) = (c.members room).map (Prod.map id some) := by
  have hexpressible := h.expressible
  clear h
  induction c with
  | nil => rfl
  | cons e c ih =>
    obtain ⟨he, hrest⟩ := List.forall_mem_cons.1 hexpressible
    obtain ⟨j, hj⟩ := Option.isSome_iff_exists.1 he
    have hmembers : members room (e :: c) = (e.1, j) :: members room c :=
      List.filterMap_cons_some (by rw [hj]; rfl)
    rw [List.map_cons, ih hrest, hmembers, List.map_cons, hj]
    rfl

theorem Context.mem_members {room : Nat} {c : Context} {name : String} {j : Json} :
    (name, j) ∈ c.members room ↔ ∃ v, (name, v) ∈ c ∧ Json.ofValue? room v = some j := by
  simp [members, List.mem_filterMap]

/-- All members of a line: those of the context over what it says of the record, and the failure over
both. -/
def Record.members (r : Record) (p : Runtime) (c : Context) (m : Moment) (message : String) :
    List (String × Json) :=
  putEntries (putEntries (r.saidMembers p m message) (c.members p.room)) r.failureMembers

section Members

variable {p : Runtime} {c : Context} {r : Record} {m : Moment} {message name : String} {j : Json}

theorem jsonMembers_eq (h : c.Sound p.room) (m : Moment) (r : Record) (message : String) :
    jsonMembers p c m r message = some (r.members p c m message) := by
  have hall : putEntries ((r.saidMembers p m message).map (Prod.map id some))
      (c.map (fun e => (e.1, Json.ofValue? p.room e.2)) ++
        r.failureMembers.map (Prod.map id some)) =
        (r.members p c m message).map (Prod.map id some) := by
    rw [h.map_eq, ← List.map_append, ← map_putEntries, putEntries_append, Record.members]
  exact (congrArg (List.mapM _) hall).trans (mapM_map_some _)

theorem map_fst_ownMembers (r : Record) (m : Moment) (message : String) :
    (r.ownMembers m message).map Prod.fst = ["t", "lvl", "name", "pid", "msg"] := rfl

theorem distinct_ownMembers (r : Record) (m : Moment) (message : String) :
    Distinct (r.ownMembers m message) := by
  rw [Distinct, map_fst_ownMembers]
  decide

theorem Record.distinct_members (r : Record) (p : Runtime) (c : Context) (m : Moment)
    (message : String) : Distinct (r.members p c m message) :=
  ((distinct_ownMembers _ m message).putEntries (c.members p.room)).putEntries r.failureMembers

theorem Context.Sound.distinct_members {room : Nat} (h : c.Sound room) :
    Distinct (c.members room) := by
  have hnames := congrArg (List.map Prod.fst) h.map_eq
  rw [List.map_map, List.map_map] at hnames
  exact (hnames ▸ h.distinct : (((c.members room).map (Prod.fst ∘ Prod.map id some))).Nodup)

theorem distinct_failureMembers (r : Record) : Distinct r.failureMembers := by
  unfold Record.failureMembers
  cases r.failure with
  | none => exact List.nodup_nil
  | some f => exact List.nodup_singleton "exc"

/-- What stands in a line under a name other than that of the failure: what the context says under it,
or, if that says nothing, what is said of the record. -/
theorem mem_members_iff (h : c.Sound p.room) (hname : name ≠ "exc") :
    (name, j) ∈ r.members p c m message ↔
      (∃ v, (name, v) ∈ c ∧ Json.ofValue? p.room v = some j) ∨
        ((∀ v, (name, v) ∉ c) ∧ (name, j) ∈ r.saidMembers p m message) := by
  have hfailure : name ∉ r.failureMembers.map Prod.fst := by
    intro hmem
    obtain ⟨e, he, rfl⟩ := List.mem_map.1 hmem
    obtain ⟨f, -, rfl⟩ := List.mem_map.1 he
    exact hname rfl
  have hcontext : name ∉ (c.members p.room).map Prod.fst ↔ ∀ v, (name, v) ∉ c := by
    constructor
    · intro hout v hv
      obtain ⟨k, hk⟩ := Option.isSome_iff_exists.1 (h.expressible _ hv)
      exact hout (List.mem_map_of_mem (Context.mem_members.2 ⟨v, hv, hk⟩))
    · intro hnone hin
      obtain ⟨⟨_, k⟩, hmem, rfl⟩ := List.mem_map.1 hin
      obtain ⟨v, hv, -⟩ := Context.mem_members.1 hmem
      exact hnone v hv
  have hsaid : (name, j) ∉ r.failureMembers := fun hf => hfailure (List.mem_map_of_mem hf)
  rw [Record.members, mem_putEntries (distinct_failureMembers r), mem_putEntries h.distinct_members,
    Context.mem_members, hcontext, or_iff_right hsaid]
  exact and_iff_right hfailure

-- A line says of a record what the record says of itself, but for the process.
theorem mem_saidMembers_iff {e : String × Json} (he : e ∈ r.ownMembers m message) :
    e ∈ r.saidMembers p m message ↔ (e.1 = "pid" → p.number = r.process) := by
  simp only [Record.ownMembers, List.mem_cons, List.not_mem_nil, or_false] at he
  rcases he with rfl | rfl | rfl | rfl | rfl <;>
    simp [Record.saidMembers, Record.ownMembers, eq_comm]

theorem ne_exc_of_mem_ownMembers {e : String × Json} (he : e ∈ r.ownMembers m message) :
    e.1 ≠ "exc" := by
  have hname := List.mem_map_of_mem (f := Prod.fst) he
  rw [map_fst_ownMembers] at hname
  intro heq
  rw [heq] at hname
  exact absurd hname (by decide)

/-- A line has all that a record says of itself exactly where the context says nothing else under these
names, and the record comes from the process that lays it out or the context names its process. -/
theorem ownMembers_subset_iff (h : c.Sound p.room) :
    (∀ e ∈ r.ownMembers m message, e ∈ r.members p c m message) ↔
      (∀ e ∈ r.ownMembers m message, ∀ v, (e.1, v) ∈ c → Json.ofValue? p.room v = some e.2) ∧
        (p.number = r.process ∨ ∃ v, ("pid", v) ∈ c) := by
  constructor
  · intro hall
    constructor
    · intro e he v hv
      rcases (mem_members_iff h (ne_exc_of_mem_ownMembers he)).1 (hall e he) with
        ⟨w, hw, hj⟩ | ⟨hnone, -⟩
      · rwa [h.distinct.eq_of_mem hv hw]
      · exact absurd hv (hnone v)
    · have hpid : ("pid", Json.number (.int r.process)) ∈ r.ownMembers m message := by
        simp [Record.ownMembers]
      rcases (mem_members_iff h (by decide)).1 (hall _ hpid) with ⟨v, hv, -⟩ | ⟨-, hsaid⟩
      · exact .inr ⟨v, hv⟩
      · exact .inl ((mem_saidMembers_iff hpid).1 hsaid rfl)
  · rintro ⟨hagrees, hprocess⟩ e he
    refine (mem_members_iff h (ne_exc_of_mem_ownMembers he)).2 ?_
    by_cases hin : ∃ v, (e.1, v) ∈ c
    · obtain ⟨v, hv⟩ := hin
      exact .inl ⟨v, hv, hagrees e he v hv⟩
    · refine .inr ⟨not_exists.1 hin, (mem_saidMembers_iff he).2 fun hpid => ?_⟩
      exact hprocess.resolve_right (hpid ▸ hin)

end Members

/-- A name without a second member is looked up alike from either end. -/
theorem member?_eq_some_iff {entries : List (String × Json)} (h : Distinct entries) {name : String}
    {j : Json} : (Json.object entries).member? name = some j ↔ (name, j) ∈ entries := by
  rw [Json.member?, List.lookup_eq_some_iff]
  constructor
  · rintro ⟨before, after, heq, -⟩
    rw [← List.mem_reverse, heq]
    simp
  · intro hmem
    obtain ⟨before, after, heq⟩ := List.append_of_mem (List.mem_reverse.2 hmem)
    refine ⟨before, after, heq, fun e he => ?_⟩
    have hnodup : (entries.reverse.map Prod.fst).Nodup := by
      rw [List.map_reverse, List.nodup_reverse]
      exact h
    rw [heq, List.map_append] at hnodup
    have hne := (List.nodup_append.1 hnodup).2.2 e.1 (List.mem_map_of_mem he) name
      List.mem_cons_self
    exact bne_iff_ne.2 hne.symm

/-! ## 5. Lines -/

section Lines

variable {clock : Clock} {p : Runtime} {c : Context} {r : Record} {message : String}

theorem text_of_moment (h : c.Sound p.room)
    (hmessage : Template.fill p.room r.template r.arguments = .ok message) {m : Moment}
    (hm : Moment.ofInstant clock r.created = .ok m) :
    Formatter.text ⟨.json, clock⟩ p c r = .ok (Json.object (r.members p c m message)).line := by
  rw [Formatter.text, hm, hmessage]
  simp only [mapError_ok, ok_bind, jsonMembers_eq h]
  rfl

theorem text_of_no_moment {e : InstantError} (he : Moment.ofInstant clock r.created = .error e) :
    Formatter.text ⟨.json, clock⟩ p c r = .error (.instant e) := by
  rw [Formatter.text, he]
  rfl

end Lines

namespace Journal

/-- **What a line keeps of a record.**  Whatever pushes and pops of values that JSON can express made
the context, a record whose message can be filled in becomes a single plain line, unless its time is
in no calendar.  The line is read back as an object.  Its failure is the record's; its time, level,
logger, process and message are the record's exactly where the context holds nothing else under their
names, and the record comes from the process that lays it out or the context names its process. -/
theorem read_text (p : Runtime) {changes : List Context.Change}
    (hchanges : ∀ change ∈ changes, change.Expressible p.room) (clock : Clock) {r : Record}
    {message : String} (hmessage : Template.fill p.room r.template r.arguments = .ok message) :
    (∀ e, Moment.ofInstant clock r.created = .error e →
      Formatter.text ⟨.json, clock⟩ p (contextAfter changes) r = .error (.instant e)) ∧
    ∀ m, Moment.ofInstant clock r.created = .ok m →
      ∃ line entries, Formatter.text ⟨.json, clock⟩ p (contextAfter changes) r = .ok line ∧
        Json.AllPlain line.toList ∧ splitLines line.toList = [line.toList] ∧
        Json.read? line = some (.object entries) ∧
        (∀ f, r.failure = some f →
          (Json.object entries).member? "exc" = some (.text f.text)) ∧
        ((∀ e ∈ r.ownMembers m message, (Json.object entries).member? e.1 = some e.2) ↔
          (∀ e ∈ r.ownMembers m message, ∀ v, (e.1, v) ∈ contextAfter changes →
            Json.ofValue? p.room v = some e.2) ∧
          (p.number = r.process ∨ ∃ v, ("pid", v) ∈ contextAfter changes)) := by
  have hsound := sound_contextAfter hchanges
  refine ⟨fun e he => text_of_no_moment he, fun m hm => ?_⟩
  have hdistinct := r.distinct_members p (contextAfter changes) m message
  have hplain := Json.allPlain_line (.object (r.members p (contextAfter changes) m message))
  refine ⟨_, _, text_of_moment hsound hmessage hm, hplain,
    splitLines_unbroken hplain.unbroken (Json.line_ne_nil _), Json.read?_line _, ?_, ?_⟩
  · intro f hf
    rw [member?_eq_some_iff hdistinct, Record.members, mem_putEntries (distinct_failureMembers r)]
    left
    rw [Record.failureMembers, hf]
    exact List.mem_singleton.2 rfl
  · rw [← ownMembers_subset_iff hsound]
    exact forall₂_congr fun e _ => member?_eq_some_iff hdistinct

def written (template : String) (arguments : List Value) (failure : Option Failure) : Record :=
  ⟨"plotter", .info, Runtime.standard.number, 0, template, arguments, failure⟩

def epoch : Moment := .ofMicroseconds 0 (some 0)

theorem ofInstant_zero : Moment.ofInstant .universal 0 = .ok epoch := by decide +kernel

/-- A record says its message again once the entry that displaced it is popped, here with breaks of
lines in the message, the context and the failure. -/
theorem read_text_popped :
    let changes : List Context.Change :=
      [.push [("app", .text "a\nb"), ("msg", .text "displaced")], .pop (some ["msg"])]
    let r := written "%s\r\n!" [.text "\u2028"] (some ⟨"ValueError", "c\u0085d"⟩)
    let p := Runtime.standard
    (∀ change ∈ changes, change.Expressible p.room) ∧
      Template.fill p.room r.template r.arguments = .ok "\u2028\r\n!" ∧
      ∃ line j, Formatter.text ⟨.json, .universal⟩ p (contextAfter changes) r = .ok line ∧
        splitLines line.toList = [line.toList] ∧ Json.read? line = some j ∧
        (∀ e ∈ r.ownMembers epoch "\u2028\r\n!", j.member? e.1 = some e.2) ∧
        j.member? "exc" = some (.text "ValueError: c\u0085d") := by
  intro changes r p
  have hchanges : ∀ change ∈ changes, change.Expressible p.room :=
    List.forall_mem_cons.2 ⟨List.forall_mem_cons.2 ⟨rfl, List.forall_mem_singleton.2 rfl⟩,
      List.forall_mem_singleton.2 trivial⟩
  have hmessage : Template.fill p.room r.template r.arguments = .ok "\u2028\r\n!" := by
    decide +kernel
  have hcontext : contextAfter changes = [("app", .text "a\nb")] := rfl
  obtain ⟨line, entries, htext, -, hsingle, hread, hexc, hown⟩ :=
    (read_text p hchanges .universal hmessage).2 epoch ofInstant_zero
  refine ⟨hchanges, hmessage, line, _, htext, hsingle, hread, hown.2 ⟨?_, .inl rfl⟩, hexc _ rfl⟩
  simp [hcontext, Record.ownMembers]

/-- An entry of the context that is called like the message of the record displaces it. -/
theorem read_text_displaced :
    let changes : List Context.Change := [.push [("msg", .text "displaced")]]
    let r := written "hello" [] none
    let p := Runtime.standard
    (∀ change ∈ changes, change.Expressible p.room) ∧
      Template.fill p.room r.template r.arguments = .ok "hello" ∧
      ∃ line j, Formatter.text ⟨.json, .universal⟩ p (contextAfter changes) r = .ok line ∧
        Json.read? line = some j ∧ j.member? "msg" = some (.text "displaced") := by
  intro changes r p
  have hchanges : ∀ change ∈ changes, change.Expressible p.room :=
    List.forall_mem_singleton.2 (List.forall_mem_singleton.2 rfl)
  exact ⟨hchanges, rfl, _, _, text_of_moment (sound_contextAfter hchanges) rfl ofInstant_zero,
    Json.read?_line _, rfl⟩

end Journal

end PenPlotter.Log
