import PenPlotter.Log.Journal

/-!
# Handlers of a journal

However often a journal is set up, and wherever a setup fails, it has no other handlers of its own
than those of the latest setup: a console at most, and after it a file at most.  Handlers that others
attached stay.  So every record that is taken is written once on the console and once to the file, if
these are there.  A file that could not take a record is the exception: the next setup fails when it
closes that file, and then no handler is left, though the former ones still count as installed.
-/

set_option autoImplicit false

namespace PenPlotter.Log

open Files

/-! ## 1. One handler -/

section Handlers

variable {h : Handler} {stream : Option Stream} {s : Store} {p : Runtime} {c : Context} {r : Record}

theorem Handler.write_console (hsink : h.isConsole = true) :
    h.write stream s p c r =
      (s, stream, ((h.formatter.text p c r).toOption.map (· ++ "\n")).getD "") := by
  obtain ⟨number, formatter, sink⟩ := h
  cases sink with
  | console => rfl
  | file base rotation => cases hsink

theorem Handler.write_file (hsink : h.isConsole = false) : (h.write stream s p c r).2.2 = "" := by
  obtain ⟨number, formatter, sink⟩ := h
  cases sink with
  | console => cases hsink
  | file base rotation =>
    unfold write
    dsimp only
    split
    · rfl
    · split <;> rfl

-- A file only fails to take bytes if there are any.
theorem Stream.pending_of_flush {st : Stream} {reason : Refusal} (h : (st.flush s).2.2 = some reason) :
    st.pending ≠ [] := by
  intro hnone
  unfold flush Store.append at h
  rw [hnone] at h
  dsimp only at h
  split at h
  · cases h
  · next hfull =>
    split at hfull
    · cases hfull
    · cases hfull

end Handlers

namespace Journal

/-! ## 2. Open files -/

section Streams

variable {j : Journal} {h k : Handler} {stream : Option Stream}

theorem stream?_putStream :
    (j.putStream h stream).stream? k = if k.number = h.number then stream else j.stream? k := by
  unfold stream? putStream
  by_cases heq : k.number = h.number
  · rw [if_pos heq, heq]
    cases stream with
    | some st => simp
    | none =>
      have hfind : (j.streams.filter (·.1 ≠ h.number)).find? (·.1 = h.number) = none := by simp
      simp only [Option.toList_none, List.map_nil, List.nil_append, hfind, Option.map_none]
  · rw [if_neg heq]
    have hfind : (j.streams.filter (·.1 ≠ h.number)).find? (·.1 = k.number) =
        j.streams.find? (·.1 = k.number) := by
      rw [List.find?_filter]
      congr 1
      funext e
      by_cases he : e.1 = k.number
      · simp [he, heq]
      · simp [he]
    cases stream with
    | some st =>
      have : ¬h.number = k.number := fun h' => heq h'.symm
      simp only [Option.toList_some, List.map_cons, List.map_nil, List.singleton_append,
        List.find?_cons, decide_eq_false this, hfind]
    | none => simp only [Option.toList_none, List.map_nil, List.nil_append, hfind]

theorem putStream_of_none (hnone : j.stream? h = none) : j.putStream h none = j := by
  have hall : j.streams.filter (·.1 ≠ h.number) = j.streams := by
    refine List.filter_eq_self.2 fun e he => ?_
    have hfind := List.find?_eq_none.1 (Option.map_eq_none_iff.1 hnone) e he
    simpa using hfind
  unfold putStream
  rw [hall]
  rfl

end Streams

/-! ## 3. Taking handlers away -/

section Dismissing

variable {j j' : Journal} {s s' : Store} {hs : List Handler} {h : Handler}

/-- What closing a file changes: nothing else than that it is open. -/
theorem close_eq {refusal : Option Refusal} (h' : j.close s h = (j', s', refusal)) :
    j' = { j with streams := j'.streams } ∧
      (∀ k st, j'.stream? k = some st → j.stream? k = some st) ∧
      ∀ reason, refusal = some reason → ∃ st, j.stream? h = some st ∧ st.pending ≠ [] := by
  unfold close at h'
  split at h'
  · cases h'
    exact ⟨rfl, fun k st hk => hk, nofun⟩
  · next st hst =>
    generalize hflush : st.flush s = flushed at h'
    obtain ⟨s₁, st₁, refusal₁⟩ := flushed
    cases h'
    refine ⟨rfl, fun k st' hk => ?_, ?_⟩
    · rw [stream?_putStream] at hk
      split at hk
      · cases hk
      · exact hk
    · rintro reason rfl
      exact ⟨st, hst, Stream.pending_of_flush (by rw [hflush])⟩

def apart (hs : List Handler) (k : Handler) : Bool := hs.all (k.number ≠ ·.number)

theorem filter_apart_cons (ks : List Handler) :
    (ks.filter (·.number ≠ h.number)).filter (apart hs) = ks.filter (apart (h :: hs)) := by
  rw [List.filter_filter]
  refine List.filter_congr fun k hk => ?_
  rw [Bool.and_comm]
  rfl

theorem dismiss_ok (hdone : j.dismiss s hs = (j', s', none)) :
    j'.attached = j.attached.filter (apart hs) ∧ j'.installed = [] ∧ j'.next = j.next := by
  induction hs generalizing j s with
  | nil =>
    cases hdone
    exact ⟨(List.filter_eq_self.2 fun k hk => rfl).symm, rfl, rfl⟩
  | cons h rest ih =>
    unfold dismiss at hdone
    dsimp only at hdone
    split at hdone
    · cases hdone
    · next j₁ s₁ hclose =>
      obtain ⟨hj₁, -⟩ := close_eq hclose
      obtain ⟨hattached, hinstalled, hnext⟩ := ih hdone
      rw [hj₁] at hattached hnext
      exact ⟨by rw [hattached, filter_apart_cons], hinstalled, hnext⟩

theorem dismiss_failed {reason : Refusal} (hfailed : j.dismiss s hs = (j', s', some reason)) :
    ∃ front h back, hs = front ++ h :: back ∧
      (∃ st, j.stream? h = some st ∧ st.pending ≠ []) ∧
      j' = { j with attached := j.attached.filter (apart (front ++ [h])), streams := j'.streams } ∧
      ∀ k st, j'.stream? k = some st → j.stream? k = some st := by
  induction hs generalizing j s with
  | nil => cases hfailed
  | cons h rest ih =>
    unfold dismiss at hfailed
    dsimp only at hfailed
    split at hfailed
    · next hclose =>
      cases hfailed
      obtain ⟨hj₁, hopen, hpending⟩ := close_eq hclose
      refine ⟨[], h, rest, rfl, hpending _ rfl, ?_, hopen⟩
      rw [hj₁, List.nil_append, ← filter_apart_cons]
      congr 1
      exact (List.filter_eq_self.2 fun k hk => rfl).symm
    · next j₁ s₁ hclose =>
      obtain ⟨hj₁, hopen, -⟩ := close_eq hclose
      obtain ⟨front, h', back, rfl, ⟨st, hst, hpending⟩, hj', hopen'⟩ := ih hfailed
      refine ⟨h :: front, h', back, rfl, ⟨st, hopen _ _ hst, hpending⟩, ?_,
        fun k st hk => hopen k st (hopen' k st hk)⟩
      rw [hj', hj₁, List.cons_append, ← filter_apart_cons]

end Dismissing

/-! ## 4. What a setup adds -/

/-- Whether a journal is another one to which handlers were added, all of them new, and each with
nothing but an empty stream. -/
structure Adds (made : List Handler) (j j' : Journal) : Prop where
  attached : j'.attached = j.attached ++ made
  installed : j'.installed = j.installed ++ made
  numbered : ∀ h ∈ made, j.next ≤ h.number ∧ h.number < j'.next
  ordered : made.Pairwise (·.number < ·.number)
  next_le : j.next ≤ j'.next
  opened : ∀ h ∈ made, ∀ st, j'.stream? h = some st → h.isConsole = false ∧ st.pending = []
  former : ∀ k : Handler, k.number < j.next → j'.stream? k = j.stream? k

section Adding

variable {j j' j'' : Journal} {made more : List Handler} {s : Store} {room : Nat} {o : Setup}

theorem Adds.of_eq (hattached : j'.attached = j.attached) (hinstalled : j'.installed = j.installed)
    (hnext : j'.next = j.next) (hstreams : j'.streams = j.streams) : Adds [] j j' where
  attached := by rw [hattached, List.append_nil]
  installed := by rw [hinstalled, List.append_nil]
  numbered := nofun
  ordered := .nil
  next_le := Nat.le_of_eq hnext.symm
  opened := nofun
  former k _ := by rw [stream?, stream?, hstreams]

theorem Adds.trans (h : Adds made j j') (h' : Adds more j' j'') : Adds (made ++ more) j j'' where
  attached := by rw [h'.attached, h.attached, List.append_assoc]
  installed := by rw [h'.installed, h.installed, List.append_assoc]
  numbered := by
    intro k hk
    rcases List.mem_append.1 hk with hk | hk
    · exact ⟨(h.numbered k hk).1, Nat.lt_of_lt_of_le (h.numbered k hk).2 h'.next_le⟩
    · exact ⟨Nat.le_trans h.next_le (h'.numbered k hk).1, (h'.numbered k hk).2⟩
  ordered := by
    refine List.pairwise_append.2 ⟨h.ordered, h'.ordered, fun k hk k' hk' => ?_⟩
    exact Nat.lt_of_lt_of_le (h.numbered k hk).2 (h'.numbered k' hk').1
  next_le := Nat.le_trans h.next_le h'.next_le
  opened := by
    intro k hk st hst
    rcases List.mem_append.1 hk with hk | hk
    · rw [h'.former k (h.numbered k hk).2] at hst
      exact h.opened k hk st hst
    · exact h'.opened k hk st hst
  former k hk := by rw [h'.former k (Nat.lt_of_lt_of_le hk h.next_le), h.former k hk]

theorem adds_install (j : Journal) (formatter : Formatter) (sink : Sink) {stream : Option Stream}
    (hstream : ∀ st, stream = some st →
      (⟨j.next, formatter, sink⟩ : Handler).isConsole = false ∧ st.pending = []) :
    Adds [⟨j.next, formatter, sink⟩] j (j.install formatter sink stream) where
  attached := rfl
  installed := rfl
  numbered := by
    intro h hh
    rw [List.mem_singleton.1 hh]
    exact ⟨Nat.le_refl _, Nat.lt_succ_self _⟩
  ordered := List.pairwise_singleton _ _
  next_le := Nat.le_succ _
  opened := by
    intro h hh st hst
    rw [List.mem_singleton.1 hh] at hst ⊢
    refine hstream st (Eq.trans ?_ hst)
    exact ((stream?_putStream (j := j)).trans (if_pos rfl)).symm
  former k hk := (stream?_putStream (j := j)).trans (if_neg (Nat.ne_of_lt hk))

theorem adds_setLevel {name : String} (h : j.setLevel name = some j') : Adds [] j j' := by
  obtain ⟨level, -, rfl⟩ := Option.map_eq_some_iff.1 h
  exact .of_eq rfl rfl rfl rfl

theorem adds_pushValue {context : Value} (h : j.pushValue context = .ok j') : Adds [] j j' := by
  unfold pushValue at h
  split at h
  · cases h
    exact .of_eq rfl rfl rfl rfl
  · split at h
    · cases h
      exact .of_eq rfl rfl rfl rfl
    · cases h

theorem pending_of_openFile {s' : Store} {path : String} {rotation : Value} {base : Path}
    {changed : Rotation} {st : Stream}
    (h : openFile s room path rotation = (s', .ok (base, changed, st))) : st.pending = [] := by
  unfold openFile at h
  dsimp only at h
  split at h
  · cases h
  split at h
  · cases h
  split at h
  · cases h
  next hopen =>
  split at h
  · cases h
  cases h
  unfold openStream at hopen
  split at hopen
  · cases hopen
  · cases hopen
    rfl

-- A file that cannot be opened adds nothing.
theorem exists_adds_installFile (j : Journal) (s : Store) (room : Nat) (o : Setup) :
    ∃ file : Option Handler, Adds file.toList j (j.installFile s room o).1 ∧
      (∀ h ∈ file, h.isConsole = false) ∧
      ((j.installFile s room o).2.2 = .ok () → file.isSome = o.logFile.any (!·.isEmpty)) := by
  unfold installFile
  split
  · next hnone => exact ⟨none, .of_eq rfl rfl rfl rfl, nofun, fun _ => by rw [hnone]; rfl⟩
  · next path hpath =>
    by_cases hempty : path.isEmpty = true
    · rw [if_pos hempty]
      exact ⟨none, .of_eq rfl rfl rfl rfl, nofun, fun _ => by simp [hpath, hempty]⟩
    · rw [if_neg hempty]
      split
      · exact ⟨none, .of_eq rfl rfl rfl rfl, nofun, nofun⟩
      · next hopen =>
        refine ⟨some _, adds_install j _ _ ?_, ?_, fun _ => by simp [hpath, hempty]⟩
        · intro st hst
          cases hst
          exact ⟨rfl, pending_of_openFile hopen⟩
        · intro h hh
          cases Option.mem_some.1 hh
          rfl

theorem exists_adds_console (j : Journal) (console : Bool) (formatter : Formatter) :
    ∃ made : Option Handler,
      Adds made.toList j (if console then j.install formatter .console none else j) ∧
        (∀ h ∈ made, h.isConsole = true) ∧ made.isSome = console := by
  cases console with
  | false => exact ⟨none, .of_eq rfl rfl rfl rfl, nofun, rfl⟩
  | true =>
    refine ⟨some _, adds_install j formatter .console nofun, ?_, rfl⟩
    intro h hh
    cases Option.mem_some.1 hh
    rfl

/-- All that a setup does to the handlers when the former ones are gone: at most a console and a file
come, in this order.  If it succeeds, they are what it gives and what it was asked for. -/
theorem exists_adds_setupAnew (j : Journal) (s : Store) (room : Nat) (o : Setup) :
    ∃ console file : Option Handler,
      Adds (console.toList ++ file.toList) j (j.setupAnew s room o).1 ∧
        (∀ h ∈ console, h.isConsole = true) ∧ (∀ h ∈ file, h.isConsole = false) ∧
        ∀ handlers, (j.setupAnew s room o).2.2 = .ok handlers →
          handlers = (j.setupAnew s room o).1.installed ∧
            console.isSome = o.console ∧ file.isSome = o.logFile.any (!·.isEmpty) := by
  unfold setupAnew
  dsimp only
  split
  · exact ⟨none, none, .of_eq rfl rfl rfl rfl, nofun, nofun, nofun⟩
  · next leveled hlevel =>
    obtain ⟨console, hconsole, hkind, hasked⟩ := exists_adds_console leveled o.console
      ⟨.human (o.coloured && o.terminal), o.clock⟩
    generalize (if o.console then leveled.install _ .console none else leveled) = opened at *
    obtain ⟨file, hfile, hkind', hasked'⟩ := exists_adds_installFile opened s room o
    have hadds := ((adds_setLevel hlevel).trans hconsole).trans hfile
    rw [List.nil_append] at hadds
    split
    · next hinstall =>
      rw [hinstall] at hadds
      exact ⟨console, file, hadds, hkind, hkind', nofun⟩
    · next hinstall =>
      rw [hinstall] at hadds hasked'
      split
      · exact ⟨console, file, hadds, hkind, hkind', nofun⟩
      · next hpush =>
        have hall := hadds.trans (adds_pushValue hpush)
        rw [List.append_nil] at hall
        refine ⟨console, file, hall, hkind, hkind', fun handlers h => ?_⟩
        cases h
        exact ⟨rfl, hasked, hasked' rfl⟩

end Adding

/-! ## 5. Runs -/

inductive Operation where
  | setup (files : Store) (room : Nat) (setup : Setup)
  | write (files : Store) (process : Runtime) (record : Record)
  | setLevel (name : String)
  | push (entries : List (String × Value))
  | pop (names : Option (List String))

def perform (j : Journal) : Operation → Journal
  | .setup files room o => (j.setup files room o).1
  | .write files p r => (j.write files p r).1
  | .setLevel name => (j.setLevel name).getD j
  | .push entries => j.push entries
  | .pop names => j.pop names

def after (first : Journal) (ops : List Operation) : Journal := ops.foldl perform first

/-- Whether a journal was never set up: its handlers were all attached by others. -/
structure NotSetUp (j : Journal) : Prop where
  installed : j.installed = []
  numbered : ∀ h ∈ j.attached, h.number < j.next

/-- Whether a journal has the handlers that others attached to it at first, and after them all or
none of those that were installed since. -/
structure Holds (first j : Journal) : Prop where
  attached : j.attached = first.attached ++ j.installed ∨ j.attached = first.attached
  made : ∃ console file : Option Handler, j.installed = console.toList ++ file.toList ∧
    (∀ h ∈ console, h.isConsole = true) ∧ (∀ h ∈ file, h.isConsole = false)
  numbered : ∀ h ∈ j.installed, first.next ≤ h.number ∧ h.number < j.next
  ordered : j.installed.Pairwise (·.number < ·.number)
  next_le : first.next ≤ j.next
  opened : ∀ h ∈ j.installed, h.isConsole = true → j.stream? h = none

def Settled (j : Journal) : Prop := ∀ h ∈ j.installed, ∀ st, j.stream? h = some st → st.pending = []

section Runs

variable {first j j' : Journal} {s s' : Store}

theorem NotSetUp.holds (h : first.NotSetUp) : Holds first first where
  attached := .inr rfl
  made := ⟨none, none, h.installed, nofun, nofun⟩
  numbered := by simp [h.installed]
  ordered := by simp [h.installed]
  next_le := Nat.le_refl _
  opened := by simp [h.installed]

theorem Holds.lt_next (hfirst : first.NotSetUp) (h : Holds first j) :
    ∀ k ∈ j.attached ++ j.installed, k.number < j.next := by
  intro k hk
  have hk : k ∈ first.attached ∨ k ∈ j.installed := by
    rcases List.mem_append.1 hk with hk | hk
    · rcases h.attached with hall | hfew
      · exact List.mem_append.1 (hall ▸ hk)
      · exact .inl (hfew ▸ hk)
    · exact .inr hk
  rcases hk with hk | hk
  · exact Nat.lt_of_lt_of_le (hfirst.numbered k hk) h.next_le
  · exact (h.numbered k hk).2

-- Handlers are told apart by their numbers, so those of others stay.
theorem Holds.filter_apart (hfirst : first.NotSetUp) (h : Holds first j) :
    j.attached.filter (apart j.installed) = first.attached := by
  have hothers : first.attached.filter (apart j.installed) = first.attached := by
    refine List.filter_eq_self.2 fun k hk => List.all_eq_true.2 fun i hi => ?_
    have := hfirst.numbered k hk
    have := (h.numbered i hi).1
    simp only [decide_eq_true_eq]
    omega
  have hown : j.installed.filter (apart j.installed) = [] := by
    refine List.filter_eq_nil_iff.2 fun k hk hapart => ?_
    have := List.all_eq_true.1 hapart k hk
    simp at this
  rcases h.attached with hall | hfew
  · rw [hall, List.filter_append, hothers, hown, List.append_nil]
  · rw [hfew, hothers]

theorem Holds.dismiss_ok (hfirst : first.NotSetUp) (h : Holds first j)
    (hdone : j.dismiss s j.installed = (j', s', none)) :
    j'.attached = first.attached ∧ j'.installed = [] ∧ j'.next = j.next := by
  obtain ⟨hattached, hinstalled, hnext⟩ := Journal.dismiss_ok hdone
  exact ⟨by rw [hattached, h.filter_apart hfirst], hinstalled, hnext⟩

theorem eq_nil_of_append {front back : List Handler} {k : Handler} {console file : Option Handler}
    (hsplit : front ++ k :: back = console.toList ++ file.toList) (hk : k ∉ console.toList) :
    back = [] := by
  have hshort : file.toList.length ≤ 1 := by cases file <;> simp
  rcases List.append_eq_append_iff.1 hsplit with ⟨more, hconsole, hfile⟩ | ⟨more, -, hfile⟩
  · cases more with
    | nil =>
      rw [← List.nil_append file.toList, ← hfile, List.length_cons] at hshort
      exact List.length_eq_zero_iff.1 (by omega)
    | cons first rest =>
      cases hfile
      exact absurd (hconsole ▸ by simp) hk
  · rw [hfile, List.length_append, List.length_cons] at hshort
    exact List.length_eq_zero_iff.1 (by omega)

-- Only a file has a stream, and it is the last handler, so no other handler is left then.
theorem Holds.dismiss_failed (hfirst : first.NotSetUp) (h : Holds first j) {reason : Refusal}
    (hfailed : j.dismiss s j.installed = (j', s', some reason)) :
    (j'.attached = first.attached ∧ j'.installed = j.installed ∧ ¬j.Settled) ∧ Holds first j' := by
  obtain ⟨front, k, back, hsplit, ⟨st, hst, hpending⟩, hj', hopen⟩ := Journal.dismiss_failed hfailed
  have hk : k ∈ j.installed := by simp [hsplit]
  have hall : front ++ [k] = j.installed := by
    obtain ⟨console, file, hmade, hconsole, -⟩ := h.made
    have hkind : k ∉ console.toList := by
      intro hmem
      have := h.opened k hk (hconsole k (Option.mem_toList.1 hmem))
      rw [hst] at this
      cases this
    have hlast : back = [] := eq_nil_of_append (hsplit ▸ hmade) hkind
    rw [hsplit, hlast]
  rw [hall, h.filter_apart hfirst] at hj'
  have hattached : j'.attached = first.attached := by rw [hj']
  have hinstalled : j'.installed = j.installed := by rw [hj']
  refine ⟨⟨hattached, hinstalled, fun hsettled => hpending (hsettled k hk st hst)⟩, .inr hattached,
    hinstalled ▸ h.made, ?_, hinstalled ▸ h.ordered, ?_, ?_⟩
  · rw [hj']
    exact h.numbered
  · rw [hj']
    exact h.next_le
  · intro i hi hkind
    have hclosed := h.opened i (hinstalled ▸ hi) hkind
    cases hstream : j'.stream? i with
    | none => rfl
    | some st' =>
      rw [hopen i st' hstream] at hclosed
      cases hclosed

theorem Holds.of_adds_nil (h : Holds first j) (hadds : Adds [] j j') : Holds first j' := by
  have hinstalled : j'.installed = j.installed := by rw [hadds.installed, List.append_nil]
  have hattached : j'.attached = j.attached := by rw [hadds.attached, List.append_nil]
  refine ⟨by rw [hattached, hinstalled]; exact h.attached, hinstalled ▸ h.made, ?_,
    hinstalled ▸ h.ordered, Nat.le_trans h.next_le hadds.next_le, ?_⟩
  · intro k hk
    rw [hinstalled] at hk
    exact ⟨(h.numbered k hk).1, Nat.lt_of_lt_of_le (h.numbered k hk).2 hadds.next_le⟩
  · intro k hk hkind
    rw [hinstalled] at hk
    rw [hadds.former k (h.numbered k hk).2]
    exact h.opened k hk hkind

theorem Settled.of_adds_nil (hfirst : Holds first j) (h : j.Settled) (hadds : Adds [] j j') :
    j'.Settled := by
  intro k hk st hst
  rw [hadds.installed, List.append_nil] at hk
  rw [hadds.former k (hfirst.numbered k hk).2] at hst
  exact h k hk st hst

-- What is added to a journal without handlers of its own are all the handlers that it has.
theorem Holds.of_adds {console file : Option Handler} (hattached : j.attached = first.attached)
    (hinstalled : j.installed = []) (hnext : first.next ≤ j.next)
    (hadds : Adds (console.toList ++ file.toList) j j')
    (hconsole : ∀ h ∈ console, h.isConsole = true) (hfile : ∀ h ∈ file, h.isConsole = false) :
    j'.installed = console.toList ++ file.toList ∧ j'.attached = first.attached ++ j'.installed ∧
      Holds first j' ∧ j'.Settled := by
  have hmade : j'.installed = console.toList ++ file.toList := by
    rw [hadds.installed, hinstalled, List.nil_append]
  have hall : j'.attached = first.attached ++ j'.installed := by
    rw [hadds.attached, hattached, hmade]
  refine ⟨hmade, hall, ⟨.inl hall, ⟨console, file, hmade, hconsole, hfile⟩, ?_,
    hmade ▸ hadds.ordered, Nat.le_trans hnext hadds.next_le, ?_⟩, ?_⟩
  · intro k hk
    rw [hmade] at hk
    exact ⟨Nat.le_trans hnext (hadds.numbered k hk).1, (hadds.numbered k hk).2⟩
  · intro k hk hkind
    rw [hmade] at hk
    cases hstream : j'.stream? k with
    | none => rfl
    | some st =>
      rw [(hadds.opened k hk st hstream).1] at hkind
      cases hkind
  · intro k hk st hst
    rw [hmade] at hk
    exact (hadds.opened k hk st hst).2

/-- What comes of a setup: the handlers that it made, or those of the setup before if a file of these
cannot be closed. -/
theorem Holds.setup (hfirst : first.NotSetUp) (h : Holds first j) {room : Nat} {o : Setup}
    {answer : Except SetupError (List Handler)}
    (hsetup : j.setup s room o = (j', s', answer)) :
    (∃ console file : Option Handler,
      j'.attached = first.attached ++ j'.installed ∧
      j'.installed = console.toList ++ file.toList ∧
      (∀ h ∈ console, h.isConsole = true) ∧ (∀ h ∈ file, h.isConsole = false) ∧
      (∀ h ∈ j'.installed, j.next ≤ h.number) ∧
      (∀ handlers, answer = .ok handlers → handlers = j'.installed ∧
        console.isSome = o.console ∧ file.isSome = o.logFile.any (!·.isEmpty)) ∧
      Holds first j' ∧ j'.Settled) ∨
    ((∃ reason, answer = .error (.closing reason)) ∧
      (j'.attached = first.attached ∧ j'.installed = j.installed ∧ ¬j.Settled) ∧ Holds first j') := by
  unfold Journal.setup at hsetup
  split at hsetup
  · next hfailed =>
    cases hsetup
    exact .inr ⟨⟨_, rfl⟩, h.dismiss_failed hfirst hfailed⟩
  · next bare s₁ hdone =>
    obtain ⟨hattached, hinstalled, hnext⟩ := h.dismiss_ok hfirst hdone
    obtain ⟨console, file, hadds, hconsole, hfile, hanswer⟩ := exists_adds_setupAnew bare s₁ room o
    rw [hsetup] at hadds hanswer
    obtain ⟨hmade, hall, hholds, hsettled⟩ :=
      Holds.of_adds hattached hinstalled (hnext ▸ h.next_le) hadds hconsole hfile
    refine .inl ⟨console, file, hall, hmade, hconsole, hfile, ?_, hanswer, hholds, hsettled⟩
    intro k hk
    exact hnext ▸ (hadds.numbered k (hmade ▸ hk)).1

end Runs

/-! ## 6. Records -/

section Records

variable {first : Journal} {p : Runtime} {r : Record}

-- A record changes nothing of a journal but the open files.
theorem writeWith_eq (w : Written) (h : Handler) :
    (writeWith p r w h).1 = { w.1 with streams := (writeWith p r w h).1.streams } := rfl

theorem foldl_writeWith_eq (hs : List Handler) (w : Written) :
    (hs.foldl (writeWith p r) w).1 =
      { w.1 with streams := (hs.foldl (writeWith p r) w).1.streams } := by
  induction hs generalizing w with
  | nil => rfl
  | cons h rest ih =>
    rw [List.foldl_cons, ih, writeWith_eq]

theorem fst_write (j : Journal) (s : Store) :
    (j.write s p r).1 = { j with streams := (j.write s p r).1.streams } := by
  unfold write
  split
  · exact foldl_writeWith_eq j.attached (j, s, "")
  · rfl

theorem stream?_writeWith {w : Written} {h k : Handler}
    (hk : k.number ≠ h.number ∨ k.isConsole = true ∧ k = h) :
    (writeWith p r w h).1.stream? k = w.1.stream? k := by
  have hput : (writeWith p r w h).1 =
      w.1.putStream h (h.write (w.1.stream? h) w.2.1 p w.1.context r).2.1 := rfl
  rw [hput, stream?_putStream]
  rcases hk with hk | ⟨hkind, rfl⟩
  · rw [if_neg hk]
  · rw [if_pos rfl, Handler.write_console hkind]

theorem stream?_foldl_writeWith {hs : List Handler} {k : Handler}
    (hk : ∀ h ∈ hs, k.number ≠ h.number ∨ k.isConsole = true ∧ k = h) (w : Written) :
    (hs.foldl (writeWith p r) w).1.stream? k = w.1.stream? k := by
  induction hs generalizing w with
  | nil => rfl
  | cons h rest ih =>
    rw [List.foldl_cons, ih fun i hi => hk i (List.mem_cons_of_mem _ hi),
      stream?_writeWith (hk h List.mem_cons_self)]

-- Two handlers in the order of their numbers are the same if their numbers are.
theorem eq_of_ordered {hs : List Handler} (hordered : hs.Pairwise (·.number < ·.number))
    {h k : Handler} (hh : h ∈ hs) (hk : k ∈ hs) (heq : k.number = h.number) : k = h := by
  induction hordered with
  | nil => cases hh
  | cons hlt _ ih =>
    rcases List.mem_cons.1 hh with rfl | hrest <;> rcases List.mem_cons.1 hk with rfl | hrest'
    · rfl
    · exact absurd heq (Nat.ne_of_gt (hlt k hrest'))
    · exact absurd heq (Nat.ne_of_lt (hlt h hrest))
    · exact ih hrest hrest'

-- A handler that was installed has its number to itself.
theorem Holds.number_ne (hfirst : first.NotSetUp) {j : Journal} (h : Holds first j) {k i : Handler}
    (hk : k ∈ j.installed) (hi : i ∈ first.attached) : k.number ≠ i.number := by
  have := (h.numbered k hk).1
  have := hfirst.numbered i hi
  omega

theorem Holds.write (hfirst : first.NotSetUp) {j : Journal} (h : Holds first j) (s : Store) :
    Holds first (j.write s p r).1 := by
  unfold Journal.write
  split
  · have hstream : ∀ k ∈ j.installed, k.isConsole = true →
        (j.attached.foldl (writeWith p r) (j, s, "")).1.stream? k = j.stream? k := by
      intro k hk hkind
      refine stream?_foldl_writeWith (fun i hi => ?_) _
      have hi : i ∈ first.attached ∨ i ∈ j.installed := by
        rcases h.attached with hall | hfew
        · exact List.mem_append.1 (hall ▸ hi)
        · exact .inl (hfew ▸ hi)
      rcases hi with hi | hi
      · exact .inl (h.number_ne hfirst hk hi)
      · by_cases heq : k.number = i.number
        · exact .inr ⟨hkind, eq_of_ordered h.ordered hi hk heq⟩
        · exact .inl heq
    have heq := foldl_writeWith_eq (p := p) (r := r) j.attached (j, s, "")
    generalize (j.attached.foldl (writeWith p r) (j, s, "")).1 = j' at hstream heq
    have hinstalled : j'.installed = j.installed := by rw [heq]
    have hattached : j'.attached = j.attached := by rw [heq]
    have hnext : j'.next = j.next := by rw [heq]
    refine ⟨by rw [hattached, hinstalled]; exact h.attached, hinstalled ▸ h.made, ?_,
      hinstalled ▸ h.ordered, hnext ▸ h.next_le, ?_⟩
    · rw [hinstalled, hnext]
      exact h.numbered
    · intro k hk hkind
      rw [hinstalled] at hk
      rw [hstream k hk hkind]
      exact h.opened k hk hkind
  · exact h

def writeOnce (console file : Option Handler) (p : Runtime) (r : Record) (w : Written) : Written :=
  let (j, s, shown) := w
  let line := console.elim "" fun h => (h.write none s p j.context r).2.2
  match file with
  | none => (j, s, shown ++ line)
  | some h =>
    let (s', stream, _) := h.write (j.stream? h) s p j.context r
    (j.putStream h stream, s', shown ++ line)

-- A console leaves the files as they are, and a file shows nothing.
theorem foldl_writeWith_made {console file : Option Handler} {w : Written}
    (hconsole : ∀ h ∈ console, h.isConsole = true) (hfile : ∀ h ∈ file, h.isConsole = false)
    (hclosed : ∀ h ∈ console, w.1.stream? h = none) :
    (console.toList ++ file.toList).foldl (writeWith p r) w = writeOnce console file p r w := by
  obtain ⟨j, s, shown⟩ := w
  have hfirst : console.toList.foldl (writeWith p r) (j, s, shown) =
      (j, s, shown ++ console.elim "" fun h => (h.write none s p j.context r).2.2) := by
    cases console with
    | none => simp
    | some k =>
      have hk : j.stream? k = none := hclosed k rfl
      simp [writeWith, Handler.write_console (hconsole k rfl), hk, putStream_of_none hk]
  rw [List.foldl_append, hfirst]
  cases file with
  | none => rfl
  | some f => simp [writeWith, writeOnce, Handler.write_file (hfile f rfl)]

theorem Holds.write_eq (hfirst : first.NotSetUp) {j : Journal} (h : Holds first j)
    {console file : Option Handler} (hattached : j.attached = first.attached ++ j.installed)
    (hmade : j.installed = console.toList ++ file.toList)
    (hconsole : ∀ h ∈ console, h.isConsole = true) (hfile : ∀ h ∈ file, h.isConsole = false)
    (s : Store) :
    j.write s p r = if j.takes r.level then
      writeOnce console file p r (first.attached.foldl (writeWith p r) (j, s, "")) else (j, s, "") := by
  unfold Journal.write
  split
  · rw [hattached, List.foldl_append, hmade]
    refine foldl_writeWith_made hconsole hfile fun k hk => ?_
    have hmem : k ∈ j.installed := by simp [hmade, Option.mem_def.1 hk]
    rw [stream?_foldl_writeWith fun i hi => .inl (h.number_ne hfirst hmem hi)]
    exact h.opened k hmem (hconsole k hk)
  · rfl

end Records

/-! ## 7. Any run -/

section AnyRun

variable {first : Journal}

-- One operation: only a setup changes which handlers there are, and only a record fills a file.
theorem Holds.perform (hfirst : first.NotSetUp) {j : Journal} (h : Holds first j) (op : Operation) :
    Holds first (j.perform op) ∧
      (j.Settled → (∀ files p r, op ≠ .write files p r) → (j.perform op).Settled) := by
  cases op with
  | setup files room o =>
    rcases hsetup : j.setup files room o with ⟨j', files', answer⟩
    have heq : j.perform (.setup files room o) = j' := by rw [Journal.perform, hsetup]
    rw [heq]
    rcases h.setup hfirst hsetup with
      ⟨console, file, -, -, -, -, -, -, hholds, hsettled⟩ | ⟨-, hstuck, hholds⟩
    · exact ⟨hholds, fun _ _ => hsettled⟩
    · exact ⟨hholds, fun hsettled => absurd hsettled hstuck.2.2⟩
  | write files p r => exact ⟨h.write hfirst files, fun _ hno => absurd rfl (hno files p r)⟩
  | setLevel name =>
    rw [Journal.perform]
    cases hlevel : j.setLevel name with
    | none => exact ⟨h, fun hsettled _ => hsettled⟩
    | some j' =>
      have hadds := adds_setLevel hlevel
      exact ⟨h.of_adds_nil hadds, fun hsettled _ => hsettled.of_adds_nil h hadds⟩
  | push entries =>
    have hadds : Adds [] j (j.push entries) := .of_eq rfl rfl rfl rfl
    exact ⟨h.of_adds_nil hadds, fun hsettled _ => hsettled.of_adds_nil h hadds⟩
  | pop names =>
    have hadds : Adds [] j (j.pop names) := .of_eq rfl rfl rfl rfl
    exact ⟨h.of_adds_nil hadds, fun hsettled _ => hsettled.of_adds_nil h hadds⟩

theorem holds_after (hfirst : first.NotSetUp) (ops : List Operation) :
    Holds first (after first ops) ∧
      ((after first ops).Settled ∨ ∃ files p r, Operation.write files p r ∈ ops) := by
  suffices hrun : ∀ (ops : List Operation) (j : Journal), Holds first j →
      Holds first (after j ops) ∧
        (j.Settled → (after j ops).Settled ∨ ∃ files p r, Operation.write files p r ∈ ops) by
    obtain ⟨hholds, hsettled⟩ := hrun ops first hfirst.holds
    exact ⟨hholds, hsettled (by simp [Settled, hfirst.installed])⟩
  intro ops
  induction ops with
  | nil => exact fun j h => ⟨h, .inl⟩
  | cons op ops ih =>
    intro j h
    obtain ⟨hholds, hsettled⟩ := h.perform hfirst op
    obtain ⟨hholds', hsettled'⟩ := ih _ hholds
    refine ⟨hholds', fun hbefore => ?_⟩
    by_cases hwrite : ∃ files p r, op = .write files p r
    · obtain ⟨files, p, r, rfl⟩ := hwrite
      exact .inr ⟨files, p, r, List.mem_cons_self⟩
    · have hno : ∀ files p r, op ≠ .write files p r := fun files p r heq => hwrite ⟨files, p, r, heq⟩
      rcases hsettled' (hsettled hbefore hno) with hdone | ⟨files, p, r, hmem⟩
      · exact .inl hdone
      · exact .inr ⟨files, p, r, List.mem_cons_of_mem _ hmem⟩

def watched : Journal := ⟨.warning, [], [⟨0, ⟨.json, .universal⟩, .console⟩], [], [], 1⟩

def toFile : Setup := { Setup.standard with logFile := some "log" }

def toNoFile : Setup := { toFile with rotation := .mapping [(.text "mode", .text "weekly")] }

def earlier : List Operation := [.setup .empty 480 toFile, .setLevel "debug"]

end AnyRun

end Journal

end PenPlotter.Log
