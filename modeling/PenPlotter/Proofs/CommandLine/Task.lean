import PenPlotter.CommandLine.Run
import PenPlotter.Proofs.Except
import PenPlotter.Proofs.Log.Handlers

/-!
# Tasks on a desk

Most steps of the command only read the files of their desk and keep its journal.  Such a task comes
down to its result, which does not depend on what was written down before it, and two of them one
after the other come down to their results one after the other.
-/

set_option autoImplicit false

namespace PenPlotter.CommandLine

/-! ## 1. Journals without a file -/

namespace Desk

variable {d d' d'' : Desk}

def Unfiled (d : Desk) : Prop := ∀ h ∈ d.journal.attached, h.isConsole = true

/-- There is a record of an error on the way from one desk to the other, unless the journal leaves
out errors. -/
def Tells (d d' : Desk) : Prop :=
  d.journal.takes .error = true → ∃ r ∈ d'.records, r.2.level = .error

/-- What a desk has in common with the one that it became by steps that only kept the journal. -/
structure Follows (d d' : Desk) : Prop where
  files : d'.files = d.files
  output : d'.output = d.output
  now : d'.now = d.now
  process : d'.process = d.process
  level : d'.journal.level = d.journal.level
  attached : d'.journal.attached = d.journal.attached
  records : d.records ⊆ d'.records

theorem Follows.refl (d : Desk) : d.Follows d := ⟨rfl, rfl, rfl, rfl, rfl, rfl, fun _ h => h⟩

theorem Follows.trans (h : d.Follows d') (h' : d'.Follows d'') : d.Follows d'' where
  files := h'.files.trans h.files
  output := h'.output.trans h.output
  now := h'.now.trans h.now
  process := h'.process.trans h.process
  level := h'.level.trans h.level
  attached := h'.attached.trans h.attached
  records := fun _ hr => h'.records (h.records hr)

theorem Follows.unfiled (h : d.Follows d') (hd : d.Unfiled) : d'.Unfiled := by
  rw [Unfiled, h.attached]
  exact hd

theorem Tells.before (h : d'.Tells d'') (hfollows : d.Follows d') : d.Tells d'' := by
  intro htakes
  apply h
  rw [Log.Journal.takes, hfollows.level]
  exact htakes

theorem Tells.after (h : d.Tells d') (hrecords : d'.records ⊆ d''.records) : d.Tells d'' := by
  intro htakes
  obtain ⟨r, hr, hlevel⟩ := h htakes
  exact ⟨r, hrecords hr, hlevel⟩

-- A console leaves the files as they are.
theorem files_write (hd : d.Unfiled) (p : Runtime) (r : Log.Record) :
    (d.journal.write d.files p r).2.1 = d.files := by
  have hkept : ∀ (handlers : List Log.Handler) (w : Log.Journal.Written),
      (∀ h ∈ handlers, h.isConsole = true) →
      (handlers.foldl (Log.Journal.writeWith p r) w).2.1 = w.2.1 := by
    intro handlers
    induction handlers with
    | nil => exact fun _ _ => rfl
    | cons h handlers ih =>
      intro w hconsole
      rw [List.foldl_cons, ih _ fun h' hh => hconsole h' (List.mem_cons_of_mem _ hh)]
      rw [Log.Journal.writeWith, Log.Handler.write_console (hconsole h List.mem_cons_self)]
  rw [Log.Journal.write]
  split
  · exact hkept _ _ hd
  · rfl

theorem follows_note (hd : d.Unfiled) (level : Log.Level) (template : String)
    (arguments : List Value) : d.Follows (d.note level template arguments) := by
  rw [note]
  split
  · have hjournal := d.journal.fst_write (p := d.process) (r := ⟨logger, level, d.process.number,
      d.now, template, arguments, none⟩) d.files
    refine ⟨files_write hd _ _, rfl, rfl, rfl, ?_, ?_, List.subset_append_left _ _⟩
    · exact (congrArg Log.Journal.level hjournal).trans rfl
    · exact (congrArg Log.Journal.attached hjournal).trans rfl
  · exact .refl d

theorem tells_note (d : Desk) (template : String) (arguments : List Value) :
    d.Tells (d.note .error template arguments) := by
  intro htakes
  rw [note, if_pos htakes]
  exact ⟨_, List.mem_append_right _ List.mem_cons_self, rfl⟩

theorem follows_push (d : Desk) (name value : String) : d.Follows (d.push name value) :=
  ⟨rfl, rfl, rfl, rfl, rfl, rfl, fun _ h => h⟩

end Desk

/-! ## 2. Tasks that only keep the journal -/

namespace Task

variable {α β : Type} {d d' : Desk}

/-- From a desk a task comes to a result.  On the way it only keeps the journal; and if it says that
its failure was reported, it was. -/
def Gives (t : Task Stop α) (d : Desk) (x : Except Stop α) : Prop :=
  ∃ d', t.run d = (x, d') ∧ d.Follows d' ∧ (x = .error .reported → d.Tells d')

theorem Gives.pure (d : Desk) (a : α) : Gives (pure a) d (.ok a) := ⟨d, rfl, .refl d, by simp⟩

theorem Gives.throw (d : Desk) {reason : Stop} (h : reason ≠ .reported) :
    Gives (throw reason : Task Stop α) d (.error reason) := ⟨d, rfl, .refl d, by simp [h]⟩

theorem run_bind (t : Task Stop α) (f : α → Task Stop β) (d : Desk) :
    (t >>= f).run d =
      match t.run d with
      | (.ok a, d) => (f a).run d
      | (.error e, d) => (.error e, d) := by
  have hbind : (t >>= f).run d = ExceptT.bindCont f (t.run d).1 (t.run d).2 := rfl
  rw [hbind]
  obtain ⟨x, d'⟩ := t.run d
  cases x <;> rfl

-- One task after the other, the second from wherever the first leads.
theorem Gives.bind {t : Task Stop α} {f : α → Task Stop β} {x : Except Stop α}
    {y : α → Except Stop β} (h : Gives t d x) (hd : d.Unfiled)
    (hf : ∀ a d', d.Follows d' → d'.Unfiled → Gives (f a) d' (y a)) :
    Gives (t >>= f) d (x >>= y) := by
  obtain ⟨d', hrun, hfollows, htells⟩ := h
  cases x with
  | error e =>
    refine ⟨d', by rw [run_bind, hrun]; rfl, hfollows, fun he => htells ?_⟩
    cases he
    rfl
  | ok a =>
    obtain ⟨d'', hrun', hfollows', htells'⟩ := hf a d' hfollows (hfollows.unfiled hd)
    refine ⟨d'', by rw [run_bind, hrun]; exact hrun', hfollows.trans hfollows', fun he => ?_⟩
    exact (htells' he).before hfollows

-- A task without a result of its own, before another.
theorem Gives.then {t : Task Stop Unit} {u : Task Stop β} {y : Except Stop β}
    (h : Gives t d (.ok ())) (hd : d.Unfiled)
    (hu : ∀ d', d.Follows d' → d'.Unfiled → Gives u d' y) : Gives (t >>= fun _ => u) d y :=
  h.bind hd fun _ => hu

theorem Gives.get {f : Desk → Task Stop β} {y : Except Stop β} (h : Gives (f d) d y) :
    Gives (get >>= f) d y := h

theorem gives_note (hd : d.Unfiled) (level : Log.Level) (template : String)
    (arguments : List Value) : Gives (note level template arguments) d (.ok ()) :=
  ⟨d.note level template arguments, rfl, Desk.follows_note hd _ _ _, by simp⟩

theorem gives_push (d : Desk) (name value : String) :
    Gives (modify (·.push name value)) d (.ok ()) :=
  ⟨d.push name value, rfl, Desk.follows_push d _ _, by simp⟩

theorem gives_take {δ : Type} {reason : δ → Stop} (h : ∀ e, reason e ≠ .reported)
    (x : Except δ α) (d : Desk) : Gives (take reason x) d (x.mapError reason) := by
  cases x with
  | ok a => exact .pure d a
  | error e => exact .throw d (h e)

-- A note for each of some items.
theorem gives_notes {γ : Type} (items : List γ) (level : Log.Level) (template : γ → String)
    (arguments : γ → List Value) (hd : d.Unfiled) :
    Gives (forIn items PUnit.unit fun i _ => do
      note level (template i) (arguments i)
      return .yield PUnit.unit) d (.ok PUnit.unit) := by
  induction items generalizing d with
  | nil => exact .pure d _
  | cons i items ih =>
    rw [List.forIn_cons, bind_assoc]
    refine (gives_note hd level _ _).then hd fun d' _ hd' => ?_
    rw [pure_bind]
    exact ih hd'

end Task

end PenPlotter.CommandLine
