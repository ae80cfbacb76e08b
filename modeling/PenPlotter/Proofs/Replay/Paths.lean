import PenPlotter.Proofs.Replay.Orderly

/-!
# Paths

What a replay records as drawn.  There is a path for each lowering of the pen.  A line that draws
adds to the last path in any case, also once the pen was lifted again; only a program that never draws
then has its paths end where the pen is lifted.
-/

set_option autoImplicit false

namespace PenPlotter.Replay

/-! ## 1. Events -/

def Stance.perform (s : Stance) (i : Instruction) : Stance × Option Point :=
  (s.next i, match i with
    | .draw w => some (s.goal w)
    | _ => none)

abbrev Event := Step Stance Instruction (Option Point)

namespace Event

def lowers (e : Event) : Bool := decide (e.operation = .penDown)

def movesPen (e : Event) : Bool := e.lowers || decide (e.operation = .penUp)

end Event

def events (setup : Setup) (lines : List (List Char)) : List Event :=
  Run.steps Stance.perform .initial (lines.map (Instruction.ofLine setup))

section Events

variable {setup : Setup} {lines : List (List Char)} {line : List Char}

theorem events_concat :
    events setup (lines ++ [line]) =
      events setup lines ++
        [Run.step Stance.perform (Stance.after setup lines) (.ofLine setup line)] := by
  have hafter : Run.final Stance.perform .initial (lines.map (Instruction.ofLine setup)) =
      Stance.after setup lines := List.foldl_map
  unfold events
  rw [List.map_append, List.map_singleton, Run.steps_concat, hafter]

-- An event lowers the pen where a line does.
theorem exists_lowers_iff :
    (∃ e ∈ events setup lines, e.lowers = true) ↔ .down ∈ toggles setup lines := by
  have hmap : (events setup lines).map (·.operation) = lines.map (Instruction.ofLine setup) :=
    Run.map_operation_steps _ _ _
  have hmem : (∃ e ∈ events setup lines, e.lowers = true) ↔
      Instruction.penDown ∈ (events setup lines).map (·.operation) := by
    simp [Event.lowers]
  rw [hmem, hmap, List.mem_map, toggles, List.mem_filterMap]
  simp only [ofLine_eq_penDown_iff]

theorem since_lowers_iff :
    Run.Since Event.lowers Event.movesPen (events setup lines) ↔ LeavesDown setup lines := by
  induction lines using List.reverseRecOn with
  | nil => exact iff_of_false Run.not_since_nil Run.not_since_nil
  | append_singleton lines line ih =>
    rw [events_concat, Run.since_concat, leavesDown_concat, ih]
    simp only [Event.movesPen, Event.lowers, Run.step, Bool.or_eq_false_iff, decide_eq_true_iff,
      decide_eq_false_iff_not, ofLine_eq_penDown_iff, ofLine_eq_penUp_iff]
    tauto

end Events

/-! ## 2. Paths -/

def drawnUpTo (ends : Event → Bool) (es : List Event) : List Point :=
  (es.takeWhile fun e => !ends e).filterMap (·.answer)

/-- For each lowering of the pen the point where it happens, and those that are drawn to from there
on, up to an event that ends the path. -/
def pathsUpTo (ends : Event → Bool) : List Event → List (List Point)
  | [] => []
  | e :: rest =>
    if e.lowers then (e.before.position :: drawnUpTo ends rest) :: pathsUpTo ends rest
    else pathsUpTo ends rest

section Paths

variable {ends : Event → Bool} {es : List Event} {e : Event} {p : Point}

theorem length_pathsUpTo : (pathsUpTo ends es).length = es.countP Event.lowers := by
  induction es with
  | nil => rfl
  | cons a es ih =>
    rw [pathsUpTo, List.countP_cons]
    split
    · rw [List.length_cons, ih]
    · exact ih

theorem pathsUpTo_eq_nil_iff : pathsUpTo ends es = [] ↔ ∀ a ∈ es, a.lowers = false := by
  rw [← List.length_eq_zero_iff, length_pathsUpTo, List.countP_eq_zero]
  simp only [Bool.not_eq_true]

theorem drawnUpTo_concat_of_stopped (h : ∃ a ∈ es, ends a = true) :
    drawnUpTo ends (es ++ [e]) = drawnUpTo ends es := by
  unfold drawnUpTo
  rw [Run.takeWhile_append_of_stopped (by simpa using h)]

theorem drawnUpTo_concat_of_open (h : ∀ a ∈ es, ends a = false) :
    drawnUpTo ends (es ++ [e]) = drawnUpTo ends es ++ if ends e then [] else e.answer.toList := by
  have hall : ∀ a ∈ es, (!ends a) = true := by simpa using h
  unfold drawnUpTo
  rw [List.takeWhile_append_of_pos hall, List.filterMap_append, List.takeWhile_eq_self_iff.2 hall]
  congr 1
  cases hends : ends e with
  | true => simp [hends]
  | false => cases hanswer : e.answer <;> simp [hends, hanswer]

-- An event is in no path if it draws nothing or the last path has ended.
theorem pathsUpTo_concat (h : ends e = true ∨ e.answer = none ∨ ¬Run.Since Event.lowers ends es) :
    pathsUpTo ends (es ++ [e]) = pathsUpTo ends es ++ pathsUpTo ends [e] := by
  induction es with
  | nil => rfl
  | cons a es ih =>
    have hrest := ih (h.imp_right (Or.imp_right (mt (Run.since_cons.2 ∘ .inl))))
    rw [List.cons_append, pathsUpTo, pathsUpTo, hrest]
    by_cases ha : a.lowers = true
    · rw [if_pos ha, if_pos ha, List.cons_append]
      suffices hdrawn : drawnUpTo ends (es ++ [e]) = drawnUpTo ends es by rw [hdrawn]
      by_cases hstopped : ∃ b ∈ es, ends b = true
      · exact drawnUpTo_concat_of_stopped hstopped
      · have hopen : ∀ b ∈ es, ends b = false := by simpa using hstopped
        rw [drawnUpTo_concat_of_open hopen]
        rcases h with hends | hnone | hsince
        · rw [if_pos hends, List.append_nil]
        · rw [hnone, Option.toList_none, ite_self, List.append_nil]
        · exact absurd (Run.since_cons.2 (.inr ⟨ha, hopen⟩)) hsince
    · rw [if_neg ha, if_neg ha]

-- A path that has not ended is the last one, since a lowering ends those before it.
theorem pathsUpTo_concat_of_since (hends : ∀ a, Event.lowers a = true → ends a = true)
    (h : Run.Since Event.lowers ends es) (he : ends e = false) (hp : e.answer = some p) :
    pathsUpTo ends (es ++ [e]) = Machine.extendPaths p (pathsUpTo ends es) := by
  have hup : e.lowers = false := Bool.eq_false_iff.2 fun hlow => by simp [hends e hlow] at he
  induction es with
  | nil => exact absurd h Run.not_since_nil
  | cons a es ih =>
    rw [List.cons_append, pathsUpTo, pathsUpTo]
    rcases Run.since_cons.1 h with hrest | ⟨ha, hopen⟩
    · rw [ih hrest]
      by_cases ha : a.lowers = true
      · obtain ⟨b, hb, hlow⟩ := Run.exists_of_since hrest
        have hne : pathsUpTo ends es ≠ [] := fun hnil =>
          Bool.false_ne_true ((pathsUpTo_eq_nil_iff.1 hnil b hb).symm.trans hlow)
        obtain ⟨path, paths, hpaths⟩ := List.exists_cons_of_ne_nil hne
        rw [if_pos ha, if_pos ha, drawnUpTo_concat_of_stopped ⟨b, hb, hends b hlow⟩, hpaths]
        rfl
      · rw [if_neg ha, if_neg ha]
    · have hnone : ∀ b ∈ es, b.lowers = false := fun b hb =>
        Bool.eq_false_iff.2 fun hlow => Bool.false_ne_true ((hopen b hb).symm.trans (hends b hlow))
      have hnil : pathsUpTo ends es = [] := pathsUpTo_eq_nil_iff.2 hnone
      have hnext : pathsUpTo ends (es ++ [e]) = [] := by
        rw [pathsUpTo_eq_nil_iff, List.forall_mem_append, List.forall_mem_singleton]
        exact ⟨hnone, hup⟩
      rw [if_pos ha, if_pos ha, hnext, hnil, drawnUpTo_concat_of_open hopen, he, hp]
      rfl

theorem length_drawnUpTo_le {fewer : Event → Bool} (h : ∀ a, fewer a = true → ends a = true) :
    (drawnUpTo ends es).length ≤ (drawnUpTo fewer es).length := by
  have hshorter : (es.takeWhile fun e => !ends e) <+: es.takeWhile fun e => !fewer e := by
    induction es with
    | nil => exact List.prefix_rfl
    | cons a es ih =>
      rw [List.takeWhile_cons, List.takeWhile_cons]
      cases hends : ends a with
      | true => exact List.nil_prefix
      | false =>
        have hfewer : fewer a = false :=
          Bool.eq_false_iff.2 fun ha => Bool.false_ne_true (hends.symm.trans (h a ha))
        rw [hfewer]
        exact (List.prefix_cons_inj a).2 ih
  exact (hshorter.filterMap _).length_le

-- The fewer events end a path, the more is in it.
theorem length_pathsUpTo_le {fewer : Event → Bool} (h : ∀ a, fewer a = true → ends a = true) :
    (pathsUpTo ends es).flatten.length ≤ (pathsUpTo fewer es).flatten.length := by
  induction es with
  | nil => exact le_rfl
  | cons a es ih =>
    have hhead : (drawnUpTo ends es).length ≤ (drawnUpTo fewer es).length := length_drawnUpTo_le h
    rw [pathsUpTo, pathsUpTo]
    split
    · simp only [List.flatten_cons, List.length_append, List.length_cons]
      omega
    · exact ih

end Paths

/-! ## 3. What a replay records -/

def recorded (s : Stance) (paths : List (List Point)) : Instruction → List (List Point)
  | .penDown => paths ++ [[s.position]]
  | .draw w => Machine.extendPaths (s.goal w) paths
  | _ => paths

section Recorded

variable {ends : Event → Bool} {es : List Event} {s : Stance} {i : Instruction}
  {paths others : List (List Point)}

theorem extendPaths_inj {p : Point} :
    Machine.extendPaths p paths = Machine.extendPaths p others ↔ paths = others := by
  refine ⟨fun h => ?_, fun h => by rw [h]⟩
  have hlength := congrArg List.length h
  rw [length_extendPaths, length_extendPaths] at hlength
  rcases List.eq_nil_or_concat' paths with rfl | ⟨front, path, rfl⟩
  · exact (List.length_eq_zero_iff.1 hlength.symm).symm
  · rcases List.eq_nil_or_concat' others with rfl | ⟨others, other, rfl⟩
    · simp at hlength
    · rw [extendPaths_append_singleton, extendPaths_append_singleton] at h
      obtain ⟨hfront, hlast⟩ := List.append_inj' h rfl
      obtain ⟨hpath, -⟩ := List.append_inj' (List.singleton_inj.1 hlast) rfl
      rw [hfront, hpath]

theorem length_flatten_extendPaths {p : Point} (h : paths ≠ []) :
    (Machine.extendPaths p paths).flatten.length = paths.flatten.length + 1 := by
  rcases List.eq_nil_or_concat' paths with rfl | ⟨front, path, rfl⟩
  · exact absurd rfl h
  · rw [extendPaths_append_singleton]
    simp [Nat.add_assoc]

theorem recorded_inj : recorded s paths i = recorded s others i ↔ paths = others := by
  cases i with
  | penDown => exact List.append_left_inj _
  | draw w => exact extendPaths_inj
  | none | penUp | travel w | absolute | relative | other => rfl

/-- Paths up to certain events are recorded one event after the other, as long as no line draws after
the end of one. -/
theorem pathsUpTo_step (hends : ∀ a, Event.lowers a = true → ends a = true)
    (hpen : ∀ a, ends a = true → Event.movesPen a = true)
    (h : ∀ w, i = .draw w → (∃ a ∈ es, a.lowers = true) → Run.Since Event.lowers ends es) :
    pathsUpTo ends (es ++ [Run.step Stance.perform s i]) = recorded s (pathsUpTo ends es) i := by
  cases i with
  | penDown =>
    rw [pathsUpTo_concat (.inl (hends _ rfl))]
    rfl
  | none | penUp | travel w | absolute | relative | other =>
    rw [pathsUpTo_concat (.inr (.inl rfl))]
    exact List.append_nil _
  | draw w =>
    have hopen : ends (Run.step Stance.perform s (.draw w)) = false :=
      Bool.eq_false_iff.2 fun hend => Bool.false_ne_true (hpen _ hend)
    by_cases hlowered : ∃ a ∈ es, a.lowers = true
    · exact pathsUpTo_concat_of_since hends (h w rfl hlowered) hopen rfl
    · -- There is no path to add to.
      have hnone : ¬Run.Since Event.lowers ends es := mt Run.exists_of_since hlowered
      have hnil : pathsUpTo ends es = [] := by
        rw [pathsUpTo_eq_nil_iff]
        simpa using hlowered
      rw [pathsUpTo_concat (.inr (.inr hnone)), hnil]
      rfl

theorem length_recorded :
    (recorded s paths i).length = paths.length + if i = .penDown then 1 else 0 := by
  cases i with
  | penDown => exact List.length_append
  | draw w => exact length_extendPaths _ _
  | none | penUp | travel w | absolute | relative | other => rfl

theorem movesPen_of_lowers {a : Event} (h : a.lowers = true) : a.movesPen = true := by
  simp [Event.movesPen, h]

-- A line that draws after the pen was lifted is recorded, but no path up to there goes on to it.
theorem pathsUpTo_ne_of_lifted (hlowered : ∃ a ∈ es, a.lowers = true)
    (hup : ¬Run.Since Event.lowers Event.movesPen es) (w : Words) :
    pathsUpTo Event.lowers (es ++ [Run.step Stance.perform s (.draw w)]) ≠
      pathsUpTo Event.movesPen (es ++ [Run.step Stance.perform s (.draw w)]) := by
  have hall : pathsUpTo Event.lowers (es ++ [Run.step Stance.perform s (.draw w)]) =
      Machine.extendPaths (s.goal w) (pathsUpTo Event.lowers es) :=
    pathsUpTo_step (fun _ => id) (fun _ => movesPen_of_lowers) fun _ _ => Run.since_self_iff.2
  have hclosed : pathsUpTo Event.movesPen (es ++ [Run.step Stance.perform s (.draw w)]) =
      pathsUpTo Event.movesPen es := by
    rw [pathsUpTo_concat (.inr (.inr hup))]
    exact List.append_nil _
  have hne : pathsUpTo Event.lowers es ≠ [] := by
    rw [Ne, pathsUpTo_eq_nil_iff]
    simpa using hlowered
  intro heq
  have hle : (pathsUpTo Event.movesPen es).flatten.length ≤
      (pathsUpTo Event.lowers es).flatten.length :=
    length_pathsUpTo_le fun _ => movesPen_of_lowers
  have hmore := length_flatten_extendPaths (p := s.goal w) hne
  rw [← hall, heq, hclosed] at hmore
  omega

end Recorded

namespace Machine

section Runs

variable {setup : Setup} {m m' : Machine} {lines : List (List Char)}

theorem paths_noteIf (m : Machine) (bad : Bool) (v : Violation) :
    (m.noteIf bad v).paths = m.paths :=
  noteIf_keeps paths m bad v fun _ => rfl

theorem paths_step {place : Place} {i : Instruction} (h : m.step setup place i = (m', none)) :
    m'.paths = recorded m.stance m.paths i := by
  cases i with
  | none | other | absolute | relative =>
    cases h
    rfl
  | penDown =>
    rw [step] at h
    obtain ⟨t, rfl⟩ := wait_eq_none h
    have hposition := congrArg Stance.position (stance_noteIf m m.penDown (.redundantPenDown place))
    exact congrArg₂ (fun paths p => paths ++ [[p]]) (paths_noteIf _ _ _) hposition
  | penUp =>
    rw [step] at h
    obtain ⟨t, rfl⟩ := wait_eq_none h
    exact paths_noteIf m (!m.penDown) _
  | draw w =>
    rw [step] at h
    obtain ⟨t, rfl⟩ := wait_eq_none h
    exact congrArg (extendPaths (m.stance.goal w)) (paths_noteIf _ _ _)
  | travel w =>
    rw [step] at h
    obtain ⟨t, rfl⟩ := wait_eq_none h
    exact paths_noteIf _ _ _

theorem paths_of_run (h : initial.runLines setup 0 lines = (m, none)) :
    m.paths = pathsUpTo Event.lowers (events setup lines) := by
  refine run_induction (motive := fun lines m => m.paths = pathsUpTo Event.lowers (events setup lines))
    h rfl fun {lines line before after place} hlines hline ih => ?_
  rw [runLine] at hline
  rw [paths_step hline, (follows_of_run hlines).stance, ih, events_concat]
  exact (pathsUpTo_step (fun _ => id) (fun _ => movesPen_of_lowers) fun _ _ =>
    Run.since_self_iff.2).symm

theorem length_paths_of_run (h : initial.runLines setup 0 lines = (m, none)) :
    m.paths.length = m.penDowns := by
  refine run_induction (motive := fun _ m => m.paths.length = m.penDowns)
    h rfl fun {lines line before after place} _ hline ih => ?_
  have hcount := penDowns_step setup before place (.ofLine setup line)
  rw [runLine] at hline
  rw [hline] at hcount
  rw [paths_step hline, length_recorded, ih, hcount]

end Runs

end Machine

/-! ## 4. Paths that end where the pen is lifted -/

def DrawsInPath (setup : Setup) (front : List (List Char)) (line : List Char) : Prop :=
  ∀ w, Instruction.ofLine setup line = .draw w → .down ∈ toggles setup front →
    LeavesDown setup front

section DrawsInPath

variable {setup : Setup} {lines : List (List Char)}

theorem pathsUpTo_lowers_eq_iff :
    pathsUpTo Event.lowers (events setup lines) = pathsUpTo Event.movesPen (events setup lines) ↔
      ∀ front line rest, lines = front ++ line :: rest → DrawsInPath setup front line := by
  induction lines using List.reverseRecOn with
  | nil => exact iff_of_true rfl (by simp)
  | append_singleton lines line ih =>
    refine Iff.trans ?_ ((and_congr_left' ih).trans Run.forall_split_concat.symm)
    rw [events_concat]
    by_cases hline : DrawsInPath setup lines line
    · have hin : ∀ w, Instruction.ofLine setup line = .draw w →
          (∃ a ∈ events setup lines, a.lowers = true) →
          Run.Since Event.lowers Event.movesPen (events setup lines) := fun w hw hlowered =>
        since_lowers_iff.2 (hline w hw (exists_lowers_iff.1 hlowered))
      rw [pathsUpTo_step (fun _ => id) (fun _ => movesPen_of_lowers) fun _ _ =>
          Run.since_self_iff.2,
        pathsUpTo_step (fun _ => movesPen_of_lowers) (fun _ => id) hin, recorded_inj,
        and_iff_left hline]
    · refine iff_of_false ?_ fun h => hline h.2
      simp only [DrawsInPath, not_forall] at hline
      obtain ⟨w, hw, hlowered, hup⟩ := hline
      rw [hw]
      exact pathsUpTo_ne_of_lifted (exists_lowers_iff.2 hlowered) (mt since_lowers_iff.1 hup) w

theorem drawsInPath_of_continues {front : List (List Char)} {line : List Char}
    (h : Continues setup front line) : DrawsInPath setup front line := by
  intro w hw _
  unfold Continues at h
  rwa [hw] at h

end DrawsInPath

/-- **What a replay records.**  A program that is replayed to its end leaves a path for each lowering
of the pen, which starts there and goes through all points drawn to up to the next lowering.  The
paths end where the pen is lifted exactly if no line draws with the pen up after a first lowering,
and so they do for a program without violations. -/
theorem Replayer.paths_run (r : Replayer) (report : Report) (h : r.run.2 = .ok report) :
    r.run.1.machine.paths.length = report.penDowns ∧
      r.run.1.machine.paths = pathsUpTo Event.lowers (events r.setup r.lines) ∧
      (r.run.1.machine.paths = pathsUpTo Event.movesPen (events r.setup r.lines) ↔
        ∀ front line rest, r.lines = front ++ line :: rest → DrawsInPath r.setup front line) ∧
      (report.violations = [] →
        r.run.1.machine.paths = pathsUpTo Event.movesPen (events r.setup r.lines)) := by
  obtain ⟨m, hrun, hr⟩ := exists_run_eq h
  obtain rfl : .ofMachine (m.noteIf m.penDown .endsWithPenDown) = report := by
    rw [hr] at h
    exact Except.ok.inj h
  have hpaths : r.run.1.machine.paths = m.paths := by
    rw [hr]
    exact Machine.paths_noteIf m m.penDown _
  have hcount : (Report.ofMachine (m.noteIf m.penDown .endsWithPenDown)).penDowns = m.penDowns :=
    (Machine.counts_noteIf m m.penDown _).1
  have hiff := @pathsUpTo_lowers_eq_iff r.setup r.lines
  rw [hpaths, hcount, Machine.paths_of_run hrun]
  refine ⟨?_, rfl, hiff, fun hnone => hiff.2 ?_⟩
  · rw [← Machine.paths_of_run hrun]
    exact Machine.length_paths_of_run hrun
  · have hclean : m.violations = [] :=
      List.append_eq_nil_iff.1 ((Machine.violations_noteIf m m.penDown _).symm.trans hnone) |>.1
    exact fun front line rest hlines => drawsInPath_of_continues
      (Machine.violations_eq_nil_iff hrun |>.1 hclean front line rest hlines)

def Replayer.retraced : Replayer :=
  (Replayer.new (.standard "M5" "M3")).load "G1 X1\nM3\nG1 Y2\nG0 X5\nM3\nG1 X4\nM5"

theorem Replayer.paths_run_retraced :
    ∃ report, retraced.run.2 = .ok report ∧ report.penDowns = 2 ∧
      retraced.run.1.machine.paths = [[⟨1, 0⟩, ⟨1, 2⟩], [⟨5, 2⟩, ⟨4, 2⟩]] ∧
      ∀ front line rest, retraced.lines = front ++ line :: rest →
        DrawsInPath retraced.setup front line := by
  have hrun : retraced.run.2.toOption.isSome = true := by decide +kernel
  have hall : pathsUpTo Event.lowers (events retraced.setup retraced.lines) =
      [[⟨1, 0⟩, ⟨1, 2⟩], [⟨5, 2⟩, ⟨4, 2⟩]] := by decide +kernel
  have hends : pathsUpTo Event.movesPen (events retraced.setup retraced.lines) =
      [[⟨1, 0⟩, ⟨1, 2⟩], [⟨5, 2⟩, ⟨4, 2⟩]] := by decide +kernel
  cases h : retraced.run.2 with
  | error e => simp [h, Except.toOption] at hrun
  | ok report =>
    obtain ⟨hlength, hpaths, hiff, -⟩ := paths_run retraced report h
    rw [hall] at hpaths
    rw [hpaths] at hlength
    exact ⟨report, rfl, hlength.symm, hpaths, hiff.1 (hpaths.trans hends.symm)⟩

def Replayer.lifted : Replayer := (Replayer.new (.standard "M5" "M3")).load "M3\nM5\nG1 X1"

theorem Replayer.paths_run_lifted :
    lifted.run.2.toOption.isSome = true ∧
      lifted.run.1.machine.paths = [[⟨0, 0⟩, ⟨1, 0⟩]] ∧
      pathsUpTo Event.movesPen (events lifted.setup lifted.lines) = [[⟨0, 0⟩]] := by
  decide +kernel

end PenPlotter.Replay
