import PenPlotter.Proofs.CommandLine.Delivery
import PenPlotter.Proofs.Program.Rounded
import PenPlotter.Proofs.Replay.Faults

/-!
# Where a stage of the command crashes

For each stage, the failures that the command does not handle: files that are there but cannot be
read, names of profiles that are no texts, missing paths, coordinates that are too large, numbers that
are too long to be written, and distances that a replay has no time for.
-/

set_option autoImplicit false

namespace PenPlotter.CommandLine

open Files

/-! ## 1. Crashes -/

def Stop.isCrash : Stop → Bool
  | .crash _ => true
  | .failed _ | .reported => false

def Crashes {α : Type} (x : Except Stop α) : Prop := ∃ e, x = .error e ∧ e.isCrash = true

section Crashes

variable {α β δ : Type} {x : Except Stop α} {f : α → Except Stop β}

theorem not_crashes_ok (a : α) : ¬Crashes (.ok a) := by
  rintro ⟨e, h, -⟩
  cases h

-- Of two stages, one after the other, one has to crash.
theorem crashes_bind : Crashes (x >>= f) ↔ Crashes x ∨ ∃ a, x = .ok a ∧ Crashes (f a) := by
  cases x with
  | error e =>
    have hcrash : Crashes (Except.error e >>= f) ↔ Crashes (.error e : Except Stop α) := by
      simp [Crashes, bind, Except.bind]
    rw [hcrash, or_iff_left]
    rintro ⟨a, h, -⟩
    cases h
  | ok a =>
    rw [or_iff_right (not_crashes_ok a)]
    simp only [Except.ok.injEq, exists_eq_left']
    rfl

theorem crashes_mapError {y : Except δ α} {stop : δ → Stop} :
    Crashes (y.mapError stop) ↔ ∃ e, y = .error e ∧ (stop e).isCrash = true := by
  simp only [Crashes, mapError_eq_error]
  constructor
  · rintro ⟨_, ⟨e, he, rfl⟩, hcrash⟩
    exact ⟨e, he, hcrash⟩
  · rintro ⟨e, he, hcrash⟩
    exact ⟨_, ⟨e, he, rfl⟩, hcrash⟩

end Crashes

variable {files : Store} {process : Runtime} {p : Path} {r : Request} {settings : Settings}

theorem isCrash_stopForProfile {e : ProfileError} : (stopForProfile e).isCrash = true ↔
    (∃ d, e = .document d ∧ isReported d = false) ∨
      e = .namesNotText ∨ e = .nameNotKey ∨ ∃ reason, e = .nameNotShown reason := by
  cases e with
  | document d =>
    cases hreported : isReported d <;> simp [stopForProfile, hreported, Stop.isCrash]
  | _ => simp [stopForProfile, Stop.isCrash]

theorem isCrash_stopForDrawing {e : DrawingError} : (stopForDrawing e).isCrash = true ↔
    (∃ d, e = .document d ∧ isReported d = false) ∨
      (∃ path index, e = .entry path index .overflow) ∨
      ∃ path index reason, e = .entry path index (.noText reason) := by
  cases e with
  | document d =>
    cases hreported : isReported d <;> simp [stopForDrawing, hreported, Stop.isCrash]
  | entry path index e => cases e <;> simp [stopForDrawing, Stop.isCrash]
  | _ => simp [stopForDrawing, Stop.isCrash]

theorem isCrash_stopForCompile {e : CompileError} :
    (stopForCompile e).isCrash = true ↔ e = .overflow ∨ e = .tooManyDigits := by
  cases e <;> simp [stopForCompile, Stop.isCrash]

theorem isCrash_stopForRejection (rs : List Rejection) : (stopForRejection rs).isCrash = false := rfl

theorem isCrash_stopForExport {e : ExportError} :
    (stopForExport e).isCrash = true ↔ isReportedExport e = false := by
  cases h : isReportedExport e <;> simp [stopForExport, h, Stop.isCrash]

/-! ## 2. Documents -/

/-- Something is at a path, or could be, but no document can be read there. -/
inductive Unreadable (files : Store) (process : Runtime) (p : Path) : Prop where
  /-- It cannot be told what is there: a name is too long, or the system refuses to look. -/
  | unreachable {e : Error} (lookup : files.lookup p = .error e) (unsure : e.saysAbsent = false)
  /-- What is there is no file, or may not be read. -/
  | unread {entry : Entry} {e : Error} (lookup : files.lookup p = .ok entry)
    (read : files.readBytes p = .error e)
  | notText (read : files.readText p = .error .notText)
  /-- The text follows the notation, but a part of it has no value, or it cannot be read for lack of
  room. -/
  | noValue {text : String} {e : Yaml.Error} (read : files.readText p = .ok text)
    (value : Yaml.read process text = .error e) (fault : e ≠ .malformed)
    (paired : ∀ code, e ≠ .halfPair code)

/-- The text at a path names no half of a surrogate pair. -/
def Paired (files : Store) (process : Runtime) (p : Path) : Prop :=
  ∀ text code, files.readText p = .ok text → Yaml.read process text ≠ .error (.halfPair code)

theorem readBytes_of_lookup_error {e : Error} (h : files.lookup p = .error e) :
    files.readBytes p = .error e := by
  rw [Store.lookup, bind_eq_error] at h
  rw [Store.readBytes, bind_eq_error]
  obtain h | ⟨place, hplace, h⟩ := h
  · exact .inl h
  · refine .inr ⟨place, hplace, ?_⟩
    cases hentry : files.entryAt? place with
    | none =>
      rw [hentry] at h
      obtain rfl := Except.error.inj h
      rfl
    | some e =>
      rw [hentry] at h
      cases h

theorem readText_of_readBytes_error {e : Error} (h : files.readBytes p = .error e) :
    files.readText p = .error (.file e) := by
  rw [Store.readText, h]
  rfl

-- What is there may be unfit to be read, but it is not missing.
theorem readBytes_ne_missing {entry : Entry} (hlookup : files.lookup p = .ok entry) (path : String) :
    files.readBytes p ≠ .error (.obstacle .missing path) := by
  rw [Store.lookup, bind_eq_ok] at hlookup
  obtain ⟨place, hplace, hentry⟩ := hlookup
  rw [Store.readBytes, hplace, ok_bind]
  split at hentry
  · next e he =>
    rw [he]
    dsimp only
    intro h
    obtain h | ⟨-, -, h⟩ := bind_eq_error.mp h
    · obtain ⟨o, ho, h⟩ := mapError_eq_error.mp h
      rw [Store.allow] at ho
      split at ho
      · obtain rfl := Except.error.inj ho
        cases h
      · cases ho
    · cases e <;> cases h
  · cases hentry

theorem isReported_file {e : Error} (h : ∀ path, e ≠ .obstacle .missing path) :
    isReported (.text (.file e)) = false := by
  rw [isReported, saysMissing]
  intro path heq
  exact h path (Store.TextError.file.inj heq)

theorem exists?_of_lookup_error {e : Error} (h : files.lookup p = .error e) :
    files.exists? p = if e.saysAbsent then .ok false else .error e := by
  rw [Store.exists?, h]

theorem unreported_valueOfText {path text : String} :
    (∃ d, valueOfText process path text = .error d ∧ isReported d = false) ↔
      ∃ e, Yaml.read process text = .error e ∧ e ≠ .malformed := by
  rw [valueOfText]
  cases Yaml.read process text with
  | ok v => simp
  | error e => cases e <;> simp [isReported]

-- A path that leads to something is read, and fails as its text does.
theorem readValue_of_exists (h : files.exists? p = .ok true) :
    files.readValue process p =
      (files.readText p).mapError .text >>= valueOfText process p.text := by
  rw [Store.readValue, h]
  rfl

theorem readValue_of_missing (h : files.exists? p = .ok false) :
    files.readValue process p = .error (.missing p.text) := by
  rw [Store.readValue, h]
  rfl

theorem readValue_of_unsure {e : Error} (h : files.exists? p = .error e) :
    files.readValue process p = .error (.text (.file e)) := by
  rw [Store.readValue, h]
  rfl

-- Where nothing is found, only a failure to look goes unreported.
theorem unreported_readValue_of_error {e : Error} (hlookup : files.lookup p = .error e) :
    (∃ d, files.readValue process p = .error d ∧ isReported d = false) ↔
      Unreadable files process p := by
  have hexists := exists?_of_lookup_error hlookup
  have hread := readText_of_readBytes_error (readBytes_of_lookup_error hlookup)
  cases habsent : e.saysAbsent with
  | true =>
    rw [readValue_of_missing (by rw [hexists, habsent, if_pos rfl])]
    refine iff_of_false (by simp [isReported]) ?_
    rintro (⟨h, hunsure⟩ | ⟨h, -⟩ | h | ⟨h, -, -, -⟩)
    · obtain rfl := Except.error.inj (hlookup.symm.trans h)
      rw [habsent] at hunsure
      cases hunsure
    · rw [hlookup] at h
      cases h
    all_goals
      rw [hread] at h
      cases h
  | false =>
    rw [readValue_of_unsure (by rw [hexists, habsent, if_neg Bool.false_ne_true])]
    refine iff_of_true ⟨_, rfl, isReported_file ?_⟩ (.unreachable hlookup habsent)
    rintro path rfl
    cases habsent

-- What is found decides by what it is, and then by its text.
theorem unreported_readValue_of_ok {entry : Entry} (hpaired : Paired files process p)
    (hlookup : files.lookup p = .ok entry) :
    (∃ d, files.readValue process p = .error d ∧ isReported d = false) ↔
      Unreadable files process p := by
  rw [readValue_of_exists (by rw [Store.exists?, hlookup])]
  constructor
  · rintro ⟨d, hd, hunreported⟩
    obtain hd | ⟨text, htext, hd⟩ := bind_eq_error.mp hd
    · obtain ⟨e, hread, -⟩ := mapError_eq_error.mp hd
      cases hbytes : files.readBytes p with
      | error e => exact .unread hlookup hbytes
      | ok content =>
        rw [Store.readText, hbytes] at hread
        have hnotText : e = .notText := by
          rw [mapError_ok, ok_bind] at hread
          split at hread
          · cases hread
          · exact (Except.error.inj hread).symm
        exact .notText (by rw [Store.readText, hbytes, hread, hnotText])
    · obtain ⟨e, hvalue, hfault⟩ := unreported_valueOfText.mp ⟨d, hd, hunreported⟩
      have hread := mapError_eq_ok.mp htext
      refine .noValue hread hvalue hfault fun code hcode => ?_
      exact hpaired text code hread (hcode ▸ hvalue)
  · rintro (⟨h, -⟩ | ⟨-, hread⟩ | h | ⟨hread, hvalue, hfault, -⟩)
    · rw [hlookup] at h
      cases h
    · rw [readText_of_readBytes_error hread]
      refine ⟨_, rfl, isReported_file ?_⟩
      rintro path rfl
      exact readBytes_ne_missing hlookup path hread
    · rw [h]
      exact ⟨_, rfl, rfl⟩
    · rw [hread]
      exact unreported_valueOfText.mpr ⟨_, hvalue, hfault⟩

/-- What makes a file unreadable is not reported, and all else that can be wrong with one is. -/
theorem unreported_readValue (hpaired : Paired files process p) :
    (∃ d, files.readValue process p = .error d ∧ isReported d = false) ↔
      Unreadable files process p := by
  cases hlookup : files.lookup p with
  | error e => exact unreported_readValue_of_error hlookup
  | ok entry => exact unreported_readValue_of_ok hpaired hlookup

-- It makes no difference that settings are looked for before their file is read.
theorem unreported_value (hpaired : Paired files process p) :
    (∃ d, (SettingsSource.file p).value files process = .error (.document d) ∧
      isReported d = false) ↔ Unreadable files process p := by
  rw [← unreported_readValue hpaired, SettingsSource.value]
  cases hexists : files.exists? p with
  | error e => simp [readValue_of_unsure hexists]
  | ok found =>
    cases found with
    | false => simp [readValue_of_missing hexists, isReported]
    | true => simp [mapError_eq_error]

/-! ## 3. Settings -/

section Choosing

variable {room : Nat} {name : Value} {source : String} {d : DocumentError}

theorem naming_ne_document {e : String → ProfileError} (h : ∀ text, e text ≠ .document d) :
    ProfileError.naming room name e ≠ .document d := by
  rw [ProfileError.naming]
  split
  · exact h _
  · nofun

theorem unknownName_ne_document {profiles : List (Value × Value)} {text : String} :
    unknownName source profiles text ≠ .document d := by
  rw [unknownName]
  split <;> nofun

theorem chooseProfile_ne_document {profiles : List (Value × Value)} :
    chooseProfile room source profiles name ≠ .error (.document d) := by
  intro h
  rw [chooseProfile] at h
  split at h
  · cases h
  split at h
  · exact naming_ne_document (fun _ => unknownName_ne_document) (Except.error.inj h)
  split at h
  · cases h
  split at h
  · cases h
  · have hname : ProfileError.naming room name (.profileNotMapping · source) ≠ .document d :=
      naming_ne_document fun _ => by simp
    exact hname (Except.error.inj h)

theorem choose_ne_document {entries : List (Value × Value)} {given : Option Value} :
    choose room source entries given ≠ .error (.document d) := by
  intro h
  unfold choose at h
  split at h
  · split at h
    · exact chooseProfile_ne_document h
    · cases h
  · split at h
    · next _ name =>
      have hname : ProfileError.naming room name (.noProfiles source) ≠ .document d :=
        naming_ne_document fun _ => by simp
      exact hname (Except.error.inj h)
    · cases h

end Choosing

theorem entries_eq_document {source : SettingsSource} {d : DocumentError} :
    source.entries files process = .error (.document d) ↔
      source.value files process = .error (.document d) := by
  rw [SettingsSource.entries, bind_eq_error]
  refine or_iff_left ?_
  rintro ⟨v, -, h⟩
  split at h
  · cases h
  · split at h <;> cases h

-- Only the first stage of reading settings reads a document.
theorem readSettings_eq_document {source : SettingsSource} {given : Option Value}
    {d : DocumentError} : readSettings files process source given = .error (.document d) ↔
      source.value files process = .error (.document d) := by
  rw [readSettings, bind_eq_error, entries_eq_document]
  refine or_iff_left ?_
  rintro ⟨entries, -, h⟩
  obtain h | ⟨choice, -, h⟩ := bind_eq_error.mp h
  · exact choose_ne_document h
  · obtain ⟨e, -, h⟩ := mapError_eq_error.mp h
    cases h

-- The text of the profiles that come with the library is well-formed.
theorem exists_read_shipped (h : process.exhausts SettingsSource.shippedText = false) :
    ∃ v, Yaml.read process SettingsSource.shippedText = .ok v := by
  -- The process has no part in this up to the value.
  have hbuilt : (Yaml.Graph.ofText SettingsSource.shippedText.toList >>= fun read =>
      read.1.elim (.ok ()) fun root => (Yaml.Builder.ofGraph read.2).meet root >>= fun met =>
        (met.1.fillAll (read.2.nodes.size + 1) met.2).map fun _ => ()).toOption = some () := by
    rw [SettingsSource.shippedText, String.toList_intercalate]
    decide +kernel
  obtain ⟨⟨root, graph⟩, hgraph, hbuilt⟩ := bind_eq_ok.mp (eq_ok_of_toOption hbuilt)
  rw [Yaml.read, h, hgraph]
  cases root with
  | none => exact ⟨_, rfl⟩
  | some root =>
    obtain ⟨⟨b, queue⟩, hmeet, hbuilt⟩ := bind_eq_ok.mp hbuilt
    obtain ⟨b', hfill⟩ : ∃ b', b.fillAll (graph.nodes.size + 1) queue = .ok b' := by
      cases hfill : b.fillAll (graph.nodes.size + 1) queue with
      | ok b' => exact ⟨b', rfl⟩
      | error e =>
        rw [hfill] at hbuilt
        cases hbuilt
    refine ⟨b'.valueOf process (graph.nodes.size + 1) [] root, ?_⟩
    simp only [Bool.false_eq_true, if_false, ok_bind, hmeet, hfill]
    rfl

-- So only the stack can be too small for them.
theorem unreported_value_shipped :
    (∃ d, SettingsSource.shipped.value files process = .error (.document d) ∧
      isReported d = false) ↔ process.exhausts SettingsSource.shippedText = true := by
  rw [SettingsSource.value]
  cases h : process.exhausts SettingsSource.shippedText with
  | false =>
    obtain ⟨v, hv⟩ := exists_read_shipped h
    simp [valueOfText, hv]
  | true =>
    have hread : Yaml.read process SettingsSource.shippedText = .error .tooDeep := by
      rw [Yaml.read, h]
      rfl
    simp [valueOfText, hread, isReported]

theorem crashes_source : Crashes r.source ↔ r.config = .blank := by
  rw [Request.source]
  cases r.config <;> simp [Crashes, Stop.isCrash]

-- Either the file that is asked for is unreadable, or the profiles of the library are.
theorem unreported_readSettings (source : SettingsSource) (given : Option Value)
    (hpaired : ∀ p, source = .file p → Paired files process p) :
    (∃ d, readSettings files process source given = .error (.document d) ∧ isReported d = false) ↔
      (source = .shipped ∧ process.exhausts SettingsSource.shippedText = true) ∨
        ∃ p, source = .file p ∧ Unreadable files process p := by
  simp only [readSettings_eq_document]
  cases source with
  | shipped => simp [unreported_value_shipped]
  | file p => simp [unreported_value (hpaired p rfl)]

theorem exists_source_file_iff {P : Path → Prop} :
    (∃ source, r.source = .ok source ∧ ∃ p, source = .file p ∧ P p) ↔
      ∃ path, r.config = .value path ∧ P (.ofText path) := by
  rw [Request.source]
  cases r.config <;> simp

theorem exists_source_shipped_iff {P : Prop} :
    (∃ source, r.source = .ok source ∧ source = .shipped ∧ P) ↔ r.config = .absent ∧ P := by
  rw [Request.source]
  cases r.config <;> simp

def Request.Paired (files : Store) (process : Runtime) (r : Request) : Prop :=
  ∀ path, r.config = .value path ∨ r.segments = .value path →
    CommandLine.Paired files process (.ofText path)

theorem paired_of_source {source : SettingsSource} (hpaired : r.Paired files process)
    (h : r.source = .ok source) {p : Path} (hp : source = .file p) : Paired files process p := by
  rw [Request.source] at h
  split at h
  · cases h
    cases hp
  · cases h
  · next path hconfig =>
    cases h
    cases hp
    exact hpaired path (.inl hconfig)

theorem crashes_settings (hpaired : r.Paired files process) :
    Crashes (r.settings files process) ↔
    r.config = .blank ∨
    ((r.config = .absent ∧ process.exhausts SettingsSource.shippedText = true) ∨
      ∃ path, r.config = .value path ∧ Unreadable files process (.ofText path)) ∨
    ∃ source e, r.source = .ok source ∧
      readSettings files process source (profileOf r.profile) = .error e ∧
      (e = .namesNotText ∨ e = .nameNotKey ∨ ∃ reason, e = .nameNotShown reason) := by
  rw [Request.settings, crashes_bind, crashes_source, ← exists_source_file_iff,
    ← exists_source_shipped_iff, ← exists_or]
  refine or_congr_right ?_
  simp only [← and_or_left, crashes_bind, crashes_mapError, isCrash_stopForProfile,
    isCrash_stopForRejection, Bool.false_eq_true, and_false, exists_false, or_false]
  have hread : ∀ source, r.source = .ok source →
      ((∃ d, readSettings files process source (profileOf r.profile) = .error (.document d) ∧
        isReported d = false) ↔ _) := fun source hsource =>
    unreported_readSettings source (profileOf r.profile) fun p => paired_of_source hpaired hsource
  constructor
  · rintro ⟨source, hsource, e, he, ⟨d, rfl, hunreported⟩ | hunnamed⟩
    · exact .inl ⟨source, hsource, (hread source hsource).mp ⟨d, he, hunreported⟩⟩
    · exact .inr ⟨source, e, hsource, he, hunnamed⟩
  · rintro (⟨source, hsource, hdocument⟩ | ⟨source, e, hsource, he, hunnamed⟩)
    · obtain ⟨d, he, hunreported⟩ := (hread source hsource).mpr hdocument
      exact ⟨source, hsource, _, he, .inl ⟨d, rfl, hunreported⟩⟩
    · exact ⟨source, hsource, e, he, .inr hunnamed⟩

/-! ## 4. Drawing and program -/

theorem segmentsOf_ne_document {room : Nat} {path : String} {index : Nat} {entries : List Value}
    {d : DocumentError} : segmentsOf room path index entries ≠ .error (.document d) := by
  intro h
  obtain hformat | ⟨place, hentry⟩ | ⟨place, reason, hentry⟩ := isFormat_of_segmentsOf h
  · cases hformat
  · cases hentry
  · cases hentry

theorem drawingEntries_ne_document {path : String} {v : Value} {d : DocumentError} :
    drawingEntries path v ≠ .error (.document d) := by
  intro h
  obtain h | ⟨typeName, h⟩ := drawingEntries_eq_error h <;> cases h

theorem readDrawing_eq_document {d : DocumentError} :
    readDrawing files process p = .error (.document d) ↔ files.readValue process p = .error d := by
  have hvalue : (files.readValue process p).mapError DrawingError.document =
      .error (.document d) ↔ files.readValue process p = .error d := by
    simp [mapError_eq_error]
  rw [readDrawing, bind_eq_error, hvalue]
  refine or_iff_left ?_
  rintro ⟨v, -, h⟩
  obtain h | ⟨entries, -, h⟩ := bind_eq_error.mp h
  · exact drawingEntries_ne_document h
  · exact segmentsOf_ne_document h

/-- What can be wrong with the entries of a drawing that is not reported: a number is too large, or an
entry that is no segment cannot be shown. -/
def BadEntry (files : Store) (process : Runtime) (p : Path) : Prop :=
  (∃ path index, readDrawing files process p = .error (.entry path index .overflow)) ∨
    ∃ path index reason, readDrawing files process p = .error (.entry path index (.noText reason))

theorem crashes_readDrawing (hpaired : Paired files process p) :
    Crashes ((readDrawing files process p).mapError stopForDrawing) ↔
    Unreadable files process p ∨ BadEntry files process p := by
  rw [crashes_mapError, ← unreported_readValue hpaired, BadEntry]
  simp only [isCrash_stopForDrawing, ← readDrawing_eq_document]
  constructor
  · rintro ⟨e, he, ⟨d, rfl, hunreported⟩ | ⟨path, index, rfl⟩ | ⟨path, index, reason, rfl⟩⟩
    · exact .inl ⟨d, he, hunreported⟩
    · exact .inr (.inl ⟨path, index, he⟩)
    · exact .inr (.inr ⟨path, index, reason, he⟩)
  · rintro (⟨d, he, hunreported⟩ | ⟨path, index, he⟩ | ⟨path, index, reason, he⟩)
    · exact ⟨_, he, .inl ⟨d, rfl, hunreported⟩⟩
    · exact ⟨_, he, .inr (.inl ⟨path, index, rfl⟩)⟩
    · exact ⟨_, he, .inr (.inr ⟨path, index, reason, rfl⟩)⟩

-- Every pattern that can be asked for is there, and can be walked.
theorem drawing_of_pattern (files : Store) (process : Runtime) {name : String} (hr : r.Sensible)
    (h : r.pattern = .value name) :
    ∃ segments, r.drawing files process = .ok segments ∧ ∀ s ∈ segments, s.isRounded = true := by
  obtain ⟨pattern, segments, hnamed, hsegments, hrounded⟩ :=
    Pattern.exists_segments name (hr.pattern name h)
  refine ⟨segments, ?_, hrounded⟩
  rw [Request.drawing, h, Given.value?, Option.bind_some, hnamed]
  dsimp only
  rw [hsegments]
  rfl

theorem drawing_of_segments {path : String} (hr : r.Sensible) (h : r.segments = .value path) :
    r.drawing files process = (readDrawing files process (.ofText path)).mapError stopForDrawing := by
  have hpattern : r.pattern = .absent := hr.single.resolve_left (by rw [h]; nofun)
  rw [Request.drawing, h, hpattern]
  rfl

theorem crashes_drawing (hr : r.Sensible) (hgiven : r.segments ≠ .absent ∨ r.pattern ≠ .absent)
    (hpaired : r.Paired files process) :
    Crashes (r.drawing files process) ↔ (r.pattern = .blank ∨ r.segments = .blank) ∨
      ∃ path, r.segments = .value path ∧
        (Unreadable files process (.ofText path) ∨ BadEntry files process (.ofText path)) := by
  cases hpattern : r.pattern with
  | value name =>
    have hsegments : r.segments = .absent := hr.single.resolve_right (by rw [hpattern]; nofun)
    obtain ⟨segments, hdrawing, -⟩ := drawing_of_pattern files process hr hpattern
    rw [hdrawing, hsegments]
    exact iff_of_false (not_crashes_ok segments) (by simp)
  | blank =>
    have hsegments : r.segments = .absent := hr.single.resolve_right (by rw [hpattern]; nofun)
    have hdrawing : r.drawing files process = .error (.crash .noPath) := by
      rw [Request.drawing, hsegments, hpattern]
      rfl
    rw [hdrawing]
    exact iff_of_true ⟨_, rfl, rfl⟩ (.inl (.inl rfl))
  | absent =>
    cases hsegments : r.segments with
    | absent => simp [hsegments, hpattern] at hgiven
    | blank =>
      have hdrawing : r.drawing files process = .error (.crash .noPath) := by
        rw [Request.drawing, hsegments, hpattern]
        rfl
      rw [hdrawing]
      exact iff_of_true ⟨_, rfl, rfl⟩ (.inl (.inr rfl))
    | value path =>
      rw [drawing_of_segments hr hsegments, crashes_readDrawing (hpaired path (.inr hsegments))]
      simp

theorem isRounded_of_drawing {segments : List Segment} (hr : r.Sensible)
    (h : r.drawing files process = .ok segments) : ∀ s ∈ segments, s.isRounded = true := by
  cases hpattern : r.pattern with
  | value name =>
    obtain ⟨segments', hdrawing, hrounded⟩ := drawing_of_pattern files process hr hpattern
    obtain rfl := Except.ok.inj (h.symm.trans hdrawing)
    exact hrounded
  | absent | blank =>
    rw [Request.drawing, hpattern] at h
    cases hsegments : r.segments with
    | value path =>
      rw [hsegments] at h
      exact isRounded_of_readDrawing (mapError_eq_ok.mp h)
    | absent | blank =>
      rw [hsegments] at h
      cases h

/-- The feed is too long to be written, and there is a line to write it into. -/
def LongFeed (settings : Settings) (segments : List Segment) : Prop :=
  settings.isWritable = false ∧ ∃ box, Extent.of? segments = some box ∧
    ∃ s ∈ segments.head?, ((Placement.grounding box settings.scale).stroke s).isOk = true

-- Apart from that, a drawing that was read can be compiled or fails in a way that is reported.
theorem crashes_programOf {segments : List Segment} (hr : r.Sensible)
    (h : r.drawing files process = .ok segments) :
    Crashes (programOf settings segments) ↔ LongFeed settings segments := by
  have hrounded := isRounded_of_drawing hr h
  rw [programOf, crashes_mapError, LongFeed, ← rebuild_eq_tooManyDigits_iff settings hrounded]
  simp only [isCrash_stopForCompile]
  constructor
  · rintro ⟨e, he, hcrash⟩
    obtain ⟨s, -, rfl⟩ | ⟨rfl, -⟩ := rebuild_eq_error settings hrounded he
    · simp at hcrash
    · exact he
  · exact fun he => ⟨_, he, .inr rfl⟩

theorem crashes_verdict {program : String} (hprogram : program ≠ "") :
    Crashes (verdict settings program) ↔
      replayOf settings program = .error (.fault .divisionByZero) := by
  rw [verdict, crashes_bind, crashes_mapError]
  constructor
  · rintro (⟨e, he, -⟩ | ⟨report, -, e, he, hcrash⟩)
    · rw [he, Replay.check_eq_error hprogram he]
    · split at he
      · cases he
      · obtain rfl := Except.error.inj he
        cases hcrash
  · exact fun h => .inl ⟨_, h, rfl⟩

end PenPlotter.CommandLine
