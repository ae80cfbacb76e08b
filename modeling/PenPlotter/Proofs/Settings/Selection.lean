import PenPlotter.Proofs.Except
import PenPlotter.Settings.Profiles

/-!
# Which profile is taken

Every profile that a source lists can be asked for by its name, and without a name the default profile
is taken, or else the first.  A name that counts as nothing is passed over, though: asking for it, or
having it as the default, is asking for none.
-/

set_option autoImplicit false

namespace PenPlotter

open Files

/-! ## 1. Names as keys -/

theorem Number.same_self {n : Number} (h : n ≠ .double .nan) : n.same n = true := by
  unfold Number.same
  cases n.units? <;> simp [h]

namespace Value

variable {entries : List (Value × Value)} {key k content v : Value}

def isScalar : Value → Bool
  | .null | .bool _ | .number _ | .text _ | .bytes _ | .date _ | .moment _ => true
  | .list _ | .tuple _ | .mapping _ | .set _ | .enclosing _ => false

theorem sameKey_self (h : v.isScalar = true) : sameKey v v = true := by
  cases v with
  | number n =>
    by_cases hn : n = .double .nan
    · simp [sameKey, asNumber?, hn]
    · simp [sameKey, asNumber?, Number.same_self hn]
  | bool b => simp [sameKey, asNumber?, Number.same_self]
  | moment m => cases hm : m.offset <;> simp [sameKey, Calendar.Moment.same, hm]
  | list _ | tuple _ | mapping _ | set _ | enclosing _ => cases h
  | _ => simp [sameKey]

theorem isKey_of_sameKey (h : sameKey key k = true) : key.isKey = true := by
  cases key <;> simp_all [sameKey, isKey]

theorem find?_cons_self (h : key.isScalar = true) :
    find? ((key, content) :: entries) key = some content := by
  simp [find?, sameKey_self h]

theorem exists_find?_of_mem (h : key.isScalar = true) (hmem : key ∈ entries.map Prod.fst) :
    ∃ content, find? entries key = some content := by
  obtain ⟨e, he, rfl⟩ := List.mem_map.mp hmem
  rw [← Option.isSome_iff_exists, find?, Option.isSome_map, List.find?_isSome]
  exact ⟨e, he, sameKey_self h⟩

theorem exists_mem_of_find? (h : find? entries key = some content) :
    ∃ k, (k, content) ∈ entries ∧ sameKey key k = true := by
  obtain ⟨⟨k, c⟩, he, rfl⟩ := Option.map_eq_some_iff.mp h
  have hsame := List.find?_some he
  exact ⟨k, List.mem_of_find?_eq_some he, hsame⟩

theorem isKey_of_find? (h : find? entries key = some content) : key.isKey = true := by
  obtain ⟨k, -, hsame⟩ := exists_mem_of_find? h
  exact isKey_of_sameKey hsame

/-! ## 2. Profiles -/

def profiles? (v : Value) : Option (List (Value × Value)) :=
  (v.get? "profiles").bind entries?

def settings? (v : Value) : Option Settings :=
  v.entries?.bind fun entries => (Settings.ofEntries entries).toOption

end Value

def settingsNamed (profiles : List (Value × Value)) (name : Value) : Option Settings :=
  (Value.find? profiles name).bind Value.settings?

section Choice

variable {shown : String} {profiles entries : List (Value × Value)} {name v : Value}
  {given default : Option Value} {files : Store} {p : Runtime} {room : Nat}
  {source : SettingsSource} {s : Settings}

theorem exists_settingsNamed (hvalid : ∀ e ∈ profiles, ∃ s, e.2.settings? = some s) {content : Value}
    (h : Value.find? profiles name = some content) : ∃ s, settingsNamed profiles name = some s := by
  obtain ⟨k, hmem, -⟩ := Value.exists_mem_of_find? h
  obtain ⟨s, hs⟩ := hvalid _ hmem
  exact ⟨s, by rw [settingsNamed, h, Option.bind_some, hs]⟩

theorem entries_of_value (hv : source.value files p = .ok v) (h : v.entries? = some entries) :
    source.entries files p = .ok entries := by
  rw [SettingsSource.entries, hv, ok_bind]
  simp only [h]
  rfl

theorem exists_entries_of_get? {field : String} {content : Value} (h : v.get? field = some content) :
    ∃ entries, v.entries? = some entries ∧ Value.find? entries (.text field) = some content :=
  Option.bind_eq_some_iff.mp h

-- Nothing in a profile counts the same as no settings in it.
theorem entries_of_isVoid (hvoid : v.isVoid = true) (h : v.entries? = some entries) :
    entries = [] := by
  cases v with
  | mapping members =>
    obtain rfl := List.isEmpty_iff.mp hvoid
    exact (Option.some.inj h).symm
  | _ => cases h

theorem chooseProfile_of_entries (hname : Value.find? profiles name = some v)
    (h : v.entries? = some entries) :
    chooseProfile room shown profiles name = .ok ⟨some name, entries⟩ := by
  have hkey : (!name.isKey) = false := by rw [Value.isKey_of_find? hname, Bool.not_true]
  rw [chooseProfile, hkey, if_neg Bool.false_ne_true, hname]
  by_cases hvoid : v.isVoid = true
  · rw [entries_of_isVoid hvoid h]
    exact if_pos hvoid
  · simp only [hvoid, h]
    rfl

/-! ## 3. Names -/

theorem profileName_given {first : Value} (h : name.isVoid = false) :
    profileName (some name) default first = name := by
  simp [profileName, profileName.orElse, h]

theorem profileName_void {first : Value} (h : name.isVoid = true) :
    profileName (some name) default first = profileName none default first := by
  simp [profileName, profileName.orElse, h]

theorem profileName_default {first : Value} (h : name.isVoid = false) :
    profileName none (some name) first = name := by
  simp [profileName, profileName.orElse, h]

theorem profileName_first {first : Value} (h : ∀ d, default = some d → d.isVoid = true) :
    profileName none default first = first := by
  cases default with
  | none => rfl
  | some d => simp [profileName, profileName.orElse, h d rfl]

/-! ## 4. Selection -/

variable {first n : Value × Value} {rest : List (Value × Value)}

theorem profiles?_eq_some (h : v.profiles? = some profiles) : ∃ entries listed,
    v.entries? = some entries ∧ Value.find? entries (.text "profiles") = some listed ∧
      listed.entries? = some profiles := by
  obtain ⟨listed, hlisted, hprofiles⟩ := Option.bind_eq_some_iff.mp h
  obtain ⟨entries, hentries, hfind⟩ := exists_entries_of_get? hlisted
  exact ⟨entries, listed, hentries, hfind, hprofiles⟩

theorem choose_of_profiles (hv : source.value files p = .ok v)
    (hprofiles : v.profiles? = some (first :: rest)) :
    source.entries files p >>= (choose p.room source.shown · given) =
      chooseProfile p.room source.shown (first :: rest)
        (profileName given (v.get? "default_profile") first.1) := by
  obtain ⟨entries, listed, hentries, hfind, hlisted⟩ := profiles?_eq_some hprofiles
  have hdefault : v.get? "default_profile" = Value.find? entries (.text "default_profile") := by
    rw [Value.get?, hentries, Option.bind_some]
  rw [entries_of_value hv hentries, ok_bind, hdefault]
  simp only [choose, hfind, hlisted]

theorem readSettings_eq : readSettings files p source given =
    ((source.entries files p >>= (choose p.room source.shown · given)) >>= fun choice =>
      (Settings.ofEntries choice.entries).mapError .rejected) := by
  rw [readSettings, bind_assoc]

/-- The name that is taken decides, if its profile is valid. -/
theorem readSettings_of_named (hv : source.value files p = .ok v)
    (hprofiles : v.profiles? = some (first :: rest))
    (h : settingsNamed (first :: rest)
      (profileName given (v.get? "default_profile") first.1) = some s) :
    readSettings files p source given = .ok s := by
  obtain ⟨content, hcontent, hsettings⟩ := Option.bind_eq_some_iff.mp h
  obtain ⟨entries, hentries, hvalid⟩ := Option.bind_eq_some_iff.mp hsettings
  rw [readSettings_eq, choose_of_profiles hv hprofiles, chooseProfile_of_entries hcontent hentries,
    ok_bind, eq_ok_of_toOption hvalid]
  rfl

theorem profileNames_of_profiles (hv : source.value files p = .ok v)
    (hprofiles : v.profiles? = some profiles) (hne : profiles ≠ []) :
    profileNames files p source = .ok (profiles.map Prod.fst) := by
  obtain ⟨entries, listed, hentries, hfind, hlisted⟩ := profiles?_eq_some hprofiles
  have hvoid : listed.isVoid = false :=
    Bool.eq_false_iff.mpr fun hvoid => hne (entries_of_isVoid hvoid hlisted)
  rw [profileNames, entries_of_value hv hentries, ok_bind]
  simp only [hfind, hvoid, hlisted]
  rfl

theorem readSettings_void (hv : source.value files p = .ok v)
    (hprofiles : v.profiles? = some (first :: rest)) (h : name.isVoid = true) :
    readSettings files p source (some name) = readSettings files p source none := by
  rw [readSettings_eq, readSettings_eq, choose_of_profiles hv hprofiles,
    choose_of_profiles hv hprofiles, profileName_void h]

/-- **Which profile is taken.**  From a source with profiles, each named by a scalar and valid, the
names are listed as they are.  Asking for one of them gives its settings exactly if the name does not
count as nothing, or the same settings are given without a name.  Without a name, a default profile that
is there is taken exactly if its name does not count as nothing, or the first profile has the same
settings; and the first one is taken if no other is the default. -/
theorem readSettings_profiles (hv : source.value files p = .ok v)
    (hprofiles : v.profiles? = some (first :: rest))
    (hvalid : ∀ e ∈ first :: rest, e.1.isScalar = true ∧ ∃ s, e.2.settings? = some s) :
    profileNames files p source = .ok ((first :: rest).map Prod.fst) ∧
    (∀ name ∈ (first :: rest).map Prod.fst, ∃ s, settingsNamed (first :: rest) name = some s ∧
      (readSettings files p source (some name) = .ok s ↔
        name.isVoid = false ∨ readSettings files p source none = .ok s)) ∧
    (∀ name content, v.get? "default_profile" = some name →
      Value.find? (first :: rest) name = some content →
      ∃ s, settingsNamed (first :: rest) name = some s ∧
        (readSettings files p source none = .ok s ↔
          name.isVoid = false ∨ first.2.settings? = some s)) ∧
    ((∀ name, v.get? "default_profile" = some name → name.isVoid = true) →
      ∃ s, first.2.settings? = some s ∧ readSettings files p source none = .ok s) := by
  have hsettings : ∀ e ∈ first :: rest, ∃ s, e.2.settings? = some s := fun e he => (hvalid e he).2
  obtain ⟨hscalar, s₁, hs₁⟩ := hvalid first List.mem_cons_self
  have hfirst : settingsNamed (first :: rest) first.1 = some s₁ := by
    rw [settingsNamed, Value.find?_cons_self hscalar, Option.bind_some, hs₁]
  have hnone : (∀ name, v.get? "default_profile" = some name → name.isVoid = true) →
      readSettings files p source none = .ok s₁ := fun h =>
    readSettings_of_named hv hprofiles (by rw [profileName_first h, hfirst])
  refine ⟨profileNames_of_profiles hv hprofiles (by simp), ?_, ?_, fun h => ⟨s₁, hs₁, hnone h⟩⟩
  · intro name hname
    have hscalar : name.isScalar = true := by
      obtain ⟨e, he, rfl⟩ := List.mem_map.mp hname
      exact (hvalid e he).1
    obtain ⟨content, hcontent⟩ := Value.exists_find?_of_mem hscalar hname
    obtain ⟨s, hs⟩ := exists_settingsNamed hsettings hcontent
    refine ⟨s, hs, ?_⟩
    by_cases hvoid : name.isVoid = true
    · rw [readSettings_void hv hprofiles hvoid, hvoid, or_iff_right (by simp)]
    · have hcounts : name.isVoid = false := Bool.eq_false_iff.mpr hvoid
      refine iff_of_true ?_ (.inl hcounts)
      exact readSettings_of_named hv hprofiles (by rw [profileName_given hcounts, hs])
  · intro name content hdefault hcontent
    obtain ⟨s, hs⟩ := exists_settingsNamed hsettings hcontent
    refine ⟨s, hs, ?_⟩
    by_cases hvoid : name.isVoid = true
    · have hread := hnone fun d hd => by rwa [← Option.some.inj (hdefault.symm.trans hd)]
      rw [hread, hs₁, hvoid, or_iff_right (by simp)]
      simp
    · have hcounts : name.isVoid = false := Bool.eq_false_iff.mpr hvoid
      refine iff_of_true ?_ (.inl hcounts)
      exact readSettings_of_named hv hprofiles (by rw [hdefault, profileName_default hcounts, hs])

end Choice

def namedSource : SettingsSource := .file (.ofText "c.yaml")

def numberedFiles : Store :=
  .ofTexts [("c.yaml", "{default_profile: 2, profiles: {on: {}, 2: {feedRate: 600}}}")]

/-- A truth value and a number as names. -/
theorem readSettings_profiles_numbered : ∃ v first rest,
    namedSource.value numberedFiles .standard = .ok v ∧ v.profiles? = some (first :: rest) ∧
    (∀ e ∈ first :: rest, e.1.isScalar = true ∧ ∃ s, e.2.settings? = some s) ∧
    profileNames numberedFiles .standard namedSource = .ok ((first :: rest).map Prod.fst) ∧
    ∀ name ∈ (first :: rest).map Prod.fst, ∃ s, settingsNamed (first :: rest) name = some s ∧
      readSettings numberedFiles .standard namedSource (some name) = .ok s := by
  have hcheck : ((namedSource.value numberedFiles .standard).toOption.bind Value.profiles?).any
      (fun profiles => !profiles.isEmpty && profiles.all fun e =>
        e.1.isScalar && e.2.settings?.isSome && !e.1.isVoid) = true := by decide +kernel
  obtain ⟨profiles, hfound, hall⟩ := (Option.any_eq_true _ _).mp hcheck
  obtain ⟨v, hv, hprofiles⟩ := Option.bind_eq_some_iff.mp hfound
  obtain ⟨hne, hall⟩ := Bool.and_eq_true_iff.mp hall
  obtain ⟨first, rest, rfl⟩ := List.exists_cons_of_ne_nil (by simpa using hne)
  simp only [List.all_eq_true, Bool.and_eq_true, Option.isSome_iff_exists] at hall
  have hvalid := fun e he => (hall e he).1
  obtain ⟨hnames, hgiven, -, -⟩ := readSettings_profiles (eq_ok_of_toOption hv) hprofiles hvalid
  refine ⟨v, first, rest, eq_ok_of_toOption hv, hprofiles, hvalid, hnames, fun name hname => ?_⟩
  obtain ⟨s, hs, hread⟩ := hgiven name hname
  obtain ⟨e, he, rfl⟩ := List.mem_map.mp hname
  exact ⟨s, hs, hread.mpr (.inl (by simpa using (hall e he).2))⟩

def switchedFiles : Store :=
  .ofTexts [("c.yaml", "{default_profile: off, profiles: {on: {}, off: {feed_rate: 600}}}")]

/-- The profile `off` is listed and is the default, but its feed of 600 is in force neither way. -/
theorem readSettings_profiles_switched :
    let value := (namedSource.value switchedFiles .standard).toOption
    let feed (given : Option Value) :=
      (readSettings switchedFiles .standard namedSource given).toOption.map Settings.feedRate
    (value.bind (·.get? "default_profile")).bind (·.display 0 |>.toOption) = some "False" ∧
    (profileNames switchedFiles .standard namedSource).toOption.map
      (·.map (·.display 0 |>.toOption)) = some [some "True", some "False"] ∧
    ((value.bind Value.profiles?).bind (settingsNamed · (.bool false))).map Settings.feedRate =
      some 600 ∧
    feed none = some 3000 ∧ feed (some (.bool false)) = some 3000 := by
  decide +kernel

end PenPlotter
