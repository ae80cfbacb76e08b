import Mathlib.Logic.Basic
import PenPlotter.Proofs.Settings.Selection

/-!
# How reading settings fails

Whatever a settings file holds, settings are read from it, or an error is given of a kind that is
announced, but for three ways in which the name of a profile cannot be dealt with.
-/

set_option autoImplicit false

namespace PenPlotter

open Files

/-! ## 1. Kinds of errors -/

/-- The errors that are announced: there is no file, it is not made as it should be or has no such
profile, or a setting in it is not valid. -/
inductive ProfileError.Kind where
  | missing
  | malformed
  | invalid
deriving DecidableEq

def ProfileError.kind? : ProfileError → Option Kind
  | .missing _ | .document (.missing _) => some .missing
  | .document (.text (.file (.obstacle .missing _))) => some .missing
  | .document (.malformed _) | .empty _ | .notMapping _ _ | .notProfiles _ | .unknown _ _ _
  | .profileNotMapping _ _ | .noProfiles _ _ | .unlistable => some .malformed
  | .rejected _ => some .invalid
  | .document _ | .namesNotText | .nameNotKey | .nameNotShown _ => none

/-- Settings are read, or the error is announced. -/
def EndsAsAnnounced (r : Except ProfileError Settings) : Prop :=
  (∃ s, r = .ok s) ∨ ∃ e kind, r = .error e ∧ e.kind? = some kind

def Unannounced {α : Type} (r : Except ProfileError α) : Prop :=
  ∃ e, r = .error e ∧ e.kind? = none

/-! ## 2. Names of profiles -/

/-- Which profile is asked for by a name, or by none: the default profile then, or the first one,
where a name that counts as nothing is none. -/
inductive Value.AsksFor (v : Value) : Option String → Value → Prop where
  | given {name : String} (named : name ≠ "") : AsksFor v (some name) (.text name)
  | default {given : Option String} {name : Value} (unnamed : given.getD "" = "")
    (default : v.get? "default_profile" = some name) (counts : name.isVoid = false) :
    AsksFor v given name
  | first {given : Option String} {first : Value × Value} {rest : List (Value × Value)}
    (unnamed : given.getD "" = "")
    (default : ∀ name, v.get? "default_profile" = some name → name.isVoid = true)
    (profiles : v.profiles? = some (first :: rest)) : AsksFor v given first.1

/-- The name of the profile asked for cannot be dealt with. -/
inductive Misnamed (room : Nat) (v : Value) (given : Option String) : Prop where
  | collection {profiles : List (Value × Value)} {name : Value} (listed : v.profiles? = some profiles)
    (nonempty : profiles ≠ []) (asked : v.AsksFor given name) (collection : name.isKey = false)
  /-- No profile has it, and not all the names that there are are texts. -/
  | unlisted {profiles : List (Value × Value)} {name key : Value}
    (listed : v.profiles? = some profiles) (asked : v.AsksFor given name)
    (unknown : Value.find? profiles name = none) (member : key ∈ profiles.map Prod.fst)
    (notText : ∀ s, key ≠ .text s)
  /-- It cannot be shown, and a message has to be made about it, since no profile has it or the one that
  has it is no mapping. -/
  | notShown {profiles : List (Value × Value)} {name : Value} {reason : NoText}
    (listed : v.profiles? = some profiles) (nonempty : profiles ≠ []) (asked : v.AsksFor given name)
    (noText : name.display room = .error reason)
    (useless : ∀ content, Value.find? profiles name = some content →
      content.isVoid = false ∧ content.entries? = none)

section Failures

variable {shown : String} {profiles rest : List (Value × Value)} {first : Value × Value}
  {name v : Value} {given : Option Value} {asked : Option String} {files : Store} {p : Runtime}
  {room : Nat} {source : SettingsSource}

-- Of the names on a command line or in a call only the empty one counts as none.
theorem isVoid_text {s : String} : (Value.text s).isVoid = false ↔ s ≠ "" := by
  rw [Value.isVoid, Bool.eq_false_iff, ne_eq, String.isEmpty_iff]

theorem profileName_unnamed {default : Option Value} (h : asked.getD "" = "") :
    profileName (asked.map .text) default name = profileName none default name := by
  cases asked with
  | none => rfl
  | some s =>
    obtain rfl : s = "" := h
    exact profileName_void rfl

/-- The rule by which the name is found. -/
theorem asksFor_iff (h : v.profiles? = some (first :: rest)) :
    v.AsksFor asked name ↔
      profileName (asked.map .text) (v.get? "default_profile") first.1 = name := by
  constructor
  · rintro (hnamed | ⟨hasked, hdefault, hcounts⟩ | ⟨hasked, hdefault, hprofiles⟩)
    · exact profileName_given (isVoid_text.mpr hnamed)
    · rw [profileName_unnamed hasked, hdefault, profileName_default hcounts]
    · obtain ⟨rfl, rfl⟩ := List.cons.inj (Option.some.inj (h.symm.trans hprofiles))
      rw [profileName_unnamed hasked, profileName_first hdefault]
  · rintro rfl
    by_cases hasked : asked.getD "" = ""
    · rw [profileName_unnamed hasked]
      by_cases hcounts : ∃ d, v.get? "default_profile" = some d ∧ d.isVoid = false
      · obtain ⟨d, hd, hcounts⟩ := hcounts
        rw [hd, profileName_default hcounts]
        exact .default hasked hd hcounts
      · have hdefault : ∀ d, v.get? "default_profile" = some d → d.isVoid = true := fun d hd =>
          Bool.not_eq_false _ ▸ fun hvoid => hcounts ⟨d, hd, hvoid⟩
        rw [profileName_first hdefault]
        exact .first hasked hdefault h
    · cases asked with
      | none => exact absurd rfl hasked
      | some s =>
        have hnamed : s ≠ "" := hasked
        rw [Option.map_some, profileName_given (isVoid_text.mpr hnamed)]
        exact .given hnamed

-- Of the names that are no collections only integers cannot be shown.
theorem display_eq_error_iff {reason : NoText} (h : name.isScalar = true) :
    name.display room = .error reason ↔ reason = .tooManyDigits ∧
      ∃ n : Int, name = .number (.int n) ∧
        Decimal.integerDigitLimit < (Decimal.digits n.natAbs).length := by
  cases name with
  | number n =>
    have hdisplay : (Value.number n).display room = n.written := by
      simp [Value.display, Value.shown, Value.shownIn]
    rw [hdisplay, Number.written]
    cases n with
    | int i =>
      simp only [Number.isWritable, decide_eq_true_eq, Value.number.injEq, Number.int.injEq,
        exists_eq_left']
      split
      · next hshort => simp [hshort]
      · next hlong => simp [Nat.not_le.mp hlong, eq_comm]
    | double x => simp [Number.isWritable]
  | list _ | tuple _ | mapping _ | set _ | enclosing _ => cases h
  | _ => simp [Value.display, Value.shown, Value.shownIn]

theorem textNames_eq_none {names : List Value} :
    textNames names = none ↔ ∃ key ∈ names, ∀ s, key ≠ .text s := by
  induction names with
  | nil => simp [textNames]
  | cons key names ih =>
    unfold textNames at ih ⊢
    simp only [List.mapM_cons, List.mem_cons, exists_eq_or_imp, ← ih]
    cases key with
    | text s => simp [bind, pure, ← Option.eq_none_iff_forall_ne_some]
    | _ => simp [bind]

/-! ## 3. Choosing -/

theorem kind?_naming {e : String → ProfileError} {unannounced : Prop}
    (h : ∀ text, (e text).kind? = none ↔ unannounced) :
    (ProfileError.naming room name e).kind? = none ↔
      unannounced ∨ ∃ reason, name.display room = .error reason := by
  unfold ProfileError.naming
  cases name.display room with
  | ok text => simp [h text]
  | error reason => simp [ProfileError.kind?]

theorem kind?_unknownName {text : String} : (unknownName shown profiles text).kind? = none ↔
    ∃ key ∈ profiles.map Prod.fst, ∀ s, key ≠ .text s := by
  rw [← textNames_eq_none, unknownName]
  cases textNames (profiles.map Prod.fst) <;> simp [ProfileError.kind?]

/-- Choosing a profile by its name fails without announcement in three ways. -/
theorem unannounced_chooseProfile : Unannounced (chooseProfile room shown profiles name) ↔
    name.isKey = false ∨
    (Value.find? profiles name = none ∧ ∃ key ∈ profiles.map Prod.fst, ∀ s, key ≠ .text s) ∨
    ((∃ reason, name.display room = .error reason) ∧ ∀ content, Value.find? profiles name = some content →
      content.isVoid = false ∧ content.entries? = none) := by
  unfold chooseProfile
  cases hkey : name.isKey with
  | false => simp [Unannounced, ProfileError.kind?]
  | true =>
    cases hfind : Value.find? profiles name with
    | none => simp [Unannounced, kind?_naming fun _ => kind?_unknownName]
    | some content =>
      cases hvoid : content.isVoid with
      | true => simp [Unannounced, hvoid]
      | false =>
        cases hentries : content.entries? with
        | some entries => simp [Unannounced, hvoid, hentries]
        | none =>
          have hkind (text : String) :
              (ProfileError.profileNotMapping text shown).kind? = none ↔ False := by
            simp [ProfileError.kind?]
          simp [Unannounced, kind?_naming hkind, hvoid, hentries]

/-! ## 4. Reading -/

theorem not_unannounced_ok {α : Type} (a : α) : ¬Unannounced (.ok a) := by
  rintro ⟨e, h, -⟩
  cases h

-- Of two parts of a reading, one after the other, one has to fail so.
theorem unannounced_bind {α β : Type} {x : Except ProfileError α} {f : α → Except ProfileError β} :
    Unannounced (x >>= f) ↔ Unannounced x ∨ ∃ a, x = .ok a ∧ Unannounced (f a) := by
  cases x with
  | error e => simp [Unannounced, bind, Except.bind]
  | ok a => simp [Unannounced, bind, Except.bind]

-- A value that is no mapping is announced as such.
theorem not_unannounced_entries (hv : source.value files p = .ok v) :
    ¬Unannounced (source.entries files p) := by
  rw [SettingsSource.entries, hv, ok_bind]
  cases v with
  | mapping members => exact not_unannounced_ok _
  | _ => simp [Unannounced, Value.entries?, ProfileError.kind?, throw, throwThe, MonadExceptOf.throw]

-- So are settings that are chosen but not valid.
theorem unannounced_readSettings : Unannounced (readSettings files p source given) ↔
    Unannounced (source.entries files p >>= (choose p.room source.shown · given)) := by
  rw [readSettings_eq, unannounced_bind]
  refine or_iff_left ?_
  rintro ⟨choice, -, e, he, hkind⟩
  obtain ⟨rejections, -, rfl⟩ := mapError_eq_error.mp he
  cases hkind

-- Without profiles there is no name that could not be dealt with.
theorem not_unannounced_readSettings (hv : source.value files p = .ok v)
    (h : ∀ first rest, v.profiles? ≠ some (first :: rest)) :
    ¬Unannounced (readSettings files p source (asked.map .text)) := by
  rw [unannounced_readSettings, unannounced_bind, or_iff_right (not_unannounced_entries hv)]
  rintro ⟨entries, hentries, e, he, hkind⟩
  have hmapping : v.entries? = some entries := by
    rw [SettingsSource.entries, hv, ok_bind] at hentries
    split at hentries
    · next heq => rw [heq, Except.ok.inj hentries]
    · split at hentries <;> cases hentries
  unfold choose at he
  split at he
  · next listed hlisted =>
    have hprofiles : v.profiles? = listed.entries? := by
      rw [Value.profiles?, Value.get?, hmapping, Option.bind_some, hlisted, Option.bind_some]
    split at he
    · next first rest heq => exact h first rest (hprofiles.trans heq)
    · cases he
      cases hkind
  · cases asked with
    | none => cases he
    | some name =>
      cases he
      cases hkind

theorem announced_iff {r : Except ProfileError Settings} :
    EndsAsAnnounced r ↔ ¬Unannounced r := by
  cases r with
  | ok s => simp [EndsAsAnnounced, Unannounced]
  | error e => cases h : e.kind? <;> simp [EndsAsAnnounced, Unannounced, h]

instance {α : Type} : (r : Except ProfileError α) → Decidable (Unannounced r)
  | .ok a => .isFalse (not_unannounced_ok a)
  | .error e => decidable_of_iff (e.kind? = none) (by simp [Unannounced])

instance (r : Except ProfileError Settings) : Decidable (EndsAsAnnounced r) :=
  decidable_of_iff (¬Unannounced r) announced_iff.symm

/-- The name that is asked for decides. -/
theorem misnamed_iff (h : v.profiles? = some (first :: rest)) (hasked : v.AsksFor asked name) :
    Misnamed p.room v asked ↔ name.isKey = false ∨
      (Value.find? (first :: rest) name = none ∧
        ∃ key ∈ (first :: rest).map Prod.fst, ∀ s, key ≠ .text s) ∨
      ((∃ reason, name.display p.room = .error reason) ∧ ∀ content,
        Value.find? (first :: rest) name = some content →
        content.isVoid = false ∧ content.entries? = none) := by
  have hlisted : ∀ {profiles}, v.profiles? = some profiles → profiles = first :: rest :=
    fun hprofiles => Option.some.inj (hprofiles.symm.trans h)
  have hname : ∀ {name'}, v.AsksFor asked name' → name' = name := fun hasked' =>
    ((asksFor_iff h).mp hasked').symm.trans ((asksFor_iff h).mp hasked)
  constructor
  · rintro (⟨listed, -, hasked', hkey⟩ | ⟨listed, hasked', unknown, member, notText⟩ |
      ⟨listed, -, hasked', noText, useless⟩)
    · obtain rfl := hname hasked'
      exact .inl hkey
    · obtain rfl := hname hasked'
      obtain rfl := hlisted listed
      exact .inr (.inl ⟨unknown, _, member, notText⟩)
    · obtain rfl := hname hasked'
      obtain rfl := hlisted listed
      exact .inr (.inr ⟨⟨_, noText⟩, useless⟩)
  · rintro (hkey | ⟨unknown, key, member, notText⟩ | ⟨⟨reason, noText⟩, useless⟩)
    · exact .collection h (List.cons_ne_nil _ _) hasked hkey
    · exact .unlisted h hasked unknown member notText
    · exact .notShown h (List.cons_ne_nil _ _) hasked noText useless

theorem profiles_of_misnamed (h : Misnamed p.room v asked) :
    ∃ first rest, v.profiles? = some (first :: rest) := by
  have hcons : ∀ {profiles}, v.profiles? = some profiles → profiles ≠ [] →
      ∃ first rest, v.profiles? = some (first :: rest) := by
    intro profiles listed nonempty
    obtain ⟨first, rest, rfl⟩ := List.exists_cons_of_ne_nil nonempty
    exact ⟨first, rest, listed⟩
  rcases h with ⟨listed, nonempty, -, -⟩ | ⟨listed, -, -, member, -⟩ | ⟨listed, nonempty, -, -, -⟩
  · exact hcons listed nonempty
  · refine hcons listed ?_
    rintro rfl
    cases member
  · exact hcons listed nonempty

/-- **Reading settings fails only as announced, but for names that cannot be dealt with.**  Whatever
value a source has, and whatever profile is asked for, settings are read from it, or an error is given
of one of the three kinds, exactly if the name of the profile is none of these: a collection, an unknown
name among names that are not all texts, and one that cannot be shown in a message about it, as an
integer of too many digits cannot. -/
theorem readSettings_announced_iff (hv : source.value files p = .ok v) (asked : Option String) :
    EndsAsAnnounced (readSettings files p source (asked.map .text)) ↔ ¬Misnamed p.room v asked := by
  rw [announced_iff, not_iff_not]
  by_cases h : ∃ first rest, v.profiles? = some (first :: rest)
  · obtain ⟨first, rest, hprofiles⟩ := h
    rw [unannounced_readSettings, choose_of_profiles hv hprofiles, unannounced_chooseProfile,
      misnamed_iff hprofiles ((asksFor_iff hprofiles).mpr rfl)]
  · refine iff_of_false (not_unannounced_readSettings hv ?_) fun hmis => h (profiles_of_misnamed hmis)
    exact fun first rest hprofiles => h ⟨first, rest, hprofiles⟩

end Failures

def listFiles : Store := .ofTexts [("c.yaml", "{profiles: {1: {}, a: [x]}}")]

/-- Not all names are texts, but the one asked for is there; its profile is a list. -/
theorem readSettings_announced_list : ∃ v, namedSource.value listFiles .standard = .ok v ∧
    EndsAsAnnounced (readSettings listFiles .standard namedSource (some (.text "a"))) ∧
    ¬Misnamed Runtime.standard.room v (some "a") := by
  have hcheck : (namedSource.value listFiles .standard).toOption.isSome = true ∧
      EndsAsAnnounced (readSettings listFiles .standard namedSource (some (.text "a"))) := by
    decide +kernel
  obtain ⟨hvalue, hends⟩ := hcheck
  obtain ⟨v, hv⟩ := Option.isSome_iff_exists.mp hvalue
  have hv := eq_ok_of_toOption hv
  exact ⟨v, hv, hends, (readSettings_announced_iff hv (some "a")).mp hends⟩

def collectedFiles : Store :=
  .ofTexts [("c.yaml", "{default_profile: [a], profiles: {a: {}}}")]

/-- A list as the default, an unknown name beside a number, and an integer of 4301 digits. -/
theorem readSettings_unannounced :
    (namedSource.value collectedFiles .standard).toOption.isSome = true ∧
    Unannounced (readSettings collectedFiles .standard namedSource none) ∧
    (namedSource.value listFiles .standard).toOption.isSome = true ∧
    Unannounced (readSettings listFiles .standard namedSource (some (.text "b"))) ∧
    Unannounced (chooseProfile 100 "c.yaml" [(.text "a", .mapping [])]
      (.number (.int (Nat.pow 10 4300 : Nat)))) := by
  decide +kernel

end PenPlotter
