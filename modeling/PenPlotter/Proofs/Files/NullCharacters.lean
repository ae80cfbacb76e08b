import PenPlotter.Proofs.Files.Names
import PenPlotter.Proofs.Files.Places

/-!
# Null characters in paths

No name may have the character `\0`.  An operation notices it before anything else, and only where
it is there, so it can be told when writing a file at once fails for this reason, and when it fails
for want of a name.
-/

set_option autoImplicit false

namespace PenPlotter.Files

theorem Path.holdsNull_iff {p : Path} :
    p.holdsNull = true ↔ ∃ name ∈ p.parts, '\x00' ∈ name.toList := by
  simp [Path.holdsNull]

theorem Path.not_holdsNull_parent {p : Path} (h : p.holdsNull = false) :
    p.parent.holdsNull = false := by
  rw [← Bool.not_eq_true, holdsNull_iff] at h ⊢
  rintro ⟨name, hname, hnull⟩
  exact h ⟨name, List.mem_of_mem_dropLast hname, hnull⟩

-- What stands beside a file has no characters that the path of the file does not have.
theorem Path.holdsNull_of_withSuffix {p beside : Path}
    (h : p.withSuffix (p.suffix ++ besideSuffix) = .ok beside) :
    beside.holdsNull = p.holdsNull := by
  obtain ⟨hname, rfl⟩ := eq_of_withSuffix h
  have hbeside : besideSuffix.toList = ['.', 't', 'm', 'p'] := rfl
  rw [holdsNull, holdsNull, Path.beside]
  conv_rhs => rw [parts_eq_concat (parts_ne_nil hname)]
  simp [hbeside]

variable {s : Store} {p q beside : Path} {bytes : List UInt8} {text : String}

/-! ## 1. Operations -/

namespace Store

theorem resolve_eq_nullCharacter {follow : Bool} :
    s.resolve follow p = .error .nullCharacter ↔ p.holdsNull = true := by
  rw [resolve]
  split
  · next hnull => simp [hnull]
  next hnull =>
  refine iff_of_false ?_ hnull
  split
  · simp
  · simp [mapError_eq_error]

-- An operation that begins with a place, and does not find null characters anywhere else.
theorem resolve_bind_eq_nullCharacter {α : Type} {follow : Bool} {f : Place → Except Error α}
    (hf : ∀ place, f place ≠ .error .nullCharacter) :
    s.resolve follow p >>= f = .error .nullCharacter ↔ p.holdsNull = true := by
  rw [bind_eq_error, resolve_eq_nullCharacter]
  exact or_iff_left fun ⟨place, _, h⟩ => hf place h

theorem permit_bind_ne_nullCharacter {α : Type} {a : Access} {place : Place} {e : Entry}
    {f : Unit → Except Error α} (hf : f () ≠ .error .nullCharacter) :
    s.permit a place e p >>= f ≠ .error .nullCharacter := by
  rw [permit, Ne, bind_eq_error, mapError_eq_error]
  rintro (⟨o, -, h⟩ | ⟨⟨⟩, -, h⟩)
  · cases h
  · exact hf h

theorem makeDirectory_eq_nullCharacter :
    s.makeDirectory p = .error .nullCharacter ↔ p.holdsNull = true := by
  refine resolve_bind_eq_nullCharacter fun place => ?_
  split
  · exact permit_bind_ne_nullCharacter nofun
  · nofun

theorem openForWriting_eq_nullCharacter :
    s.openForWriting p = .error .nullCharacter ↔ p.holdsNull = true := by
  refine resolve_bind_eq_nullCharacter fun place => ?_
  split
  · exact permit_bind_ne_nullCharacter nofun
  · exact permit_bind_ne_nullCharacter nofun
  · nofun
  · exact permit_bind_ne_nullCharacter nofun
  · nofun

theorem writeBytes_eq_nullCharacter :
    (s.writeBytes p bytes).2 = .error .nullCharacter ↔ p.holdsNull = true := by
  rw [← openForWriting_eq_nullCharacter (s := s), writeBytes]
  cases s.openForWriting p with
  | error e => simp
  | ok opened =>
    refine iff_of_false ?_ nofun
    dsimp only
    split
    · nofun
    · split <;> nofun

theorem remove_eq_nullCharacter : s.remove p = .error .nullCharacter ↔ p.holdsNull = true := by
  refine resolve_bind_eq_nullCharacter fun place => ?_
  split
  · nofun
  split
  · nofun
  · refine permit_bind_ne_nullCharacter ?_
    split <;> nofun

theorem exists?_ne_nullCharacter : s.exists? p ≠ .error .nullCharacter := by
  rw [exists?]
  split
  · nofun
  · split
    · nofun
    · next h =>
      rintro ⟨⟩
      exact h rfl

theorem isDirectory_ne_nullCharacter : s.isDirectory p ≠ .error .nullCharacter := by
  rw [isDirectory]
  split
  · nofun
  · split
    · nofun
    · next h =>
      rintro ⟨⟩
      exact h rfl

theorem move_ne_nullCharacter (hsource : p.holdsNull = false) (htarget : q.holdsNull = false) :
    s.move p q ≠ .error .nullCharacter := by
  -- Only a path with a null character is given back as it is.
  have hspot : ∀ {r : Path} {e : Error}, r.holdsNull = false → s.spot r = .error e →
      e ≠ .nullCharacter := by
    rintro r e hr h rfl
    rw [spot, resolve_eq_nullCharacter, hr] at h
    cases h
  intro h
  rw [move, bind_eq_error, mapError_eq_error] at h
  obtain ⟨e, hfrom, he⟩ | ⟨origin, -, h⟩ := h
  · cases e with
    | nullCharacter => exact hspot hsource hfrom rfl
    | obstacle | moving | stream => cases he
  rw [bind_eq_error, mapError_eq_error] at h
  obtain ⟨e, hto, he⟩ | ⟨place, -, h⟩ := h
  · cases e with
    | nullCharacter => exact hspot htarget hto rfl
    | obstacle | moving | stream => cases he
  split at h
  · cases h
  · rw [mapError_eq_error] at h
    obtain ⟨o, -, h⟩ := h
    cases h

end Store

open Store

/-! ## 2. Writing at once -/

theorem ne_nullCharacter_of_makeDirectory {e : Error} (hnull : p.holdsNull = false)
    (h : s.makeDirectory p = .error e) : e ≠ .nullCharacter := by
  rintro rfl
  rw [makeDirectory_eq_nullCharacter, hnull] at h
  cases h

-- What cannot be made is no failure where it is there already.
theorem unlessDirectory_ne_nullCharacter {e : Error} (he : e ≠ .nullCharacter) :
    (unlessDirectory s p e).2 ≠ .error .nullCharacter := by
  rw [unlessDirectory]
  split
  · nofun
  · exact fun h => he (Except.error.inj h)
  · next h =>
    rintro ⟨⟩
    exact isDirectory_ne_nullCharacter h

theorem makeDirectories_ne_nullCharacter {depth : Nat} (hnull : p.holdsNull = false) :
    (makeDirectories p depth s).2 ≠ .error .nullCharacter := by
  have hfailed : ∀ {s : Store} {e : Error}, s.makeDirectory p = .error e → e ≠ .nullCharacter :=
    ne_nullCharacter_of_makeDirectory hnull
  induction depth generalizing p s with
  | zero =>
    rw [makeDirectories]
    split
    · nofun
    · nofun
    · next h => exact absurd rfl (hfailed h)
    · next h => exact unlessDirectory_ne_nullCharacter (hfailed h)
  | succ depth ih =>
    have hparent := Path.not_holdsNull_parent hnull
    have habove : (makeDirectories p.parent depth s).2 ≠ .error .nullCharacter :=
      ih hparent (ne_nullCharacter_of_makeDirectory hparent)
    rw [makeDirectories]
    split
    · nofun
    · dsimp only
      split
      · nofun
      split
      · next h =>
        rw [h] at habove
        exact habove
      · split
        · nofun
        · nofun
        · next h => exact unlessDirectory_ne_nullCharacter (hfailed h)
    · next h => exact absurd rfl (hfailed h)
    · next h => exact unlessDirectory_ne_nullCharacter (hfailed h)

theorem makeDirectories_eq_nullCharacter {depth : Nat} :
    (makeDirectories p depth s).2 = .error .nullCharacter ↔ p.holdsNull = true := by
  cases hnull : p.holdsNull with
  | true => cases depth <;> simp [makeDirectories, makeDirectory_eq_nullCharacter.mpr hnull]
  | false => exact iff_of_false (makeDirectories_ne_nullCharacter hnull) Bool.false_ne_true

theorem writeAndMove_eq_nullCharacter (hbeside : beside.holdsNull = p.holdsNull) :
    (writeAndMove s beside p bytes).2 = .error .nullCharacter ↔ p.holdsNull = true := by
  have hwrite : (s.writeBytes beside bytes).2 = .error .nullCharacter ↔ beside.holdsNull = true :=
    writeBytes_eq_nullCharacter
  rw [hbeside] at hwrite
  rw [writeAndMove]
  cases hwritten : s.writeBytes beside bytes with
  | mk s₁ x =>
  rw [hwritten] at hwrite
  cases x with
  | error e => exact hwrite
  | ok =>
    have hnull : p.holdsNull = false := by simpa using hwrite
    rw [hnull] at hbeside
    refine iff_of_false ?_ (by simp [hnull])
    dsimp only
    split
    · next h =>
      rintro ⟨⟩
      exact move_ne_nullCharacter hbeside hnull h
    · nofun

theorem cleanUp_ne_nullCharacter (hbeside : beside.holdsNull = false) :
    (cleanUp s beside).2 ≠ .error .nullCharacter := by
  rw [cleanUp]
  split
  · next e h =>
    rintro ⟨⟩
    exact exists?_ne_nullCharacter h
  · simp
  · split
    · simp
    · next e h =>
      rintro ⟨⟩
      rw [remove_eq_nullCharacter, hbeside] at h
      cases h

/-- Writing a file ends in a way that nobody expects: at a null character, or where there is no name
to put the further suffix to. -/
def WriteError.isUnexpected : WriteError → Bool
  | .directory e | .cleanup e => e = .nullCharacter
  | .suffix _ => true
  | .failed _ _ => false

/-- A path that is unfit for a file: it has the character `\0` in it, or no name. -/
inductive Unfit (s : Store) (p : Path) : Prop where
  /-- A directory on the way has the character `\0` in its name. -/
  | directory (null : p.parent.holdsNull = true)
  /-- There are directories down to the file, but it has no name. -/
  | unnamed (made : (ensureDirectory s p.parent).2 = .ok ()) (name : p.name = "")
  /-- There are directories down to the file, but its name has the character `\0`. -/
  | null (made : (ensureDirectory s p.parent).2 = .ok ()) (null : p.holdsNull = true)

theorem ensureDirectory_eq_nullCharacter :
    (ensureDirectory s p).2 = .error .nullCharacter ↔ p.holdsNull = true :=
  makeDirectories_eq_nullCharacter

-- Once there are directories down to it, only the name of a file can be unfit.
theorem unfit_of_made (made : (ensureDirectory s p.parent).2 = .ok ()) :
    Unfit s p ↔ p.name = "" ∨ p.holdsNull = true := by
  constructor
  · rintro (null | ⟨-, name⟩ | ⟨-, null⟩)
    · rw [ensureDirectory_eq_nullCharacter.mpr null] at made
      cases made
    · exact .inl name
    · exact .inr null
  · rintro (name | null)
    · exact .unnamed made name
    · exact .null made null

-- With a directory for it and a name beside it, only the writing can fail unexpectedly.
theorem unexpected_iff_of_beside {s₁ : Store} (hmade : ensureDirectory s p.parent = (s₁, .ok ()))
    (hbeside : p.withSuffix (p.suffix ++ besideSuffix) = .ok beside) :
    (∃ e, (writeAtOnce s p bytes besideSuffix).2 = .error e ∧ e.isUnexpected = true) ↔
      p.holdsNull = true := by
  have hnull := Path.holdsNull_of_withSuffix hbeside
  have hwrite : (writeAndMove s₁ beside p bytes).2 = .error .nullCharacter ↔
      p.holdsNull = true := writeAndMove_eq_nullCharacter hnull
  rw [writeAtOnce, hmade]
  dsimp only
  rw [hbeside]
  dsimp only
  rw [← hwrite]
  cases hwritten : writeAndMove s₁ beside p bytes with
  | mk s₂ y =>
  cases y with
  | ok => exact iff_of_false (by simp) (by simp)
  | error e =>
    by_cases he : e = .nullCharacter
    · subst he
      exact iff_of_true ⟨_, rfl, rfl⟩ rfl
    · have hother : ¬(Except.error e : Except Error Unit) = .error .nullCharacter := by
        simpa using he
      refine iff_of_false ?_ hother
      rw [hwritten, iff_false_left hother, Bool.not_eq_true, ← hnull] at hwrite
      have hclean : ∀ s : Store, (cleanUp s beside).2 ≠ .error .nullCharacter := fun _ =>
        cleanUp_ne_nullCharacter hwrite
      rintro ⟨e', hfailed, hunexpected⟩
      split at hfailed
      · cases hfailed
      · next heq =>
        cases heq
        exact he rfl
      · split at hfailed
        · cases hfailed
          cases hunexpected
        · next e'' hcleaned =>
          cases hfailed
          obtain rfl : e'' = .nullCharacter := of_decide_eq_true hunexpected
          exact hclean _ (congrArg Prod.snd hcleaned)

/-- Writing fails unexpectedly exactly where the path is unfit. -/
theorem unexpected_iff (hp : p.Plain) :
    (∃ e, (writeAtOnce s p bytes besideSuffix).2 = .error e ∧ e.isUnexpected = true) ↔
      Unfit s p := by
  have hdirectory := ensureDirectory_eq_nullCharacter (s := s) (p := p.parent)
  cases hmade : ensureDirectory s p.parent with
  | mk s₁ x =>
  rw [hmade] at hdirectory
  cases x with
  | error e =>
    rw [writeAtOnce, hmade]
    constructor
    · rintro ⟨e', he, hnull⟩
      obtain rfl := Except.error.inj he
      exact .directory (hdirectory.mp (congrArg _ (of_decide_eq_true hnull)))
    · rintro (null | ⟨made, -⟩ | ⟨made, -⟩)
      · obtain rfl := Except.error.inj (hdirectory.mpr null)
        exact ⟨_, rfl, rfl⟩
      all_goals
        rw [hmade] at made
        cases made
  | ok =>
    rw [unfit_of_made (by rw [hmade])]
    cases hbeside : p.withSuffix (p.suffix ++ besideSuffix) with
    | error e =>
      rw [writeAtOnce, hmade]
      dsimp only
      rw [hbeside]
      exact iff_of_true ⟨_, rfl, rfl⟩ (.inl ((Path.withSuffix_eq_error hp).mp ⟨e, hbeside⟩))
    | ok beside =>
      rw [or_iff_right (Path.eq_of_withSuffix hbeside).1]
      exact unexpected_iff_of_beside hmade hbeside

end PenPlotter.Files
