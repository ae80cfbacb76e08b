import PenPlotter.Proofs.Files.Kept

/-!
# What writing at once touches

Only what a path stands for, what stands beside it, and the file that this leads to may have changed
afterwards.
-/

set_option autoImplicit false

namespace PenPlotter.Files

open Store

def Store.content? (s : Store) (place : Place) : Option (List UInt8) :=
  ((s.entryAt? place).bind Entry.number?).map s.content

/-- **Writing at once touches only its target and what stands beside it.**  It makes the missing
directories of the path and nothing else first.  If it succeeds, the file that the path beside it led to
has the bytes, and stands at the path; all other files have the bytes and the names they had.  If it
fails, the path stands for what it stood for, and no file has changed, come or gone but for what
stands beside the path and the file that this leads to. -/
theorem writeAtOnce_touches (s : Store) (p : Path) (bytes : List UInt8) :
    let made := (ensureDirectory s p.parent).1
    let s' := (writeAtOnce s p bytes besideSuffix).1
    Paves p.parent s made ∧
    match (writeAtOnce s p bytes besideSuffix).2 with
    | .ok () => (∃ r t w n, Replaces p bytes r t w n made s') ∧ Holds p bytes made s'
    | .error e => Fails p e made s' := by
  have houtcome := writeAtOnce_outcome s p bytes
  refine ⟨paves_ensureDirectory s p.parent, ?_⟩
  cases hwritten : writeAtOnce s p bytes besideSuffix with
  | mk s' outcome =>
  rw [hwritten] at houtcome
  cases outcome with
  | ok =>
    obtain ⟨r, t, w, n, hreplaces⟩ := houtcome
    exact ⟨⟨r, t, w, n, hreplaces⟩, hreplaces.holds⟩
  | error e => exact houtcome

/-- What stood beside a file is lost when the file is written, and also when it cannot be.  A link
there is written over, so that another file has the bytes, or is made, and the path may lead nowhere
after that; so does a path that goes over the link at its own place.  Another name of what stands
beside shares its bytes, and what cannot be taken away is left. -/
theorem beside_lost :
    let write (s : Store) := writeAtOnce s (.ofText "a") [3] besideSuffix
    let two : Store := .plain [] [] [(["a"], [1]), (["a.tmp"], [2])]
    let blocked : Store := .plain [] [["a"]] [(["a.tmp"], [2])]
    let linked : Store := (plain [] [] [(["a"], [1]), (["b"], [2])]).put ["a.tmp"] (.link false ["b"])
    let back : Store := (plain [] [] [(["a"], [1])]).put ["a.tmp"] (.link false ["a"])
    let named : Store := (plain [] [] [(["a.tmp"], [2])]).put ["b"] (.file 0)
    let dangling : Store := (plain [] [["a"]] []).put ["a.tmp"] (.link false ["b"])
    let kept : Store := { plain [] [["a"]] [] with
      refuses := fun access _ _ => if access = .leave then some .denied else none }
    let upwards : Store := (plain [] [["d"]] []).put ["a"] (.link false ["d"])
    ((write two).2 = .ok () ∧ two.content? ["a.tmp"] = some [2] ∧
      (write two).1.content? ["a.tmp"] = none) ∧
    ((write blocked).2.isOk = false ∧ blocked.content? ["a.tmp"] = some [2] ∧
      (write blocked).1.content? ["a.tmp"] = none) ∧
    ((write linked).2 = .ok () ∧ linked.content? ["b"] = some [2] ∧
      (write linked).1.content? ["b"] = some [3]) ∧
    ((write back).2 = .ok () ∧ ((write back).1.readBytes (.ofText "a")).isOk = false) ∧
    ((write named).2 = .ok () ∧ named.content? ["b"] = some [2] ∧
      (write named).1.content? ["b"] = some [3]) ∧
    ((write dangling).2.isOk = false ∧ dangling.content? ["b"] = none ∧
      (write dangling).1.content? ["b"] = some [3]) ∧
    ((write kept).2.isOk = false ∧ kept.content? ["a.tmp"] = none ∧
      (write kept).1.content? ["a.tmp"] = some [3]) ∧
    let written := writeAtOnce upwards (.ofText "a/../a") [3] besideSuffix
    written.2 = .ok () ∧ (written.1.readBytes (.ofText "a/../a")).isOk = false := by
  decide +kernel

end PenPlotter.Files
