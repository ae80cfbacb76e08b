import PenPlotter.Proofs.Text.Lines

/-!
# Texts in files

A text comes back from its bytes.  What may be different in a file are its line ends: every one is
read as a line feed, and there is one at the end.  Neither matters to the lines of the text, but that
an empty one may follow.
-/

set_option autoImplicit false

namespace PenPlotter.Text

/-! ## 1. Bytes -/

-- The list is built from the front, and reversed at the end of the array.
theorem toList_loop_eq (bytes : ByteArray) (i : Nat) (front : List UInt8) :
    ByteArray.toList.loop bytes i front = front.reverse ++ bytes.data.toList.drop i := by
  induction i, front using ByteArray.toList.loop.induct bytes with
  | case1 i front hlt ih =>
    have hi : i < bytes.data.toList.length := hlt
    have hget : bytes.get! i = bytes.data.toList[i] := by
      rw [Array.getElem_toList]
      exact getElem!_pos bytes.data i hlt
    rw [ByteArray.toList.loop, if_pos hlt, ih, List.drop_eq_getElem_cons hi, hget]
    simp
  | case2 i front hge =>
    have hlength : bytes.data.toList.length ≤ i := Nat.le_of_not_lt hge
    rw [ByteArray.toList.loop, if_neg hge, List.drop_eq_nil_of_le hlength, List.append_nil]

theorem toArray_toList (bytes : ByteArray) : ⟨bytes.toList.toArray⟩ = bytes := by
  rw [ByteArray.toList, toList_loop_eq]
  rfl

theorem fromUTF8?_toUTF8 (s : String) : String.fromUTF8? ⟨s.toUTF8.toList.toArray⟩ = some s := by
  rw [toArray_toList]
  unfold String.fromUTF8?
  rw [String.toUTF8_eq_toByteArray, dif_pos s.isValidUTF8]
  rfl

/-! ## 2. Line ends -/

-- A line ends at a line break, whatever follows: a carriage return takes a line feed with it.
theorem splitLines_go_break {c : Char} (hbreak : isLineBreak c = true) {rest : List Char}
    (hsingle : c = '\r' → rest.head? ≠ some '\n') (line : List Char) :
    splitLines.go (c :: rest) line = line.reverse :: splitLines.go rest [] := by
  rw [splitLines.go.eq_def]
  split
  · next heq => cases heq
  · next heq _ => cases heq
  · next heq =>
    cases heq
    exact absurd rfl (hsingle rfl)
  · next heq =>
    cases heq
    rw [if_pos hbreak]

/-- The lines of a text are the same after all its line ends are written alike. -/
theorem splitLines_go_unifyNewlines (s line : List Char) :
    splitLines.go (unifyNewlines s) line = splitLines.go s line := by
  induction s using unifyNewlines.induct generalizing line with
  | case1 => rfl
  | case2 rest ih =>
    rw [unifyNewlines, splitLines_go_break rfl (by simp), ih, splitLines.go]
  | case3 c rest hpair ih =>
    have hsingle : c = '\r' → rest.head? ≠ some '\n' := by
      rintro rfl hhead
      obtain ⟨others, rfl⟩ := List.head?_eq_some_iff.1 hhead
      exact hpair others rfl rfl
    rw [unifyNewlines]
    · by_cases hreturn : c = '\r'
      · subst hreturn
        rw [if_pos rfl, splitLines_go_break rfl (by simp), splitLines_go_break rfl hsingle, ih]
      · rw [if_neg hreturn]
        cases hc : isLineBreak c with
        | true =>
          rw [splitLines_go_break hc (absurd · hreturn), splitLines_go_break hc hsingle, ih]
        | false => rw [splitLines_go_cons hc, splitLines_go_cons hc, ih]
    · exact hpair

theorem splitLines_unifyNewlines (s : List Char) : splitLines (unifyNewlines s) = splitLines s :=
  splitLines_go_unifyNewlines s []

/-- A line feed at the end of a text ends its last line, or adds an empty one. -/
theorem splitLines_go_append_newline (s line : List Char) :
    splitLines.go (s ++ ['\n']) line = splitLines.go s line ∨
      splitLines.go (s ++ ['\n']) line = splitLines.go s line ++ [[]] := by
  fun_induction splitLines.go s line with
  | case1 => exact .inr rfl
  | case2 line hne =>
    left
    rw [List.nil_append, splitLines_go_break rfl (by decide)]
    rfl
  | case3 rest line ih =>
    rw [List.cons_append, List.cons_append, splitLines.go, List.cons_append]
    exact ih.imp (congrArg _) (congrArg _)
  | case4 c rest line hpair hbreak ih =>
    rw [List.cons_append]
    by_cases hlast : c = '\r' ∧ rest = []
    · -- The line feed makes one break with the carriage return before it.
      obtain ⟨rfl, rfl⟩ := hlast
      exact .inl rfl
    · rw [splitLines_go_break hbreak, List.cons_append]
      · exact ih.imp (congrArg _) (congrArg _)
      · rintro rfl hhead
        cases rest with
        | nil => exact hlast ⟨rfl, rfl⟩
        | cons d rest =>
          obtain rfl : d = '\n' := Option.some.inj hhead
          exact hpair rest rfl rfl
  | case5 c rest line hpair hother ih =>
    rw [List.cons_append, splitLines_go_cons (Bool.not_eq_true _ ▸ hother)]
    exact ih

theorem splitLines_append_newline (s : List Char) :
    splitLines (s ++ ['\n']) = splitLines s ∨ splitLines (s ++ ['\n']) = splitLines s ++ [[]] :=
  splitLines_go_append_newline s []

end PenPlotter.Text
