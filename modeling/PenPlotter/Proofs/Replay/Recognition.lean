import PenPlotter.Program.Compile
import PenPlotter.Replay.Report
import PenPlotter.Proofs.Program.Coordinate

/-!
# Recognising printed lines

A line is printed by one part of the library and read by another.  Here every kind of line is
followed through its text: the code before the comment, the words in it, and the instruction that it
is taken for.
-/

set_option autoImplicit false

namespace PenPlotter

open Decimal

attribute [local instance (high)] instPowNat List.decidableBAll

namespace Replay

/-! ## 1. Code and comment -/

theorem semicolon_notMem_codePart (s : List Char) : ';' ∉ codePart s := by
  intro h
  have hmem := List.mem_takeWhile_imp (Text.mem_of_mem_trimWhere h)
  exact absurd hmem (by decide)

-- Without a comment the code is the whole line.
theorem codePart_eq_trim {s : List Char} (h : ';' ∉ s) : codePart s = Text.trim s := by
  rw [codePart, List.takeWhile_eq_self_iff.2]
  intro c hc
  rw [decide_eq_true_iff]
  rintro rfl
  exact h hc

-- A comment that is put behind a line does not change its code.
theorem codePart_append_comment (s rest : List Char) :
    codePart (s ++ ' ' :: ';' :: rest) = codePart s := by
  unfold codePart
  -- What comes after the first semicolon is cut off anyway; without one the blank is trimmed.
  by_cases h : ';' ∈ s
  · congr 1
    rw [List.takeWhile_append, if_neg]
    intro hlength
    have hself : s.takeWhile (fun c => decide (c ≠ ';')) = s :=
      (List.takeWhile_prefix _).eq_of_length hlength
    rw [← hself] at h
    exact absurd (List.mem_takeWhile_imp h) (by decide)
  · have hpass : ∀ c ∈ s, decide (c ≠ ';') = true := by
      intro c hc
      rw [decide_eq_true_iff]
      rintro rfl
      exact h hc
    rw [List.takeWhile_append_of_pos hpass, List.takeWhile_eq_self_iff.2 hpass,
      List.takeWhile_cons_of_pos (by decide), List.takeWhile_cons_of_neg (by decide)]
    exact Text.trimWhere_append_blank s (by decide)

/-! ## 2. The code of each kind of line -/

def pointChars (x y : Double) : List Char :=
  'X' :: ((coordinateText x).toList ++ ' ' :: 'Y' :: (coordinateText y).toList)

def travelChars (x y : Double) : List Char := 'G' :: '0' :: ' ' :: pointChars x y

def drawChars (x y : Double) (feed : Int) : List Char :=
  'G' :: '1' :: ' ' :: (pointChars x y ++ ' ' :: 'F' :: Number.intChars feed)

theorem intChars_of_pos {n : Int} (hn : 0 < n) : Number.intChars n = digits n.natAbs := by
  rw [Number.intChars, decide_eq_false (by omega), signed, if_neg Bool.false_ne_true]

theorem numeric_not_special : ∀ c ∈ numericChars,
    c ≠ ';' ∧ Text.isBlank c = false ∧ Text.isLineBreak c = false := by decide

theorem mem_numericChars_of_mem_digits {n : Nat} {c : Char} (hc : c ∈ digits n) :
    c ∈ numericChars := mem_numericChars_of_isDigit (allDigits_digits n c hc)

-- The characters of a move are letters of its words, the blanks between these, and numbers.
theorem mem_pointChars {x y : Double} (hx : x.isFinite = true) (hy : y.isFinite = true) :
    ∀ c ∈ pointChars x y, c ∈ numericChars ∨ c ∈ [' ', 'X', 'Y'] := by
  intro c hc
  simp only [pointChars, List.mem_cons, List.mem_append] at hc
  rcases hc with rfl | h | rfl | rfl | h
  · simp
  · exact .inl (mem_numericChars_of_mem_coordinateText hx h)
  · simp
  · simp
  · exact .inl (mem_numericChars_of_mem_coordinateText hy h)

theorem mem_travelChars {x y : Double} (hx : x.isFinite = true) (hy : y.isFinite = true) :
    ∀ c ∈ travelChars x y, c ∈ numericChars ∨ c ∈ ['G', ' ', 'X', 'Y'] := by
  intro c hc
  have hletters : [' ', 'X', 'Y'] ⊆ ['G', ' ', 'X', 'Y'] := by decide
  simp only [travelChars, List.mem_cons] at hc
  rcases hc with rfl | rfl | rfl | h
  · simp
  · exact .inl (by decide)
  · simp
  · exact (mem_pointChars hx hy c h).imp_right fun hmem => hletters hmem

theorem mem_drawChars {x y : Double} {feed : Int} (hx : x.isFinite = true) (hy : y.isFinite = true)
    (hfeed : 0 < feed) :
    ∀ c ∈ drawChars x y feed, c ∈ numericChars ∨ c ∈ ['G', ' ', 'X', 'Y', 'F'] := by
  intro c hc
  have hletters : [' ', 'X', 'Y'] ⊆ ['G', ' ', 'X', 'Y', 'F'] := by decide
  simp only [drawChars, List.mem_cons, List.mem_append] at hc
  rcases hc with rfl | rfl | rfl | h | rfl | rfl | h
  · simp
  · exact .inl (by decide)
  · simp
  · exact (mem_pointChars hx hy c h).imp_right fun hmem => hletters hmem
  · simp
  · simp
  · rw [intChars_of_pos hfeed] at h
    exact .inl (mem_numericChars_of_mem_digits h)

theorem toList_travel (x y : Double) :
    (Line.travel x y).text.toList = travelChars x y ++ ' ' :: ';' :: [] := by
  simp [Line.text, travelChars, pointChars]

theorem toList_draw (x y : Double) (feed : Int) :
    (Line.draw x y feed).text.toList = drawChars x y feed ++ ' ' :: ';' :: [] := by
  simp [Line.text, drawChars, pointChars, Number.intText]

-- Code without a semicolon, and without a blank at either end, is the code of its line.
theorem codePart_of_bare {s : List Char} (rest : List Char) (hsemicolon : ';' ∉ s)
    (hfirst : ∀ c ∈ s.head?, Text.isBlank c = false)
    (hlast : ∀ c ∈ s.getLast?, Text.isBlank c = false) :
    codePart (s ++ ' ' :: ';' :: rest) = s := by
  rw [codePart_append_comment, codePart_eq_trim hsemicolon, Text.trim,
    Text.trimWhere_eq_self hfirst hlast]

theorem codePart_travel {x y : Double} (hx : x.isFinite = true) (hy : y.isFinite = true) :
    codePart (Line.travel x y).text.toList = travelChars x y := by
  rw [toList_travel]
  apply codePart_of_bare
  · intro h
    rcases mem_travelChars hx hy _ h with h | h
    · exact absurd h (by decide)
    · exact absurd h (by decide)
  · intro c hc
    obtain rfl : c = 'G' := by simpa [travelChars] using hc.symm
    decide
  · intro c hc
    have hmem : c ∈ (coordinateText y).toList.getLast? := by
      have hne := coordinateText_ne_nil hy
      rw [travelChars, pointChars] at hc
      simpa [List.getLast?_cons, List.getLast?_append, List.getLast?_eq_some_getLast hne] using hc
    exact (numeric_not_special c
      (mem_numericChars_of_mem_coordinateText hy (List.mem_of_getLast? hmem))).2.1

theorem codePart_draw {x y : Double} {feed : Int} (hx : x.isFinite = true) (hy : y.isFinite = true)
    (hfeed : 0 < feed) : codePart (Line.draw x y feed).text.toList = drawChars x y feed := by
  rw [toList_draw]
  apply codePart_of_bare
  · intro h
    rcases mem_drawChars hx hy hfeed _ h with h | h
    · exact absurd h (by decide)
    · exact absurd h (by decide)
  · intro c hc
    obtain rfl : c = 'G' := by simpa [drawChars] using hc.symm
    decide
  · intro c hc
    have hmem : c ∈ (digits feed.natAbs).getLast? := by
      have hne := digits_ne_nil feed.natAbs
      rw [drawChars, pointChars, intChars_of_pos hfeed] at hc
      simpa [List.getLast?_cons, List.getLast?_append, List.getLast?_eq_some_getLast hne] using hc
    exact (numeric_not_special c (mem_numericChars_of_mem_digits (List.mem_of_getLast? hmem))).2.1

/-! ## 3. The words of each kind of line -/

def feedShown (feed : Int) : Double := Double.ofDecimal false feed.natAbs 0

theorem ofCode_travelChars {x y : Double} (hx : x.isFinite = true) (hy : y.isFinite = true) :
    Words.ofCode (travelChars x y) = ⟨some x.printed, some y.printed, none⟩ := by
  -- A word is found at the first of its letters, and no number in front has a letter.
  have hX : wordOf? 'X' (travelChars x y) = some x.printed := by
    change wordOf? 'X' (['G', '0', ' '] ++ pointChars x y) = _
    rw [wordOf?_append (by decide)]
    exact wordOf?_coordinateText (by decide) hx (endsNumber_space _)
  have hY : wordOf? 'Y' (travelChars x y) = some y.printed := by
    change wordOf? 'Y' (['G', '0', ' ', 'X'] ++ ((coordinateText x).toList ++
      ([' '] ++ 'Y' :: (coordinateText y).toList))) = _
    rw [wordOf?_append (by decide),
      wordOf?_append (toUpper_ne_of_mem_coordinateText (by decide) hx),
      wordOf?_append (by decide)]
    simpa using wordOf?_coordinateText (show 'Y'.toUpper = 'Y' by decide) hy endsNumber_nil
  have hF : wordOf? 'F' (travelChars x y) = none := by
    rw [← List.append_nil (travelChars x y), wordOf?_append]
    · rfl
    · intro c hc
      rcases mem_travelChars hx hy c hc with h | h
      · exact (by decide : ∀ c ∈ numericChars, c.toUpper ≠ 'F') c h
      · exact (by decide : ∀ c ∈ ['G', ' ', 'X', 'Y'], c.toUpper ≠ 'F') c h
  rw [Words.ofCode, hX, hY, hF]

theorem ofCode_drawChars {x y : Double} {feed : Int} (hx : x.isFinite = true)
    (hy : y.isFinite = true) (hfeed : 0 < feed) :
    Words.ofCode (drawChars x y feed) = ⟨some x.printed, some y.printed, some (feedShown feed)⟩ := by
  have hshape : drawChars x y feed = ['G', '1', ' ', 'X'] ++ ((coordinateText x).toList ++
      ([' ', 'Y'] ++ ((coordinateText y).toList ++ ([' '] ++ 'F' :: digits feed.natAbs)))) := by
    simp [drawChars, pointChars, intChars_of_pos hfeed]
  have hX : wordOf? 'X' (drawChars x y feed) = some x.printed := by
    rw [hshape]
    change wordOf? 'X' (['G', '1', ' '] ++ 'X' :: ((coordinateText x).toList ++ ' ' :: _)) = _
    rw [wordOf?_append (by decide)]
    exact wordOf?_coordinateText (by decide) hx (endsNumber_space _)
  have hY : wordOf? 'Y' (drawChars x y feed) = some y.printed := by
    rw [hshape, wordOf?_append (by decide),
      wordOf?_append (toUpper_ne_of_mem_coordinateText (by decide) hx)]
    change wordOf? 'Y' ([' '] ++ 'Y' :: ((coordinateText y).toList ++ ' ' :: _)) = _
    rw [wordOf?_append (by decide)]
    exact wordOf?_coordinateText (by decide) hy (endsNumber_space _)
  have hF : wordOf? 'F' (drawChars x y feed) = some (feedShown feed) := by
    have hnumeral : leadingNumeral? (digits feed.natAbs) = some (digits feed.natAbs) := by
      simpa [signed] using leadingNumeral?_digits false (allDigits_digits feed.natAbs)
        (digits_ne_nil feed.natAbs) endsNumber_nil
    rw [hshape, wordOf?_append (by decide),
      wordOf?_append (toUpper_ne_of_mem_coordinateText (by decide) hx),
      wordOf?_append (by decide),
      wordOf?_append (toUpper_ne_of_mem_coordinateText (by decide) hy),
      wordOf?_append (by decide), wordOf?_cons (by decide) _ hnumeral]
    · rw [feedShown]
      simpa [signed] using bareDecimal?_digits false feed.natAbs
    · intro c hc
      exact (numeric_not_special c
        (mem_numericChars_of_mem_digits (List.mem_of_mem_head? hc))).2.1
  rw [Words.ofCode, hX, hY, hF]

/-! ## 4. Instructions -/

def isMove (code : List Char) : Bool :=
  startsWithWord ['G', '0'] code || startsWithWord ['G', '0', '0'] code ||
    startsWithWord ['G', '1'] code || startsWithWord ['G', '0', '1'] code

def changesMode (code : List Char) : Bool :=
  startsWith ['G', '9', '0'] code || startsWith ['G', '9', '1'] code

theorem startsWithWord_travelChars (x y : Double) :
    (startsWithWord ['G', '0'] (travelChars x y) ||
      startsWithWord ['G', '0', '0'] (travelChars x y)) = true := rfl

theorem startsWithWord_drawChars (x y : Double) (feed : Int) :
    (startsWithWord ['G', '0'] (drawChars x y feed) ||
        startsWithWord ['G', '0', '0'] (drawChars x y feed)) = false ∧
      (startsWithWord ['G', '1'] (drawChars x y feed) ||
        startsWithWord ['G', '0', '1'] (drawChars x y feed)) = true := ⟨rfl, rfl⟩

-- The instruction of code that is no command for the pen.
theorem ofLine_of_not_pen {setup : Setup} {line code : List Char} (hcode : codePart line = code)
    (hne : code ≠ []) (hdown : code ≠ Text.trim setup.penDown.toList)
    (hup : code ≠ Text.trim setup.penUp.toList) :
    Instruction.ofLine setup line =
      if startsWithWord ['G', '0'] code || startsWithWord ['G', '0', '0'] code then
        .travel (.ofCode code)
      else if startsWithWord ['G', '1'] code || startsWithWord ['G', '0', '1'] code then
        .draw (.ofCode code)
      else if startsWith ['G', '9', '0'] code then .absolute
      else if startsWith ['G', '9', '1'] code then .relative
      else .other := by
  simp only [Instruction.ofLine, hcode, List.isEmpty_iff, if_neg hne, if_neg hdown, if_neg hup]

end Replay

open Replay

def Command.idle (c : Command) : Instruction :=
  if codePart c.text.toList = [] then .none else .other

def Line.instruction : Line → Instruction
  | .units => .other
  | .absolute => .absolute
  | .start c | .finish c => c.idle
  | .blank | .noDrawing => .none
  | .travel x y => .travel ⟨some x.printed, some y.printed, none⟩
  | .penDown _ => .penDown
  | .draw x y feed => .draw ⟨some x.printed, some y.printed, some (feedShown feed)⟩
  | .penUp _ => .penUp
  | .returnToOrigin => .travel ⟨some 0, some 0, none⟩

def Line.isPen : Line → Bool
  | .penUp _ | .penDown _ => true
  | _ => false

def Line.Fits (settings : Settings) : Line → Prop
  | .start c => c = settings.start
  | .finish c => c = settings.finish
  | .penUp c => c = settings.penUp
  | .penDown c => c = settings.penDown
  | .travel x y => x.isFinite = true ∧ y.isFinite = true
  | .draw x y feed => x.isFinite = true ∧ y.isFinite = true ∧ feed = settings.feedRate
  | _ => True

def Settings.commands (settings : Settings) : List Command :=
  [settings.start, settings.penDown, settings.penUp, settings.finish]

/-- What it takes for a machine with the pen commands of settings to recognise lines: the pen
commands have no comment of their own, are not blank and not the same, are the code of no other
line, and the commands before and after the drawing neither move the tool nor change the mode. -/
structure Recognisable (settings : Settings) (lines : List Line) : Prop where
  bare : ∀ c ∈ [settings.penUp, settings.penDown], ';' ∉ c.text.toList
  notBlank : ∀ c ∈ [settings.penUp, settings.penDown], Text.trim c.text.toList ≠ []
  distinct : Text.trim settings.penUp.text.toList ≠ Text.trim settings.penDown.text.toList
  separate : ∀ line ∈ lines, line.isPen = false → ∀ c ∈ [settings.penUp, settings.penDown],
    codePart line.text.toList ≠ Text.trim c.text.toList
  idle : ∀ c ∈ [settings.start, settings.finish],
    isMove (codePart c.text.toList) = false ∧ changesMode (codePart c.text.toList) = false

namespace Replay

-- Code that neither moves nor changes the mode is passed over.
theorem ofLine_of_idle {setup : Setup} {line : List Char}
    (hdown : codePart line ≠ Text.trim setup.penDown.toList)
    (hup : codePart line ≠ Text.trim setup.penUp.toList)
    (hmove : isMove (codePart line) = false) (hmode : changesMode (codePart line) = false) :
    Instruction.ofLine setup line = if codePart line = [] then .none else .other := by
  by_cases hempty : codePart line = []
  · simp [Instruction.ofLine, hempty]
  · simp only [isMove, Bool.or_eq_false_iff] at hmove
    simp only [changesMode, Bool.or_eq_false_iff] at hmode
    rw [ofLine_of_not_pen rfl hempty hdown hup]
    simp [hmove, hmode, hempty]

variable {settings : Settings} {lines : List Line}

theorem codePart_start (c : Command) :
    codePart (Line.start c).text.toList = codePart c.text.toList := by
  simpa [Line.text] using codePart_append_comment c.text.toList []

theorem codePart_finish (c : Command) :
    codePart (Line.finish c).text.toList = codePart c.text.toList := by
  simpa [Line.text] using codePart_append_comment c.text.toList " End program".toList

-- A command for the pen that has no comment of its own is the code of its line.
theorem codePart_pen {c : Command} (hbare : ';' ∉ c.text.toList) :
    codePart (Line.penDown c).text.toList = Text.trim c.text.toList ∧
      codePart (Line.penUp c).text.toList = Text.trim c.text.toList := by
  rw [← codePart_eq_trim hbare]
  constructor
  · simpa [Line.text] using codePart_append_comment c.text.toList " Pen down".toList
  · simpa [Line.text] using codePart_append_comment c.text.toList " Pen up".toList

/-- A line that is no command for the pen is recognised where no command for the pen looks like it. -/
theorem ofLine_of_not_isPen {setup : Setup} {line : Line} (hpen : line.isPen = false)
    (hdown : codePart line.text.toList ≠ Text.trim setup.penDown.toList)
    (hup : codePart line.text.toList ≠ Text.trim setup.penUp.toList) (hfits : line.Fits settings)
    (hidle : ∀ c ∈ [settings.start, settings.finish],
      isMove (codePart c.text.toList) = false ∧ changesMode (codePart c.text.toList) = false) :
    Instruction.ofLine setup line.text.toList = line.instruction := by
  cases line with
  | units => exact ofLine_of_idle hdown hup (by decide) (by decide)
  | absolute =>
    rw [ofLine_of_not_pen rfl (by decide) hdown hup]
    rfl
  | start c =>
    obtain rfl : c = settings.start := hfits
    have hmodest := hidle settings.start (by simp)
    have hcode := codePart_start settings.start
    rw [← hcode] at hmodest
    rw [ofLine_of_idle hdown hup hmodest.1 hmodest.2, hcode]
    rfl
  | blank => rfl
  | noDrawing => rfl
  | travel x y =>
    obtain ⟨hx, hy⟩ := hfits
    have hcode := codePart_travel hx hy
    rw [hcode] at hdown hup
    rw [ofLine_of_not_pen hcode (List.cons_ne_nil _ _) hdown hup,
      if_pos (startsWithWord_travelChars x y), ofCode_travelChars hx hy]
    rfl
  | penDown c => cases hpen
  | draw x y feed =>
    obtain ⟨hx, hy, rfl⟩ := hfits
    have hcode := codePart_draw hx hy settings.feed_pos
    rw [hcode] at hdown hup
    obtain ⟨hnotTravel, hdraw⟩ := startsWithWord_drawChars x y settings.feedRate
    rw [ofLine_of_not_pen hcode (List.cons_ne_nil _ _) hdown hup, hnotTravel,
      if_neg Bool.false_ne_true, if_pos hdraw, ofCode_drawChars hx hy settings.feed_pos]
    rfl
  | penUp c => cases hpen
  | returnToOrigin =>
    have hwords : Words.ofCode (codePart Line.returnToOrigin.text.toList) =
        ⟨some 0, some 0, none⟩ := by decide +kernel
    rw [ofLine_of_not_pen rfl (by decide) hdown hup, if_pos (by decide), hwords]
    rfl
  | finish c =>
    obtain rfl : c = settings.finish := hfits
    have hmodest := hidle settings.finish (by simp)
    have hcode := codePart_finish settings.finish
    rw [← hcode] at hmodest
    rw [ofLine_of_idle hdown hup hmodest.1 hmodest.2, hcode]
    rfl

end Replay

section Programs

variable {settings : Settings} {lines : List Line}

/-- **Every printed line is recognised.**  To a machine with the pen commands of the settings the
text of a line is the instruction that the line stands for. -/
theorem Recognisable.ofLine {setup : Setup} (h : Recognisable settings lines)
    (hdown : setup.penDown = settings.penDown.text) (hup : setup.penUp = settings.penUp.text)
    {line : Line} (hline : line ∈ lines) (hfits : line.Fits settings) :
    Instruction.ofLine setup line.text.toList = line.instruction := by
  -- The commands for the pen come first in the order of recognition, and are told apart there.
  by_cases hpen : line.isPen = false
  · have hseparate := h.separate line hline hpen
    rw [List.forall_mem_cons, List.forall_mem_singleton, ← hup, ← hdown] at hseparate
    exact ofLine_of_not_isPen hpen hseparate.2 hseparate.1 hfits h.idle
  cases line with
  | penDown c =>
    obtain rfl : c = settings.penDown := hfits
    have hcode := (codePart_pen (h.bare settings.penDown (by simp))).1
    have hne := h.notBlank settings.penDown (by simp)
    simp only [Instruction.ofLine, hcode, List.isEmpty_iff, if_neg hne, hdown, if_true]
    rfl
  | penUp c =>
    obtain rfl : c = settings.penUp := hfits
    have hcode := (codePart_pen (h.bare settings.penUp (by simp))).2
    have hne := h.notBlank settings.penUp (by simp)
    simp only [Instruction.ofLine, hcode, List.isEmpty_iff, if_neg hne, hdown, hup,
      if_neg h.distinct, if_true]
    rfl
  | _ => exact absurd rfl hpen

def Line.command? : Line → Option Command
  | .start c | .finish c | .penUp c | .penDown c => some c
  | _ => none

theorem Line.Fits.mem_commands {line : Line} (hfits : line.Fits settings) {c : Command}
    (hc : c ∈ line.command?) : c ∈ settings.commands := by
  cases line with
  | start e | penDown e | penUp e | finish e =>
    obtain rfl : e = c := Option.some.inj hc
    have he : e = _ := hfits
    simp [Settings.commands, he]
  | _ => cases hc

-- A line of a program has a line break only where its command has one.
theorem Line.Fits.unbroken_iff {line : Line} (hfits : line.Fits settings) :
    Text.Unbroken line.text.toList ↔ ∀ c ∈ line.command?, Text.Unbroken c.text.toList := by
  have hcommand (c : Command) (comment : String) (hcomment : Text.Unbroken comment.toList) :
      Text.Unbroken (c.text ++ comment).toList ↔ ∀ d ∈ some c, Text.Unbroken d.text.toList := by
    rw [String.toList_append, Text.unbroken_append, and_iff_left hcomment]
    simp
  have hnumeric : Text.Unbroken numericChars := fun c hc => (numeric_not_special c hc).2.2
  cases line with
  | units | absolute | blank | noDrawing | returnToOrigin => decide
  | start c | penDown c | penUp c | finish c => exact hcommand c _ (by decide)
  | travel x y =>
    obtain ⟨hx, hy⟩ := hfits
    have hletters : Text.Unbroken ['G', ' ', 'X', 'Y'] := by decide
    refine iff_of_true ?_ fun c hc => nomatch hc
    rw [toList_travel]
    refine .append (fun c hc => ?_) (by decide)
    exact (mem_travelChars hx hy c hc).elim (hnumeric c) (hletters c)
  | draw x y feed =>
    obtain ⟨hx, hy, rfl⟩ := hfits
    have hletters : Text.Unbroken ['G', ' ', 'X', 'Y', 'F'] := by decide
    refine iff_of_true ?_ fun c hc => nomatch hc
    rw [toList_draw]
    refine .append (fun c hc => ?_) (by decide)
    exact (mem_drawChars hx hy settings.feed_pos c hc).elim (hnumeric c) (hletters c)

end Programs

end PenPlotter
