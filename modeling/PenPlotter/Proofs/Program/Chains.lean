import PenPlotter.Proofs.Program.Tracing

/-!
# Programs chain by chain

The tool decides before each segment whether to travel, and whether to lift or to lower the pen.  Here
a program is written down without a tool: the strokes are cut into chains, and each chain is one travel
and one stroke of the pen.
-/

set_option autoImplicit false

namespace PenPlotter

attribute [local irreducible] Tool.isAwayFrom

/-! ## 1. Lines of chains -/

def chainLines (settings : Settings) (travels : Bool) : List Stroke → List Line
  | [] => []
  | k :: rest =>
    (if travels then [Line.travel k.x1 k.y1] else []) ++ [Line.penDown settings.penDown] ++
      (k :: rest).map (fun k => .draw k.x2 k.y2 settings.feedRate) ++ [Line.penUp settings.penUp]

def startsAway (chain : List Stroke) : Bool :=
  chain.head?.any fun k => Tool.atRest.isAwayFrom k.x1 k.y1

/-- The lines of chains.  The tool travels to each but the first, and to that if it starts away from
the origin. -/
def chainsLines (settings : Settings) : List (List Stroke) → List Line
  | [] => []
  | first :: rest =>
    chainLines settings (startsAway first) first ++ rest.flatMap (chainLines settings true)

section Chains

variable {settings : Settings} {strokes : List Stroke} {k : Stroke}

theorem chainsLines_append_singleton {chains : List (List Stroke)} (hne : chains ≠ [])
    (chain : List Stroke) :
    chainsLines settings (chains ++ [chain]) =
      chainsLines settings chains ++ chainLines settings true chain := by
  obtain ⟨first, rest, rfl⟩ := List.exists_cons_of_ne_nil hne
  rw [List.cons_append, chainsLines, chainsLines, List.flatMap_append, List.flatMap_singleton,
    List.append_assoc]

-- A longer chain has one more drawing line, right before the pen is lifted.
theorem exists_chainLines_append (settings : Settings) (k : Stroke) (travels : Bool)
    {chain : List Stroke} (hne : chain ≠ []) :
    ∃ lines, chainLines settings travels chain = lines ++ [Line.penUp settings.penUp] ∧
      chainLines settings travels (chain ++ [k]) =
        lines ++ [Line.draw k.x2 k.y2 settings.feedRate] ++ [Line.penUp settings.penUp] := by
  obtain ⟨first, rest, rfl⟩ := List.exists_cons_of_ne_nil hne
  refine ⟨_, rfl, ?_⟩
  rw [List.cons_append, chainLines, ← List.cons_append, List.map_append, List.map_singleton,
    ← List.append_assoc]

theorem exists_chainsLines_append (settings : Settings) (k : Stroke) (front : List (List Stroke))
    {final : List Stroke} (hne : final ≠ []) :
    ∃ lines, chainsLines settings (front ++ [final]) = lines ++ [Line.penUp settings.penUp] ∧
      chainsLines settings (front ++ [final ++ [k]]) =
        lines ++ [Line.draw k.x2 k.y2 settings.feedRate] ++ [Line.penUp settings.penUp] := by
  by_cases hfront : front = []
  · -- A first chain that grows at its end starts where it did.
    have hstart : startsAway (final ++ [k]) = startsAway final := by
      rw [startsAway, startsAway, List.head?_append_of_ne_nil _ hne]
    obtain ⟨lines, hbefore, hafter⟩ := exists_chainLines_append settings k (startsAway final) hne
    refine ⟨lines, ?_, ?_⟩
    · rw [hfront, List.nil_append, chainsLines, List.flatMap_nil, List.append_nil, hbefore]
    · rw [hfront, List.nil_append, chainsLines, List.flatMap_nil, List.append_nil, hstart, hafter]
  · obtain ⟨lines, hbefore, hafter⟩ := exists_chainLines_append settings k true hne
    refine ⟨chainsLines settings front ++ lines, ?_, ?_⟩
    · rw [chainsLines_append_singleton hfront, hbefore, List.append_assoc]
    · rw [chainsLines_append_singleton hfront, hafter]
      simp only [List.append_assoc]

/-! ## 2. The tool and the chains -/

theorem traceStrokes_singleton :
    Tool.atRest.traceStrokes settings [k] ++ [Line.penUp settings.penUp] =
      chainsLines settings [[k]] := by
  have hup : Tool.atRest.penDown = false := rfl
  rw [Tool.traceStrokes, Tool.traceStrokes, List.append_nil, Tool.trace_fst, Tool.prepare, hup]
  by_cases haway : Tool.atRest.isAwayFrom k.x1 k.y1 = true
  · simp [chainsLines, chainLines, startsAway, haway]
  · simp [chainsLines, chainLines, startsAway, haway]

/-- What the tool writes for strokes, one after the other, are the lines of their chains. -/
theorem traceStrokes_eq_chainsLines (hne : strokes ≠ []) :
    Tool.atRest.traceStrokes settings strokes ++ [Line.penUp settings.penUp] =
      chainsLines settings (chains strokes) := by
  -- The induction is on the strokes from the last, since whether the tool travels to a stroke depends
  -- on the one before it.
  induction strokes using List.reverseRecOn with
  | nil => exact absurd rfl hne
  | append_singleton strokes k ih =>
    by_cases hfirst : strokes = []
    · rw [hfirst, List.nil_append]
      exact traceStrokes_singleton
    have hlines := ih hfirst
    have hdown := Tool.penDown_after (t := .atRest) hfirst
    rw [Tool.traceStrokes_append_singleton, Tool.trace_fst, Tool.prepare, hdown]
    by_cases haway : (Tool.atRest.after strokes).isAwayFrom k.x1 k.y1 = true
    · -- The pen that is lifted to travel closes the chain before.
      have hchains : chains strokes ≠ [] := List.splitBy_ne_nil.2 hfirst
      rw [chains_append_of_away hfirst haway, chainsLines_append_singleton hchains, ← hlines]
      simp [chainLines, haway]
    · rw [Bool.not_eq_true] at haway
      obtain ⟨front, final, hfinal, hbefore, hafter⟩ :=
        exists_chains_append_of_near hfirst haway
      obtain ⟨lines, hopen, hgrown⟩ := exists_chainsLines_append settings k front hfinal
      rw [hbefore, hopen] at hlines
      rw [hafter, hgrown, ← List.append_cancel_right hlines]
      simp [haway]

end Chains

namespace Draft

/-- **A program draws chain by chain.**  Between header and closing the program of a drawing has, for each
chain of its strokes, a travel to the start of the chain, the pen lowered, one drawing line for each
stroke to its end, and the pen lifted.  The travel is left out before the first chain alone, if that
starts at the origin.  Without a drawing there is one comment in their place. -/
theorem lines_rebuild {d d' : Draft} {text : String} (hrebuild : d.rebuild = (d', .ok text)) :
    (d.history.segments = [] →
      d'.lines = header d.settings ++ [Line.noDrawing] ++ closing d.settings) ∧
    ∀ box, Extent.of? d.history.segments = some box →
      ∃ strokes, (Placement.grounding box d.settings.scale).Places d.history.segments strokes ∧
        d'.lines =
          header d.settings ++ chainsLines d.settings (chains strokes) ++ closing d.settings := by
  obtain ⟨hcompile, -⟩ := rebuild_eq_ok hrebuild
  constructor
  · intro hnil
    rw [hnil, compile_nil] at hcompile
    exact (Except.ok.inj (congrArg Prod.snd hcompile)).symm
  · intro box hbox
    obtain ⟨strokes, hplaces, hstrokes, hlines⟩ := exists_strokes_of_compile hcompile hbox
    refine ⟨strokes, hplaces, ?_⟩
    rw [hlines, strokesProgram, traceStrokes_eq_chainsLines hstrokes]

/-- Nothing drawn; and two segments that follow on from each other, with one apart. -/
theorem lines_rebuild_sample :
    ((new .standard).rebuild.2.isOk = true ∧
      (new .standard).rebuild.1.lines = header .standard ++ [Line.noDrawing] ++ closing .standard) ∧
    ∃ box strokes, sample.rebuild = (sample.rebuild.1, .ok sample.rebuild.1.text) ∧
      Extent.of? sample.history.segments = some box ∧
      (Placement.grounding box sample.settings.scale).Places sample.history.segments strokes ∧
      sample.rebuild.1.lines =
        header .standard ++ chainsLines .standard (chains strokes) ++ closing .standard := by
  have hblank : (new .standard).rebuild =
      ((new .standard).rebuild.1, .ok (new .standard).rebuild.1.text) := rebuild_of_isOk rfl
  have hbox := Extent.of?_of_ne_nil (show sample.history.segments ≠ [] by decide)
  obtain ⟨strokes, hplaces, hlines⟩ := (lines_rebuild rebuild_sample).2 _ hbox
  exact ⟨⟨rfl, (lines_rebuild hblank).1 rfl⟩, _, strokes, rebuild_sample, hbox, hplaces, hlines⟩

end Draft

end PenPlotter
