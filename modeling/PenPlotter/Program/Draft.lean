import PenPlotter.Program.Compile
import PenPlotter.Settings.Patch

/-!
# Drafts

A draft holds the drawing recorded so far, the settings for it, and the program that was last made
from it.  A program is always made anew from the whole drawing, since a new segment can move all
others.
-/

set_option autoImplicit false

namespace PenPlotter

structure Draft where
  settings : Settings
  history : History
  /-- Where the last compilation left the tool. -/
  tool : Tool
  lines : List Line

namespace Draft

def text (d : Draft) : String := programText d.lines

def announce (d : Draft) : Draft := { d with tool := .atRest, lines := header d.settings }

def new (settings : Settings) : Draft := announce ⟨settings, .empty, .atRest, []⟩

def record (d : Draft) (s : Segment) : Draft := { d with history := d.history.record s }

def clear (d : Draft) : Draft := { d with history := .empty, tool := .atRest, lines := [] }

def configure (d : Draft) (settings : Settings) : Draft := { d with settings }

/-- Updates the settings; if anything is rejected they stay as they are. -/
def update (d : Draft) (u : Update) : Except (List Rejection) Draft :=
  (d.settings.update u).map d.configure

/-- Makes the program of the drawing.  If there is none, the former program stays, and the tool is
left where the drawing could not go on. -/
def rebuild (d : Draft) : Draft × Except CompileError String :=
  match compile d.settings d.history.segments with
  | (tool, .ok lines) =>
    let d := { d with tool, lines }
    (d, .ok d.text)
  | (tool, .error trouble) => ({ d with tool }, .error trouble.error)

/-! ## Operations -/

/-- What can be done to a draft.  Making the program once the drawing is finished is no other operation
than making it before. -/
inductive Operation where
  | record (s : Segment)
  | clear
  | announce
  | update (u : Update)
  | rebuild

inductive Error where
  | rejected (rejections : List Rejection)
  | compile (error : CompileError)
deriving DecidableEq

abbrev Answer := Except Error (Option String)

/-- Performs an operation.  A draft is left behind also by one that fails. -/
def perform (d : Draft) : Operation → Draft × Answer
  | .record s => (d.record s, .ok none)
  | .clear => (d.clear, .ok none)
  | .announce => (d.announce, .ok none)
  | .update u =>
    match d.update u with
    | .ok d => (d, .ok none)
    | .error rs => (d, .error (.rejected rs))
  | .rebuild =>
    match d.rebuild with
    | (d, .ok text) => (d, .ok (some text))
    | (d, .error e) => (d, .error (.compile e))

end Draft

end PenPlotter
