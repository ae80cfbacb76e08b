import PenPlotter.Program.Draft

/-!
# Sessions

A drawing reports its segments one at a time and at its own pace.  A session records them into a
draft and compiles only when no further segment has come for a while: every segment arms a new
timer, and only the latest timer, if nothing cancelled it, compiles when it expires.  A burst of
segments so costs one compilation.

Each operation gives the session after it and the text that it publishes, if it publishes one.
-/

set_option autoImplicit false

namespace PenPlotter

def quietTimeMessage (seconds : Number) : String := seconds.mentioned "debounce_s must be >= 0, got "

def isQuietTime (seconds : Number) : Bool := !decide (seconds < 0)

def standardQuietTime : Number := .double (.ofDecimal false 4 (-1))

/-- Timers are named by the order in which they are armed. -/
abbrev Timer := Nat

structure Session where
  draft : Draft
  armed : Nat
  /-- The timer that compiles when it expires, if there is one. -/
  current : Option Timer
  /-- How many compilations have succeeded. -/
  rebuilds : Nat

namespace Session

def new (draft : Draft) : Session := ⟨draft, 0, none, 0⟩

def pending (s : Session) : Bool := s.current.isSome

def record (s : Session) (segment : Segment) : Session :=
  { s with draft := s.draft.record segment, armed := s.armed + 1, current := some s.armed }

def cancel (s : Session) : Session := { s with current := none }

def reset (s : Session) : Session × Draft.Answer :=
  let draft := s.draft.clear.announce
  ({ s with draft, current := none }, .ok (some draft.text))

def rebuild (s : Session) : Session × Draft.Answer :=
  match s.draft.rebuild with
  | (draft, .ok text) => ({ s with draft, rebuilds := s.rebuilds + 1 }, .ok (some text))
  | (draft, .error e) => ({ s with draft }, .error (.compile e))

def flush (s : Session) : Session × Draft.Answer := s.cancel.rebuild

def update (s : Session) (u : Update) : Session × Draft.Answer :=
  match s.draft.update u with
  | .ok draft => ({ s with draft }, .ok none)
  | .error rs => (s, .error (.rejected rs))

/-- Updates the settings, if an update is given, then compiles and publishes at once.  An update that
is rejected cancels nothing. -/
def regenerate (s : Session) (u : Option Update) : Session × Draft.Answer :=
  match u.elim (.ok s.draft) s.draft.update with
  | .ok draft => { s with draft }.flush
  | .error rs => (s, .error (.rejected rs))

/-- A timer expires.  The current one compiles and publishes, any other does nothing. -/
def expire (s : Session) (t : Timer) : Session × Draft.Answer :=
  if s.current = some t then s.cancel.rebuild else (s, .ok none)

inductive Operation where
  | record (segment : Segment)
  | reset
  | flush
  | update (u : Update)
  | regenerate (u : Option Update)
  | close
  | expire (timer : Timer)

def perform (s : Session) : Operation → Session × Draft.Answer
  | .record segment => (s.record segment, .ok none)
  | .reset => s.reset
  | .flush => s.flush
  | .update u => s.update u
  | .regenerate u => s.regenerate u
  | .close => (s.cancel, .ok none)
  | .expire t => s.expire t

end Session

end PenPlotter
