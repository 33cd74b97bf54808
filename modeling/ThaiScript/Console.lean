import ThaiScript.Text.Basic

/-!
# The console

Each of the two output streams of a process has a buffer in front of it. What a script writes waits
in the buffer until it is passed on; what the session itself writes goes to the stream at once. The
buffer of the error stream is passed on whenever a line ends in what is written to it.
-/

namespace ThaiScript

/-- A stream of the process and the buffer before it, the latest writing first. -/
structure Channel where
  delivered : Text
  pending : List Text
deriving DecidableEq, Repr

namespace Channel

def empty : Channel := ⟨[], []⟩

/-- What waits in the buffer. -/
def waiting (c : Channel) : Text := c.pending.reverse.flatten

/-- A script's writing, which waits. -/
def write (c : Channel) (t : Text) : Channel := { c with pending := t :: c.pending }

/-- Passes on what waits. -/
def flush (c : Channel) : Channel := ⟨c.delivered ++ c.waiting, []⟩

/-- A script's writing to a stream that passes lines on. -/
def writeLines (c : Channel) (t : Text) : Channel :=
  if t.any fun d => d = '\n' ∨ d = '\r' then (c.write t).flush else c.write t

/-- The session's own writing, which overtakes what waits. -/
def deliver (c : Channel) (t : Text) : Channel := { c with delivered := c.delivered ++ t }

@[simp] theorem waiting_write (c : Channel) (t : Text) : (c.write t).waiting = c.waiting ++ t := by
  simp [waiting, write]

@[simp] theorem waiting_flush (c : Channel) : c.flush.waiting = [] := rfl

@[simp] theorem delivered_flush (c : Channel) : c.flush.delivered = c.delivered ++ c.waiting := rfl

end Channel

structure Console where
  out : Channel
  err : Channel
deriving DecidableEq, Repr

namespace Console

def empty : Console := ⟨.empty, .empty⟩

end Console

end ThaiScript
