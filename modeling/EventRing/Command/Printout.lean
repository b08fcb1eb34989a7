import EventRing.Command.Report

/-!
# Printing what a ring holds

A printout is what a command has read from a ring so far and what it has printed of it.  `Printout.pump` prints every
event that can be read; records that cannot be decoded are passed over, and an error that makes the ring unreadable
ends the command.
-/

namespace EventRing

/-- The reader's side of a command: its state, the output, and the number of events in it, which needs no bound any more
than the counters of a reader do. -/
structure Printout (σ : Type) where
  state : ReaderState σ
  output : String
  printed : Nat

namespace Printout

variable {σ : Type}

/-- Nothing read and nothing printed. -/
def start (clock : σ) (memory : Memory) : Printout σ := ⟨⟨memory, clock, .zero⟩, "", 0⟩

/-- Reads everything that can be read and prints it.  The report is that of a command which ends early. -/
def pump (json : Bool) (settings : ReaderSettings) (clock : Clock σ) (ring : Ring) (p : Printout σ) :
    Option Report × Printout σ :=
  let (polls, state) := settings.toReader.pump clock ring settings.maxPayload p.state
  let (lines, printed) := Report.eventLines json p.printed polls
  let output := p.output ++ lines
  (Report.earlyEnd output polls, ⟨state, output, printed⟩)

end Printout

end EventRing
