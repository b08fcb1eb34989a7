import EventRing.Command.Printout
import EventRing.Objects

/-!
# Dumping a ring

Opens the ring that the settings name, prints every event that can be read, and then the reader's counters.  Following
means to go on polling until interrupted; one round of it prints the same.
-/

namespace EventRing.Command

variable {σ : Type}

/-- Prints the events of a ring that is open. -/
def dumpRing (json : Bool) (settings : ReaderSettings) (clock : Clock σ) (ring : Ring) (state : σ) (memory : Memory) :
    Report × σ × Memory :=
  let (ended, p) := (Printout.start state memory).pump json settings clock ring
  let report := ended.getD ⟨0, p.output, Report.statsLines json p.state.stats⟩
  (report, p.state.clock, p.state.memory)

/-- Prints the events of the ring that the settings name. -/
def runDump (json : Bool) (loaded : Except Error Settings) (clock : Clock σ) (state : σ) (objects : Objects) :
    Report × σ × Objects :=
  match loaded with
  | .error e => (.failure "" e, state, objects)
  | .ok settings =>
    match objects.openRing settings.ring.name settings.ring.geometry with
    | (.error e, objects) => (.failure "" (.sharedMemory e), state, objects)
    | (.ok shared, objects) =>
      let ((report, state), objects) := objects.modify shared.region.object fun memory =>
        let (report, state, memory) := dumpRing json settings.reader clock shared.ring state memory
        ((report, state), memory)
      (report, state, objects.close shared.region)

end EventRing.Command
