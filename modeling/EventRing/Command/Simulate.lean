import EventRing.Command.Printout
import EventRing.Objects
import EventRing.Ring.Produce

/-!
# Simulating a producer

Makes the ring that the settings name, writes synthetic records into it and reads them back.  A record that does not fit
makes the simulation read everything and try again; with `hold` it ends the writing instead, and the ring stays for
other processes until the holder is released.  Every so many report records are dated back by twice the staleness
window.
-/

namespace EventRing.Command

/-- A synthetic record.  One that is dated back gets an old timestamp. -/
structure Sample where
  kind : Kind
  payload : List UInt8
  backdated : Bool
deriving DecidableEq

namespace Sample

/-- The bytes of the device address in the sample with the given number: its low two bytes, the higher one first. -/
def address (number : UInt32) : List UInt8 :=
  [0x98, 0xB6, 0xE9, 0x00, UInt8.ofNat (number.toNat / 256), UInt8.ofNat number.toNat]

/-- The report bytes of a sample. -/
def reportSize : Nat := 8

/-- The payload of a report response in a layout. -/
def report (layout : Layout) (number : UInt32) : List UInt8 :=
  List.replicate layout.addressOffset 0 ++ address number
    ++ List.replicate (layout.reportOffset - layout.addressOffset - Address.size) 0
    ++ (List.range reportSize).map fun i => UInt8.ofNat (number.toNat + i)

/-- The sample with the given number.  Kinds take turns: report, connection state, device information.  Of the reports
every `staleEvery`-th one is dated back, none if that is zero. -/
def ofNumber (number : UInt32) (layout : Layout) (staleEvery : UInt32) : Sample :=
  let index := number / 3
  if number % 3 = 0 then
    { kind := .getReport
      payload := report layout number
      backdated := 0 < staleEvery && index % staleEvery = staleEvery - 1 }
  else if number % 3 = 1 then
    { kind := .connectionState
      payload := address number ++ [0, 0] ++ Bytes.ofUInt32 (index % 2 * 2)
      backdated := false }
  else
    { kind := .hidInfo
      payload := Bytes.ofUInt32 number ++ Bytes.ofUInt32 number ++ Bytes.ofUInt32 number ++ Bytes.ofUInt32 number
      backdated := false }

end Sample

/-- What a simulation keeps: the reader's side, and how many records were dated back, which are no more than it was
asked to write. -/
structure Simulation (σ : Type) where
  printout : Printout σ
  backdated : Nat

/-- Why writing ended. -/
inductive WriteEnd where
  | complete
  | full
  | failed (error : Error)
  | halted
deriving DecidableEq

variable {σ : Type}

namespace Simulation

/-- Reads everything that can be read and prints it; an error that makes the ring unreadable ends the simulation. -/
def pump (settings : ReaderSettings) (clock : Clock σ) (ring : Ring) (s : Simulation σ) :
    Option Report × Simulation σ :=
  let (ended, printout) := s.printout.pump false settings clock ring
  (ended, { s with printout })

/-- The simulation with another state of the reader. -/
def withState (s : Simulation σ) (state : ReaderState σ) : Simulation σ :=
  { s with printout := { s.printout with state } }

/-- Writes one record. -/
def write (ring : Ring) (record : Sample) (timestamp : UInt64) (s : Simulation σ) :
    Outcome SharedMemoryError Unit × Simulation σ :=
  let state := s.printout.state
  let (outcome, memory) := ring.write state.memory record.kind timestamp record.payload
  (outcome, s.withState { state with memory })

/-- Asks the clock for the time. -/
def askTime (clock : Clock σ) (s : Simulation σ) : Option UInt64 × Simulation σ :=
  let state := s.printout.state
  let reading := clock.ask state.clock state.memory
  (reading.time, s.withState { state with memory := reading.memory, clock := reading.state })

/-- The age of a record that is dated back. -/
def staleAge (settings : ReaderSettings) : UInt64 :=
  Duration.toTicks ⟨2 * settings.stalenessWindow.nanoseconds⟩

/-- Writes `count` records, the first of them with the given number. -/
def writeAll (settings : ReaderSettings) (clock : Clock σ) (ring : Ring) (staleEvery : UInt32) (hold : Bool) :
    (count : Nat) → (number : UInt32) → Simulation σ → Except Report WriteEnd × Simulation σ
  | 0, _, s => (.ok .complete, s)
  | count + 1, number, s =>
    let record := Sample.ofNumber number settings.layout staleEvery
    match s.askTime clock with
    | (none, s) => (.ok .halted, s)
    | (some now, s) =>
      let timestamp := if record.backdated then ticksBetween (staleAge settings) now else now
      let s := if record.backdated then { s with backdated := s.backdated + 1 } else s
      match s.write ring record timestamp with
      | (.done (), s) => writeAll settings clock ring staleEvery hold count (number + 1) s
      | (.halted, s) => (.ok .halted, s)
      | (.failed (.ringFull _ _), s) =>
        if hold then (.ok .full, s)
        else
          match s.pump settings clock ring with
          | (some report, s) => (.error report, s)
          | (none, s) =>
            match s.write ring record timestamp with
            | (.done (), s) => writeAll settings clock ring staleEvery hold count (number + 1) s
            | (.halted, s) => (.ok .halted, s)
            | (.failed e, s) => (.ok (.failed (.sharedMemory e)), s)
      | (.failed e, s) => (.ok (.failed (.sharedMemory e)), s)

end Simulation

/-- How a simulation ends: with a report, or holding its ring after it has printed something. -/
inductive Simulated where
  | finished (report : Report)
  | holding (output : String)
deriving DecidableEq

/-- What a holder prints about its ring. -/
def holdingLines (path : String) (name : RingName) (used : Nat) (backdated : Nat) : String :=
  "Ring '" ++ name.text ++ "' holds " ++ toString used ++ " bytes of records (" ++ toString backdated
    ++ " back-dated reports).\n" ++ "Attach with `hidring -c " ++ path ++ " dump`; Ctrl+C to release.\n"

/-- What a finished simulation prints after the events. -/
def summaryLines (records : UInt32) (s : Simulation σ) : String :=
  "\nWrote " ++ toString records.toNat ++ " records, printed " ++ toString s.printout.printed ++ ", back-dated "
    ++ toString s.backdated ++ ".\n"

/-- Runs a simulation in a ring that is set up and empty. -/
def simulateRing (path : String) (records staleEvery : UInt32) (hold : Bool) (settings : Settings) (clock : Clock σ)
    (ring : Ring) (state : σ) (memory : Memory) : Simulated × σ × Memory :=
  let start : Simulation σ := ⟨.start state memory, 0⟩
  let (ending, s) := start.writeAll settings.reader clock ring staleEvery hold records.toNat 0
  let finish := fun (report : Report) (s : Simulation σ) =>
    (Simulated.finished report, s.printout.state.clock, s.printout.state.memory)
  match ending with
  | .error report => finish report s
  | .ok .halted => finish (.halt s.printout.output) s
  | .ok (.failed e) => finish (.failure s.printout.output e) s
  | .ok _ =>
    if hold then
      match ring.writableBytes s.printout.state.memory with
      | none => finish (.halt s.printout.output) s
      | some writable =>
        let lines := holdingLines path settings.ring.name (ring.capacity.toNat - 1 - writable.toNat) s.backdated
        (.holding (s.printout.output ++ lines), s.printout.state.clock, s.printout.state.memory)
    else
      match s.pump settings.reader clock ring with
      | (some report, s) => finish report s
      | (none, s) =>
        let stats := s.printout.state.stats
        finish ⟨0, s.printout.output ++ summaryLines records s, Report.statsLines false stats⟩ s

/-- Runs a simulation in the ring that the settings name.  The ring is given back if it is held, and removed
otherwise. -/
def runSimulation (path : String) (records staleEvery : UInt32) (hold : Bool) (loaded : Except Error Settings)
    (clock : Clock σ) (state : σ) (objects : Objects) : Simulated × Option SharedRing × σ × Objects :=
  match loaded with
  | .error e => (.finished (.failure "" e), none, state, objects)
  | .ok settings =>
    match objects.createRing settings.ring.name settings.ring.geometry with
    | (.error e, objects) => (.finished (.failure "" (.sharedMemory e)), none, state, objects)
    | (.ok shared, objects) =>
      let ((simulated, state), objects) := objects.modify shared.region.object fun memory =>
        let (simulated, state, memory) :=
          simulateRing path records staleEvery hold settings clock shared.ring state memory
        ((simulated, state), memory)
      match simulated with
      | .finished report => (.finished report, none, state, objects.close shared.region)
      | .holding output => (.holding output, some shared, state, objects)

end EventRing.Command
