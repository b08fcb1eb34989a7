import EventRing.Command.Arguments
import EventRing.Command.Dump
import EventRing.Command.Simulate
import EventRing.Settings.Document

/-!
# The program

Fetches what a command works on, runs it, and carries its outcome out.  The objects of other processes are files in the
directory of shared memory; a command sees the one that its settings name.
-/

namespace EventRing.Program

/-- The file of a shared object. -/
def objectPath (name : String) : String := "/dev/shm/" ++ name

/-- What a path leads to. -/
def readSettingsFile (path : String) : IO SettingsFile := do
  try
    let content ← IO.FS.readBinFile path
    return .bytes content.toList
  catch
    | .noFileOrDirectory .. => return .missing
    | _ => return .directory

/-- The settings in a file. -/
def readSettings (path : String) : IO (Except Error Settings) := do
  return Settings.ofFile path (← readSettingsFile path)

/-- The shared object that the settings name, if there is one. -/
def loadObject (settings : Settings) : IO Objects := do
  let name := settings.ring.name.text
  try
    let content ← IO.FS.readBinFile (objectPath name)
    let objects := Objects.empty.put name content.size
    match objects.find? name with
    | some (object, _) => return objects.setMemory object ⟨content⟩
    | none => return objects
  catch _ => return .empty

/-- Publishes the read offset of the ring in its file; nothing else in the file changes. -/
def publishReadOffset (settings : Settings) (memory : Memory) : IO Unit := do
  let ring : Ring := ⟨0, settings.ring.geometry⟩
  let file ← IO.FS.Handle.mk (objectPath settings.ring.name.text) .readWrite
  let _ ← file.read 4
  file.write (ByteArray.mk (Bytes.ofUInt32 (ring.readOffset memory)).toArray)
  file.flush

/-- The clock that shows the present. -/
def clock : IO (Clock Unit) := do return .fixed (UInt64.ofNat (← IO.monoNanosNow))

/-- Prints what a command leaves behind and gives its exit code. -/
def finish (report : Report) : IO UInt32 := do
  IO.print report.output
  for line in report.errors do
    IO.eprintln line
  return UInt32.ofNat report.exitCode

/-- Prints the events of a ring once. -/
def dump (json : Bool) (settings : Settings) : IO UInt32 := do
  let (report, _, objects) := Command.runDump json (.ok settings) (← clock) () (← loadObject settings)
  match objects.find? settings.ring.name.text with
  | some (object, _) => publishReadOffset settings (objects.memory object)
  | none => pure ()
  finish report

/-- Prints the events of a ring until interrupted. -/
partial def follow (json : Bool) (settings : Settings) (stats : Stats) (printed : Nat) : IO UInt32 := do
  match (← loadObject settings).openRing settings.ring.name settings.ring.geometry with
  | (.error e, _) => finish (.failure "" (.sharedMemory e))
  | (.ok shared, objects) =>
    let p : Printout Unit := ⟨⟨objects.memory shared.region.object, (), stats⟩, "", printed⟩
    let (ended, p) := p.pump json settings.reader (← clock) shared.ring
    publishReadOffset settings p.state.memory
    match ended with
    | some report => finish report
    | none =>
      IO.print p.output
      (← IO.getStdout).flush
      IO.sleep (UInt32.ofNat settings.reader.pollInterval.milliseconds)
      follow json settings p.state.stats p.printed

/-- Keeps a ring in the directory of shared memory until a line or the end of the input is read. -/
def hold (output : String) (name : String) (memory : Memory) : IO UInt32 := do
  let file ← IO.FS.Handle.mk (objectPath name) .writeNew
  file.write memory.bytes
  file.flush
  IO.print output
  (← IO.getStdout).flush
  let _ ← (← IO.getStdin).getLine
  IO.FS.removeFile (objectPath name)
  return 0

/-- Runs a simulation. -/
def simulate (path : String) (records staleEvery : UInt32) (held : Bool) (settings : Settings) : IO UInt32 := do
  let (simulated, shared, _, objects) :=
    Command.runSimulation path records staleEvery held (.ok settings) (← clock) () (← loadObject settings)
  match simulated, shared with
  | .holding output, some shared => hold output shared.region.name (objects.memory shared.region.object)
  | .holding output, none => finish ⟨0, output, []⟩
  | .finished report, _ => finish report

/-- Runs a command that was understood. -/
def run (invocation : Invocation) : IO UInt32 := do
  match invocation.command with
  | .validate path => finish (.ofSettings (← readSettings path))
  | .dump repeated json =>
    match ← readSettings invocation.settingsFile with
    | .error e => finish (.failure "" e)
    | .ok settings => if repeated then follow json settings .zero 0 else dump json settings
  | .simulate records staleEvery held =>
    match ← readSettings invocation.settingsFile with
    | .error e => finish (.failure "" e)
    | .ok settings => simulate invocation.settingsFile records staleEvery held settings

end EventRing.Program

/-- Runs a command line. -/
def main (args : List String) : IO UInt32 := do
  match EventRing.Invocation.ofArguments args with
  | some invocation => EventRing.Program.run invocation
  | none =>
    IO.eprintln "error: the command line is not understood"
    return 2
