import EventRing.Settings
import EventRing.Text.Quoted

/-!
# What a command prints

The lines for events, for the counters of a reader and for checked settings, and the outcome of a command as a whole.
-/

namespace EventRing

/-- What a finished command leaves behind: an exit code, its output, and the lines of its error output. -/
structure Report where
  exitCode : Nat
  output : String
  errors : List String
deriving DecidableEq

namespace Report

/-- The outcome of a command that failed after it had printed `output`.  The message is quoted, which keeps it in one
line. -/
def failure (output : String) (e : Error) : Report := ⟨1, output, ["Error: " ++ Text.quoted e.message]⟩

/-- The outcome of a command that halted after it had printed `output`. -/
def halt (output : String) : Report := ⟨101, output, ["attempt to subtract with overflow"]⟩

/-- A number in a column of six characters. -/
def column6 (n : Nat) : String :=
  let digits := toString n
  "".pushn ' ' (6 - digits.length) ++ digits

example : column6 42 = "    42" := by cbv

/-- The line for the event with the given number. -/
def eventLine (json : Bool) (number : Nat) (event : Event) : String :=
  if json then event.toJson.text ++ "\n" else "[" ++ column6 number ++ "] " ++ event.text ++ "\n"

/-- The lines for the counters of a reader. -/
def statsLines (json : Bool) (stats : Stats) : List String :=
  if json then [stats.toJson.text]
  else
    ["", "Reader Statistics:", "  Delivered:        " ++ toString stats.delivered,
      "  Stale Discarded:  " ++ toString stats.staleDiscarded,
      "  Skip Markers:     " ++ toString stats.skipMarkers,
      "  Decode Failures:  " ++ toString stats.decodeFailures]

/-- The output of several polls: the lines of their events, numbered from `printed` on, and the number after them. -/
def eventLines (json : Bool) : (printed : Nat) → List Poll → String × Nat
  | printed, [] => ("", printed)
  | printed, .event event :: more =>
    let (rest, last) := eventLines json (printed + 1) more
    (eventLine json printed event ++ rest, last)
  | printed, _ :: more => eventLines json printed more

/-- The error or halt that ended a sequence of polls early. -/
def earlyEnd (output : String) (polls : List Poll) : Option Report :=
  match polls.getLast? with
  | some (.failed e) => if e.leavesRingUsable then none else some (failure output e)
  | some .halted => some (halt output)
  | _ => none

/-- The output for settings that were accepted. -/
def settingsText (settings : Settings) : String :=
  let geometry := settings.ring.geometry
  "✓ Configuration is valid\n\nRing Settings:\n"
    ++ "  Name:             " ++ settings.ring.name.text ++ "\n"
    ++ "  Capacity:         " ++ toString geometry.capacity.toNat ++ " bytes\n"
    ++ "  Header Format:    " ++ geometry.format.title ++ " (" ++ toString geometry.headerSize.toNat ++ " bytes)\n"
    ++ "  Mapping Size:     " ++ toString geometry.sharedSize ++ " bytes\n"
    ++ "\nReader Settings:\n"
    ++ "  Staleness Window: " ++ toString settings.reader.stalenessWindow.milliseconds ++ "ms\n"
    ++ "  Max Payload:      " ++ toString settings.reader.maxPayload ++ " bytes\n"
    ++ "  Report Layout:    " ++ settings.reader.layout.name ++ "\n"
    ++ "  Poll Interval:    " ++ toString settings.reader.pollInterval.milliseconds ++ "ms\n"

/-- The outcome of checking a configuration file.  The message may have several lines. -/
def ofSettings : Except Error Settings → Report
  | .ok settings => ⟨0, settingsText settings, []⟩
  | .error e => ⟨1, "", "✗ Configuration validation failed:" :: ("  " ++ e.message).splitOn "\n"⟩

end Report

end EventRing
