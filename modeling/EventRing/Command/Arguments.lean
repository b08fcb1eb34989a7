import EventRing.Text.Digits

/-!
# Command lines

What a command line asks for.  Options that belong to the whole program stand before the name of the command, those of a
command after it.  A long option takes its value after `=` or as the next argument, a short one also directly; short
flags may be written together.  No option may be repeated.
-/

namespace EventRing

/-- What the program is asked to do. -/
inductive Command where
  /-- Check a configuration file. -/
  | validate (file : String)
  /-- Print the events of a ring; `follow` goes on until interrupted. -/
  | dump (follow json : Bool)
  /-- Fill a new ring with synthetic records and read them back; `hold` leaves them for another process. -/
  | simulate (records staleEvery : UInt32) (hold : Bool)
deriving DecidableEq

/-- A command line that was understood. -/
structure Invocation where
  settingsFile : String
  verbose : Bool
  command : Command
deriving DecidableEq

/-- An option: its long name, its letter if it has one, and whether it takes a value. -/
structure OptionSpec where
  long : String
  short : Option Char
  takesValue : Bool

namespace Command

/-- The options found so far by long name, each with its value. -/
abbrev Found := List (String × String)

/-- Notes an option that must not be repeated. -/
def note (found : Found) (spec : OptionSpec) (value : String) : Option Found :=
  if (found.lookup spec.long).isSome then none else some ((spec.long, value) :: found)

/-- Reads the letters after a hyphen.  The second result is an option that still needs its value. -/
def readLetters (specs : List OptionSpec) : List Char → Found → Option (Found × Option OptionSpec)
  | [], found => some (found, none)
  | c :: more, found =>
    match specs.find? fun spec => spec.short = some c with
    | none => none
    | some spec =>
      if spec.takesValue then
        match more with
        | [] => some (found, some spec)
        | '=' :: value => (note found spec (String.ofList value)).map fun found => (found, none)
        | value => (note found spec (String.ofList value)).map fun found => (found, none)
      else (note found spec "").bind fun found => readLetters specs more found

/-- Reads a long option without its hyphens. -/
def readLong (specs : List OptionSpec) (text : List Char) (found : Found) : Option (Found × Option OptionSpec) :=
  let name := String.ofList (text.takeWhile (· ≠ '='))
  match specs.find? fun spec => spec.long = name with
  | none => none
  | some spec =>
    match text.dropWhile (· ≠ '=') with
    | [] => if spec.takesValue then some (found, some spec) else (note found spec "").map fun found => (found, none)
    | _ :: value =>
      if spec.takesValue then (note found spec (String.ofList value)).map fun found => (found, none) else none

/-- Whether an argument has the form of an option. -/
def isOption (arg : String) : Bool := arg.toList.head? = some '-' && arg ≠ "-"

/-- Reads arguments with `pending` waiting for its value.  With `leading` set the reading stops at the first argument
that is no option, and options must not be ended by two hyphens; the second result holds what is not an option. -/
def readOptions (specs : List OptionSpec) (leading : Bool) :
    List String → (pending : Option OptionSpec) → Found → Option (Found × List String)
  | [], none, found => some (found, [])
  | [], some _, _ => none
  | arg :: more, some spec, found =>
    if isOption arg then none
    else (note found spec arg).bind fun found => readOptions specs leading more none found
  | arg :: more, none, found =>
    match arg.toList with
    | ['-', '-'] => if leading then none else some (found, more)
    | '-' :: '-' :: long =>
      (readLong specs long found).bind fun (found, pending) => readOptions specs leading more pending found
    | '-' :: c :: letters =>
      (readLetters specs (c :: letters) found).bind fun (found, pending) =>
        readOptions specs leading more pending found
    | _ =>
      if leading then some (found, arg :: more)
      else (readOptions specs leading more none found).map fun (found, rest) => (found, arg :: rest)

/-- A number below 2 ^ 32, possibly with a plus sign; behind a minus sign only zero. -/
def number? (s : String) : Option UInt32 :=
  let number :=
    match s.toList with
    | '+' :: digits => Text.unsigned? 10 UInt32.size digits
    | '-' :: digits => Text.unsigned? 10 1 digits
    | digits => Text.unsigned? 10 UInt32.size digits
  number.map UInt32.ofNat

/-- The number given for an option, or its usual value. -/
def numberOption (found : Found) (name : String) (usual : UInt32) : Option UInt32 :=
  match found.lookup name with
  | none => some usual
  | some text => number? text

/-- Whether an option is given. -/
def isGiven (found : Found) (name : String) : Bool := (found.lookup name).isSome

/-- Reads the name of a command and what belongs to it. -/
def ofArguments : List String → Option Command
  | "validate" :: args =>
    match readOptions [] false args none [] with
    | some (_, [file]) => some (.validate file)
    | _ => none
  | "dump" :: args =>
    match readOptions [⟨"follow", some 'f', false⟩, ⟨"json", none, false⟩] false args none [] with
    | some (found, []) => some (.dump (isGiven found "follow") (isGiven found "json"))
    | _ => none
  | "simulate" :: args =>
    let specs : List OptionSpec :=
      [⟨"records", some 'r', true⟩, ⟨"stale-every", none, true⟩, ⟨"hold", none, false⟩]
    match readOptions specs false args none [] with
    | some (found, []) =>
      match numberOption found "records" 32, numberOption found "stale-every" 4 with
      | some records, some staleEvery => some (.simulate records staleEvery (isGiven found "hold"))
      | _, _ => none
    | _ => none
  | _ => none

end Command

namespace Invocation

/-- Reads a whole command line, without the name of the program. -/
def ofArguments (args : List String) : Option Invocation :=
  let specs : List OptionSpec := [⟨"config", some 'c', true⟩, ⟨"verbose", some 'v', false⟩]
  match Command.readOptions specs true args none [] with
  | none => none
  | some (found, rest) =>
    (Command.ofArguments rest).map fun command =>
      ⟨(found.lookup "config").getD "hidring.yaml", Command.isGiven found "verbose", command⟩

end Invocation

end EventRing
