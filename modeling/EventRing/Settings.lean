import EventRing.Error
import EventRing.Geometry
import EventRing.Reader
import EventRing.RingName
import EventRing.Text.Blank
import EventRing.Text.Utf8

/-!
# Settings

Which ring to use and how to read it.  `Draft` holds the settings as they are written, each one already of the right
type; `Draft.validate` checks them one after the other and gives a `Settings`.  In which language settings are written
is left open: `Settings.ofTextBy` and `Settings.ofFileBy` take the function that reads a text as a draft.
-/

namespace EventRing

/-- The written settings of a ring. -/
structure RingDraft where
  name : String
  capacity : UInt32
  format : HeaderFormat
deriving DecidableEq

/-- The written settings of a reader. -/
structure ReaderDraft where
  stalenessWindow : UInt64
  maxPayload : UInt64
  layout : Option Layout
  firmware : Option Firmware
  pollInterval : UInt64
deriving DecidableEq

/-- All settings as written. -/
structure Draft where
  ring : RingDraft
  reader : ReaderDraft
deriving DecidableEq

/-- The settings of a ring. -/
structure RingSettings where
  name : RingName
  geometry : Geometry

/-- The settings of a reader. -/
structure ReaderSettings where
  stalenessWindow : Duration
  maxPayload : Nat
  layout : Layout
  pollInterval : Duration

/-- All settings. -/
structure Settings where
  ring : RingSettings
  reader : ReaderSettings

namespace RingDraft

/-- What is used for settings that are not written. -/
def standard : RingDraft := ⟨"bt-hid-events", 10000, .packed⟩

/-- Checks the name, then the capacity. -/
def validate (draft : RingDraft) : Except ValidationError RingSettings :=
  match RingName.ofString draft.name with
  | .error e => .error e
  | .ok name =>
    match Geometry.ofCapacity draft.capacity draft.format with
    | .error e => .error e
    | .ok geometry => .ok ⟨name, geometry⟩

end RingDraft

namespace ReaderDraft

/-- What is used for settings that are not written. -/
def standard : ReaderDraft := ⟨100, 0x2C8, none, none, 10⟩

/-- The layout that is written, or else that of the firmware that is written. -/
def chosenLayout (draft : ReaderDraft) : Except ValidationError Layout :=
  match draft.layout, draft.firmware with
  | some _, some _ => .error .layoutConflict
  | some layout, none => .ok layout
  | none, some version => .ok (Layout.ofFirmware version)
  | none, none => .ok .compact

/-- Checks the window, the largest payload and the poll interval, then the choice of a layout. -/
def validate (draft : ReaderDraft) : Except ValidationError ReaderSettings :=
  if draft.stalenessWindow < 1 ∨ 10000 < draft.stalenessWindow then .error (.stalenessWindow draft.stalenessWindow)
  else if draft.maxPayload < 1 ∨ maxCapacity.toUInt64 < draft.maxPayload then .error (.maxPayload draft.maxPayload)
  else if draft.pollInterval < 1 ∨ 60000 < draft.pollInterval then .error (.pollInterval draft.pollInterval)
  else
    match draft.chosenLayout with
    | .error e => .error e
    | .ok layout =>
      .ok {
        stalenessWindow := .ofMilliseconds draft.stalenessWindow.toNat
        maxPayload := draft.maxPayload.toNat
        layout
        pollInterval := .ofMilliseconds draft.pollInterval.toNat }

end ReaderDraft

namespace Draft

/-- What is used for settings that are not written. -/
def standard : Draft := ⟨.standard, .standard⟩

/-- Checks the ring's settings, then the reader's. -/
def validate (draft : Draft) : Except ValidationError Settings :=
  match draft.ring.validate with
  | .error e => .error e
  | .ok ring =>
    match draft.reader.validate with
    | .error e => .error e
    | .ok reader => .ok ⟨ring, reader⟩

end Draft

namespace ReaderSettings

/-- The reader with these settings. -/
def toReader (c : ReaderSettings) : Reader := ⟨c.layout, c.stalenessWindow⟩

end ReaderSettings

/-- What a path leads to. -/
inductive SettingsFile where
  | missing
  | directory
  | bytes (content : List UInt8)

namespace Settings

/-- The settings as a text has them.  Nothing is written in a text of white space; any other is for `read` to make sense
of. -/
def draftBy (read : String → Option Draft) (text : String) : Option Draft :=
  if (Text.trim text.toList).isEmpty then some .standard else read text

/-- Reads and checks the settings in a text. -/
def ofTextBy (read : String → Option Draft) (text : String) : Except Error Settings :=
  match draftBy read text with
  | none => .error .settingsSyntax
  | some draft =>
    match draft.validate with
    | .error e => .error (.rejected e)
    | .ok settings => .ok settings

/-- Reads and checks the settings in a file. -/
def ofFileBy (read : String → Option Draft) (path : String) : SettingsFile → Except Error Settings
  | .missing => .error (.settingsNotFound path)
  | .directory => .error (.settingsUnreadable .isDirectory)
  | .bytes content =>
    match Text.Utf8.strict? content with
    | none => .error (.settingsUnreadable .notUtf8)
    | some text => ofTextBy read text

end Settings

end EventRing
