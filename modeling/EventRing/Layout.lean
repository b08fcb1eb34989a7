import EventRing.Event
import EventRing.Firmware

/-!
# Payload layouts

The producer's firmware decides where a report response keeps the device address and the report.

```text
compact:              address[6] | status[2] | report
legacy (before 9.0):  size[2] | unused[1] | address[6] | unused[3] | report
v2 (9.0 and later):   unused[5] | address[6] | unused[1] | report
```
-/

namespace EventRing

/-- The layout of report-response payloads. -/
inductive Layout where
  | compact
  | legacy
  | v2
deriving DecidableEq

namespace Layout

/-- The layout of a producer with the given firmware. -/
def ofFirmware (version : Firmware) : Layout :=
  if version.atLeast ⟨9, 0, 0⟩ then v2 else legacy

/-- The name of a layout. -/
def name : Layout → String
  | compact => "compact"
  | legacy => "legacy"
  | v2 => "v2"

/-- The layout with the given name. -/
def ofName? (s : String) : Option Layout :=
  if s = "compact" then some compact
  else if s = "legacy" then some legacy
  else if s = "v2" then some v2
  else none

/-- Where the device address begins. -/
def addressOffset : Layout → Nat
  | compact => 0
  | legacy => 3
  | v2 => 5

/-- Where the report begins; a payload must reach at least this far. -/
def reportOffset : Layout → Nat
  | compact => 8
  | legacy => 12
  | v2 => 12

/-- The longest payload of a kind that is handed on uncut, where the layout fixes one. -/
def fixedLimit : Layout → Kind → Option Nat
  | v2, .unknown09 => some 0x2C8
  | legacy, .unknown09 => some 0x290
  | _, _ => none

/-- The status in a report payload; only the compact layout carries one. -/
def status (layout : Layout) (payload : List UInt8) : Status :=
  match layout with
  | compact => .ofNumber (Bytes.toUInt32 ((payload.drop 6).take 2))
  | legacy => .ok
  | v2 => .ok

/-- Decodes a report payload for a destination that takes `max` report bytes.  A report is never cut. -/
def decodeReport (layout : Layout) (payload : List UInt8) (max : Nat) : Except DecodeError Event :=
  if payload.length < layout.reportOffset then
    .error (.payloadTooShort .getReport layout.reportOffset payload.length)
  else if max < payload.length - layout.reportOffset then
    .error (.bufferTooSmall (payload.length - layout.reportOffset) max)
  else
    match Address.ofBytes? (payload.drop layout.addressOffset) with
    | none => .error (.payloadTooShort .getReport (layout.addressOffset + Address.size) payload.length)
    | some address =>
      .ok (.getReport address (layout.status payload) (UInt32.ofNat payload.length)
        (payload.drop layout.reportOffset))

/-- The number of bytes of a payload that a destination of `max` bytes is given. -/
def handedSize (layout : Layout) (kind : Kind) (max : Nat) : Nat :=
  match layout.fixedLimit kind with
  | some limit => min limit max
  | none => max

/-- Hands a payload on, cut to what the layout and the destination allow. -/
def handOn (layout : Layout) (kind : Kind) (payload : List UInt8) (max : Nat) : Event :=
  .passthrough kind (payload.take (layout.handedSize kind max))

/-- Decodes the payload of a record for a destination of `max` bytes. -/
def decode (layout : Layout) (kind : Kind) (payload : List UInt8) (max : Nat) : Except DecodeError Event :=
  match kind with
  | .connectionState => Event.decodeConnection payload max
  | .getReport => layout.decodeReport payload max
  | kind => .ok (layout.handOn kind payload max)

end Layout

end EventRing
