import EventRing.Address
import EventRing.Bytes
import EventRing.Json
import EventRing.Kind

/-!
# Events

What a record says once its payload has been decoded, and how an event is shown as a line of text and as JSON.
Connection-state payloads have one fixed form and are decoded here; the payloads of report responses depend on the
firmware and are decoded in the module on layouts.  Main statement: `decodeConnection_eq_ok_iff` (a connection-state
payload decodes exactly if both it and the destination have twelve bytes).
-/

namespace EventRing

/-- The state of a device connection. -/
inductive ConnectionState where
  | connected
  | connecting
  | disconnected
  | disconnecting
  | failedMouseFromHost
  | failedKeyboardFromHost
  | failedTooManyDevices
  | failedNoBluetoothHidDriver
  | failedGeneric
  | unknown
deriving DecidableEq

namespace ConnectionState

/-- The state with the given number; a number without a state is unknown. -/
def ofNumber (n : UInt32) : ConnectionState :=
  if n = 0 then connected
  else if n = 1 then connecting
  else if n = 2 then disconnected
  else if n = 3 then disconnecting
  else if n = 4 then failedMouseFromHost
  else if n = 5 then failedKeyboardFromHost
  else if n = 6 then failedTooManyDevices
  else if n = 7 then failedNoBluetoothHidDriver
  else if n = 8 then failedGeneric
  else unknown

/-- The name of a state. -/
def name : ConnectionState → String
  | connected => "Connected"
  | connecting => "Connecting"
  | disconnected => "Disconnected"
  | disconnecting => "Disconnecting"
  | failedMouseFromHost => "FailedMouseFromHost"
  | failedKeyboardFromHost => "FailedKeyboardFromHost"
  | failedTooManyDevices => "FailedTooManyDevices"
  | failedNoBluetoothHidDriver => "FailedNoBluetoothHidDriver"
  | failedGeneric => "FailedGeneric"
  | unknown => "Unknown"

end ConnectionState

/-- The status of a report response. -/
inductive Status where
  | ok
  | handshakeHidNotReady
  | handshakeInvalidReportId
  | handshakeTransactionNotSupported
  | handshakeInvalidParameter
  | handshakeError
  | error
  | errorSdp
  | errorProtocol
  | errorDatabaseFull
  | errorDeviceTypeUnsupported
  | errorNoResources
  | errorAuthenticationFailed
  | errorHdl
  | other (number : UInt32)
deriving DecidableEq

namespace Status

/-- The status with the given number. -/
def ofNumber (n : UInt32) : Status :=
  if n = 0 then ok
  else if n = 1 then handshakeHidNotReady
  else if n = 2 then handshakeInvalidReportId
  else if n = 3 then handshakeTransactionNotSupported
  else if n = 4 then handshakeInvalidParameter
  else if n = 5 then handshakeError
  else if n = 6 then error
  else if n = 7 then errorSdp
  else if n = 8 then errorProtocol
  else if n = 9 then errorDatabaseFull
  else if n = 10 then errorDeviceTypeUnsupported
  else if n = 11 then errorNoResources
  else if n = 12 then errorAuthenticationFailed
  else if n = 13 then errorHdl
  else other n

/-- The name of a status; every unnamed number shares one. -/
def name : Status → String
  | ok => "Ok"
  | handshakeHidNotReady => "HandshakeHidNotReady"
  | handshakeInvalidReportId => "HandshakeInvalidReportId"
  | handshakeTransactionNotSupported => "HandshakeTransactionNotSupported"
  | handshakeInvalidParameter => "HandshakeInvalidParameter"
  | handshakeError => "HandshakeError"
  | error => "Error"
  | errorSdp => "ErrorSdp"
  | errorProtocol => "ErrorProtocol"
  | errorDatabaseFull => "ErrorDatabaseFull"
  | errorDeviceTypeUnsupported => "ErrorDeviceTypeUnsupported"
  | errorNoResources => "ErrorNoResources"
  | errorAuthenticationFailed => "ErrorAuthenticationFailed"
  | errorHdl => "ErrorHdl"
  | other _ => "Other"

/-- The text of a status: its name, with the number where the name does not tell it. -/
def text : Status → String
  | other number => "Other(" ++ toString number.toNat ++ ")"
  | status => status.name

/-- A status as JSON: its name, or an object holding the number of one without a name. -/
def toJson : Status → Json
  | other number => .object [("Other", .number number.toNat)]
  | status => .string status.name

/-- Whether the device reported success. -/
def isOk (status : Status) : Bool := status = ok

end Status

/-- A decoded record. -/
inductive Event where
  /-- A device changed its connection state. -/
  | connectionState (address : Address) (state : ConnectionState)
  /-- A device answered a report request; the length is that of the whole payload. -/
  | getReport (address : Address) (status : Status) (length : UInt32) (report : List UInt8)
  /-- A record whose payload is handed on as it is, possibly cut. -/
  | passthrough (kind : Kind) (payload : List UInt8)
deriving DecidableEq

/-- Why a record cannot be decoded. -/
inductive DecodeError where
  /-- The destination is smaller than what has to go into it. -/
  | bufferTooSmall (needed available : Nat)
  /-- The payload is shorter than its kind requires. -/
  | payloadTooShort (kind : Kind) (needed actual : Nat)
deriving DecidableEq

namespace DecodeError

/-- The wording of a decode error. -/
def message : DecodeError → String
  | bufferTooSmall needed available =>
    "Destination holds " ++ toString available ++ " bytes but " ++ toString needed ++ " are required"
  | payloadTooShort kind needed actual =>
    kind.text ++ " payload is " ++ toString actual ++ " bytes, layout requires at least " ++ toString needed

end DecodeError

namespace Event

/-- The bytes of a connection-state payload: an address, two bytes of padding, a number. -/
def connectionSize : Nat := 12

/-- The kind of record an event comes from. -/
def kind : Event → Kind
  | connectionState .. => .connectionState
  | getReport .. => .getReport
  | passthrough kind _ => kind

/-- Decodes a connection-state payload for a destination of `max` bytes. -/
def decodeConnection (payload : List UInt8) (max : Nat) : Except DecodeError Event :=
  if payload.length < connectionSize then
    .error (.payloadTooShort .connectionState connectionSize payload.length)
  else if max < connectionSize then .error (.bufferTooSmall connectionSize max)
  else
    match Address.ofBytes? payload with
    | none => .error (.payloadTooShort .connectionState connectionSize payload.length)
    | some address =>
      .ok (.connectionState address (.ofNumber (Bytes.toUInt32 ((payload.drop 8).take 4))))

theorem decodeConnection_eq_ok_iff {payload : List UInt8} {max : Nat} {event : Event} :
    decodeConnection payload max = .ok event ↔
      12 ≤ payload.length ∧ 12 ≤ max ∧ ∃ address : Address, address.bytes = payload.take 6 ∧
        event = .connectionState address (.ofNumber (Bytes.toUInt32 ((payload.drop 8).take 4))) := by
  unfold decodeConnection connectionSize
  constructor
  · intro h
    split at h
    · simp at h
    · next hlen =>
      split at h
      · simp at h
      · next hmax =>
        split at h
        · simp at h
        · next address ha =>
          have hbytes := (Address.ofBytes?_eq_some_iff.1 ha).2
          exact ⟨by omega, by omega, address, hbytes, (Except.ok.inj h).symm⟩
  · rintro ⟨hlen, hmax, address, hbytes, rfl⟩
    have ha : Address.ofBytes? payload = some address := Address.ofBytes?_eq_some_iff.2 ⟨by omega, hbytes⟩
    rw [if_neg (by omega), if_neg (by omega), ha]

/-- The line of text that shows an event. -/
def text : Event → String
  | connectionState address state => "ConnectionState " ++ address.text ++ " " ++ state.name
  | getReport address status length report =>
    "GetReport " ++ address.text ++ " " ++ status.text ++ " length=" ++ toString length.toNat ++ " report="
      ++ toString report.length ++ "B"
  | passthrough kind payload => kind.text ++ " payload=" ++ toString payload.length ++ "B"

/-- A byte string as JSON. -/
def bytesToJson (bs : List UInt8) : Json := .array (bs.map fun b => .number b.toNat)

/-- An event as a JSON object that begins with its type. -/
def toJson : Event → Json
  | connectionState address state =>
    .object [("type", .string "connection_state"), ("address", .string address.text),
      ("state", .string state.name)]
  | getReport address status length report =>
    .object [("type", .string "get_report"), ("address", .string address.text), ("status", status.toJson),
      ("report_length", .number length.toNat), ("report", bytesToJson report)]
  | passthrough kind payload =>
    .object [("type", .string "passthrough"), ("kind", .string kind.text), ("payload", bytesToJson payload)]

example : (passthrough (.other 16) [1, 255]).toJson.text =
    "\x7b\"type\":\"passthrough\",\"kind\":\"Other(0x10)\",\"payload\":[1,255]\x7d" := by cbv

end Event

end EventRing
