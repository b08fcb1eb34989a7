import EventRing.Event
import EventRing.Validation

/-!
# Errors

The ways in which an operation on a ring, a shared object or a configuration fails, one constructor per cause, and the
wording of each.  Only a decode error leaves the ring fit to be read on: `Error.leavesRingUsable`.
-/

namespace EventRing

/-- The offset of a ring that an error speaks of. -/
inductive OffsetField where
  | read
  | write
  | record
deriving DecidableEq

namespace OffsetField

/-- The word for an offset. -/
def name : OffsetField → String
  | read => "read"
  | write => "write"
  | record => "record"

end OffsetField

/-- A control block or a record header that cannot be right. -/
inductive FramingError where
  /-- An offset is not inside the data area. -/
  | offsetOutOfRange (field : OffsetField) (offset capacity : UInt32)
  /-- A header would cross the end of the data area. -/
  | headerOverrun (offset headerSize capacity : UInt32)
  /-- A record would cross the end of the data area. -/
  | advanceOverrun (offset : UInt32) (consumed : UInt64) (capacity : UInt32)
  /-- A record would reach past what the producer has published. -/
  | recordPastWriteOffset (offset : UInt32) (stop : UInt64) (writeOffset : UInt32)
  /-- A payload size that no ring could hold. -/
  | sizeOverflow (offset : UInt32) (size : UInt64)
deriving DecidableEq

namespace FramingError

/-- The wording of a framing error. -/
def message : FramingError → String
  | offsetOutOfRange field offset capacity =>
    field.name ++ " offset " ++ toString offset.toNat ++ " is outside capacity " ++ toString capacity.toNat
  | headerOverrun offset headerSize capacity =>
    "Record header at offset " ++ toString offset.toNat ++ " (" ++ toString headerSize.toNat
      ++ " bytes) straddles capacity " ++ toString capacity.toNat
  | advanceOverrun offset consumed capacity =>
    "Advancing " ++ toString consumed.toNat ++ " bytes from offset " ++ toString offset.toNat
      ++ " overruns capacity " ++ toString capacity.toNat
  | recordPastWriteOffset offset stop writeOffset =>
    "Record at offset " ++ toString offset.toNat ++ " ends at " ++ toString stop.toNat ++ ", past write offset "
      ++ toString writeOffset.toNat
  | sizeOverflow offset size =>
    "Record payload size " ++ toString size.toNat ++ " at offset " ++ toString offset.toNat
      ++ " is not representable"

end FramingError

/-- What the system answers to a request for a shared object. -/
inductive SystemError where
  | taken
  | missing
  | isDirectory
  | nameTooLong
deriving DecidableEq

namespace SystemError

/-- The wording of a system error, with its number. -/
def message : SystemError → String
  | taken => "File exists (os error 17)"
  | missing => "No such file or directory (os error 2)"
  | isDirectory => "Is a directory (os error 21)"
  | nameTooLong => "File name too long (os error 36)"

end SystemError

/-- Why a shared object cannot be made or opened. -/
inductive RegionFault where
  | sizeOutOfRange (size : Nat)
  | nameEmpty
  | nameWithSlash
  | nameWithZero (position : Nat)
  | system (error : SystemError)
  | objectSize (size : Nat)
deriving DecidableEq

/-- The smallest shared object a ring accepts. -/
def minObjectSize : Nat := 4096

/-- The largest shared object a ring accepts. -/
def maxObjectSize : Nat := 16777216

namespace RegionFault

/-- The wording of a fault. -/
def message : RegionFault → String
  | sizeOutOfRange size =>
    "Size " ++ toString size ++ " is outside " ++ toString minObjectSize ++ "..=" ++ toString maxObjectSize
  | nameEmpty => "Name cannot be empty"
  | nameWithSlash => "Name cannot contain '/'"
  | nameWithZero position =>
    "Invalid name: nul byte found in provided data at position: " ++ toString position
  | system error => "shm_open failed: " ++ error.message
  | objectSize size => "Unexpected object size " ++ toString size

end RegionFault

/-- Why a ring cannot be made, attached to or written. -/
inductive SharedMemoryError where
  | createFailed (name : String) (fault : RegionFault)
  | openFailed (name : String) (fault : RegionFault)
  | misaligned
  | regionTooSmall (size : Nat) (capacity : UInt32) (required : Nat)
  | capacityMismatch (expected found : UInt32)
  | uninitialized
  | corruptControlBlock (error : FramingError)
  | alreadyInitialized (name : String)
  | ringFull (size : Nat) (writable : UInt32)
  | payloadTooLarge (size max : Nat)
deriving DecidableEq

namespace SharedMemoryError

/-- The wording of a shared memory error. -/
def message : SharedMemoryError → String
  | createFailed name fault => "Failed to create shared memory region: " ++ name ++ " - " ++ fault.message
  | openFailed name fault => "Failed to open shared memory region: " ++ name ++ " - " ++ fault.message
  | misaligned => "Failed to map shared memory: Ring base is not 4-byte aligned"
  | regionTooSmall size capacity required =>
    "Region of " ++ toString size ++ " bytes cannot hold a ring of capacity " ++ toString capacity.toNat
      ++ " (needs " ++ toString required ++ ")"
  | capacityMismatch expected found =>
    "Ring declares capacity " ++ toString found.toNat ++ ", expected " ++ toString expected.toNat
  | uninitialized => "Ring buffer is not initialized"
  | corruptControlBlock error => "Ring control block is corrupted: " ++ error.message
  | alreadyInitialized name => "Ring buffer '" ++ name ++ "' is already initialized"
  | ringFull size writable =>
    "Ring buffer full - cannot write " ++ toString size ++ " bytes (" ++ toString writable.toNat ++ " writable)"
  | payloadTooLarge size max =>
    "Payload size exceeds maximum: " ++ toString size ++ " > " ++ toString max

end SharedMemoryError

/-- Why a configuration file cannot be read as text. -/
inductive FileFault where
  | isDirectory
  | notUtf8
deriving DecidableEq

namespace FileFault

/-- The wording of a file fault. -/
def message : FileFault → String
  | isDirectory => "Is a directory (os error 21)"
  | notUtf8 => "stream did not contain valid UTF-8"

end FileFault

/-- Any failure of a reader, a configuration or a command. -/
inductive Error where
  | rejected (error : ValidationError)
  | settingsNotFound (path : String)
  | settingsSyntax
  | settingsUnreadable (fault : FileFault)
  | framing (error : FramingError)
  | decode (error : DecodeError)
  | notInitialized (name : String)
  | sharedMemory (error : SharedMemoryError)
deriving DecidableEq

namespace Error

/-- The wording of an error. -/
def message : Error → String
  | rejected error => "Hard validation error: " ++ error.message
  | settingsNotFound path => "Configuration file not found: " ++ path
  | settingsSyntax => "Configuration parse error: YAML parse error: not a configuration"
  | settingsUnreadable fault => "IO error: reading config file - " ++ fault.message
  | framing error => "Framing error: " ++ error.message
  | decode error => "Decode error: " ++ error.message
  | notInitialized name => "Ring buffer '" ++ name ++ "' has not been initialized by the producer"
  | sharedMemory error => "Shared memory error: " ++ error.message

/-- Whether the ring can still be read after the error: a decode error has consumed just its own record. -/
def leavesRingUsable : Error → Bool
  | decode _ => true
  | _ => false

end Error

/-- How an operation ends: with a value, with an error, or by halting because an unsigned difference would be below
zero. -/
inductive Outcome (ε α : Type) where
  | done (value : α)
  | failed (error : ε)
  | halted
deriving DecidableEq

end EventRing
