import EventRing.Header

/-!
# Rejected values

The reasons for which a value from outside is rejected before a ring is touched, and the wording of each.
-/

namespace EventRing

/-- The largest data area a ring may have. -/
def maxCapacity : UInt32 := 1048576

/-- The longest ring name, in bytes. -/
def maxNameLength : Nat := 15

/-- Why a value is rejected. -/
inductive ValidationError where
  | firmwareShape (text : String)
  | firmwareComponent (text : String)
  | nameEmpty
  | nameTooLong (name : String)
  | nameCharacters (name : String)
  | capacity (bytes : UInt32) (format : HeaderFormat)
  | stalenessWindow (milliseconds : UInt64)
  | maxPayload (bytes : UInt64)
  | pollInterval (milliseconds : UInt64)
  | layoutConflict
deriving DecidableEq

namespace ValidationError

/-- The wording for one field with a bad value. -/
def badField (field value reason : String) : String :=
  "Invalid field value: " ++ field ++ " = " ++ value ++ " - " ++ reason

/-- The wording of a rejection. -/
def message : ValidationError → String
  | firmwareShape text => badField "firmware_version" text "Expected major[.minor[.micro]]"
  | firmwareComponent text =>
    badField "firmware_version" text "Each component must be an integer between 0 and 255"
  | nameEmpty => badField "ring.name" "" "Ring name cannot be empty"
  | nameTooLong name =>
    badField "ring.name" name
      ("Ring name too long: " ++ toString name.utf8ByteSize ++ " bytes (max " ++ toString maxNameLength ++ ")")
  | nameCharacters name =>
    badField "ring.name" name "Ring name must contain only ASCII alphanumerics, '-', '_' and '.'"
  | capacity bytes format =>
    badField "ring.capacity" (toString bytes.toNat)
      ("Must be greater than the " ++ toString format.size.toNat ++ " byte header and at most "
        ++ toString maxCapacity.toNat)
  | stalenessWindow milliseconds =>
    badField "reader.staleness_window_ms" (toString milliseconds.toNat) "Must be between 1 and 10000"
  | maxPayload bytes =>
    badField "reader.max_payload" (toString bytes.toNat)
      ("Must be between 1 and " ++ toString maxCapacity.toNat)
  | pollInterval milliseconds =>
    badField "reader.poll_interval_ms" (toString milliseconds.toNat) "Must be between 1 and 60000"
  | layoutConflict =>
    "Conflicting fields: reader.layout and reader.firmware_version - Set one or the other"

end ValidationError

end EventRing
