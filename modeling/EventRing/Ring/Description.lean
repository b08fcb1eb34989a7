import EventRing.Ring.Control
import EventRing.Text.Quoted

/-!
# Describing a ring

The one-line description of a ring for diagnosis: its quoted name, the geometry of the handle, and what the control
block says at the moment.
-/

namespace EventRing.Ring

/-- The fields of a description with their values. -/
def details (r : Ring) (m : Memory) : List (String × String) :=
  [("name", Text.quoted (r.name m)), ("capacity", toString r.capacity.toNat),
    ("header_format", r.geometry.format.title), ("read_offset", toString (r.readOffset m).toNat),
    ("write_offset", toString (r.writeOffset m).toNat),
    ("initialized", if r.isSetUp m then "true" else "false")]

/-- The description of a ring. -/
def description (r : Ring) (m : Memory) : String :=
  "RingBuffer \x7b " ++ String.intercalate ", " ((r.details m).map fun (field, value) => field ++ ": " ++ value)
    ++ " \x7d"

end EventRing.Ring
