import EventRing.Reader
import EventRing.Ring.Produce

/-!
# Benchmark fixtures

Rings filled with report responses of one age, so that a measurement is of the reader alone.
-/

namespace EventRing.Fixture

/-- The time that every fixture takes for the present. -/
def now : UInt64 := 1000000000000

/-- The name of a fixture ring. -/
def ringName : RingName := ⟨"bench", by decide, by decide, by decide⟩

/-- A ring in memory of its own that is set up and empty. -/
def ring (geometry : Geometry) : Except SharedMemoryError (Ring × Memory) :=
  let blank := Memory.zeros geometry.memorySize
  match Ring.attach 0 geometry.memorySize geometry blank with
  | .error e => .error e
  | .ok r =>
    match r.setUp blank ringName with
    | (.error e, _) => .error e
    | (.ok (), memory) => .ok (r, memory)

/-- A report payload of the compact layout with `size` report bytes. -/
def payload (size : Nat) : List UInt8 :=
  [0xDC, 0x68, 0xEB, 0x11, 0x22, 0x33, 0, 0] ++ List.replicate size 0xAB

/-- Writes up to `count` report responses with the given timestamp and says how many went in. -/
def fill (r : Ring) (timestamp : UInt64) (payload : List UInt8) :
    Nat → Memory → Outcome SharedMemoryError Nat × Memory
  | 0, m => (.done 0, m)
  | count + 1, m =>
    match r.write m .getReport timestamp payload with
    | (.failed _, m) => (.done 0, m)
    | (.halted, m) => (.halted, m)
    | (.done (), m) =>
      match fill r timestamp payload count m with
      | (.done written, m) => (.done (written + 1), m)
      | stopped => stopped

/-- Writes up to `count` report responses of the given age and stops at the first that does not go in.  It halts if
there is one to write and its timestamp would be below zero. -/
def fillAged (r : Ring) (m : Memory) (count size : Nat) (age : UInt64) : Outcome SharedMemoryError Nat × Memory :=
  if count = 0 then (.done 0, m)
  else if now < age then (.halted, m)
  else fill r (now - age) (payload size) count m

end EventRing.Fixture
