import EventRing.Fixture
import EventRing.Main
import EventRing.Proofs.Acceptance
import EventRing.Proofs.Capacity
import EventRing.Proofs.Commutation
import EventRing.Proofs.Concurrency
import EventRing.Proofs.Draining
import EventRing.Proofs.Fifo
import EventRing.Proofs.Framing
import EventRing.Proofs.Honest
import EventRing.Proofs.Hostile
import EventRing.Proofs.HostileProducer
import EventRing.Ring.Description
import EventRing.Ring.Queue
import EventRing.Ring.Traffic
import EventRing.Proofs.Dropping
import EventRing.Proofs.Failing
import EventRing.Proofs.Pumping
import EventRing.Proofs.Appending
import EventRing.Proofs.Sharing
import EventRing.Proofs.Atomicity
import EventRing.Proofs.Ownership
import EventRing.Proofs.Simulation
import EventRing.Proofs.Refusing
import EventRing.Proofs.Holding
import EventRing.Proofs.Dumping
import EventRing.Proofs.Staleness
import EventRing.Proofs.HeaderCodec
import EventRing.Proofs.Decoding
import EventRing.Proofs.Fixtures
import EventRing.Proofs.Validating
import EventRing.Proofs.Versions
import EventRing.Proofs.Naming
import EventRing.Proofs.Samples
import EventRing.Proofs.Lossless
import EventRing.Proofs.Arithmetic
