import Mailroom.Store.Faults
import Mailroom.Store.Basic

/-! # Two stores on one host

A `Bench` is a host with two stores that share its files: one behind a queue of planned faults,
and one that a storage target opened for itself.  Either can be used as a backend of the whole
bench, so deliveries to both can be interleaved. -/

namespace Mailroom

/-- Two stores that share the files of a host. -/
structure Bench where
  host : Host := {}
  /-- The store behind the planned faults. -/
  main : Store := {}
  /-- The faults planned for the calls to come. -/
  plan : FaultPlan := []
  /-- The store of a storage target. -/
  own : Store := {}

namespace Bench

/-- The store behind the planned faults, as a backend. -/
def faulty : Backend Bench StoreDelivery :=
  Store.backend.withFaults.onPart
    (fun b => ({ b.main with host := b.host }, b.plan))
    (fun part b => { b with main := part.1, plan := part.2, host := part.1.host })

/-- The store of the storage target, as a backend. -/
def separate : Backend Bench StoreDelivery :=
  Store.backend.onPart (fun b => { b.own with host := b.host })
    (fun own b => { b with own, host := own.host })

/-- Plans one more fault. -/
def planFault (b : Bench) (call : StoreCall) (fault : StoreFault) : Bench :=
  { b with plan := b.plan ++ [(call, fault)] }

/-- Changes the files of the host. -/
def mapDisk (b : Bench) (change : FileSystem → FileSystem) : Bench :=
  { b with host := { b.host with disk := change b.host.disk } }

/-- Changes the store behind the planned faults; a fault leaves it as it was. -/
def administer (change : Store → Except StoreFault Store) : Act Bench (Except StoreFault Unit) :=
  Act.attempt fun b => (change b.main).map fun main => { b with main }

end Bench

end Mailroom
