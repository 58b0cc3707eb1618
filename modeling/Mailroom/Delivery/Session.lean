import Mailroom.Store.Bench
import Mailroom.Delivery.StorageTarget

/-! # Sessions

A `Session` is a bench on which deliveries are open by name, so that several of them can go on in
turns.  Transactions go to the storage target if one was opened, otherwise to the store behind
the planned faults; deliveries below the transaction layer always go to that store. -/

namespace Mailroom

/-- An open transaction.  Through a target nothing of its state can be seen. -/
structure OpenTransaction where
  visible : Bool
  transaction : Transaction StoreDelivery

/-- A bench with open deliveries. -/
structure Session where
  bench : Bench := {}
  /-- Where transactions go. -/
  backend : Backend Bench StoreDelivery := Bench.faulty
  storage? : Option (Storage Bench StoreDelivery) := none
  rules : DeliveryRules := {}
  /-- The directory for message bodies. -/
  directory? : Option String := none
  /-- The open transactions by name. -/
  transactions : NameMap OpenTransaction := {}
  /-- The open deliveries of the store by name. -/
  deliveries : NameMap StoreDelivery := {}

namespace Session

/-- Runs an operation on the bench. -/
def onBench {α : Type} (act : Act Bench α) : Act Session α :=
  Act.onPart Session.bench (fun bench s => { s with bench }) act

/-- The files of the host. -/
def disk (s : Session) : FileSystem := s.bench.host.disk

/-- Changes the files of the host. -/
def mapDisk (s : Session) (change : FileSystem → FileSystem) : Session :=
  { s with bench := s.bench.mapDisk change }

/-- The files that hold message bodies. -/
def bodyFiles (s : Session) : List (Location × Bytes) := s.directory?.elim [] s.disk.filesIn

/-- The session with its directory for message bodies removed. -/
def withoutDirectory (s : Session) : Session :=
  match s.directory?.bind s.disk.directory? with
  | some place => s.mapDisk (·.eraseTree place)
  | none => s

/-- The session with an empty directory in place of every file with a message body. -/
def withBlockedBodies (s : Session) : Session :=
  s.mapDisk fun fs => s.bodyFiles.foldl (fun fs file => fs.put file.1 .directory) fs

/-- The session with its transactions going to a storage target. -/
def withStorage (s : Session) (storage : Storage Bench StoreDelivery) : Session :=
  { s with backend := storage.backend, storage? := some storage, rules := storage.rules }

/-- Opens a storage target: over a store of its own, or over the one behind the planned faults. -/
def openStorage (separate : Bool) (instanceName : String) (args : List String)
    (config : StorageConfig) (context : PipelineContext) :
    Act Session (Except Failure (Storage Bench StoreDelivery)) :=
  let onHost {α : Type} (act : Act Host α) : Act Session α :=
    onBench (Act.onPart Bench.host (fun host b => { b with host }) act)
  if separate then
    (onHost (Storage.open instanceName args config context)).andThen fun (storage, options) =>
      let storage := storage.withBackend Bench.separate
      (Act.modify fun s => { s.withStorage storage with
        bench := { s.bench with own := { options } }
        directory? := options.bodyDirectory? }).bind fun _ => Act.pure (.ok storage)
  else
    (onHost (Storage.around instanceName config context Bench.faulty)).andThen fun storage =>
      (Act.modify (·.withStorage storage)).bind fun _ => Act.pure (.ok storage)

/-- Opens a transaction under a name, in place of one that had it. -/
def start (name : String) (visible : Bool)
    (act : Act Bench (Except Failure (Transaction StoreDelivery))) :
    Act Session (Except Failure Unit) :=
  (onBench act).andThen fun transaction =>
    (Act.modify fun s =>
      { s with transactions := s.transactions.put name ⟨visible, transaction⟩ }).bind fun _ =>
        Act.pure (.ok ())

/-- Runs an operation on an open transaction; the answer holds the transaction afterwards. -/
def onTransaction (s : Session) (name : String) (act : TransactionAct Bench StoreDelivery) :
    Option (Step Session (Except Failure Unit × OpenTransaction)) :=
  (s.transactions.get? name).map fun o =>
    let step := act (s.bench, o.transaction)
    let (bench, transaction) := step.state
    let o := { o with transaction }
    ⟨(step.answer, o), { s with bench, transactions := s.transactions.put name o }, step.events⟩

/-- Opens a delivery of the store under a name. -/
def startDelivery (name : String) : Act Session (Except StoreFault Unit) :=
  (onBench Bench.faulty.start).andThen fun delivery =>
    (Act.modify fun s => { s with deliveries := s.deliveries.put name delivery }).bind fun _ =>
      Act.pure (.ok ())

/-- Runs an operation on an open delivery of the store. -/
def onDelivery (s : Session) (name : String) (act : DeliveryAct Bench StoreDelivery) :
    Option (Step Session (Except StoreFault Unit)) :=
  (s.deliveries.get? name).map fun delivery =>
    let step := act (s.bench, delivery)
    let (bench, delivery) := step.state
    ⟨step.answer, { s with bench, deliveries := s.deliveries.put name delivery }, step.events⟩

end Session

end Mailroom
