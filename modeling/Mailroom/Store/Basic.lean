import Mailroom.Store.Interface
import Mailroom.NameMap

/-! # The store in memory

A `Store` keeps accounts with their mailboxes and messages.  The body of a delivery is stored once
and shared by every copy; with a body directory it goes to a file of its own there.

Every account starts with the mailbox `INBOX`.  A mailbox may have a special use; at delivery
time the first mailbox with the wanted use, in the order of names, is the special one. -/

namespace Mailroom

/-- The mailbox that every account starts with. -/
def inbox : String := "INBOX"

/-- A copy of a message as one account has it. -/
structure StoredMessage where
  /-- The fields of the recipient, then those of the message. -/
  header : Header
  body : Body
deriving DecidableEq, Repr

/-- The message as it is served. -/
def StoredMessage.toBytes (disk : FileSystem) (m : StoredMessage) : Except IoFault Bytes :=
  (m.body.read disk).map (m.header.toBytes ++ ·)

/-- A mailbox: its special use, and its messages in order of arrival. -/
structure Mailbox where
  specialUse? : Option String := none
  messages : List StoredMessage := []
deriving DecidableEq, Repr

/-- An account.  Without a password nobody can log in. -/
structure StoreAccount where
  password? : Option String
  mailboxes : NameMap Mailbox
deriving DecidableEq, Repr

namespace StoreAccount

/-- A new account. -/
def new (password? : Option String) : StoreAccount := ⟨password?, NameMap.put {} inbox {}⟩

/-- Makes sure that a mailbox exists. -/
def ensureMailbox (a : StoreAccount) (name : String) : StoreAccount :=
  if a.mailboxes.contains name then a else { a with mailboxes := a.mailboxes.put name {} }

/-- The mailbox that has a special use; if there is none, the mailbox `name` is created or
marked. -/
def specialMailbox (a : StoreAccount) (use name : String) : String × StoreAccount :=
  match a.mailboxes.findName? fun m => m.specialUse? == some use with
  | some found => (found, a)
  | none =>
    let mailbox := (a.mailboxes.get? name).getD {}
    (name,
      { a with mailboxes := a.mailboxes.put name { mailbox with specialUse? := some use } })

/-- Appends a message to a mailbox, if the mailbox exists. -/
def append (a : StoreAccount) (mailbox : String) (m : StoredMessage) : StoreAccount :=
  match a.mailboxes.get? mailbox with
  | some box =>
    { a with mailboxes := a.mailboxes.put mailbox { box with messages := box.messages ++ [m] } }
  | none => a

end StoreAccount

/-- The state of the store, and the host that it keeps files on. -/
structure Store where
  accounts : NameMap StoreAccount := {}
  /-- How many bodies were deposited.  A counter of 64 bits is the same up to 2^64 of them, where it
  wraps. -/
  deposits : Nat := 0
  /-- How many deliveries were committed, in the same way. -/
  commits : Nat := 0
  options : StoreOptions := {}
  host : Host := {}

/-- An open delivery. -/
structure StoreDelivery where
  /-- Accounts with the fields for their copies, in the order of adding. -/
  rcpts : List (String × Header) := []
  /-- The use and the name of the special mailbox. -/
  special? : Option (String × String) := none
  /-- The deposited header and body. -/
  deposit? : Option (Header × Body) := none
  /-- The file that holds the deposited body. -/
  file? : Option String := none
deriving DecidableEq, Repr

namespace Store

/-! ### Administration -/

/-- Creates an account, in place of one that exists. -/
def createUser (s : Store) (name password : String) : Store :=
  { s with accounts := s.accounts.put name (StoreAccount.new (some password)) }

/-- Changes an existing account. -/
def changeAccount (s : Store) (name : String)
    (change : StoreAccount → Except StoreFault StoreAccount) : Except StoreFault Store :=
  match s.accounts.get? name with
  | none => .error .userDoesntExist
  | some a => (change a).map fun a => { s with accounts := s.accounts.put name a }

/-- Creates a mailbox of an existing account; one that exists stays as it is. -/
def createMailbox (s : Store) (name mailbox : String) : Except StoreFault Store :=
  s.changeAccount name fun a => .ok (a.ensureMailbox mailbox)

/-- Deletes a mailbox with its messages. -/
def deleteMailbox (s : Store) (name mailbox : String) : Except StoreFault Store :=
  s.changeAccount name fun a =>
    if a.mailboxes.contains mailbox then .ok { a with mailboxes := a.mailboxes.erase mailbox }
    else .error .noSuchMailbox

/-- The names of the mailboxes of an account. -/
def mailboxNames (s : Store) (name : String) : List String :=
  (s.accounts.get? name).elim [] fun a => a.mailboxes.names

/-- A mailbox of an account. -/
def mailbox? (s : Store) (name mailbox : String) : Option Mailbox :=
  (s.accounts.get? name).bind fun a => a.mailboxes.get? mailbox

/-- The messages in a mailbox. -/
def messages (s : Store) (name mailbox : String) : List StoredMessage :=
  (s.mailbox? name mailbox).elim [] Mailbox.messages

/-! ### Accounts -/

/-- An account, created without a password if it does not exist. -/
def getOrCreateUser (name : String) : Act Store (Except StoreFault StoreUser) := fun s =>
  if s.accounts.contains name then ⟨.ok ⟨name, false⟩, s, []⟩
  else ⟨.ok ⟨name, true⟩, { s with accounts := s.accounts.put name (StoreAccount.new none) },
    [⟨.debug, "Created account", [("username", name)]⟩]⟩

/-- Whether a password is that of an account. -/
def checkPlain (name password : String) : Act Store (Except StoreFault Bool) := fun s =>
  ⟨.ok (((s.accounts.get? name).bind StoreAccount.password?) == some password), s, []⟩

/-! ### Deliveries -/

/-- Adds an account that exists and has an inbox. -/
def addRcpt (name : String) (fields : Header) : DeliveryAct Store StoreDelivery :=
  fun (s, d) =>
    match s.accounts.get? name with
    | none => ⟨.error .userDoesntExist, (s, d), []⟩
    | some a =>
      if a.mailboxes.contains inbox then
        ⟨.ok (), (s, { d with rcpts := d.rcpts ++ [(name, fields)] }), []⟩
      else ⟨.error .noSuchMailbox, (s, d), []⟩

/-- Chooses the special mailbox. -/
def chooseSpecial (use name : String) : DeliveryAct Store StoreDelivery :=
  fun (s, d) => ⟨.ok (), (s, { d with special? := some (use, name) }), []⟩

/-- The fault of a body that is too long. -/
def tooLong (length max : Nat) : StoreFault :=
  .other ("message size " ++ String.ofList (natDigits length) ++ " exceeds the limit of " ++
    String.ofList (natDigits max) ++ " bytes")

/-- Puts a body into a new file of the directory.  A file that could be written only in part
stays. -/
def spool (directory : String) (content : Bytes) (host : Host) :
    Except IoFault (Body × String) × Host :=
  let (entropy, host) := host.draw
  let path := Path.join directory (uuidText entropy)
  match Body.create host.disk path content with
  | (.ok body, disk) => (.ok (body, path), { host with disk })
  | (.error fault, disk) => (.error fault, { host with disk })

/-- Keeps the content of a body; the second part is the file that holds it. -/
def keepBody (options : StoreOptions) (content : Bytes) (host : Host) :
    Except IoFault (Body × Option String) × Host :=
  match options.bodyDirectory? with
  | none => (.ok (.memory content, none), host)
  | some directory =>
    match spool directory content host with
    | (.ok (body, path), host) => (.ok (body, some path), host)
    | (.error fault, host) => (.error fault, host)

/-- Deposits header and body. -/
def deposit (header : Header) (length : Nat) (body : Body) : DeliveryAct Store StoreDelivery :=
  fun (s, d) =>
    match s.options.maxBytes?.filter fun max => max.toNat < length with
    | some max => ⟨.error (tooLong length max.toNat), (s, d), []⟩
    | none =>
      match body.read s.host.disk with
      | .error fault => ⟨.error (.io fault), (s, d), []⟩
      | .ok content =>
        match keepBody s.options content s.host with
        | (.error fault, host) => ⟨.error (.io fault), ({ s with host }, d), []⟩
        | (.ok (kept, file?), host) =>
          ⟨.ok (), ({ s with host, deposits := s.deposits + 1 },
            { d with deposit? := some (header, kept), file? := file? <|> d.file? }), []⟩

/-- Discards a delivery and removes the file of its body; a file that is gone already is no
fault. -/
def abort : DeliveryAct Store StoreDelivery := fun (s, d) =>
  match d.file? with
  | none => ⟨.ok (), (s, {}), []⟩
  | some path =>
    match s.host.disk.removeFile path with
    | .ok disk => ⟨.ok (), ({ s with host := { s.host with disk } }, {}), []⟩
    | .error (.system .notFound) => ⟨.ok (), (s, {}), []⟩
    | .error fault => ⟨.error (.io fault), (s, {}), []⟩

/-- The mailbox that a copy goes to, and the account with that mailbox in place. -/
def target (special? : Option (String × String)) (a : StoreAccount) :
    Except StoreFault (String × StoreAccount) :=
  match special? with
  | some (use, name) => .ok (a.specialMailbox use name)
  | none => if a.mailboxes.contains inbox then .ok (inbox, a) else .error .noSuchMailbox

/-- The mailboxes that the copies go to, one for each recipient, and the accounts with those
mailboxes in place.  The first recipient without a mailbox is a fault. -/
def targets (special? : Option (String × String)) (accounts : NameMap StoreAccount) :
    List (String × Header) → Except StoreFault (List String) × NameMap StoreAccount
  | [] => (.ok [], accounts)
  | (name, _) :: rcpts =>
    match accounts.get? name with
    | none => (.error .userDoesntExist, accounts)
    | some a =>
      match target special? a with
      | .error fault => (.error fault, accounts)
      | .ok (mailbox, a) =>
        match targets special? (accounts.put name a) rcpts with
        | (.ok mailboxes, accounts) => (.ok (mailbox :: mailboxes), accounts)
        | (.error fault, accounts) => (.error fault, accounts)

/-- Appends one copy for a recipient. -/
def appendCopy (header : Header) (body : Body) (accounts : NameMap StoreAccount)
    (copy : (String × Header) × String) : NameMap StoreAccount :=
  let ((name, fields), mailbox) := copy
  match accounts.get? name with
  | some a => accounts.put name (a.append mailbox ⟨fields.prepend header, body⟩)
  | none => accounts

/-- Appends a copy for every recipient, if there is a deposited body.  All mailboxes are found
before the first copy is written. -/
def distribute (d : StoreDelivery) (accounts : NameMap StoreAccount) :
    Except StoreFault Unit × NameMap StoreAccount :=
  match d.deposit? with
  | none => (.ok (), accounts)
  | some (header, body) =>
    match targets d.special? accounts d.rcpts with
    | (.error fault, accounts) => (.error fault, accounts)
    | (.ok mailboxes, accounts) =>
      (.ok (), (d.rcpts.zip mailboxes).foldl (appendCopy header body) accounts)

/-- Makes a delivery permanent. -/
def commit : DeliveryAct Store StoreDelivery := fun (s, d) =>
  match distribute d s.accounts with
  | (.error fault, accounts) => ⟨.error fault, ({ s with accounts }, d), []⟩
  | (.ok (), accounts) =>
    ⟨.ok (), ({ s with accounts, commits := s.commits + 1 },
      { d with rcpts := [], deposit? := none, file? := none }), []⟩

/-- The store as a backend. -/
def backend : Backend Store StoreDelivery where
  driver := "memory"
  start := Act.pure (.ok {})
  addRcpt := addRcpt
  specialMailbox := chooseSpecial
  body := deposit
  abort := abort
  commit := commit
  getOrCreateUser := getOrCreateUser
  checkPlain := checkPlain

end Store

end Mailroom
