import Mailroom.Config.Setting
import Mailroom.Store.SizeLimit

/-! # The options of a storage target

What a storage target can be configured with, and the usual values. -/

namespace Mailroom

/-- The options of a storage target. -/
structure StorageConfig where
  /-- The kind of store. -/
  driver : String := ""
  /-- Where the store is. -/
  dsn : String := ""
  sizeLimit : SizeLimit := .standard
  debug : Bool := false
  /-- Whether accounts are kept apart by domain. -/
  perDomain : Bool := false
  /-- Whether a login name must have a domain. -/
  loginPerDomain : Bool := false
  /-- The domains that may log in; an empty list admits all. -/
  loginDomains : List String := []
  junkMailbox : String := "Junk"
  /-- The host name, in place of the global one. -/
  hostname? : Option String := none
  /-- The directory for message bodies. -/
  bodyDirectory? : Option String := none
deriving DecidableEq, Repr

open Config in
/-- The settings of a storage target. -/
def storageSettings : List (Setting StorageConfig) := [
  .of "driver" text fun driver c => { c with driver },
  .of "dsn" words fun dsn c => { c with dsn },
  .of "appendlimit" size fun sizeLimit c => { c with sizeLimit },
  .of "debug" flag fun debug c => { c with debug },
  .of "storage_perdomain" flag fun perDomain c => { c with perDomain },
  .of "auth_perdomain" flag fun loginPerDomain c => { c with loginPerDomain },
  .of "auth_domains" texts fun loginDomains c => { c with loginDomains },
  .of "junk_mailbox" text fun junkMailbox c => { c with junkMailbox },
  .of "hostname" text fun hostname c => { c with hostname? := some hostname },
  .of "fsstore" path fun directory c => { c with bodyDirectory? := some directory }]

end Mailroom
