import Mailroom.Host.Basic

/-! # Message bodies

A `Body` can be read any number of times.  It lies in memory or in a file; a third form stands
for a source that fails, before its first octet or after some.  The length of a body is the one
that its maker stated, which for a file that changed need not be what reading yields. -/

namespace Mailroom

/-- A body that can be read again and again. -/
inductive Body where
  /-- Held in memory. -/
  | memory (content : Bytes)
  /-- Kept in a file of the stated length. -/
  | file (path : String) (length : Nat)
  /-- A source of the stated length that yields `readable` and then fails. -/
  | failing (length : Nat) (readable : Bytes) (fault : IoFault)
deriving DecidableEq, Repr

namespace Body

/-- The stated length in octets. -/
def length : Body → Nat
  | memory content => content.length
  | file _ length => length
  | failing length _ _ => length

/-- Whether the stated length is zero. -/
def isEmpty (b : Body) : Bool := b.length == 0

/-- The whole content. -/
def read (disk : FileSystem) : Body → Except IoFault Bytes
  | memory content => .ok content
  | file path _ => disk.readFile path
  | failing _ _ fault => .error fault

/-- Writes a body to a file. -/
def create (disk : FileSystem) (path : String) (content : Bytes) :
    Except IoFault Body × FileSystem :=
  match disk.storeFile path content FileSystem.publicMode with
  | (.ok _, disk) => (.ok (file path content.length), disk)
  | (.error fault, disk) => (.error fault, disk)

/-- The body that an existing file holds. -/
def ofFile (disk : FileSystem) (path : String) : Except IoFault Body := do
  return file path (← disk.sizeOf path)

end Body

end Mailroom
