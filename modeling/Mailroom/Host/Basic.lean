import Mailroom.Host.FileSystem
import Mailroom.Journal

/-! # The host

The program runs on a `Host`: a file system, a clock, and a source of numbers that have not been
used before.  From such a number the host makes identifiers (`uuidText`) and seeds. -/

namespace Mailroom

/-- What the program runs on.  `now` is the time in seconds since the epoch; `entropy` is the
next unused number. -/
structure Host where
  disk : FileSystem := {}
  entropy : Nat := 0
  now : Int := 0

namespace Host

/-- Takes an unused number. -/
def draw (host : Host) : Nat × Host := (host.entropy, { host with entropy := host.entropy + 1 })

/-- Runs an operation on the file system. -/
def onDisk {α : Type} (act : Act FileSystem α) : Act Host α :=
  Act.onPart Host.disk (fun disk host => { host with disk }) act

end Host

/-- The last `width` hexadecimal digits of a number. -/
def hexTail (width n : Nat) : List Char :=
  (List.range width).reverse.map fun i => hexDigit (n / Nat.pow 16 i % 16)

/-- An identifier of 36 characters made from a number, with the version digit 4 and the variant
digit 8 in their places.  Numbers below 2^120 give different identifiers. -/
def uuidText (n : Nat) : String :=
  String.ofList <|
    hexTail 8 (n / Nat.pow 16 22) ++ '-' :: hexTail 4 (n / Nat.pow 16 18) ++ '-' :: '4' ::
      hexTail 3 (n / Nat.pow 16 15) ++ '-' :: '8' :: hexTail 3 (n / Nat.pow 16 12) ++ '-' ::
        hexTail 12 n

end Mailroom
