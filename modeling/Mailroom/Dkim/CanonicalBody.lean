import Mailroom.Dkim.Canonicalization
import Mailroom.Dkim.HashAlgorithm

/-! # Canonical form of a body

The body arrives in chunks of any size.  `CanonicalBody` takes one octet at a time and lets go
of canonical octets as soon as they are certain:

* a line ends at LF, and one CR before it belongs to the line end;
* every line end becomes CRLF, also a missing one at the end of the body;
* in relaxed form the blanks inside a line are collapsed;
* empty lines are held back until a line with content follows, so that those at the end vanish;
* in simple form a body without content is one CRLF.

`BodyHash` hashes what is let go. -/

namespace Mailroom.Dkim

/-- The canonical form of a body on its way: the current line with its last octet first, the empty
lines held back, and whether anything was let go. -/
structure CanonicalBody where
  mode : Canonicalization
  line : Bytes := []
  emptyLines : Nat := 0
  written : Bool := false
deriving DecidableEq, Repr

namespace CanonicalBody

/-- Drops a carriage return from the end of a line, which is given backwards. -/
def dropReturn : Bytes → Bytes
  | [] => []
  | b :: line => if b = Octet.cr then line else b :: line

/-- The canonical form of the text of a line. -/
def lineForm : Canonicalization → Bytes → Bytes
  | .simple, text => text
  | .relaxed, text => collapseBlanks text

/-- Several line ends. -/
def lineEnds (n : Nat) : Bytes := (List.replicate n crlf).flatten

/-- Ends the current line; the second part is what is let go. -/
def endLine (c : CanonicalBody) : CanonicalBody × Bytes :=
  let text := lineForm c.mode (dropReturn c.line).reverse
  if text.isEmpty then (⟨c.mode, [], c.emptyLines + 1, c.written⟩, [])
  else (⟨c.mode, [], 0, true⟩, lineEnds c.emptyLines ++ text ++ crlf)

/-- Takes one octet; the second part is what is let go. -/
def step (c : CanonicalBody) (b : UInt8) : CanonicalBody × Bytes :=
  if b = Octet.lf then c.endLine else ({ c with line := b :: c.line }, [])

/-- What is let go at the end of the body. -/
def finish (c : CanonicalBody) : Bytes :=
  let (last, released) := if c.line.isEmpty then (c, []) else c.endLine
  if !last.written && last.mode = .simple then released ++ crlf else released

end CanonicalBody

/-- The hash of a canonical body on its way. -/
structure BodyHash (algorithm : HashAlgorithm) where
  body : CanonicalBody
  hasher : Hasher algorithm := {}

namespace BodyHash

variable {algorithm : HashAlgorithm}

/-- The hash of an empty body on its way. -/
def start (mode : Canonicalization) : BodyHash algorithm := ⟨⟨mode, [], 0, false⟩, {}⟩

/-- Takes one octet. -/
def step (h : BodyHash algorithm) (b : UInt8) : BodyHash algorithm :=
  let (body, released) := h.body.step b
  ⟨body, h.hasher.update released⟩

/-- Takes a chunk of the body. -/
def update (h : BodyHash algorithm) (chunk : Bytes) : BodyHash algorithm := chunk.foldl step h

/-- The body hash. -/
def finish (h : BodyHash algorithm) : Bytes := (h.hasher.update h.body.finish).finish

end BodyHash

end Mailroom.Dkim
