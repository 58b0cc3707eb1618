import Mailroom.Text.Split

/-! # Paths

A path is a text; its segments stand between slashes.  Empty segments and `.` change nothing,
except that a leading `.` is kept when a path is taken apart as text.  `Path.join` and
`Path.parent?` work on the text, as they are shown in messages; `Path.segments` is what a walk
through the file system follows. -/

namespace Mailroom

namespace Path

/-- Whether a path starts at the root. -/
def isAbsolute (path : String) : Bool := path.toList.head? == some '/'

/-- The segments of a path that a walk follows; a slash at the end asks for a directory and
counts as a final `.`. -/
def segments (path : String) : List String :=
  let pieces := (splitAt '/' path.toList).map String.ofList
  let named := pieces.filter (· != "")
  if pieces.getLast? = some "" && !named.isEmpty then named ++ ["."] else named

/-- Whether a path ends in a slash. -/
def endsInSlash (path : String) : Bool := path.toList.getLast? == some '/'

/-- The path `relative` seen from `base`; an absolute one stands for itself. -/
def join (base relative : String) : String :=
  if isAbsolute relative || base.isEmpty then relative
  else if endsInSlash base then base ++ relative
  else base ++ "/" ++ relative

/-- A path without the empty segments and dots at its end, given by its segments backwards.
The first segment of a path stays. -/
def dropIdle : List (List Char) → List (List Char)
  | [] => []
  | [first] => [first]
  | piece :: pieces => if piece = [] || piece = ['.'] then dropIdle pieces else piece :: pieces

/-- The directory that holds a path, as text; the root and the empty path have none. -/
def parent? (path : String) : Option String :=
  match dropIdle (splitAt '/' path.toList).reverse with
  | [] => none
  | [first] => if first = [] then none else some ""
  | _ :: pieces =>
    match dropIdle pieces with
    | [[]] => some "/"
    | kept => some (String.ofList (joinWith ['/'] kept.reverse))

end Path

end Mailroom
