import Mailroom.Header.Basic

/-! # The fields that a signature covers

A signature names the fields that it covers.  A name that is listed several times stands for
several fields of that name, counted from the bottom of the header (`pickFields`), so fields
that are added on top later do not disturb it.  A name listed once more than there are fields
covers the absence of a further one.

`namesToSign` makes the list for a header: names to *oversign* once more than they occur, other
names as often as they occur. -/

namespace Mailroom.Dkim

/-- The fields that `keys` pick, after `used` were looked up before them. -/
def pickAfter (h : Header) (used : List String) : List String → List Field
  | [] => []
  | key :: keys =>
    let below := used.countP (equalsIgnoringCase key)
    (h.fieldsNamed key).reverse[below]?.toList ++ pickAfter h (key :: used) keys

/-- The fields that the names pick, in the order of the names: the first listing of a name picks
its bottom field, the next listing the field above it, and so on. -/
def pickFields (h : Header) (keys : List String) : List Field := pickAfter h [] keys

/-- The names, each at its first listing only, that do not occur in `seen`. -/
def freshNames (seen : List String) : List String → List String
  | [] => []
  | name :: names =>
    if seen.any (equalsIgnoringCase name) then freshNames seen names
    else name :: freshNames (name :: seen) names

/-- The names that a signature lists for a header: every name of `oversign` once more than it
occurs, then every other name of `sign` as often as it occurs. -/
def namesToSign (h : Header) (oversign sign : List String) : List String :=
  (freshNames [] oversign).flatMap (fun name => List.replicate (h.count name + 1) name) ++
    (freshNames oversign sign).flatMap fun name => List.replicate (h.count name) name

end Mailroom.Dkim
