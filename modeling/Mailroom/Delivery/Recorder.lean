import Mailroom.Delivery.Target

/-! # A target that records its calls

`recorder` takes no message anywhere; its state is the list of the calls made.  A call whose text
is in `failing` fails after it was recorded.  It shows in which order `Target.deliver` calls a
target. -/

namespace Mailroom

/-- Records a call and fails if it is to fail. -/
def recordCall {δ : Type} (failing : List String) (call : String) (answer : δ) :
    Act (List String) (Except Failure δ) := fun calls =>
  ⟨if failing.contains call then .error (.precondition (call ++ " failed")) else .ok answer,
    calls ++ [call], []⟩

/-- The recording target. -/
def recorder (instanceName : String) (failing : List String) : Target (List String) Unit where
  name := "recorder"
  instanceName := instanceName
  start _ sender := recordCall failing ("start " ++ sender) ()
  addRcpt rcpt := (recordCall failing ("rcpt " ++ rcpt) ()).onFirst
  body header body :=
    let number (n : Nat) := String.ofList (natDigits n)
    (recordCall failing ("body " ++ number header.size ++ " " ++ number body.length) ()).onFirst
  abort := (recordCall failing "abort" ()).onFirst
  commit := (recordCall failing "commit" ()).onFirst

end Mailroom
