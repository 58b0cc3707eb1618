import Mailroom.Dkim.MessageSigner

/-! # Modifiers that record what happens

`stampModifier` adds a field to every message, records each of its calls, and fails on demand.
`watchedModifier` is a signer that notes after each message whether its signature can be
made again from what it states (`MessageSigner.reproduces`); `timeless` shows a signature in a
form that is the same in every run.  Both modifiers write into one list of notes, so that a run
shows in which order they were called. -/

namespace Mailroom

/-- Something that happened during a run of modifiers. -/
inductive ModifierNote where
  /-- A call of a stamp modifier. -/
  | called (modifier step : String)
  /-- A signature was added; whether the same signature can be made again. -/
  | signed (modifier : String) (reproducible : Bool)
  /-- Signing failed; whether the header is as before. -/
  | unsigned (modifier : String) (unchanged : Bool)
deriving DecidableEq, Repr

/-- The field that a stamp modifier adds. -/
def stampField : String := "X-Stamp"

variable {σ : Type}

/-- Records a call and fails if it is to fail. -/
def recordStep {α : Type} (name : String) (failing : List String) (step : String) (answer : α) :
    Act (σ × List ModifierNote) (Except Failure α) := fun (s, notes) =>
  ⟨if failing.contains step then .error (.stream (name ++ " " ++ step ++ " failed"))
    else .ok answer, (s, notes ++ [.called name step]), []⟩

/-- A stamp modifier at work on a message. -/
def stampEditor (name : String) (failing : List String) :
    Editor (σ × List ModifierNote) where
  editSender sender := Act.pure (.ok sender)
  editRcpt rcpt := Act.pure (.ok rcpt)
  editHeader _ := (recordStep name failing "body" ()).onFirst.andThen fun _ =>
    (Act.modify fun (s, header) => (s, header.add stampField name)).bind fun _ =>
      Act.pure (.ok ())
  close := recordStep name failing "close" ()

/-- The stamp modifier; the steps in `failing` fail after they were recorded. -/
def stampModifier (name : String) (failing : List String) : Modifier (σ × List ModifierNote) where
  name := "stamp"
  instanceName := name
  start _ := recordStep name failing "state" (stampEditor name failing)

namespace Dkim.MessageSigner

/-- The times that a signature states: when it was made and when it expires. -/
def statedTimes? (value : String) : Option (Int × Option Int) := do
  let tags := readTags value
  let time? (tag : String) : Option Int :=
    (tags.lookup tag).bind fun text => (readNat? text.toList).map Int.ofNat
  return (← time? "t", time? "x")

/-- Whether the top field of the header `after` is the signature that this signer makes for the
header `before` at the time stated there, and the other fields are those of `before`. -/
def reproduces (s : MessageSigner) (disk : FileSystem) (identifier : String) (body : Body)
    (before after : Header) : Bool :=
  match after.fields with
  | [] => false
  | top :: rest =>
    match statedTimes? top.value with
    | none => false
    | some (timestamp, expiration) =>
      let parameters := s.parametersFor timestamp expiration identifier before
      match s.signWith parameters disk before body with
      | .ok value => rest == before.fields && Field.new signatureField value == top
      | .error _ => false

/-- A tag of a signature with the times written from the time of signing, and the length of the
signature in place of the signature. -/
def timelessTag (signedAt : Int) (tag : List Char) : List Char :=
  let (lead, tag) := tag.span isWhiteSpace
  lead ++ match cutFirst '=' tag with
    | some (['t'], _) => ['t', '=', 'T']
    | some (['x'], time) =>
      let lasting : Int := (readNat? time).getD 0 - signedAt
      ['x', '=', 'T', '+'] ++ intDigits lasting
    | some (['b'], signature) => ['b', '='] ++ natDigits signature.length
    | _ => tag

/-- The value of a signature field without what depends on the time of signing. -/
def timeless (value : String) : String :=
  let signedAt : Int := ((statedTimes? value).map Prod.fst).getD 0
  String.ofList (joinWith [';'] ((splitAt ';' value.toList).map (timelessTag signedAt)))

/-- What is noted after a signer was at work. -/
def note (s : MessageSigner) (disk : FileSystem) (identifier : String) (body : Body)
    (before after : Header) : Except Failure Unit → ModifierNote
  | .ok () => .signed s.instanceName (s.reproduces disk identifier body before after)
  | .error _ => .unsigned s.instanceName (after == before)

/-- The signer at work, with a note at the end. -/
def watchedEditor (s : MessageSigner) (envelope : Envelope) :
    Editor (Host × List ModifierNote) where
  editSender sender := Act.pure (.ok sender)
  editRcpt rcpt := Act.pure (.ok rcpt)
  editHeader body := fun ((host, notes), before) =>
    let step := s.addSignature envelope body (host, before)
    let note := s.note host.disk (s.identifier envelope.sender) body before step.state.2
      step.answer
    ⟨step.answer, ((step.state.1, notes ++ [note]), step.state.2), step.events⟩
  close := Act.pure (.ok ())

/-- The signer as a modifier whose work is noted. -/
def watchedModifier (s : MessageSigner) : Modifier (Host × List ModifierNote) where
  name := moduleName
  instanceName := s.instanceName
  start envelope := Act.pure (.ok (s.watchedEditor envelope))

end Dkim.MessageSigner

end Mailroom
