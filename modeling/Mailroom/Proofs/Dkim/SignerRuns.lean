import Mailroom.Proofs.Dkim.Survival
import Mailroom.Proofs.Modifier.Calls

/-! # Runs of signers

Signers are modifiers that put one field on top, or change nothing.  So a run leaves the signatures
of the signers up to the first one that fails, the latest on top, and below them the header as it
was (`signerRun_outcome`).  Each signature is made for the header with the earlier ones on it.
Between the turns of two signers time passes and files change: every signer has a host of its own
(`SigningTurn`).  `signAll_split` takes a run that succeeds apart at one of its signers. -/

namespace Mailroom

/-! ### A host that changes -/

/-- The modifier when something else changes the state before it starts. -/
def Modifier.after {σ : Type} (change : σ → σ) (m : Modifier σ) : Modifier σ where
  name := m.name
  instanceName := m.instanceName
  start envelope := (Act.modify change).bind fun _ => m.start envelope

theorem Modifier.after_outcome {σ : Type} (change : σ → σ) (m : Modifier σ) (envelope : Envelope)
    (body : Body) (s : σ) (header : Header) :
    ((m.after change).run envelope body (s, header)).outcome =
      (m.run envelope body (change s, header)).outcome := rfl

namespace Dkim

/-- A signer in a run, and what happens to the host right before its turn. -/
structure SigningTurn where
  change : Host → Host
  signer : MessageSigner

/-- The modifier of a turn. -/
def SigningTurn.modifier (turn : SigningTurn) : Modifier Host :=
  turn.signer.modifier.after turn.change

/-- The host at the turn of the signer at a position. -/
def hostAt (turns : List SigningTurn) (host : Host) (position : Nat) : Host :=
  (turns.take (position + 1)).foldl (fun host turn => turn.change host) host

/-- The header with signatures put on top one after the other. -/
def withSignatures (header : Header) (values : List String) : Header :=
  values.foldl (fun header value => header.add signatureField value) header

theorem fields_withSignatures (values : List String) (header : Header) :
    (withSignatures header values).fields =
      (values.map (Field.new signatureField)).reverse ++ header.fields := by
  induction values generalizing header with
  | nil => rfl
  | cons value values ih =>
      rw [withSignatures, List.foldl_cons, ← withSignatures, ih, List.map_cons, List.reverse_cons,
        List.append_assoc]
      rfl

/-! ### Signers that cannot sign -/

namespace MessageSigner

variable {s : MessageSigner} {host : Host} {identifier value : String} {header : Header}
  {body : Body}

/-- Why a signer cannot sign, apart from its key: the signature would expire after the end of time,
its parameters are refused, or the body cannot be read to its end. -/
inductive CannotSign (s : MessageSigner) (host : Host) (identifier : String) (header : Header)
    (body : Body) : Prop
  | expiry {failure : Failure} : s.expiration host.now = .error failure →
      CannotSign s host identifier header body
  | parameters {expiration : Option Int} {fault : ParameterFault} :
      s.expiration host.now = .ok expiration →
      (s.parametersFor host.now expiration identifier header).check s.key = .error fault →
      CannotSign s host identifier header body
  | body {fault : IoFault} : body.read host.disk = .error fault →
      CannotSign s host identifier header body

theorem not_cannotSign (h : s.signature host identifier header body = .ok value) :
    ¬ s.CannotSign host identifier header body := by
  unfold signature at h
  obtain ⟨parameters, hparameters, h⟩ := bind_eq_ok h
  obtain ⟨expiration, hexpiration, hp⟩ := bind_eq_ok hparameters
  obtain rfl := Except.ok.inj hp
  obtain ⟨signer, hnew, h⟩ := bind_eq_ok h
  obtain ⟨content, hcontent, -⟩ := bind_eq_ok h
  intro hcannot
  cases hcannot with
  | expiry hfail =>
      rw [hfail] at hexpiration
      cases hexpiration
  | parameters hexpiration' hcheck =>
      rw [hexpiration'] at hexpiration
      obtain rfl := Except.ok.inj hexpiration
      rw [Signer.new, Parameters.validate, hcheck] at hnew
      cases hnew
  | body hfail =>
      rw [hfail] at hcontent
      cases hcontent

end MessageSigner

/-! ### A run -/

section Run

variable (envelope : Envelope) (body : Body)

/-- The answer of the signer at a position, for the header with the first signatures on it. -/
def answerAt (turns : List SigningTurn) (host : Host) (header : Header) (values : List String)
    (position : Nat) : Option (Except Failure String) :=
  turns[position]?.map fun turn => turn.signer.signature (hostAt turns host position)
    (turn.signer.identifier envelope.sender) (withSignatures header (values.take position)) body

/-- The first turn of a run: its signer puts a signature on top and the others go on, or the run
ends there with the header as it was. -/
theorem signerRun_cons_outcome (turn : SigningTurn) (turns : List SigningTurn) (host : Host)
    (header : Header) :
    (runModifiers envelope body ((turn :: turns).map SigningTurn.modifier) (host, header)).outcome =
      match turn.signer.signature (turn.change host) (turn.signer.identifier envelope.sender) header
        body with
      | .ok value => (runModifiers envelope body (turns.map SigningTurn.modifier)
          (turn.change host, header.add signatureField value)).outcome
      | .error failure => (.error failure, turn.change host, header) := by
  rw [List.map_cons, runModifiers, Act.andThen_outcome, SigningTurn.modifier,
    Modifier.after_outcome, MessageSigner.modifier_outcome]
  cases turn.signer.signature (turn.change host) (turn.signer.identifier envelope.sender) header
    body <;> rfl

/-- **A run of signers** puts on top what the signers up to the first failing one answer, and
changes nothing else. -/
theorem signerRun_outcome (turns : List SigningTurn) (host : Host) (header : Header) :
    let run := (runModifiers envelope body (turns.map SigningTurn.modifier) (host, header)).outcome
    ∃ values : List String, run.2.2 = withSignatures header values ∧
      (∀ i value, values[i]? = some value →
        answerAt envelope body turns host header values i = some (.ok value)) ∧
      ((run.1 = .ok () ∧ values.length = turns.length) ∨
        ∃ failure, run.1 = .error failure ∧
          answerAt envelope body turns host header values values.length =
            some (.error failure)) := by
  induction turns generalizing host header with
  | nil => exact ⟨[], rfl, fun i value h => by simp at h, .inl ⟨rfl, rfl⟩⟩
  | cons turn turns ih =>
      rw [signerRun_cons_outcome]
      cases hsign : turn.signer.signature (turn.change host)
          (turn.signer.identifier envelope.sender) header body with
      | error failure =>
          refine ⟨[], rfl, fun i value h => by simp at h, .inr ⟨failure, rfl, ?_⟩⟩
          exact congrArg some hsign
      | ok value =>
          -- for the signers that follow, the first signature is a field like all others
          obtain ⟨values, hheader, hvalues, hend⟩ :=
            ih (turn.change host) (header.add signatureField value)
          refine ⟨value :: values, hheader, fun i later h => ?_, ?_⟩
          · cases i with
            | zero =>
                obtain rfl : value = later := Option.some.inj h
                exact congrArg some hsign
            | succ i => exact hvalues i later h
          · rcases hend with ⟨hok, hlength⟩ | ⟨failure, hfail, hlast⟩
            · exact .inl ⟨hok, congrArg (· + 1) hlength⟩
            · exact .inr ⟨failure, hfail, hlast⟩

/-- A signature was made where nothing hindered the signer. -/
theorem length_le_of_cannotSign {turns : List SigningTurn} {host : Host} {header : Header}
    {values : List String} (h : ∀ i value, values[i]? = some value →
      answerAt envelope body turns host header values i = some (.ok value))
    {i : Nat} {turn : SigningTurn} (hturn : turns[i]? = some turn)
    (hcannot : turn.signer.CannotSign (hostAt turns host i)
      (turn.signer.identifier envelope.sender) (withSignatures header (values.take i)) body) :
    values.length ≤ i := by
  by_contra hlt
  have hvalue := h i _ (List.getElem?_eq_getElem (Nat.lt_of_not_le hlt))
  rw [answerAt, hturn] at hvalue
  exact MessageSigner.not_cannotSign (Option.some.inj hvalue) hcannot

/-- **Modifiers run in order, and what is opened is closed.**  Recording the calls of any modifiers
changes nothing, and shows complete passes in their order: started, header edited, closed.  A run
that fails ends in a failed pass, and answers with its failure; a failed edit is followed by the
close as well, and counts more than a failure there.

If all modifiers are signers, the header afterwards is one signature for each signer before the
first that fails, the latest on top, and below them all fields that were there before.  Each
signature is made for the header with the earlier ones on it, and a signer whose signature would
expire too late, whose parameters are refused, or who cannot read the body, is not before the
first that fails. -/
theorem runModifiers_orderly {σ : Type} (modifiers : List (Modifier σ)) (s : σ)
    (turns : List SigningTurn) (host : Host) (header : Header) :
    (let run := runModifiers envelope body modifiers (s, header)
      ∃ count last,
        runModifiers envelope body (recordedFrom 0 modifiers) ((s, []), header) =
          run.withLog ((List.range count).flatMap completePass ++ last) ∧
        ((run.answer = .ok () ∧ count = modifiers.length ∧ last = []) ∨
          ∃ failure, run.answer = .error failure ∧ count < modifiers.length ∧
            FailedPass count failure last)) ∧
    (let run := runModifiers envelope body (turns.map SigningTurn.modifier) (host, header)
      ∃ values : List String,
        run.state.2.fields = (values.map (Field.new signatureField)).reverse ++ header.fields ∧
        (∀ i value, values[i]? = some value →
          answerAt envelope body turns host header values i = some (.ok value)) ∧
        ((run.answer = .ok () ∧ values.length = turns.length) ∨
          ∃ failure, run.answer = .error failure ∧
            answerAt envelope body turns host header values values.length =
              some (.error failure)) ∧
        ∀ i turn, turns[i]? = some turn →
          turn.signer.CannotSign (hostAt turns host i) (turn.signer.identifier envelope.sender)
            (withSignatures header (values.take i)) body →
          values.length ≤ i) := by
  constructor
  · obtain ⟨count, last, hrun, hend⟩ :=
      runModifiers_recordedFrom envelope body modifiers 0 s [] header
    rw [← List.range_eq_range', List.nil_append] at hrun
    rw [Nat.zero_add] at hend
    exact ⟨count, last, hrun, hend⟩
  · obtain ⟨values, hheader, hvalues, hend⟩ := signerRun_outcome envelope body turns host header
    refine ⟨values, ?_, hvalues, hend, fun i turn hturn hcannot => ?_⟩
    · rw [← fields_withSignatures, ← hheader]
      rfl
    · exact length_le_of_cannotSign envelope body hvalues hturn hcannot

end Run

/-! ### A run that succeeds -/

/-- Runs signers over a message in order, each at its turn, up to the first failure. -/
def signAll (envelope : Envelope) (body : Body) (turns : List SigningTurn) :
    Act (Host × Header) (Except Failure Unit) :=
  runModifiers envelope body (turns.map SigningTurn.modifier)

variable {envelope : Envelope} {body : Body} {host : Host} {header : Header}
  {after : Host × Header} {turns : List SigningTurn}

/-- A run succeeds if and only if its first signer does, and the others do on top of it. -/
theorem signAll_cons_eq_ok_iff {turn : SigningTurn} :
    (signAll envelope body (turn :: turns) (host, header)).outcome = (.ok (), after) ↔
      ∃ value, turn.signer.signature (turn.change host) (turn.signer.identifier envelope.sender)
          header body = .ok value ∧
        (signAll envelope body turns (turn.change host, header.add signatureField value)).outcome =
          (.ok (), after) := by
  rw [signAll, signerRun_cons_outcome]
  cases turn.signer.signature (turn.change host) (turn.signer.identifier envelope.sender) header
    body with
  | error failure => simp
  | ok value => simp [signAll]

/-- **A run that succeeds** puts one signature of each signer on top, and nothing else. -/
theorem signAll_eq_ok (hlasting : ∀ turn ∈ turns, turn.signer.config.Lasting)
    (h : (signAll envelope body turns (host, header)).outcome = (.ok (), after)) :
    ∃ above : Header, after.2 = above.prepend header ∧ above.size = turns.length ∧
      ∀ f ∈ above.fields, f.name = signatureField ∧ f.Writable := by
  obtain ⟨values, hheader, hvalues, hend⟩ := signerRun_outcome envelope body turns host header
  rw [← signAll, h] at hheader hend
  obtain ⟨-, hlength⟩ | ⟨failure, hfail, -⟩ := hend
  · refine ⟨⟨(values.map (Field.new signatureField)).reverse⟩, ?_, ?_, fun f m => ?_⟩
    · rw [Header.prepend, ← fields_withSignatures, ← hheader]
    · rw [Header.size, List.length_reverse, List.length_map, hlength]
    · obtain ⟨value, hmem, rfl⟩ := List.mem_map.mp (List.mem_reverse.mp m)
      obtain ⟨i, hi⟩ := List.mem_iff_getElem?.mp hmem
      obtain ⟨turn, hturn, hvalue⟩ := Option.map_eq_some_iff.mp (hvalues i value hi)
      exact ⟨rfl, turn.signer.writable_signatureField
        (hlasting turn (List.mem_of_getElem? hturn)) hvalue⟩
  · cases hfail

/-- A run that succeeds, seen from the turn of one of its signers. -/
theorem signAll_split {before later : List SigningTurn} {turn : SigningTurn}
    (h : (signAll envelope body (before ++ turn :: later) (host, header)).outcome =
      (.ok (), after)) :
    ∃ earlier seen value,
      (signAll envelope body before (host, header)).outcome = (.ok (), earlier, seen) ∧
      turn.signer.signature (hostAt (before ++ turn :: later) host before.length)
        (turn.signer.identifier envelope.sender) seen body = .ok value ∧
      (signAll envelope body later (turn.change earlier, seen.add signatureField value)).outcome =
        (.ok (), after) := by
  induction before generalizing host header with
  | nil =>
      obtain ⟨value, hvalue, hrest⟩ := signAll_cons_eq_ok_iff.mp h
      exact ⟨host, header, value, rfl, hvalue, hrest⟩
  | cons t before ih =>
      obtain ⟨first, hfirst, hrest⟩ := signAll_cons_eq_ok_iff.mp h
      obtain ⟨earlier, seen, value, hbefore, hvalue, hlater⟩ := ih hrest
      exact ⟨earlier, seen, value, signAll_cons_eq_ok_iff.mpr ⟨first, hfirst, hbefore⟩, hvalue,
        hlater⟩

end Dkim

end Mailroom
