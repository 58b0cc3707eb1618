import Mailroom.Proofs.Delivery.StoredCopies
import Mailroom.Proofs.Dkim.SignerRuns

/-! # Signed mail arrives signed

A message is signed by any number of signers, each on top of the ones before, and then delivered,
which puts two trace fields on top.  In the octets of every copy that is stored, each of the
signatures is found again (`signatures_survive`). -/

namespace Mailroom

open Dkim

/-! ### From the signers to the mailbox -/

/-- What a run of signers leaves is found again, under whatever is put on top later. -/
theorem foundAt_of_signAll {before later : List SigningTurn} {turn : SigningTurn}
    {envelope : Envelope} {body : Body} {host : Host} {header : Header} {after : Host × Header}
    (hlasting : ∀ t ∈ before ++ turn :: later, t.signer.config.Lasting)
    (hheader : ∀ f ∈ header.fields, f.Writable)
    (hsigned : (signAll envelope body (before ++ turn :: later) (host, header)).outcome =
      (.ok (), after))
    {top : Header} (htop : ∀ f ∈ top.fields, f.name ∈ laterFields ∧ f.Writable) {content : Bytes}
    (hcontent : body.read (hostAt (before ++ turn :: later) host before.length).disk =
      .ok content) :
    turn.signer.FoundAt (hostAt (before ++ turn :: later) host before.length)
      (turn.signer.identifier envelope.sender)
      (signAll envelope body before (host, header)).outcome.2.2 body (top.size + later.length)
      ((top.prepend after.2).toBytes ++ content) := by
  obtain ⟨earlier, seen, value, hbefore, hvalue, hlater⟩ := signAll_split hsigned
  obtain ⟨below, hseen, -, hbelow⟩ :=
    signAll_eq_ok (fun t m => hlasting t (List.mem_append_left _ m)) hbefore
  obtain ⟨above, hafter, hsize, habove⟩ := signAll_eq_ok
    (fun t m => hlasting t (List.mem_append_right _ (List.mem_cons_of_mem turn m))) hlater
  obtain rfl : seen = below.prepend header := hseen
  have hwritable : ∀ f ∈ (below.prepend header).fields, f.Writable := by
    intro f m
    rcases List.mem_append.mp m with m | m
    · exact (hbelow f m).2
    · exact hheader f m
  have hall : ∀ f ∈ (top.prepend above).fields, f.name ∈ laterFields ∧ f.Writable := by
    intro f m
    rcases List.mem_append.mp m with m | m
    · exact htop f m
    · obtain ⟨hname, hw⟩ := habove f m
      exact ⟨hname ▸ List.mem_cons_self, hw⟩
  have hlast := hlasting turn (List.mem_append_right _ List.mem_cons_self)
  have hfound := MessageSigner.foundAt_of_signature hlast hvalue hwritable hall hcontent
  have hposition : (top.prepend above).size = top.size + later.length := by
    rw [← hsize]
    exact List.length_append
  have hassoc : top.prepend (above.prepend ((below.prepend header).add signatureField value)) =
      (top.prepend above).prepend ((below.prepend header).add signatureField value) :=
    congrArg Header.mk (List.append_assoc _ _ _).symm
  rw [hbefore, hafter, hassoc, ← hposition]
  exact hfound

/-- **Signatures survive the rest of the pipeline.**  A message that was read is signed by any
number of signers whose configurations are lasting, and delivered to a store that anything was asked
of before.  Time passes between the turns of the signers and before the delivery, and files change,
but those of the body.  If the run and the delivery succeed, every recipient gets a copy, and in its
octets each of the signatures is found again under those that came later and the two trace fields:
a verifier recomputes what was signed at the turn of the signer.  It rests on the choice of the
fields: fields that are put on top change it only if they are oversigned. -/
theorem signatures_survive {σ δ : Type} (options : StoreOptions) (host : Host)
    (requests : List StoreRequest) (storage : Storage σ δ) {turns : List SigningTurn}
    (hlasting : ∀ turn ∈ turns, turn.signer.config.Lasting) (envelope : Envelope)
    (sender : String) (rcpts : List String) (raw : Bytes) (body : Body) (posting : Host) :
    let s := ((SharedStore.opened options host).run requests).store
    let header := (Header.parse raw).1
    let signed := (signAll envelope body turns (s.host, header)).outcome
    let posted := (storage.memoryTarget.deliver envelope sender rcpts signed.2.2 body
      { s with host := posting }).outcome
    ((∀ position < turns.length,
        body.read (hostAt turns s.host position).disk = body.read posting.disk) →
      signed.1 = .ok () → posted.1 = .ok () →
      ∀ rcpt ∈ rcpts, ∃ name mailbox copy bytes,
        Account.ofAddress rcpt storage.rules.perDomain = .ok ⟨name⟩ ∧
        posted.2.messages name mailbox = s.messages name mailbox ++ [copy] ∧
        copy.toBytes posted.2.host.disk = .ok bytes ∧
        ∀ before turn later, turns = before ++ turn :: later →
          let now := hostAt turns s.host before.length
          let seen := (signAll envelope body before (s.host, header)).outcome.2.2
          turn.signer.FoundAt now (turn.signer.identifier envelope.sender) seen body
            (2 + later.length) bytes) ∧
    ∀ (signer : MessageSigner) (above below : Header),
      (∀ f ∈ above.fields, ∀ name ∈ signer.config.oversignFields, f.isNamed name = false) →
        pickFields (above.prepend below) (signer.namesToSign below) =
          pickFields below (signer.namesToSign below) := by
  intro s header signed posted
  refine ⟨?_, fun signer above below habove => pickFields_prepend below _ habove⟩
  intro hbody hsigned hposted rcpt hrcpt
  have hheader : ∀ f ∈ header.fields, f.Writable := fun f m => writable_of_mem_parse m
  have hsigned : signed = (.ok (), signed.2) := Prod.ext hsigned rfl
  obtain ⟨hordered, hmailboxes⟩ := SharedStore.ordered_opened_run options host requests
  rcases storage.deliver_outcome { s with host := posting } envelope sender rcpts signed.2.2 body
    hordered hmailboxes with ⟨failure, host', -, e⟩ | ⟨hnone, after, e, hp⟩
  · have hfailed : posted.1 = .error failure := congrArg Prod.fst e
    rw [hposted] at hfailed
    cases hfailed
  · obtain ⟨name, -, haccount, -⟩ := (Store.firstFailure?_eq_none_iff.mp hnone).rcpts rcpt hrcpt
    have hafter : posted.2 = after := congrArg Prod.snd e
    have hleads : (rcpts.find? (leadsTo storage.rules.perDomain name)).isSome = true := by
      rw [List.find?_isSome]
      exact ⟨rcpt, hrcpt, by rw [leadsTo_of_ofAddress haccount, beq_self_eq_true]⟩
    obtain ⟨first, hfirst⟩ := Option.isSome_iff_exists.mp hleads
    obtain ⟨mailbox, copy, content, hcontent, hmessages, hbytes⟩ := hp.exists_copy hfirst
    rw [hafter]
    refine ⟨name, mailbox, copy, _, haccount, hmessages, hbytes, ?_⟩
    rintro before turn later rfl now seen
    have htop : ∀ f ∈ (Header.mk [deliveredTo first, returnPath sender]).fields,
        f.name ∈ laterFields ∧ f.Writable := by
      have hdelivered : "Delivered-To" ∈ laterFields := by decide
      have hreturn : "Return-Path" ∈ laterFields := by decide
      intro f m
      simp only [List.mem_cons, List.not_mem_nil, or_false] at m
      rcases m with rfl | rfl
      · exact ⟨hdelivered, writable_deliveredTo first⟩
      · exact ⟨hreturn, writable_returnPath sender⟩
    have hread : body.read now.disk = .ok content :=
      (hbody before.length (by simp)).trans hcontent
    exact foundAt_of_signAll hlasting hheader hsigned htop hread

/-- Two signers, the second of which signs the signature of the first.  Before the turn of each a
second passes. -/
def sampleTurns : List SigningTurn :=
  let tick (host : Host) : Host := { host with now := host.now + 1 }
  let usual : SignerConfig := { domain := "example.org", selector := "s1" }
  let other : SignerConfig := {
    domain := "example.org", selector := "s2", headerMode := .simple
    oversignFields := ["From"], signFields := ["DKIM-Signature", "Subject"] }
  [⟨tick, "first", usual, .ed25519 (List.replicate 32 7)⟩,
    ⟨tick, "second", other, .ed25519 (List.replicate 32 9)⟩]

theorem lasting_sampleTurns : ∀ turn ∈ sampleTurns, turn.signer.config.Lasting := by
  intro turn m
  simp only [sampleTurns, List.mem_cons, List.not_mem_nil, or_false] at m
  rcases m with rfl | rfl
  · exact ⟨lasting_usual.printable, lasting_usual.later⟩
  · decide

/-- A subject that occurs twice, and a recipient whose copy goes to the junk mailbox, an hour after
the message was signed. -/
theorem signatures_survive_bob :
    let storage : Storage Store StoreDelivery :=
      ⟨"local", {}, false, [], "mx.example.org", .standard, "", Store.backend⟩
    let turns := sampleTurns
    let envelope : Envelope := ⟨"1", "alice@example.org", true⟩
    let raw := utf8 "From: alice@example.org\r\nSubject: one\r\nSubject: two\r\n\r\nHello"
    let body : Body := .memory (Header.parse raw).2
    let requests : List StoreRequest := [.createUser "bob" "b"]
    let s := ((SharedStore.opened {} {}).run requests).store
    let posting : Host := { now := 3600 }
    let header := (Header.parse raw).1
    let signed := (signAll envelope body turns (s.host, header)).outcome
    let posted := (storage.memoryTarget.deliver envelope "alice@example.org" ["Bob@example.org"]
      signed.2.2 body { s with host := posting }).outcome
    (∀ turn ∈ turns, turn.signer.config.Lasting) ∧
    (∀ position < turns.length,
      body.read (hostAt turns s.host position).disk = body.read posting.disk) ∧
    signed.1 = .ok () ∧ posted.1 = .ok () ∧
      ∃ name mailbox copy bytes,
        Account.ofAddress "Bob@example.org" false = .ok ⟨name⟩ ∧
        posted.2.messages name mailbox = s.messages name mailbox ++ [copy] ∧
        copy.toBytes posted.2.host.disk = .ok bytes ∧
        ∀ before turn later, turns = before ++ turn :: later →
          let now := hostAt turns s.host before.length
          let seen := (signAll envelope body before (s.host, header)).outcome.2.2
          turn.signer.FoundAt now (turn.signer.identifier envelope.sender) seen body
            (2 + later.length) bytes := by
  intro storage turns envelope raw body requests s posting header signed posted
  have hsigned : signed.1.isOk = true := by decide +kernel
  have hposted : posted.1.isOk = true := by decide +kernel
  -- from here on neither the store nor the message need be looked at
  clear_value requests raw
  have hbody : ∀ position < turns.length,
      body.read (hostAt turns s.host position).disk = body.read posting.disk := fun _ _ => rfl
  have hsurvive := signatures_survive {} {} requests storage lasting_sampleTurns envelope
    "alice@example.org" ["Bob@example.org"] raw body posting
  exact ⟨lasting_sampleTurns, hbody, eq_ok_of_isOk hsigned, eq_ok_of_isOk hposted,
    hsurvive.1 hbody (eq_ok_of_isOk hsigned) (eq_ok_of_isOk hposted) _ List.mem_cons_self⟩

end Mailroom
