import Mailroom.Proofs.Delivery.AllOrNothing
import Mailroom.Proofs.Store.Interleaving

/-! # Stored copies are read as they were meant

The two trace fields of a copy are writable, so a copy that is served is read back as the trace
fields, the fields of the message and its body (`StoredMessage.ReadsAs`), whatever the addresses in
them are and in whatever order the store was used (`addresses_inject_nothing`). -/

namespace Mailroom

/-! ### Copies -/

/-- The octets in which a copy is served are read as this header, and right behind it begins this
body. -/
def StoredMessage.ReadsAs (copy : StoredMessage) (disk : FileSystem) (header : Header)
    (body : Bytes) : Prop :=
  ∃ bytes, copy.toBytes disk = .ok bytes ∧ (Header.parse bytes).1 = header ∧
    bytes.drop (Header.parseOffset bytes) = body ∧
    Header.parseOffset bytes + body.length = bytes.length

/-- A copy that is served with a writable header is read with that header. -/
theorem StoredMessage.readsAs_of_toBytes {copy : StoredMessage} {disk : FileSystem}
    {header : Header} {body : Bytes} (hwritable : ∀ f ∈ header.fields, f.Writable)
    (hbytes : copy.toBytes disk = .ok (header.toBytes ++ body)) :
    copy.ReadsAs disk header body := by
  have hparse : Header.parse (header.toBytes ++ body) = (header, body) :=
    parse_toBytes hwritable body
  refine ⟨_, hbytes, congrArg Prod.fst hparse, ?_, ?_⟩
  · rw [Header.drop_parseOffset, hparse]
  · rw [Header.parseOffset_of_parse hparse, List.length_append]

/-- A copy that an account receives stands at the end of its mailbox. -/
theorem Store.messages_of_receives {s after : Store} {name mailbox : String}
    {special? : Option (String × String)} {a b : StoreAccount} {copy : StoredMessage}
    (ha : s.accounts.get? name = some a) (hb : after.accounts.get? name = some b)
    (h : a.Receives special? copy mailbox b) :
    after.messages name mailbox = s.messages name mailbox ++ [copy] := by
  rw [Store.messages_eq, Store.messages_eq, ha, hb]
  exact h.messagesIn_target

/-- What a delivery appends, as it is served. -/
theorem Posted.exists_copy {s after : Store} {rules : DeliveryRules} {envelope : Envelope}
    {sender : String} {rcpts : List String} {header : Header} {body : Body}
    (h : Posted s rules envelope sender rcpts header body after) {name rcpt : String}
    (hrcpt : rcpts.find? (leadsTo rules.perDomain name) = some rcpt) :
    ∃ mailbox copy content, body.read s.host.disk = .ok content ∧
      after.messages name mailbox = s.messages name mailbox ++ [copy] ∧
      copy.toBytes after.host.disk = .ok ((header.traced rcpt sender).toBytes ++ content) := by
  obtain ⟨content, kept, hread, hkept, hcopies⟩ := h.copies
  obtain ⟨mailbox, a, b, ha, hb, hreceives⟩ := hcopies name rcpt hrcpt
  refine ⟨mailbox, ⟨header.traced rcpt sender, kept⟩, content, hread,
    Store.messages_of_receives ha hb hreceives, ?_⟩
  rw [StoredMessage.toBytes, hkept]
  rfl

theorem eq_ok_of_isOk {ε : Type} {answer : Except ε Unit} (h : answer.isOk = true) :
    answer = .ok () := by
  cases answer with
  | ok _ => rfl
  | error e => cases h

/-! ### Whatever the addresses are -/

theorem SharedStore.request_mem_of_mem_moments {w : SharedStore} {requests : List StoreRequest}
    {m : Moment} (h : m ∈ w.moments requests) : m.request ∈ requests := by
  induction requests generalizing w with
  | nil => cases h
  | cons request requests ih =>
      rcases List.mem_cons.mp h with rfl | h
      · exact List.mem_cons_self
      · exact List.mem_cons_of_mem request (ih h)

/-- A deposit was asked for. -/
theorem Moment.Deposits.request_mem {w : SharedStore} {requests : List StoreRequest} {m : Moment}
    {i : Nat} {header : Header} {kept : Body} (h : m.Deposits i header kept)
    (hm : m ∈ w.moments requests) :
    ∃ body, StoreRequest.call i (.body header body) ∈ requests := by
  obtain ⟨⟨body, -, hrequest, -⟩, -⟩ := h
  exact ⟨body, hrequest ▸ SharedStore.request_mem_of_mem_moments hm⟩

/-- **No address injects a header field.**  Transactions and administrators use a new store in any
order, with any text for an address.  If the headers that are sent to a transaction were read from
messages, a commit of what it deposited brings every account of the transaction one copy, which is
read as the field for a recipient, the field for the sender and the deposited header, with the body
right behind.  The same holds for a whole delivery to the store and every account that one of its
recipients leads to. -/
theorem addresses_inject_nothing {σ δ : Type} (options : StoreOptions) (host : Host)
    (requests : List StoreRequest) :
    let opened := SharedStore.opened options host
    let past := opened.moments requests
    let w := opened.run requests
    (∀ i tx, w.transactions[i]? = some tx → tx.state = .bodyDeposited →
      (∀ header body, StoreRequest.call i (.body header body) ∈ requests →
        ∃ raw, header = (Header.parse raw).1) →
      let now : Moment := ⟨w, .call i .commit⟩
      now.succeeded = true → ∃ header kept, (∃ m ∈ past, m.Deposits i header kept) ∧
        ∀ name ∈ tx.accounts, ∃ rcpt mailbox copy, (∃ m ∈ past, m.Adds i rcpt name) ∧
          now.after.store.messages name mailbox = w.store.messages name mailbox ++ [copy] ∧
          copy.body = kept ∧ ∀ disk content, kept.read disk = .ok content →
            copy.ReadsAs disk (header.traced rcpt tx.sender) content) ∧
    ∀ (storage : Storage σ δ) (envelope : Envelope) (sender : String) (rcpts : List String)
      (raw : Bytes) (body : Body),
      let header := (Header.parse raw).1
      let posted := (storage.memoryTarget.deliver envelope sender rcpts header body w.store).outcome
      posted.1 = .ok () →
        ∀ name rcpt, rcpts.find? (leadsTo storage.rules.perDomain name) = some rcpt →
          ∃ mailbox copy content, body.read w.store.host.disk = .ok content ∧
            posted.2.messages name mailbox = w.store.messages name mailbox ++ [copy] ∧
            copy.ReadsAs posted.2.host.disk (header.traced rcpt sender) content := by
  intro opened past w
  constructor
  · intro i tx htx hs hparsed now hok
    have h : Consistent past w := (consistent_opened options host).run requests
    obtain ⟨⟨header, kept, ⟨m, hm, hdeposits⟩, hcopies⟩, -⟩ := (h.committed htx hok).delivered hs
    obtain ⟨body, hrequest⟩ := hdeposits.request_mem hm
    obtain ⟨raw, rfl⟩ := hparsed header body hrequest
    refine ⟨_, kept, ⟨m, hm, hdeposits⟩, fun name hname => ?_⟩
    obtain ⟨rcpt, mailbox, a, b, hadds, ha, hb, hreceives⟩ := hcopies name hname
    refine ⟨rcpt, mailbox, _, hadds, Store.messages_of_receives ha hb hreceives, rfl, ?_⟩
    intro disk content hcontent
    refine StoredMessage.readsAs_of_toBytes
      (Header.writable_traced (fun f mf => writable_of_mem_parse mf) rcpt tx.sender) ?_
    rw [StoredMessage.toBytes, hcontent]
    rfl
  · intro storage envelope sender rcpts raw body header posted hok name rcpt hrcpt
    obtain ⟨hordered, hmailboxes⟩ := SharedStore.ordered_opened_run options host requests
    rcases storage.deliver_outcome w.store envelope sender rcpts header body hordered
      hmailboxes with ⟨failure, host', -, e⟩ | ⟨-, after, e, hposted⟩
    · have hfailed : posted.1 = .error failure := congrArg Prod.fst e
      rw [hok] at hfailed
      cases hfailed
    · have hafter : posted.2 = after := congrArg Prod.snd e
      obtain ⟨mailbox, copy, content, hcontent, hmessages, hbytes⟩ := hposted.exists_copy hrcpt
      rw [hafter]
      exact ⟨mailbox, copy, content, hcontent, hmessages, StoredMessage.readsAs_of_toBytes
        (Header.writable_traced (fun f mf => writable_of_mem_parse mf) rcpt sender) hbytes⟩

/-- Addresses with line ends in them, in a transaction that is quarantined and in a delivery. -/
theorem addresses_inject_nothing_bob :
    let rcpt := "Bob@example.org\r\nBcc: eve@example.org"
    let sender := "x@example.org>\r\n\r\nForged"
    let raw := utf8 "Subject: Hi\r\n there\r\n\r\nHello"
    let header := (Header.parse raw).1
    let opened := SharedStore.opened {} {}
    let body : Body := .memory [72, 105]
    let requests : List StoreRequest := [.createUser "bob" "b",
      .start {} ⟨"1", sender, true⟩ sender, .call 0 (.addRcpt rcpt), .call 0 (.body header body),
      .deleteMailbox "bob" inbox, .createMailbox "bob" inbox]
    let now : Moment := ⟨opened.run requests, .call 0 .commit⟩
    let storage : Storage Store StoreDelivery :=
      ⟨"local", {}, false, [], "mx.example.org", .standard, "", Store.backend⟩
    let posted := (storage.memoryTarget.deliver ⟨"2", sender, false⟩ sender [rcpt] header body
      now.before.store).outcome
    (∃ tx, now.before.transactions[0]? = some tx ∧ tx.state = .bodyDeposited ∧
      (∀ header body, StoreRequest.call 0 (.body header body) ∈ requests →
        ∃ raw, header = (Header.parse raw).1) ∧
      now.succeeded = true ∧ ∃ header kept,
        (∃ m ∈ opened.moments requests, m.Deposits 0 header kept) ∧
        ∀ name ∈ tx.accounts, ∃ rcpt mailbox copy,
          (∃ m ∈ opened.moments requests, m.Adds 0 rcpt name) ∧
          now.after.store.messages name mailbox =
            now.before.store.messages name mailbox ++ [copy] ∧
          copy.body = kept ∧ ∀ disk content, kept.read disk = .ok content →
            copy.ReadsAs disk (header.traced rcpt tx.sender) content) ∧
    posted.1 = .ok () ∧ [rcpt].find? (leadsTo storage.rules.perDomain "bob") = some rcpt ∧
      ∃ mailbox copy content, body.read now.before.store.host.disk = .ok content ∧
        posted.2.messages "bob" mailbox = now.before.store.messages "bob" mailbox ++ [copy] ∧
        copy.ReadsAs posted.2.host.disk (header.traced rcpt sender) content := by
  intro rcpt sender raw header opened body requests now storage posted
  have hopen : (now.before.transactions[0]?.any fun tx => tx.state == .bodyDeposited) = true := by
    decide +kernel
  have hok : now.succeeded = true := by decide +kernel
  have hposted : posted.1.isOk = true := by decide +kernel
  have hleads : [rcpt].find? (leadsTo storage.rules.perDomain "bob") = some rcpt := by
    decide +kernel
  have hparsed : ∀ header body, StoreRequest.call 0 (.body header body) ∈ requests →
      ∃ raw, header = (Header.parse raw).1 := by
    intro other body m
    simp only [requests, List.mem_cons, StoreRequest.call.injEq, TransactionCall.body.injEq,
      reduceCtorEq, List.not_mem_nil, or_false, false_or, and_false, true_and] at m
    exact ⟨raw, m.1⟩
  -- from here on neither the requests nor the message need be looked at
  clear_value requests raw
  obtain ⟨tx, htx, hs⟩ := (Option.any_eq_true _ _).mp hopen
  have hs : tx.state = .bodyDeposited := beq_iff_eq.mp hs
  obtain ⟨hcommitted, hdelivered⟩ := @addresses_inject_nothing Store StoreDelivery {} {} requests
  exact ⟨⟨tx, htx, hs, hparsed, hok, hcommitted 0 tx htx hs hparsed hok⟩, eq_ok_of_isOk hposted,
    hleads, hdelivered storage _ sender [rcpt] raw body (eq_ok_of_isOk hposted) "bob" rcpt hleads⟩

end Mailroom
