import Mailroom.Proofs.Delivery.StoredCopies

/-! # The size limit and what is stored

A store with a limit refuses a body by its stated length alone (`Transaction.body_tooLong_iff`).
The header is not counted, and neither are octets that a body holds beyond its stated length.  So a
message can be stored that is longer than the limit (`limit_exceeded`).  It exceeds the limit by at
most its header and those octets (`limit_bounds_body`), as every stored message comes from a body
that was accepted (`Sourced`). -/

namespace Mailroom

variable {past : List Moment} {w : SharedStore} {i : Nat} {tx : Transaction StoreDelivery}

/-! ### Refused bodies -/

namespace Store

variable {s : Store} {max : UInt32}

/-- A body is refused as too long exactly if its stated length exceeds the limit. -/
theorem depositFault?_tooLong_iff (hmax : s.options.maxBytes? = some max) (body : Body) :
    s.depositFault? body.length body = some (tooLong body.length max.toNat) ↔
      max.toNat < body.length := by
  unfold depositFault?
  rw [hmax]
  by_cases hlong : max.toNat < body.length
  · have hexceeds : (some max).filter (fun max => max.toNat < body.length) = some max := by
      rw [Option.filter_some, if_pos (decide_eq_true hlong)]
    rw [hexceeds]
    exact iff_of_true rfl hlong
  · have hfits : (some max).filter (fun max => max.toNat < body.length) = none := by
      rw [Option.filter_some, if_neg (by simpa using hlong)]
    rw [hfits]
    refine iff_of_false ?_ hlong
    -- any other fault is one of reading or writing
    dsimp only [tooLong]
    cases body.read s.host.disk with
    | error fault => simp
    | ok content =>
        dsimp only
        cases (keepBody s.options content s.host).1 <;> simp

theorem length_le_of_depositFault? (hmax : s.options.maxBytes? = some max) {body : Body}
    (h : s.depositFault? body.length body = none) : body.length ≤ max.toNat := by
  refine Nat.le_of_not_lt fun hlong => ?_
  rw [(depositFault?_tooLong_iff hmax body).mpr hlong] at h
  cases h

end Store

theorem Failure.backend_inj {fault other : StoreFault} :
    Failure.backend fault = Failure.backend other ↔ fault = other := by
  simp +contextual [Failure.backend]

/-- A transaction refuses a body as too long exactly if its stated length exceeds the limit. -/
theorem Transaction.body_tooLong_iff {s : Store} {max : UInt32}
    (hmax : s.options.maxBytes? = some max) (hs : tx.state = .created) (header : Header)
    (content : Body) :
    (body Store.backend header content (s, tx)).answer =
        .error (.backend (Store.tooLong content.length max.toNat)) ↔
      max.toNat < content.length := by
  rw [← Store.depositFault?_tooLong_iff hmax content]
  rcases body_store s tx header content hs with
    ⟨fault, host, hfault, e⟩ | ⟨hnone, _, _, _, _, -, -, e⟩
  · have ha := congrArg Prod.fst e
    rw [hfault, show (body Store.backend header content (s, tx)).answer = _ from ha,
      Except.error.injEq, Failure.backend_inj, Option.some.injEq]
  · have ha := congrArg Prod.fst e
    rw [hnone, show (body Store.backend header content (s, tx)).answer = _ from ha]
    simp

/-- The stated length of a body that was deposited is within the limit. -/
theorem Moment.length_le_of_body {m : Moment} {header : Header} {body : Body} {max : UInt32}
    (hmax : m.before.store.options.maxBytes? = some max)
    (hrequest : m.request = .call i (.body header body)) (hok : m.succeeded = true) :
    body.length ≤ max.toNat := by
  obtain ⟨w, request⟩ := m
  obtain rfl : request = _ := hrequest
  have hok : (w.perform (.call i (.body header body))).2 = true := hok
  cases htx : w.transactions[i]? with
  | none =>
      rw [SharedStore.perform_call_of_none htx] at hok
      cases hok
  | some tx =>
      by_cases hs : tx.state ∈ (TransactionCall.body header body).allowedIn
      · have hcreated : tx.state = .created := by simpa [TransactionCall.allowedIn] using hs
        rcases Transaction.body_store w.store tx header body hcreated with
          ⟨fault, host, -, e⟩ | ⟨hnone, _, _, _, _, -, -, -⟩
        · rw [SharedStore.perform_call (.body header body) htx e] at hok
          cases hok
        · exact Store.length_le_of_depositFault? hmax hnone
      · rw [SharedStore.perform_call_of_notAllowed htx hs] at hok
        cases hok

/-! ### Where stored messages come from -/

/-- At a moment a transaction deposited a header with a body, which was read as `content`, and the
copy was made of what it deposited. -/
structure Moment.Sources (m : Moment) (header : Header) (body : Body) (content : Bytes)
    (copy : StoredMessage) : Prop where
  asked : ∃ i, m.request = .call i (.body header body)
  succeeded : m.succeeded = true
  read : body.read m.before.store.host.disk = .ok content
  kept : copy.body.read m.after.store.host.disk = .ok content
  header : ∃ rcpt sender, copy.header = header.traced rcpt sender

/-- A message comes from a body that was deposited. -/
def StoredMessage.ComesFrom (copy : StoredMessage) (past : List Moment) : Prop :=
  ∃ m ∈ past, ∃ header body content, m.Sources header body content copy

theorem StoredMessage.ComesFrom.later {copy : StoredMessage} (h : copy.ComesFrom past)
    (now : Moment) : copy.ComesFrom (past ++ [now]) := by
  obtain ⟨m, hm, hsources⟩ := h
  exact ⟨m, List.mem_append_left _ hm, hsources⟩

/-- Every message in the store comes from a body that was deposited. -/
def Sourced (past : List Moment) (w : SharedStore) : Prop :=
  ∀ name mailbox, ∀ copy ∈ w.store.messages name mailbox, copy.ComesFrom past

open StoreAccount

/-- A message that a delivery brings is made of what was deposited. -/
theorem Delivered.comesFrom {accounts after : NameMap StoreAccount}
    (h : Delivered past i tx accounts after) {name mailbox : String} {copy : StoredMessage}
    (hcopy : copy ∈ messagesOf (after.get? name) mailbox) :
    copy ∈ messagesOf (accounts.get? name) mailbox ∨ copy.ComesFrom past := by
  obtain ⟨header, kept, ⟨m, hm, ⟨body, content, hrequest, hok, hread, hkept⟩, -⟩, hcopies⟩ :=
    h.copies
  by_cases hname : name ∈ tx.accounts
  · obtain ⟨rcpt, target, a, b, -, ha, hb, hreceives⟩ := hcopies name hname
    rw [ha]
    rw [hb] at hcopy
    by_cases e : mailbox = target
    · subst e
      have happended : copy ∈ b.messagesIn mailbox := hcopy
      rw [hreceives.messagesIn_target, List.mem_append, List.mem_singleton] at happended
      rcases happended with hold | rfl
      · exact .inl hold
      · exact .inr ⟨m, hm, header, body, content, ⟨i, hrequest⟩, hok, hread, hkept, rcpt,
          tx.sender, rfl⟩
    · exact .inl (show copy ∈ a.messagesIn mailbox from hreceives.messagesIn_other e ▸ hcopy)
  · exact .inl (h.others name hname ▸ hcopy)

/-- Every request keeps it so. -/
theorem Sourced.perform (h : Sourced past w) (hconsistent : Consistent past w)
    (request : StoreRequest) : Sourced (past ++ [⟨w, request⟩]) (w.perform request).1 := by
  intro name mailbox copy hcopy
  have hold : copy ∈ w.store.messages name mailbox → copy.ComesFrom (past ++ [⟨w, request⟩]) :=
    fun hcopy => (h name mailbox copy hcopy).later _
  have hmail := hconsistent.mailSafe request
  have hsame : (w.perform request).1.store.accounts.get? name = w.store.accounts.get? name →
      copy.ComesFrom (past ++ [⟨w, request⟩]) := by
    intro e
    rw [Store.messages_eq, e, ← Store.messages_eq] at hcopy
    exact hold hcopy
  cases hc : request.isCommit with
  | false => exact hold ((hmail.arrives hc name mailbox).subset hcopy)
  | true =>
      cases hok : (w.perform request).2 with
      | false => exact hsame (hmail.quiet (.inr hok) name)
      | true =>
          obtain ⟨i, tx, -, -, hcommitted⟩ := hconsistent.exists_committed hc hok
          by_cases hs : tx.state = .bodyDeposited
          · rw [Store.messages_eq] at hcopy
            rcases (hcommitted.delivered hs).comesFrom hcopy with hcopy | hcomes
            · rw [← Store.messages_eq] at hcopy
              exact hold hcopy
            · exact hcomes.later _
          · exact hsame (hcommitted.unchanged hs name)

/-- So does a run. -/
theorem Sourced.run (h : Sourced past w) (hconsistent : Consistent past w)
    (requests : List StoreRequest) : Sourced (past ++ w.moments requests) (w.run requests) := by
  induction requests generalizing past w with
  | nil =>
      rw [SharedStore.moments, List.append_nil]
      exact h
  | cons request requests ih =>
      have ih := ih (h.perform hconsistent request) (hconsistent.effect request).consistent
      rwa [List.append_assoc] at ih

theorem sourced_opened (options : StoreOptions) (host : Host) :
    Sourced [] (SharedStore.opened options host) := fun _ _ _ m => nomatch m

/-! ### Longer than the limit -/

/-- The octets of a message, for as long as its body reads as `content`. -/
theorem StoredMessage.length_toBytes {copy : StoredMessage} {disk : FileSystem} {content : Bytes}
    (h : copy.body.read disk = .ok content) :
    ∃ bytes, copy.toBytes disk = .ok bytes ∧
      bytes.length = copy.header.toBytes.length + content.length := by
  refine ⟨copy.header.toBytes ++ content, ?_, List.length_append⟩
  rw [toBytes, h]
  rfl

/-- **The limit bounds the stated lengths of bodies.**  Transactions and administrators use a new
store with a limit in any order.  A body is refused as too long exactly if its stated length exceeds
the limit, whatever the header.  Every stored message comes from a body within the limit, and its
header is that of the deposit under two trace fields.  As long as its body reads as it did then, it
is served with at most as many octets as the limit, its header, and what the body held beyond its
stated length. -/
theorem limit_bounds_body (options : StoreOptions) (host : Host) (requests : List StoreRequest)
    {max : UInt32} (hmax : options.maxBytes? = some max) :
    let opened := SharedStore.opened options host
    let past := opened.moments requests
    let w := opened.run requests
    (∀ (i : Nat) tx, w.transactions[i]? = some tx → tx.state = .created → ∀ header (body : Body),
      (Transaction.body Store.backend header body (w.store, tx)).answer =
        .error (.backend (Store.tooLong body.length max.toNat)) ↔ max.toNat < body.length) ∧
    ∀ name mailbox, ∀ copy ∈ w.store.messages name mailbox,
      ∃ m ∈ past, ∃ header body content, m.Sources header body content copy ∧
        body.length ≤ max.toNat ∧
        ∀ disk, copy.body.read disk = .ok content → ∃ bytes, copy.toBytes disk = .ok bytes ∧
          bytes.length = copy.header.toBytes.length + content.length ∧
          bytes.length ≤
            max.toNat + copy.header.toBytes.length + (content.length - body.length) := by
  intro opened past w
  have hlimit : w.store.options.maxBytes? = some max := by
    rw [SharedStore.options_run]
    exact hmax
  refine ⟨fun i tx _ hs header body => Transaction.body_tooLong_iff hlimit hs header body, ?_⟩
  intro name mailbox copy hcopy
  obtain ⟨m, hm, header, body, content, hsources⟩ :=
    (sourced_opened options host).run (consistent_opened options host) requests name mailbox copy
      hcopy
  obtain ⟨i, hrequest⟩ := hsources.asked
  have hbefore : m.before.store.options.maxBytes? = some max := by
    rw [SharedStore.options_of_mem_moments hm]
    exact hmax
  have hle := Moment.length_le_of_body hbefore hrequest hsources.succeeded
  refine ⟨m, hm, header, body, content, hsources, hle, fun disk hread => ?_⟩
  obtain ⟨bytes, hbytes, hlength⟩ := StoredMessage.length_toBytes hread
  exact ⟨bytes, hbytes, hlength, by omega⟩

/-- A limit of six octets: a body of seven is refused, one of six is stored with its header. -/
theorem limit_bounds_body_bob :
    let options : StoreOptions := { maxBytes? := some 6 }
    let opened := SharedStore.opened options {}
    let requests : List StoreRequest := [.createUser "bob" "b",
      .start {} ⟨"1", "", false⟩ "", .start {} ⟨"2", "", false⟩ "", .call 0 (.addRcpt "bob"),
      .call 0 (.body {} (.memory (utf8 "Body\r\n"))), .call 0 .commit]
    let w := opened.run requests
    options.maxBytes? = some 6 ∧
    (∃ tx, w.transactions[1]? = some tx ∧ tx.state = .created ∧
      let body : Body := .memory (utf8 "Bodies\n")
      (Transaction.body Store.backend {} body (w.store, tx)).answer =
        .error (.backend (Store.tooLong body.length 6)) ∧ 6 < body.length) ∧
    ∃ copy ∈ w.store.messages "bob" inbox,
      ∃ m ∈ opened.moments requests, ∃ header body content, m.Sources header body content copy ∧
        body.length ≤ 6 ∧ copy.body.read w.store.host.disk = .ok content ∧
        ∃ bytes, copy.toBytes w.store.host.disk = .ok bytes ∧
          bytes.length ≤ 6 + copy.header.toBytes.length + (content.length - body.length) := by
  intro options opened requests w
  have hcreated : (w.transactions[1]?.any fun tx => tx.state == .created) = true := by
    decide +kernel
  have hstored : ((w.store.messages "bob" inbox).any fun copy =>
      match copy.body with
      | .memory _ => true
      | _ => false) = true := by decide +kernel
  -- from here on the requests need not be looked at
  clear_value requests
  obtain ⟨tx, htx, hs⟩ := (Option.any_eq_true _ _).mp hcreated
  have hs : tx.state = .created := beq_iff_eq.mp hs
  obtain ⟨copy, hcopy, hmemory⟩ := List.any_eq_true.mp hstored
  obtain ⟨hrefused, hbound⟩ := @limit_bounds_body options {} requests 6 rfl
  obtain ⟨m, hm, header, body, content, hsources, hle, hserved⟩ := hbound "bob" inbox copy hcopy
  -- a body in memory reads the same on every disk
  have hread : copy.body.read w.store.host.disk = .ok content := by
    have hkept := hsources.kept
    revert hkept hmemory
    cases copy.body <;> simp [Body.read]
  obtain ⟨bytes, hbytes, -, hlength⟩ := hserved w.store.host.disk hread
  exact ⟨rfl, ⟨tx, htx, hs, (hrefused 1 tx htx hs {} _).mpr (by decide), by decide⟩, copy, hcopy, m,
    hm, header, body, content, hsources, hle, hread, bytes, hbytes, hlength⟩

/-- **A message is stored that is longer than the limit,** as its header is not counted. -/
theorem limit_exceeded :
    let opened := SharedStore.opened { maxBytes? := some 6 } {}
    let w := opened.run [.createUser "bob" "b", .start {} ⟨"1", "", false⟩ "",
      .call 0 (.addRcpt "bob"),
      .call 0 (.body (Header.parse (utf8 "Subject: Hi\r\n\r\n")).1 (.memory (utf8 "Body\r\n"))),
      .call 0 .commit]
    ¬ ∀ name mailbox, ∀ copy ∈ w.store.messages name mailbox, ∀ bytes,
      copy.toBytes w.store.host.disk = .ok bytes → bytes.length ≤ 6 := by
  intro opened w hlimit
  have hlong : ((w.store.messages "bob" inbox).any fun copy =>
      match copy.toBytes w.store.host.disk with
      | .ok bytes => decide (6 < bytes.length)
      | .error _ => false) = true := by decide +kernel
  obtain ⟨copy, hcopy, hlong⟩ := List.any_eq_true.mp hlong
  cases hbytes : copy.toBytes w.store.host.disk with
  | error fault => simp [hbytes] at hlong
  | ok bytes =>
      have hle := hlimit "bob" inbox copy hcopy bytes hbytes
      simp only [hbytes, decide_eq_true_eq] at hlong
      omega

end Mailroom
