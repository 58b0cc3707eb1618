import Mailroom.Proofs.Delivery.StoredCopies
import Mailroom.Proofs.Host.Paths

/-! # The files of bodies

With a body directory every deposited body lies in a file of its own.  While a transaction has a
deposited body, exactly one file is left of what it created; an abort removes it, and a commit hands
it over to the messages that it stores (`Held`).  Other transactions do not touch it, as names of
new files are free (`Filed`).  A commit without recipients stores no message but gives the file up
all the same: it is orphaned (`orphaned_file`).  The main result is `files_accounted_for`. -/

namespace Mailroom

/-- The path of the file for a body, made from an unused number. -/
def bodyPath (directory : String) (n : Nat) : String := Path.join directory (uuidText n)

/-! ### What calls do to the files -/

namespace Store

variable {s : Store} {d : StoreDelivery}

theorem spool_eq (directory : String) (content : Bytes) (host : Host) :
    spool directory content host =
      let path := bodyPath directory host.entropy
      match host.disk.storeFile path content FileSystem.publicMode with
      | (.ok _, disk) =>
        (.ok (.file path content.length, path), { host with disk, entropy := host.entropy + 1 })
      | (.error fault, disk) =>
        (.error fault, { host with disk, entropy := host.entropy + 1 }) := by
  unfold spool Body.create
  dsimp only [Host.draw, bodyPath]
  rcases host.disk.storeFile (Path.join directory (uuidText host.entropy)) content
    FileSystem.publicMode with ⟨_ | _, _⟩ <;> rfl

/-- Where the medium is sound, a deposit fails and leaves the files alone, or it writes one file for
the body. -/
theorem deposit_spooled {directory : String} (hdir : s.options.bodyDirectory? = some directory)
    (hsound : s.host.disk.SoundAt (bodyPath directory s.host.entropy)) (header : Header)
    (length : Nat) (body : Body) (d : StoreDelivery) :
    (∃ fault host, s.depositFault? length body = some fault ∧ host.disk = s.host.disk ∧
      (deposit header length body (s, d)).outcome = (.error fault, { s with host }, d)) ∨
    ∃ content disk, let path := bodyPath directory s.host.entropy
      body.read s.host.disk = .ok content ∧
      (∃ file, s.host.disk.storeFile path content FileSystem.publicMode = (.ok file, disk)) ∧
      (deposit header length body (s, d)).outcome =
        (.ok (), { s with
            host := { s.host with disk, entropy := s.host.entropy + 1 }
            deposits := s.deposits + 1 },
          { d with deposit? := some (header, .file path content.length), file? := some path }) := by
  unfold deposit depositFault?
  dsimp only
  cases s.options.maxBytes?.filter fun max => max.toNat < length with
  | some max => exact .inl ⟨_, s.host, rfl, rfl, rfl⟩
  | none =>
      cases body.read s.host.disk with
      | error fault => exact .inl ⟨_, s.host, rfl, rfl, rfl⟩
      | ok content =>
          dsimp only
          rw [keepBody, hdir]
          dsimp only
          rw [spool_eq]
          dsimp only
          rcases hsound.storeFile_cases content FileSystem.publicMode with
            ⟨fault, e⟩ | ⟨file, disk, e⟩ <;> rw [e]
          · exact .inl ⟨_, { s.host with entropy := s.host.entropy + 1 }, rfl, rfl, rfl⟩
          · exact .inr ⟨content, disk, rfl, ⟨file, e⟩, rfl⟩

theorem abort_of_none (h : d.file? = none) : (abort (s, d)).outcome = (.ok (), s, {}) := by
  unfold abort
  dsimp only
  rw [h]
  rfl

/-- An abort removes the file that the delivery holds. -/
theorem abort_of_leadsTo {path : String} {loc : Location} (h : d.file? = some path)
    (hleads : s.host.disk.LeadsTo path loc) :
    (abort (s, d)).outcome =
      (.ok (), { s with host := { s.host with disk := s.host.disk.erase loc } }, {}) := by
  unfold abort
  dsimp only
  rw [h]
  dsimp only
  rw [hleads.removeFile_eq]
  rfl

end Store

/-- Where the medium is sound, a body is refused and the files stay as they are, or it is deposited
in a new file. -/
theorem Transaction.body_spooled {s : Store} {directory : String}
    (hdir : s.options.bodyDirectory? = some directory)
    (hsound : s.host.disk.SoundAt (bodyPath directory s.host.entropy))
    {tx : Transaction StoreDelivery} (hs : tx.state = .created) (header : Header) (content : Body) :
    (∃ fault host, s.depositFault? content.length content = some fault ∧
      host.disk = s.host.disk ∧ (body Store.backend header content (s, tx)).outcome =
        (.error (.backend fault), { s with host }, tx.withJunk)) ∨
    ∃ bytes disk, let path := bodyPath directory s.host.entropy
      content.read s.host.disk = .ok bytes ∧
      (∃ file, s.host.disk.storeFile path bytes FileSystem.publicMode = (.ok file, disk)) ∧
      (body Store.backend header content (s, tx)).outcome =
        (.ok (), { s with
            host := { s.host with disk, entropy := s.host.entropy + 1 }
            deposits := s.deposits + 1 },
          tx.withDeposit header (.file path bytes.length) (some path)) := by
  rw [body_outcome_withJunk _ _ _ _ hs, depositBody_outcome]
  unfold Store.backend
  dsimp only
  rcases Store.deposit_spooled hdir hsound (header.addField (returnPath tx.sender)) content.length
      content tx.withJunk.delivery with
    ⟨fault, host, hfault, hdisk, e⟩ | ⟨bytes, disk, hread, hwrite, e⟩
  · obtain ⟨ha, hs⟩ := Prod.mk.inj e
    refine .inl ⟨fault, host, hfault, hdisk, ?_⟩
    rw [ha, hs]
    rfl
  · obtain ⟨ha, hs⟩ := Prod.mk.inj e
    refine .inr ⟨bytes, disk, hread, hwrite, ?_⟩
    rw [ha, hs]
    rfl

/-! ### Files of transactions -/

/-- The files of the host. -/
abbrev SharedStore.disk (w : SharedStore) : FileSystem := w.store.host.disk

/-- A commit leaves the files alone. -/
theorem SharedStore.disk_commit (w : SharedStore) (i : Nat) :
    (w.perform (.call i .commit)).1.disk = w.disk := by
  cases htx : w.transactions[i]? with
  | none => rw [perform_call_of_none htx]
  | some tx =>
      by_cases hs : tx.state ∈ TransactionCall.commit.allowedIn
      · have e := Transaction.commit_store w.store tx hs
        rcases hd : Store.distribute tx.delivery w.store.accounts with ⟨fault | _, accounts⟩ <;>
          rw [hd] at e <;> rw [perform_call .commit htx e]
      · rw [perform_call_of_notAllowed htx hs]

/-- At a moment a call on a transaction put a file where nothing was. -/
structure Moment.Creates (m : Moment) (i : Nat) (loc : Location) : Prop where
  asked : ∃ call, m.request = .call i call
  free : m.before.disk.node? loc = none
  there : m.after.disk.HasFile loc

/-- A transaction created the file at a location, and it has been there ever since. -/
def Leaves (past : List Moment) (i : Nat) (loc : Location) : Prop :=
  ∃ earlier m later, past = earlier ++ m :: later ∧ m.Creates i loc ∧
    ∀ now ∈ later, now.after.disk.HasFile loc

/-- At a moment the commit of a transaction stored a message whose body is the file at a
location. -/
structure Moment.StoresFile (m : Moment) (i : Nat) (loc : Location) : Prop where
  asked : m.request = .call i .commit
  succeeded : m.succeeded = true
  copy : ∃ name mailbox copy path length,
    m.after.store.messages name mailbox = m.before.store.messages name mailbox ++ [copy] ∧
      copy.body = .file path length ∧ m.after.disk.LeadsTo path loc

/-- What the body directory is to a store at a moment: the medium does not break off where a body
is written, the name for a body that is deposited is free, and no other program takes away a
file. -/
structure Moment.Undisturbed (directory : String) (m : Moment) : Prop where
  sound : ∀ i header content, m.request = .call i (.body header content) →
    m.before.disk.SoundAt (bodyPath directory m.before.store.host.entropy)
  free : m.isDeposit = true → ∃ loc,
    m.before.disk.lookup false (bodyPath directory m.before.store.host.entropy) = .ok (.free loc)
  kept : ∀ host, m.request = .host host → ∀ n loc,
    m.before.disk.LeadsTo (bodyPath directory n) loc → host.disk.LeadsTo (bodyPath directory n) loc

variable {directory : String} {past : List Moment} {w : SharedStore} {i : Nat}
  {tx : Transaction StoreDelivery} {loc : Location}

/-- What a transaction leaves after one more moment is new, or it was left before and is there. -/
theorem leaves_concat {now : Moment} : Leaves (past ++ [now]) i loc ↔
    now.Creates i loc ∨ Leaves past i loc ∧ now.after.disk.HasFile loc := by
  constructor
  · rintro ⟨earlier, m, later, e, hcreates, hlater⟩
    rcases List.eq_nil_or_concat later with rfl | ⟨later, last, rfl⟩
    · obtain ⟨-, e⟩ := List.append_inj' e rfl
      obtain rfl := List.singleton_inj.mp e
      exact .inl hcreates
    · rw [List.concat_eq_append] at e hlater
      have e : past ++ [now] = (earlier ++ m :: later) ++ [last] := by simpa using e
      obtain ⟨rfl, e'⟩ := List.append_inj' e rfl
      obtain rfl := List.singleton_inj.mp e'
      simp only [List.mem_append, List.mem_singleton] at hlater
      exact .inr ⟨⟨earlier, m, later, rfl, hcreates, fun n hn => hlater n (.inl hn)⟩,
        hlater now (.inr rfl)⟩
  · rintro (hcreates | ⟨⟨earlier, m, later, rfl, hcreates, hlater⟩, hthere⟩)
    · exact ⟨past, now, [], rfl, hcreates, fun _ hn => absurd hn List.not_mem_nil⟩
    · refine ⟨earlier, m, later ++ [now], by simp, hcreates, fun n hn => ?_⟩
      rcases List.mem_append.mp hn with hn | hn
      · exact hlater n hn
      · exact List.mem_singleton.mp hn ▸ hthere

theorem not_leaves_nil : ¬ Leaves [] i loc := by
  rintro ⟨earlier, m, later, e, -⟩
  simp at e

namespace Moment

variable {m : Moment}

/-- Nothing is created where the files stay as they are. -/
theorem not_creates_of_same (h : m.after.disk = m.before.disk) : ¬ m.Creates i loc := by
  rintro ⟨-, hfree, content, mode, hthere⟩
  rw [h, hfree] at hthere
  cases hthere

theorem not_creates_of_erase {gone : Location} (hgone : gone ≠ [])
    (h : m.after.disk = m.before.disk.erase gone) : ¬ m.Creates i loc := by
  rintro ⟨-, hfree, content, mode, hthere⟩
  rw [h, FileSystem.node?_erase _ hgone] at hthere
  split at hthere
  · cases hthere
  · rw [hfree] at hthere
    cases hthere

/-- A call that writes one file at a free name creates that file. -/
theorem creates_iff_of_put {new : Location} {content : Bytes} {mode : Nat}
    (hasked : ∃ call, m.request = .call i call) (hnew : new ≠ [])
    (hfree : m.before.disk.node? new = none)
    (h : m.after.disk = m.before.disk.put new (.file content mode)) :
    m.Creates i loc ↔ loc = new := by
  have hafter := FileSystem.node?_put m.before.disk hnew (.file content mode) loc
  constructor
  · rintro ⟨-, hother, content, mode, hthere⟩
    rw [h, hafter] at hthere
    split at hthere
    · assumption
    · rw [hother] at hthere
      cases hthere
  · rintro rfl
    refine ⟨hasked, hfree, content, mode, ?_⟩
    rw [h, hafter, if_pos rfl]

/-- Nothing but a commit stores a message. -/
theorem not_storesFile {call : TransactionCall} (h : call ≠ .commit) :
    ¬ (Moment.mk w (.call i call)).StoresFile i loc := by
  intro hstored
  have e := hstored.asked
  simp only [StoreRequest.call.injEq, true_and] at e
  exact h e

end Moment

/-! ### What a transaction holds -/

/-- **What a transaction holds in the body directory** in a state. -/
def HoldsIn (directory : String) (past : List Moment) (fs : FileSystem) (i : Nat)
    (tx : Transaction StoreDelivery) : TransactionState → Prop
  | .created => tx.delivery.file? = none ∧ ∀ loc, ¬ Leaves past i loc
  | .bodyDeposited => ∃ n header length loc,
    tx.delivery.file? = some (bodyPath directory n) ∧
    tx.delivery.deposit? = some (header, .file (bodyPath directory n) length) ∧
    fs.LeadsTo (bodyPath directory n) loc ∧ ∀ other, Leaves past i other ↔ other = loc
  | .committed => tx.added ≠ [] → ∀ loc, Leaves past i loc → ∃ m ∈ past, m.StoresFile i loc
  | .aborted => ∀ loc, ¬ Leaves past i loc

/-- What a transaction holds in the body directory, and what is known of the messages that it
stored. -/
structure Held (directory : String) (past : List Moment) (fs : FileSystem) (i : Nat)
    (tx : Transaction StoreDelivery) : Prop where
  holds : HoldsIn directory past fs i tx tx.state
  stored : ∀ m ∈ past, ∀ loc, m.StoresFile i loc → tx.added ≠ []

namespace Held

variable {fs : FileSystem}

theorem holdsIn (h : Held directory past fs i tx) {state : TransactionState}
    (hs : tx.state = state) : HoldsIn directory past fs i tx state :=
  hs ▸ h.holds

theorem stored_later (h : Held directory past fs i tx) {now : Moment}
    (hstores : ∀ loc, ¬ now.StoresFile i loc) :
    ∀ m ∈ past ++ [now], ∀ loc, m.StoresFile i loc → tx.added ≠ [] := by
  intro m hm loc hstored
  rcases List.mem_append.mp hm with hm | hm
  · exact h.stored m hm loc hstored
  · exact absurd (List.mem_singleton.mp hm ▸ hstored) (hstores loc)

/-- A moment that neither creates nor takes away a file of a transaction, nor commits it. -/
theorem later (h : Held directory past fs i tx) {now : Moment}
    (hcreates : ∀ loc, ¬ now.Creates i loc) (hstores : ∀ loc, ¬ now.StoresFile i loc)
    (hkept : ∀ n loc, Leaves past i loc → fs.LeadsTo (bodyPath directory n) loc →
      now.after.disk.LeadsTo (bodyPath directory n) loc) :
    Held directory (past ++ [now]) now.after.disk i tx := by
  have hold : ∀ {loc}, Leaves (past ++ [now]) i loc → Leaves past i loc := fun hl =>
    (leaves_concat.mp hl).elim (fun hc => absurd hc (hcreates _)) And.left
  refine ⟨?_, h.stored_later hstores⟩
  have hholds := h.holds
  cases hs : tx.state with
  | created =>
      rw [hs] at hholds
      exact ⟨hholds.1, fun loc hl => hholds.2 loc (hold hl)⟩
  | bodyDeposited =>
      rw [hs] at hholds
      obtain ⟨n, header, length, loc, hfile, hdeposit, hleads, hone⟩ := hholds
      have hleads := hkept n loc ((hone loc).mpr rfl) hleads
      refine ⟨n, header, length, loc, hfile, hdeposit, hleads, fun other => ⟨fun hl => ?_, ?_⟩⟩
      · exact (hone other).mp (hold hl)
      · rintro rfl
        exact leaves_concat.mpr (.inr ⟨(hone _).mpr rfl, hleads.hasFile⟩)
  | committed =>
      rw [hs] at hholds
      intro hadded loc hl
      obtain ⟨m, hm, hstored⟩ := hholds hadded loc (hold hl)
      exact ⟨m, List.mem_append_left _ hm, hstored⟩
  | aborted =>
      rw [hs] at hholds
      exact fun loc hl => hholds loc (hold hl)

/-- A transaction that gathers recipients holds the same with more of them. -/
theorem congr (h : Held directory past fs i tx) {tx' : Transaction StoreDelivery}
    (hs : tx.state = .created) (hs' : tx'.state = .created)
    (hfile : tx'.delivery.file? = tx.delivery.file?) (hadded : tx.added ≠ [] → tx'.added ≠ []) :
    Held directory past fs i tx' where
  holds := by
    rw [hs']
    exact ⟨hfile.trans (h.holdsIn hs).1, (h.holdsIn hs).2⟩
  stored := fun m hm loc hstored => hadded (h.stored m hm loc hstored)

end Held

/-- **What holds of all transactions and their files.** -/
structure Filed (directory : String) (past : List Moment) (w : SharedStore) : Prop where
  options : w.store.options.bodyDirectory? = some directory
  there : ∀ i loc, Leaves past i loc → w.disk.HasFile loc
  owner : ∀ i j loc, Leaves past i loc → Leaves past j loc → i = j
  opened : ∀ i, w.transactions[i]? = none →
    (∀ loc, ¬ Leaves past i loc) ∧ ∀ m ∈ past, ∀ loc, ¬ m.StoresFile i loc
  held : ∀ i tx, w.transactions[i]? = some tx → Held directory past w.disk i tx

/-! ### Calls -/

/-- What a call does to the files that its transaction holds, and to those of others. -/
structure CallFiles (directory : String) (past : List Moment) (w : SharedStore) (i : Nat)
    (call : TransactionCall) : Prop where
  others : ∀ path loc, ¬ Leaves past i loc → w.disk.LeadsTo path loc →
    (Moment.mk w (.call i call)).after.disk.LeadsTo path loc
  held : ∀ tx, (Moment.mk w (.call i call)).after.transactions[i]? = some tx →
    Held directory (past ++ [⟨w, .call i call⟩]) (Moment.mk w (.call i call)).after.disk i tx

section calls

variable {call : TransactionCall} {answer : Except Failure Unit} {s' : Store}
  {tx' : Transaction StoreDelivery} (htx : w.transactions[i]? = some tx)
include htx

theorem CallFiles.of_outcome
    (e : (call.act Store.backend (w.store, tx)).outcome = (answer, s', tx'))
    (hothers : ∀ path loc, ¬ Leaves past i loc → w.disk.LeadsTo path loc →
      s'.host.disk.LeadsTo path loc)
    (hheld : Held directory (past ++ [⟨w, .call i call⟩]) s'.host.disk i tx') :
    CallFiles directory past w i call := by
  have hafter : (Moment.mk w (.call i call)).after = ⟨s', w.transactions.set i tx'⟩ :=
    congrArg Prod.fst (SharedStore.perform_call call htx e)
  constructor
  · rwa [hafter]
  · intro tx'' htx''
    rw [hafter, List.getElem?_set_self (List.getElem?_eq_some_iff.mp htx).1] at htx''
    obtain rfl := Option.some.inj htx''
    rwa [hafter]

/-- A call that leaves the files alone. -/
theorem CallFiles.of_same
    (e : (call.act Store.backend (w.store, tx)).outcome = (answer, s', tx'))
    (hdisk : s'.host.disk = w.disk) (hheld : Held directory past w.disk i tx')
    (hstores : ∀ loc, ¬ (Moment.mk w (.call i call)).StoresFile i loc) :
    CallFiles directory past w i call := by
  have hafter : (Moment.mk w (.call i call)).after.disk = s'.host.disk := by
    rw [Moment.after, SharedStore.perform_call call htx e]
  refine .of_outcome htx e (fun path loc _ hleads => by rwa [hdisk]) ?_
  rw [← hafter]
  exact hheld.later (fun loc => Moment.not_creates_of_same (hafter.trans hdisk)) hstores
    fun n loc _ hleads => by rwa [hafter, hdisk]

variable (h : Filed directory past w)
include h

theorem Filed.callFiles_addRcpt (rcpt : String) (hs : tx.state = .created) :
    CallFiles directory past w i (.addRcpt rcpt) := by
  have hheld := h.held i tx htx
  have hstores : ∀ loc, ¬ (Moment.mk w (.call i (.addRcpt rcpt))).StoresFile i loc := fun _ =>
    Moment.not_storesFile (by simp)
  rcases Transaction.addRcpt_store w.store tx rcpt hs with
    ⟨_, -, e⟩ | ⟨_, -, -, e⟩ | ⟨name, -, -, -, e⟩
  · exact .of_same htx e rfl hheld hstores
  · exact .of_same htx e rfl hheld hstores
  · exact .of_same htx e rfl
      (hheld.congr hs hs rfl fun _ => List.cons_ne_nil name tx.added) hstores

/-- A body that is deposited goes to a free name, and its file is the only one. -/
theorem Filed.callFiles_body (header : Header) (content : Body) (hs : tx.state = .created)
    (hundisturbed : (Moment.mk w (.call i (.body header content))).Undisturbed directory) :
    CallFiles directory past w i (.body header content) := by
  have hheld := h.held i tx htx
  have hstores : ∀ loc, ¬ (Moment.mk w (.call i (.body header content))).StoresFile i loc :=
    fun _ => Moment.not_storesFile (by simp)
  rcases Transaction.body_spooled h.options (hundisturbed.sound i header content rfl) hs header
      content with ⟨fault, host, -, hdisk, e⟩ | ⟨bytes, disk, -, ⟨file, hwrite⟩, e⟩
  · exact .of_same htx e hdisk (hheld.congr hs hs rfl id) hstores
  · have hperform := SharedStore.perform_call (.body header content) htx e
    obtain ⟨loc, hfree⟩ := hundisturbed.free (congrArg Prod.snd hperform)
    obtain ⟨hput, hleads⟩ := FileSystem.storeFile_of_free hfree hwrite
    have hafter : (Moment.mk w (.call i (.body header content))).after.disk = disk := by
      rw [Moment.after, hperform]
    refine .of_outcome htx e (fun path other _ hother => ?_) ⟨?_, hheld.stored_later hstores⟩
    · rw [hput]
      exact hother.put hfree bytes FileSystem.publicMode
    · refine ⟨_, _, _, loc, rfl, rfl, hleads, fun other => ?_⟩
      rw [leaves_concat, Moment.creates_iff_of_put ⟨_, rfl⟩ (FileSystem.isEnd_of_free hfree).1
        (FileSystem.node?_of_free hfree) (hafter.trans hput)]
      exact or_iff_left fun hl => (hheld.holdsIn hs).2 other hl.1

/-- An abort leaves no file behind. -/
theorem Filed.callFiles_abort (hs : tx.state ∈ [TransactionState.created, .bodyDeposited]) :
    CallFiles directory past w i .abort := by
  have hheld := h.held i tx htx
  have hstores : ∀ loc, ¬ (Moment.mk w (.call i .abort)).StoresFile i loc := fun _ =>
    Moment.not_storesFile (by simp)
  have hstate : tx.state = .created ∨ tx.state = .bodyDeposited := by simpa using hs
  rcases hstate with hcreated | hdeposited
  · obtain ⟨hfile, hnone⟩ := hheld.holdsIn hcreated
    have e := tx.abort_of_outcome w.store hs (Store.abort_of_none hfile)
    exact .of_same htx e rfl ⟨hnone, hheld.stored⟩ hstores
  · obtain ⟨n, header, length, loc, hfile, -, hleads, hone⟩ := hheld.holdsIn hdeposited
    have e := tx.abort_of_outcome w.store hs (Store.abort_of_leadsTo hfile hleads)
    have hafter : (Moment.mk w (.call i .abort)).after.disk = w.disk.erase loc := by
      rw [Moment.after, SharedStore.perform_call .abort htx e]
    refine .of_outcome htx e (fun path other hnot hother => hleads.erase hother ?_)
      ⟨fun other hl => ?_, hheld.stored_later hstores⟩
    · rintro rfl
      exact hnot ((hone other).mpr rfl)
    · rcases leaves_concat.mp hl with hcreates | ⟨hl, content, mode, hthere⟩
      · exact Moment.not_creates_of_erase hleads.isEnd.1 hafter hcreates
      · rw [hafter, FileSystem.node?_erase _ hleads.isEnd.1, if_pos ((hone other).mp hl)] at hthere
        cases hthere

omit h htx in
/-- A commit that brings a message to an account has a recipient. -/
theorem Committed.added_ne_nil {now : Moment}
    (h : Committed past i tx now.before.store.accounts now.after.store.accounts)
    (hstored : now.StoresFile i loc) : tx.added ≠ [] := by
  obtain ⟨name, mailbox, copy, _, _, hmessages, -⟩ := hstored.copy
  intro hnil
  have hname : name ∉ tx.accounts := by
    rw [tx.mem_accounts, hnil]
    exact List.not_mem_nil
  have hsame : now.after.store.accounts.get? name = now.before.store.accounts.get? name := by
    by_cases hs : tx.state = .bodyDeposited
    · exact (h.delivered hs).others name hname
    · exact h.unchanged hs name
  rw [Store.messages_eq, Store.messages_eq, hsame] at hmessages
  simp at hmessages

/-- A commit with a recipient stores a message with the file that was left. -/
theorem Filed.storesFile (hconsistent : Consistent past w) {now : Moment}
    (hnow : now = ⟨w, .call i .commit⟩) (hok : now.succeeded = true)
    (hs : tx.state.isFinal = false)
    (hd : Store.distribute tx.delivery w.store.accounts = (.ok (), now.after.store.accounts))
    (hadded : tx.added ≠ []) (hl : Leaves past i loc) : now.StoresFile i loc := by
  have htracked := hconsistent.tracked i tx htx
  have hheld := h.held i tx htx
  have hafter : now.after.disk = w.disk := hnow ▸ w.disk_commit i
  cases hstate : tx.state with
  | created => exact absurd hl ((hheld.holdsIn hstate).2 loc)
  | bodyDeposited =>
      obtain ⟨n, header, length, _, -, hdeposit, hleads, hone⟩ := hheld.holdsIn hstate
      obtain rfl := (hone loc).mp hl
      obtain ⟨name, hname⟩ := List.exists_mem_of_ne_nil _ hadded
      obtain ⟨r, hr, -⟩ := List.mem_map.mp
        (((htracked.pending hs).mem_accounts name).mp ((tx.mem_accounts name).mpr hname))
      obtain ⟨a, b, mailbox, ha, hb, hreceives⟩ :=
        (Store.receives_of_distribute hdeposit hconsistent.ordered (htracked.nodup_rcpts hs) hd).1
          r hr
      subst hnow
      exact ⟨rfl, hok, r.1, mailbox, _, _, length, Store.messages_of_receives ha hb hreceives, rfl,
        hafter ▸ hleads⟩
  | committed | aborted =>
      rw [hstate] at hs
      cases hs

/-- A commit leaves the files alone. -/
theorem Filed.callFiles_commit (hconsistent : Consistent past w)
    (hs : tx.state ∈ [TransactionState.created, .bodyDeposited]) :
    CallFiles directory past w i .commit := by
  have hheld := h.held i tx htx
  have e := Transaction.commit_store w.store tx hs
  rcases hd : Store.distribute tx.delivery w.store.accounts with ⟨fault | _, accounts⟩
  · rw [hd] at e
    dsimp only at e
    refine .of_same htx e rfl hheld fun loc hstored => ?_
    have hok := hstored.succeeded
    rw [Moment.succeeded, SharedStore.perform_call .commit htx e] at hok
    cases hok
  · rw [hd] at e
    dsimp only at e
    have hperform := SharedStore.perform_call .commit htx e
    have hok := congrArg Prod.snd hperform
    refine .of_outcome htx e (fun _ _ _ hleads => hleads) ⟨fun hadded loc hl => ?_, ?_⟩
    · refine ⟨_, List.mem_append_right _ List.mem_cons_self, ?_⟩
      rcases leaves_concat.mp hl with hcreates | ⟨hl, -⟩
      · exact absurd hcreates (Moment.not_creates_of_same (w.disk_commit i))
      · refine h.storesFile htx hconsistent rfl hok (tx.unfinished_of_mem hs) ?_ hadded hl
        rw [hd, Moment.after, hperform]
    · intro m hm loc hstored
      rcases List.mem_append.mp hm with hm | hm
      · exact hheld.stored m hm loc hstored
      · obtain rfl := List.mem_singleton.mp hm
        show tx.added ≠ []
        exact (hconsistent.committed htx hok).added_ne_nil hstored

end calls

/-- **Every call** keeps account of the files. -/
theorem Filed.callFiles (h : Filed directory past w) (hconsistent : Consistent past w) {i : Nat}
    {call : TransactionCall} (hundisturbed : (Moment.mk w (.call i call)).Undisturbed directory) :
    CallFiles directory past w i call := by
  have hrefused : w.perform (.call i call) = (w, false) → CallFiles directory past w i call := by
    intro e
    have hafter : (Moment.mk w (.call i call)).after = w := congrArg Prod.fst e
    constructor
    · intro path loc _ hleads
      rwa [hafter]
    · intro tx htx
      rw [hafter] at htx
      refine (h.held i tx htx).later (fun loc => Moment.not_creates_of_same ?_)
        (fun loc hstored => ?_) fun n loc _ hleads => by rwa [hafter]
      · rw [hafter]
      · exact Bool.noConfusion ((congrArg Prod.snd e).symm.trans hstored.succeeded)
  cases htx : w.transactions[i]? with
  | none => exact hrefused (SharedStore.perform_call_of_none htx call)
  | some tx =>
      by_cases hs : tx.state ∈ call.allowedIn
      · cases call with
        | addRcpt rcpt =>
            exact h.callFiles_addRcpt htx rcpt (by simpa [TransactionCall.allowedIn] using hs)
        | body header content =>
            exact h.callFiles_body htx header content
              (by simpa [TransactionCall.allowedIn] using hs) hundisturbed
        | abort => exact h.callFiles_abort htx hs
        | commit => exact h.callFiles_commit htx hconsistent hs
      · exact hrefused (SharedStore.perform_call_of_notAllowed htx hs)

/-! ### Requests -/

/-- A request that is no call keeps account of the files. -/
theorem Filed.held_of_noCall (h : Filed directory past w) {request : StoreRequest}
    (hundisturbed : (Moment.mk w request).Undisturbed directory)
    (hcall : ∀ i call, request ≠ .call i call)
    (htx : (w.perform request).1.transactions[i]? = some tx) :
    Held directory (past ++ [⟨w, request⟩]) (w.perform request).1.disk i tx := by
  have hcreates : ∀ loc, ¬ (Moment.mk w request).Creates i loc := by
    rintro loc ⟨⟨call, e⟩, -⟩
    exact hcall i call e
  have hstores : ∀ loc, ¬ (Moment.mk w request).StoresFile i loc := fun loc hstored =>
    hcall i .commit hstored.asked
  rcases w.perform_accounts request with
    ⟨accounts, ok, e⟩ | ⟨rules, envelope, sender, rfl⟩ | ⟨host, rfl⟩ | ⟨j, call, rfl⟩
  · have hafter : (Moment.mk w request).after.disk = w.disk := by rw [Moment.after, e]
    rw [e] at htx
    exact (h.held i tx htx).later hcreates hstores fun n loc _ hleads => by rwa [hafter]
  · rw [w.perform_start, List.getElem?_append] at htx
    split at htx
    · exact (h.held i tx htx).later hcreates hstores fun n loc _ hleads => hleads
    · next hi =>
      obtain ⟨hnone, hunstored⟩ := h.opened i (List.getElem?_eq_none (Nat.le_of_not_lt hi))
      rw [List.getElem?_singleton] at htx
      split at htx
      · cases htx
        have hopened : Held directory past w.disk i
            (Transaction.opened rules envelope sender ({} : StoreDelivery)) :=
          ⟨⟨rfl, hnone⟩, fun m hm loc hstored => absurd hstored (hunstored m hm loc)⟩
        exact hopened.later hcreates hstores fun n loc _ hleads => hleads
      · cases htx
  · exact (h.held i tx htx).later hcreates hstores fun n loc _ hleads =>
      hundisturbed.kept host rfl n loc hleads
  · exact absurd rfl (hcall j call)

theorem SharedStore.length_transactions_perform (w : SharedStore) (request : StoreRequest) :
    w.transactions.length ≤ (w.perform request).1.transactions.length := by
  rcases w.perform_accounts request with
    ⟨accounts, ok, e⟩ | ⟨rules, envelope, sender, rfl⟩ | ⟨host, rfl⟩ | ⟨i, call, rfl⟩
  · rw [e]
  · rw [w.perform_start, List.length_append]
    exact Nat.le_add_right _ _
  · exact Nat.le_refl _
  · rw [perform]
    cases w.transactions[i]? with
    | none => exact Nat.le_refl _
    | some tx => exact Nat.le_of_eq List.length_set.symm

/-- **Every request** keeps account of the files. -/
theorem Filed.perform (h : Filed directory past w) (hconsistent : Consistent past w)
    {request : StoreRequest} (hundisturbed : (Moment.mk w request).Undisturbed directory) :
    Filed directory (past ++ [⟨w, request⟩]) (w.perform request).1 where
  options := by
    rw [w.options_perform]
    exact h.options
  there := fun i loc hl => (leaves_concat.mp hl).elim Moment.Creates.there And.right
  owner := by
    have hnew : ∀ {i j loc}, (Moment.mk w request).Creates i loc → ¬ Leaves past j loc := by
      rintro i j loc ⟨-, hfree, -⟩ hl
      obtain ⟨_, _, hthere⟩ := h.there j loc hl
      cases hfree.symm.trans hthere
    intro i j loc hi hj
    rcases leaves_concat.mp hi with hi | ⟨hi, -⟩
    · rcases leaves_concat.mp hj with hj | ⟨hj, -⟩
      · obtain ⟨call, e⟩ := hi.asked
        obtain ⟨call', e'⟩ := hj.asked
        cases e.symm.trans e'
        rfl
      · exact absurd hj (hnew hi)
    · rcases leaves_concat.mp hj with hj | ⟨hj, -⟩
      · exact absurd hi (hnew hj)
      · exact h.owner i j loc hi hj
  opened := by
    intro i hi
    have hlength := w.length_transactions_perform request
    have hbefore : w.transactions[i]? = none :=
      List.getElem?_eq_none (Nat.le_trans hlength (List.getElem?_eq_none_iff.mp hi))
    obtain ⟨hnone, hunstored⟩ := h.opened i hbefore
    constructor
    · intro loc hl
      rcases leaves_concat.mp hl with hcreates | ⟨hl, -⟩
      · obtain ⟨call, rfl⟩ := hcreates.asked
        refine Moment.not_creates_of_same ?_ hcreates
        rw [Moment.after, SharedStore.perform_call_of_none hbefore]
      · exact hnone loc hl
    · intro m hm loc hstored
      rcases List.mem_append.mp hm with hm | hm
      · exact hunstored m hm loc hstored
      · obtain rfl := List.mem_singleton.mp hm
        obtain rfl := hstored.asked
        have hok := hstored.succeeded
        rw [Moment.succeeded, SharedStore.perform_call_of_none hbefore] at hok
        cases hok
  held := by
    intro i tx htx
    by_cases hcall : ∃ j call, request = .call j call
    · obtain ⟨j, call, rfl⟩ := hcall
      have hfiles := h.callFiles hconsistent hundisturbed
      by_cases hj : j = i
      · subst hj
        exact hfiles.held tx htx
      · rw [SharedStore.transactions_call_of_ne hj] at htx
        refine (h.held i tx htx).later ?_ (fun loc hstored => ?_) fun n loc hl hleads => ?_
        · rintro loc ⟨⟨_, e⟩, -⟩
          cases e
          exact hj rfl
        · cases hstored.asked
          exact hj rfl
        · exact hfiles.others _ loc (fun hl' => hj (h.owner j i loc hl' hl)) hleads
    · exact h.held_of_noCall hundisturbed (fun j call e => hcall ⟨j, call, e⟩) htx

/-- **A run** keeps account of the files. -/
theorem Filed.run (h : Filed directory past w) (hconsistent : Consistent past w)
    {requests : List StoreRequest}
    (hundisturbed : ∀ m ∈ w.moments requests, m.Undisturbed directory) :
    Filed directory (past ++ w.moments requests) (w.run requests) := by
  induction requests generalizing past w with
  | nil =>
      rw [SharedStore.moments, List.append_nil]
      exact h
  | cons request requests ih =>
      have ih := ih (h.perform hconsistent (hundisturbed _ List.mem_cons_self))
        (hconsistent.effect request).consistent fun m hm =>
          hundisturbed m (List.mem_cons_of_mem _ hm)
      rwa [List.append_assoc] at ih

theorem filed_opened {options : StoreOptions} (hdir : options.bodyDirectory? = some directory)
    (host : Host) : Filed directory [] (SharedStore.opened options host) where
  options := hdir
  there := fun _ _ hl => absurd hl not_leaves_nil
  owner := fun _ _ _ hl => absurd hl not_leaves_nil
  opened := fun _ _ => ⟨fun _ => not_leaves_nil, fun _ hm => absurd hm List.not_mem_nil⟩
  held := fun _ _ htx => by cases htx

theorem Transaction.accounts_eq_nil_iff {δ : Type} (tx : Transaction δ) :
    tx.accounts = [] ↔ tx.added = [] := by
  simp only [List.eq_nil_iff_forall_not_mem, mem_accounts]

theorem Filed.leaves_commit (h : Filed directory past w) (hl : Leaves past i loc) :
    Leaves (past ++ [⟨w, .call i .commit⟩]) i loc := by
  refine leaves_concat.mpr (.inr ⟨hl, ?_⟩)
  rw [Moment.after, w.disk_commit i]
  exact h.there i loc hl

/-! ### A first body -/

/-- Whether a request neither sends a body nor changes the host. -/
def StoreRequest.isLocal : StoreRequest → Bool
  | call _ (.body _ _) | host _ => false
  | _ => true

theorem Moment.undisturbed_of_isLocal {m : Moment} (h : m.request.isLocal = true) :
    m.Undisturbed directory where
  sound := fun i header content e => by
    rw [e] at h
    cases h
  free := fun hdeposit => by
    obtain ⟨hbody, -⟩ := Bool.and_eq_true_iff.mp hdeposit
    obtain ⟨w, request⟩ := m
    cases request with
    | call i call =>
        cases call with
        | body header content => cases h
        | _ => cases hbody
    | _ => cases hbody
  kept := fun host e => by
    rw [e] at h
    cases h

/-- The name for the first body in an empty root directory is free. -/
theorem lookup_firstBody :
    ({} : FileSystem).lookup false (bodyPath "/" 0) = .ok (.free [uuidText 0]) := by
  have hsegments : Path.segments (bodyPath "/" 0) = [uuidText 0] := by decide +kernel
  refine FileSystem.lookup_eq_ok_iff.mpr
    ⟨⟨by decide +kernel, by decide +kernel, by decide +kernel⟩, ?_⟩
  rw [hsegments, FileSystem.walk, if_neg (by decide +kernel), if_neg (by decide +kernel),
    if_neg (by decide +kernel)]
  rfl

section firstBody

variable (hdisk : w.store.host.disk = {}) (hentropy : w.store.host.entropy = 0)
include hdisk hentropy

theorem Moment.undisturbed_firstBody (header : Header) (content : Body) :
    (Moment.mk w (.call i (.body header content))).Undisturbed "/" where
  sound := fun _ _ _ _ => by
    dsimp only [SharedStore.disk]
    rw [hdisk]
    exact FileSystem.soundAt_of_flaws rfl _
  free := fun _ => by
    dsimp only [SharedStore.disk]
    rw [hdisk, hentropy]
    exact ⟨_, lookup_firstBody⟩
  kept := fun _ e => by cases e

/-- A first body in memory is deposited. -/
theorem SharedStore.perform_firstBody (hoptions : w.store.options = { bodyDirectory? := some "/" })
    (htx : w.transactions[i]? = some tx) (hs : tx.state = .created) (header : Header)
    (content : Bytes) :
    w.perform (.call i (.body header (.memory content))) =
      (⟨{ w.store with
          host := ⟨FileSystem.put {} [uuidText 0] (.file content FileSystem.publicMode), 1,
            w.store.host.now⟩
          deposits := w.store.deposits + 1 },
        w.transactions.set i (tx.withDeposit header (.file (bodyPath "/" 0) content.length)
          (some (bodyPath "/" 0)))⟩, true) := by
  have hdir : w.store.options.bodyDirectory? = some "/" := by rw [hoptions]
  have hsound := (Moment.undisturbed_firstBody hdisk hentropy header (.memory content)).sound i
    header (.memory content) rfl
  have hwrite := FileSystem.storeFile_eq_of_free lookup_firstBody
    (show ¬ Path.endsInSlash (bodyPath "/" 0) = true by decide +kernel) rfl content
    FileSystem.publicMode
  rcases Transaction.body_spooled hdir hsound hs header (.memory content) with
    ⟨fault, host, hfault, -, -⟩ | ⟨bytes, disk, hread, ⟨_, hnew⟩, e⟩
  · have hnone : w.store.depositFault? content.length (.memory content) = none := by
      refine Store.depositFault?_eq_none_iff.mpr ⟨?_, content, rfl, ?_⟩
      · rw [hoptions]
        intro max e
        cases e
      · refine Store.exists_keepBody_iff.mpr fun other hother => ?_
        obtain rfl := Option.some.inj (hdir.symm.trans hother)
        rw [Store.spool_eq, hentropy, hdisk]
        dsimp only
        rw [hwrite]
        exact ⟨_, rfl⟩
    cases hnone.symm.trans hfault
  · obtain rfl : content = bytes := Except.ok.inj hread
    rw [hentropy] at hnew e
    rw [hdisk, hwrite] at hnew
    obtain rfl := (Prod.mk.inj hnew).2
    exact perform_call (.body header (.memory content)) htx e

end firstBody

/-! ### All files -/

/-- **The files of bodies are accounted for.**  Transactions and administrators use a new store with
a body directory in any order, new names in it are free, and no other program takes a file away.
While a transaction has a deposited body, exactly one file is left of what it created, and a commit
leaves it there, also one that fails.  An aborted transaction has left none.  What a committed one
has left is the body of a message that its commit stored, if it had a recipient, and of no such
message if it had none. -/
theorem files_accounted_for {options : StoreOptions} {host : Host} {requests : List StoreRequest}
    (hdir : options.bodyDirectory? = some directory)
    (hundisturbed : ∀ m ∈ (SharedStore.opened options host).moments requests,
      m.Undisturbed directory) :
    let opened := SharedStore.opened options host
    let past := opened.moments requests
    let w := opened.run requests
    ∀ (i : Nat) tx, w.transactions[i]? = some tx →
      (tx.state = .bodyDeposited → ∃ loc, (∀ other, Leaves past i other ↔ other = loc) ∧
        Leaves (past ++ [⟨w, .call i .commit⟩]) i loc) ∧
      (tx.state = .aborted → ∀ loc, ¬ Leaves past i loc) ∧
      (tx.state = .committed → ∀ loc, Leaves past i loc →
        ((∃ m ∈ past, m.StoresFile i loc) ↔ tx.accounts ≠ [])) := by
  intro opened past w i tx htx
  have h : Filed directory past w :=
    (filed_opened hdir host).run (consistent_opened options host) hundisturbed
  have hheld := h.held i tx htx
  refine ⟨fun hs => ?_, fun hs => hheld.holdsIn hs, fun hs loc hl => ?_⟩
  · obtain ⟨_, _, _, loc, -, -, -, hone⟩ := hheld.holdsIn hs
    exact ⟨loc, hone, h.leaves_commit ((hone loc).mpr rfl)⟩
  · rw [Ne, tx.accounts_eq_nil_iff]
    constructor
    · rintro ⟨m, hm, hstored⟩
      exact hheld.stored m hm loc hstored
    · exact fun hadded => hheld.holdsIn hs hadded loc hl

/-- A commit fails, as an inbox is deleted, and is made again. -/
theorem files_accounted_for_bob :
    let options : StoreOptions := { bodyDirectory? := some "/" }
    let opened := SharedStore.opened options {}
    let requests : List StoreRequest := [.createUser "bob" "b", .start {} ⟨"1", "", false⟩ "",
      .call 0 (.addRcpt "bob"), .call 0 (.body {} (.memory [1])), .deleteMailbox "bob" inbox,
      .call 0 .commit, .createMailbox "bob" inbox]
    let past := opened.moments requests
    let now : Moment := ⟨opened.run requests, .call 0 .commit⟩
    options.bodyDirectory? = some "/" ∧ (∀ m ∈ past ++ [now], m.Undisturbed "/") ∧
    ∃ loc, (∃ tx, now.before.transactions[0]? = some tx ∧ tx.state = .bodyDeposited ∧
        ∀ other, Leaves past 0 other ↔ other = loc) ∧
      ∃ tx, now.after.transactions[0]? = some tx ∧ tx.state = .committed ∧
        Leaves (past ++ [now]) 0 loc ∧ tx.accounts ≠ [] ∧
        ∃ m ∈ past ++ [now], m.StoresFile 0 loc := by
  intro options opened requests past now
  let asked := (((opened.perform (.createUser "bob" "b")).1.perform
    (.start {} ⟨"1", "", false⟩ "")).1.perform (.call 0 (.addRcpt "bob"))).1
  have hdisk : asked.store.host.disk = {} := by decide +kernel
  have hentropy : asked.store.host.entropy = 0 := by decide +kernel
  have htx : asked.transactions[0]? =
      some ((Transaction.opened {} ⟨"1", "", false⟩ "" {}).withRcpt "bob" "bob") := rfl
  have hbody := SharedStore.perform_firstBody hdisk hentropy (by decide +kernel) htx rfl {} [1]
  have hdeposited : (now.before.transactions[0]?.any fun tx => tx.state == .bodyDeposited) =
      true := by
    simp only [now, SharedStore.run, requests, List.foldl_cons, List.foldl_nil]
    rw [hbody]
    decide +kernel
  have hcommitted : (now.after.transactions[0]?.any
      fun tx => tx.state == .committed && !tx.added.isEmpty) = true := by
    simp only [now, Moment.after, SharedStore.run, requests, List.foldl_cons, List.foldl_nil]
    rw [hbody]
    decide +kernel
  have hundisturbed : ∀ m ∈ past, m.Undisturbed "/" := by
    simp only [past, requests, SharedStore.moments, List.mem_cons, List.not_mem_nil, or_false]
    rintro m (rfl | rfl | rfl | rfl | rfl | rfl | rfl)
    · exact Moment.undisturbed_of_isLocal rfl
    · exact Moment.undisturbed_of_isLocal rfl
    · exact Moment.undisturbed_of_isLocal rfl
    · exact Moment.undisturbed_firstBody hdisk hentropy {} _
    · exact Moment.undisturbed_of_isLocal rfl
    · exact Moment.undisturbed_of_isLocal rfl
    · exact Moment.undisturbed_of_isLocal rfl
  -- from here on the requests need not be looked at
  clear_value requests
  obtain ⟨tx, htx, hs⟩ := (Option.any_eq_true _ _).mp hdeposited
  obtain ⟨tx', htx', hs'⟩ := (Option.any_eq_true _ _).mp hcommitted
  simp only [Bool.and_eq_true, Bool.not_eq_true', beq_iff_eq, List.isEmpty_eq_false_iff] at hs'
  have haccounts : tx'.accounts ≠ [] := fun e => hs'.2 (tx'.accounts_eq_nil_iff.mp e)
  have hmoments : opened.moments (requests ++ [now.request]) = past ++ [now] :=
    SharedStore.moments_append requests [now.request]
  have hafter : opened.run (requests ++ [now.request]) = now.after :=
    SharedStore.run_append requests [now.request]
  have hundisturbed' : ∀ m ∈ opened.moments (requests ++ [now.request]), m.Undisturbed "/" := by
    rw [hmoments]
    intro m hm
    rcases List.mem_append.mp hm with hm | hm
    · exact hundisturbed m hm
    · obtain rfl := List.mem_singleton.mp hm
      exact Moment.undisturbed_of_isLocal rfl
  obtain ⟨loc, hone, hkept⟩ := (files_accounted_for rfl hundisturbed 0 tx htx).1 (beq_iff_eq.mp hs)
  have hstored := (files_accounted_for rfl hundisturbed' 0 tx' (hafter ▸ htx')).2.2 hs'.1 loc
  rw [hmoments] at hundisturbed' hstored
  exact ⟨rfl, hundisturbed', loc, ⟨tx, htx, beq_iff_eq.mp hs, hone⟩, tx', htx', hs'.1, hkept,
    haccounts, (hstored hkept).mpr haccounts⟩

/-- **A commit without recipients orphans the file** of its body. -/
theorem orphaned_file :
    let opened := SharedStore.opened { bodyDirectory? := some "/" } {}
    let requests : List StoreRequest := [.start {} ⟨"1", "", false⟩ "",
      .call 0 (.body {} (.memory [1])), .call 0 .commit]
    let past := opened.moments requests
    (∀ m ∈ past, m.Undisturbed "/") ∧
    ∃ tx loc, (opened.run requests).transactions[0]? = some tx ∧ tx.state = .committed ∧
      Leaves past 0 loc ∧ ¬ ∃ m ∈ past, m.StoresFile 0 loc := by
  intro opened requests past
  let early : List StoreRequest := [.start {} ⟨"1", "", false⟩ "", .call 0 (.body {} (.memory [1]))]
  have hpast : past = opened.moments early ++ [⟨opened.run early, .call 0 .commit⟩] := rfl
  have hundisturbed : ∀ m ∈ past, m.Undisturbed "/" := by
    simp only [past, requests, SharedStore.moments, List.mem_cons, List.not_mem_nil, or_false]
    rintro m (rfl | rfl | rfl)
    · exact Moment.undisturbed_of_isLocal rfl
    · exact Moment.undisturbed_firstBody rfl rfl {} _
    · exact Moment.undisturbed_of_isLocal rfl
  have hbody := @SharedStore.perform_firstBody
    (opened.perform (.start {} ⟨"1", "", false⟩ "")).1 0 _ rfl rfl rfl rfl rfl {} [1]
  have hdeposited : ((opened.run early).transactions[0]?.any
      fun tx => tx.state == .bodyDeposited) = true := by
    simp only [SharedStore.run, early, List.foldl_cons, List.foldl_nil]
    rw [hbody]
    decide +kernel
  have hcommitted : ((opened.run requests).transactions[0]?.any
      fun tx => tx.state == .committed && tx.added.isEmpty) = true := by
    simp only [SharedStore.run, requests, List.foldl_cons, List.foldl_nil]
    rw [hbody]
    decide +kernel
  have hopened : Filed "/" [] opened := filed_opened rfl {}
  have hconsistent : Consistent [] opened := consistent_opened _ {}
  have hearly : Filed "/" (opened.moments early) (opened.run early) :=
    hopened.run hconsistent fun m hm => hundisturbed m (hpast ▸ List.mem_append_left _ hm)
  have hfiled : Filed "/" past (opened.run requests) := hopened.run hconsistent hundisturbed
  obtain ⟨tx, htx, hs⟩ := (Option.any_eq_true _ _).mp hdeposited
  obtain ⟨_, _, _, loc, -, -, -, hone⟩ := (hearly.held 0 tx htx).holdsIn (beq_iff_eq.mp hs)
  obtain ⟨tx', htx', hs'⟩ := (Option.any_eq_true _ _).mp hcommitted
  simp only [Bool.and_eq_true, beq_iff_eq, List.isEmpty_iff] at hs'
  refine ⟨hundisturbed, tx', loc, htx', hs'.1, ?_, ?_⟩
  · rw [hpast]
    exact hearly.leaves_commit ((hone loc).mpr rfl)
  · rintro ⟨m, hm, hstored⟩
    exact (hfiled.held 0 tx' htx').stored m hm loc hstored hs'.2

end Mailroom
