import Mailroom.Dkim.KeyText
import Mailroom.Proofs.Dkim.TagList
import Mailroom.Proofs.Encoding.Base64
import Mailroom.Proofs.Keys.Elements

/-! # Keys that are written can be read

One lemma for each layer of the text form of a key: the block between its boundary lines
(`Pem.read?_write`), the elements of the distinguished encoding, and the form that names the
algorithm (`Keys.readWrapped?_wrapEd25519`).  So an Ed25519 key that is written is read again
(`SigningKey.ofPem_toPem_ed25519`). -/

namespace Mailroom

/-! ### Blocks -/

namespace Pem

theorem after?_append (start text : List Char) : after? start (start ++ text) = some text := by
  rw [after?, if_pos (by simp), List.drop_left]

theorem before?_append (tail text : List Char) : before? tail (text ++ tail) = some text := by
  rw [before?, if_pos (by simp), List.length_append, Nat.add_sub_cancel, List.take_left]

theorem dropFinalLineEnd?_concat {text : List Char} (h : text.getLast? ≠ some '\r') :
    dropFinalLineEnd? (text ++ ['\n']) = some text := by
  unfold dropFinalLineEnd?
  rw [List.reverse_append, List.reverse_singleton, List.singleton_append]
  rw [← List.head?_reverse] at h
  generalize hr : text.reverse = back at h ⊢
  obtain rfl : text = back.reverse := by rw [← hr, List.reverse_reverse]
  cases back with
  | nil => rfl
  | cons c back =>
      have hc : c ≠ '\r' := fun e => h (congrArg some e)
      split
      · next e => exact absurd (List.cons.inj (List.cons.inj e).2).1 hc
      · next rest _ e => rw [(List.cons.inj e).2]
      · next e => cases e
      · next hlf _ => exact (hlf _ rfl).elim

theorem cr_notMem_base64Chars (bytes : Bytes) : '\r' ∉ base64Chars bytes := fun m => by
  have := Dkim.isTagChar_of_mem_base64Chars m
  revert this
  decide

/-- Lines that were cut are joined again. -/
theorem joinLines?_wrap {text : List Char} (h : '\r' ∉ text) :
    ∃ body, (wrap text).flatMap (· ++ ['\n']) = body ++ ['\n'] ∧ body.getLast? ≠ some '\r' ∧
      joinLines? body = some text := by
  fun_induction wrap text with
  | case1 text hshort =>
      refine ⟨text, by simp, fun e => h (List.mem_of_getLast? e), ?_⟩
      rw [joinLines?, if_pos hshort]
  | case2 text hlong ih =>
      obtain ⟨body, hbody, hlast, hjoin⟩ := ih fun m => h (List.mem_of_mem_drop m)
      have hwidth : (text.take lineWidth).length = lineWidth := by
        rw [List.length_take]
        omega
      refine ⟨text.take lineWidth ++ '\n' :: body, ?_, ?_, ?_⟩
      · rw [List.flatMap_cons, hbody]
        simp
      · cases body with
        | nil => simp
        | cons c body => simpa using hlast
      · have hmore : ¬ (text.take lineWidth ++ '\n' :: body).length ≤ lineWidth := by
          rw [List.length_append, hwidth, List.length_cons]
          omega
        have htake : (text.take lineWidth ++ '\n' :: body).take lineWidth = text.take lineWidth :=
          List.take_left' hwidth
        have hdrop : (text.take lineWidth ++ '\n' :: body).drop lineWidth = '\n' :: body :=
          List.drop_left' hwidth
        rw [joinLines?, if_neg hmore, hdrop, dropLineEnd?]
        dsimp only
        rw [if_pos (by rw [List.length_append, List.length_cons]; omega), hjoin, htake]
        exact congrArg some (List.take_append_drop lineWidth text)

/-- **A block that was written is read.** -/
theorem read?_write (label : String) (content : Bytes) :
    read? label (write label content) = some content := by
  obtain ⟨body, hbody, hlast, hjoin⟩ := joinLines?_wrap (cr_notMem_base64Chars content)
  generalize hopening : beginMark ++ label.toList ++ dashes = opening
  generalize hclosing : endMark ++ label.toList ++ dashes = closing
  have htext : (write label content).toList =
      opening ++ '\n' :: (body ++ ['\n'] ++ closing ++ ['\n']) := by
    rw [write, String.toList_ofList, hbody, ← hopening, ← hclosing]
    simp
  have hbegin : beginMark.isPrefixOf (write label content).toList = true := by
    rw [htext, ← hopening]
    simp
  have hfinal : dropFinalLineEnd? (body ++ ['\n'] ++ closing ++ ['\n']) =
      some (body ++ ['\n'] ++ closing) := by
    refine dropFinalLineEnd?_concat ?_
    rw [← hclosing, show dashes = "----".toList ++ ['-'] by decide, ← List.append_assoc,
      ← List.append_assoc, List.getLast?_concat]
    decide
  unfold read?
  dsimp only
  rw [if_pos hbegin, htext, hopening, hclosing]
  simp only [Option.bind_eq_bind, Option.bind_some, after?_append, dropLineEnd?, hfinal,
    Option.getD_some, before?_append, dropFinalLineEnd?_concat hlast, hjoin,
    unbase64?_base64Chars]

end Pem

/-! ### Keys -/

namespace Keys

theorem length_publicKey (seed : Bytes) : (Ed25519.publicKey seed).length = 32 := by
  unfold Ed25519.publicKey Ed25519.Point.encode Sha2.bigEndian
  rw [List.length_reverse, List.length_map, List.length_reverse, List.length_range]

/-- The public key at the end of a key is read. -/
theorem readPublicKey?_element {owner : Bytes} (h : owner.length = 32) :
    readPublicKey? (Der.element 0x81 (0 :: owner)) = some (some owner, []) := by
  have hlength : (0 :: owner).length < 256 ^ 4 := by
    rw [List.length_cons, h]
    decide
  have e := Der.readElement?_element 0x81 hlength []
  rw [List.append_nil] at e
  rw [readPublicKey?]
  split
  · next hnone => cases e.symm.trans hnone
  · next element rest hsome =>
    obtain ⟨rfl, rfl⟩ := Prod.mk.inj (Option.some.inj (e.symm.trans hsome))
    dsimp only
    rw [if_neg (show ¬ (!isContextTag 0x81 || decide (1 < tagNumber 0x81)) = true by decide),
      if_neg (show ¬ tagNumber 0x81 = 0 by decide)]
    rfl

theorem readAlgorithm?_ed25519 :
    readAlgorithm? (Der.element Der.identifierTag ed25519Identifier) =
      some (ed25519Identifier, none) := by
  decide

/-- The fields of an Ed25519 key. -/
theorem expect?_ed25519Algorithm (rest : Bytes) :
    Der.expect? Der.sequenceTag (ed25519Algorithm ++ rest) =
      some (Der.element Der.identifierTag ed25519Identifier, rest) := by
  rw [ed25519Algorithm, Der.sequence, List.flatten_singleton]
  exact Der.expect?_element Der.sequenceTag (by decide) rest

/-- **An Ed25519 key that was written is read,** with its public key. -/
theorem readWrapped?_wrapEd25519 {seed : Bytes} (h : seed.length = 32) :
    readWrapped? (wrapEd25519 seed) = some ⟨ed25519Identifier, none,
      Der.element Der.octetStringTag seed, some (Ed25519.publicKey seed)⟩ := by
  have howner := length_publicKey seed
  unfold wrapEd25519 Der.sequence
  generalize Ed25519.publicKey seed = owner at howner ⊢
  have hseed : (Der.element Der.octetStringTag seed).length = 34 := by
    rw [Der.length_element _ (by omega), h]
  have hcontent : (Der.element Der.octetStringTag (Der.element Der.octetStringTag seed)).length =
      36 := by
    rw [Der.length_element _ (by omega), hseed]
  have hpublic : (Der.element 0x81 (0 :: owner)).length = 35 := by
    rw [Der.length_element _ (by rw [List.length_cons]; omega), List.length_cons, howner]
  have hfields : [Der.natural 1, ed25519Algorithm,
      Der.element Der.octetStringTag (Der.element Der.octetStringTag seed),
      Der.element 0x81 (0 :: owner)].flatten =
        Der.natural 1 ++ (ed25519Algorithm ++
          (Der.element Der.octetStringTag (Der.element Der.octetStringTag seed) ++
            Der.element 0x81 (0 :: owner))) := by
    simp
  have hshort : (Der.natural 1 ++ (ed25519Algorithm ++
      (Der.element Der.octetStringTag (Der.element Der.octetStringTag seed) ++
        Der.element 0x81 (0 :: owner)))).length < 256 ^ 4 := by
    rw [List.length_append, List.length_append, List.length_append, hcontent, hpublic]
    decide
  have hversion : ∀ rest, Der.readNatural? (Der.natural 1 ++ rest) = some (1, rest) :=
    Der.readNatural?_natural (by decide)
  have hread : Der.expect? Der.octetStringTag
      (Der.element Der.octetStringTag (Der.element Der.octetStringTag seed) ++
        Der.element 0x81 (0 :: owner)) =
      some (Der.element Der.octetStringTag seed, Der.element 0x81 (0 :: owner)) :=
    Der.expect?_element _ (by omega) _
  have hnone : onlyExtensions [] = true := by
    rw [onlyExtensions]
    rfl
  unfold readWrapped?
  rw [hfields, Der.whole?_element _ hshort]
  simp only [Option.bind_eq_bind, Option.bind_some, hversion, expect?_ed25519Algorithm,
    readAlgorithm?_ed25519, hread, readPublicKey?_element howner, hnone]
  rfl

namespace Wrapped

variable {content owner : Bytes}

theorem rsa?_ed25519 : rsa? ⟨ed25519Identifier, none, content, some owner⟩ = none := by
  unfold rsa?
  refine if_neg fun h => ?_
  rw [Bool.and_eq_true, decide_eq_true_iff] at h
  exact absurd h.1 (show ¬ ed25519Identifier = rsaIdentifier by decide)

/-- The seed is what stands in the content. -/
theorem ed25519?_seed {seed : Bytes} (h : seed.length = 32) :
    ed25519? ⟨ed25519Identifier, none, Der.element Der.octetStringTag seed,
      some (Ed25519.publicKey seed)⟩ = some seed := by
  have hcontent : Der.element Der.octetStringTag seed = 0x04 :: 0x20 :: seed := by
    rw [Der.element, Der.length, h]
    rfl
  unfold ed25519?
  dsimp only
  rw [hcontent, if_pos (by simp)]
  refine if_pos ?_
  rw [h, Option.all_some, beq_self_eq_true]
  rfl

end Wrapped

end Keys

/-- **An Ed25519 key that was written is read again.** -/
theorem Dkim.SigningKey.ofPem_toPem_ed25519 {seed : Bytes} (h : seed.length = 32) :
    ∃ pem, (ed25519 seed).toPem = .ok pem ∧ ofPem pem = .ok (ed25519 seed) := by
  refine ⟨_, rfl, ?_⟩
  have hread : ofPem? (Pem.write label (Keys.wrapEd25519 seed)) = some (ed25519 seed) := by
    unfold ofPem?
    rw [Pem.read?_write, Option.bind_some, Keys.readWrapped?_wrapEd25519 h]
    dsimp only
    rw [Keys.Wrapped.rsa?_ed25519, Keys.Wrapped.ed25519?_seed h]
    rfl
  rw [ofPem, hread]

end Mailroom
