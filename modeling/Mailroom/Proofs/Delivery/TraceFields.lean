import Mailroom.Delivery.TraceField
import Mailroom.Proofs.Header.WireForm

/-! # What the trace fields say

A copy of a message has two trace fields on top: the recipient, and in angle brackets the envelope
sender (`Header.toBytes_traced`).  The addresses were chosen by the submitting client.  Of the
control characters in them only tabs are left, and nothing else is missing (`mem_withoutControls`,
`sublist_withoutControls`, `withoutControls_eq_self_iff`); so both fields are writable, whatever the
addresses are. -/

namespace Mailroom

/-! ### Addresses without control characters -/

theorem isKept_iff {c : Char} :
    (c == '\t' || !isControl c) = true ↔ (isControl c = true → c = '\t') := by
  rw [Bool.or_eq_true, beq_iff_eq, Bool.not_eq_true', ← Bool.not_eq_true, or_iff_not_imp_right,
    not_not]

theorem mem_withoutControls {text : String} {c : Char} :
    c ∈ (withoutControls text).toList ↔ c ∈ text.toList ∧ (isControl c = true → c = '\t') := by
  rw [withoutControls, String.toList_ofList, List.mem_filter, isKept_iff]

/-- The characters that are left keep their order. -/
theorem sublist_withoutControls (text : String) :
    (withoutControls text).toList.Sublist text.toList := by
  rw [withoutControls, String.toList_ofList]
  exact List.filter_sublist

/-- A text stays as it is if and only if there is nothing to take out. -/
theorem withoutControls_eq_self_iff {text : String} :
    withoutControls text = text ↔ ∀ c ∈ text.toList, isControl c = true → c = '\t' := by
  rw [← String.toList_inj, withoutControls, String.toList_ofList, List.filter_eq_self]
  exact forall₂_congr fun c _ => isKept_iff

theorem lf_notMem_withoutControls (text : String) : '\n' ∉ (withoutControls text).toList := by
  intro m
  exact absurd ((mem_withoutControls.mp m).2 (by decide)) (by decide)

/-! ### The two fields -/

/-- A field on one line can be read back. -/
theorem writable_new {name value : String} (hname : isFieldName (utf8 name) = true)
    (hcolon : Octet.colon ∉ utf8 name) (hvalue : '\n' ∉ value.toList) :
    (Field.new name value).Writable := by
  have hlf : Octet.lf ∉ Octet.space :: utf8 value := by
    rw [List.mem_cons, not_or]
    exact ⟨by decide, lf_notMem_utf8Chars hvalue⟩
  exact ⟨hname, hcolon, .line hlf⟩

theorem writable_deliveredTo (rcpt : String) : (deliveredTo rcpt).Writable :=
  writable_new (by decide) (by decide) (lf_notMem_withoutControls rcpt)

theorem writable_returnPath (sender : String) : (returnPath sender).Writable := by
  refine writable_new (by decide) (by decide) ?_
  rw [String.toList_append, String.toList_append, List.mem_append, List.mem_append]
  rintro ((m | m) | m)
  · revert m
    decide
  · exact lf_notMem_withoutControls sender m
  · revert m
    decide

/-- The header of a copy: the trace fields on top of the header of the message. -/
def Header.traced (rcpt sender : String) (header : Header) : Header :=
  (Header.mk [deliveredTo rcpt, returnPath sender]).prepend header

theorem Header.writable_traced {header : Header} (h : ∀ f ∈ header.fields, f.Writable)
    (rcpt sender : String) : ∀ f ∈ (header.traced rcpt sender).fields, f.Writable := by
  intro f m
  rcases List.mem_append.mp m with m | m
  · simp only [List.mem_cons, List.not_mem_nil, or_false] at m
    rcases m with rfl | rfl
    · exact writable_deliveredTo rcpt
    · exact writable_returnPath sender
  · exact h f m

/-- A field on one line, as text. -/
theorem toBytes_new (name value : String) :
    (Field.new name value).toBytes = utf8 (name ++ ": " ++ value ++ "\r\n") := by
  have hcolon : utf8 ": " = [Octet.colon, Octet.space] := by decide
  have hcrlf : utf8 "\r\n" = crlf := by decide
  rw [utf8_append, utf8_append, utf8_append, hcolon, hcrlf, Field.toBytes, Field.new]
  simp

/-- The header of a copy as it is served: the recipient and, in angle brackets, the sender, both
without control characters; then the header of the message. -/
theorem Header.toBytes_traced (rcpt sender : String) (header : Header) :
    (header.traced rcpt sender).toBytes =
      utf8 ("Delivered-To: " ++ withoutControls rcpt ++ "\r\n") ++
        (utf8 ("Return-Path: " ++ ("<" ++ withoutControls sender ++ ">") ++ "\r\n") ++
          header.toBytes) := by
  have e : header.traced rcpt sender =
    (header.addField (returnPath sender)).addField (deliveredTo rcpt) := rfl
  rw [e, toBytes_addField, toBytes_addField, deliveredTo, returnPath, toBytes_new, toBytes_new]
  rfl

end Mailroom
