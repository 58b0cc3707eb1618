import Mailroom.Header.Basic

/-! # Trace fields

A delivery records in the header to whom the message went and from whom it came.  The addresses
come from the submitting client and may hold anything; `withoutControls` takes out every control
character but the tab, so that no address can start a field of its own. -/

namespace Mailroom

/-- The text without control characters, tabs excepted. -/
def withoutControls (text : String) : String :=
  String.ofList (text.toList.filter fun c => c == '\t' || !isControl c)

/-- The field that names the recipient of a copy. -/
def deliveredTo (recipient : String) : Field := Field.new "Delivered-To" (withoutControls recipient)

/-- The field that names the envelope sender. -/
def returnPath (sender : String) : Field :=
  Field.new "Return-Path" ("<" ++ withoutControls sender ++ ">")

end Mailroom
