import Mailroom.Text.Digits

/-! # Faults of input and output

A file operation can fail for a reason that the operating system numbers, for content that is
not text, for a name that no file can have, or for a reason that another part states in its own
words.  `IoFault.message` is what a log shows. -/

namespace Mailroom

/-- Reasons that the operating system gives for a failed file operation. -/
inductive SystemFault where
  | notFound
  | alreadyExists
  | notDirectory
  | isDirectory
  | notEmpty
  | noSpace
  | nameTooLong
  | tooManyLinks
deriving DecidableEq, Repr

namespace SystemFault

/-- The number of the reason. -/
def code : SystemFault → Nat
  | notFound => 2
  | alreadyExists => 17
  | notDirectory => 20
  | isDirectory => 21
  | noSpace => 28
  | nameTooLong => 36
  | notEmpty => 39
  | tooManyLinks => 40

/-- The reason in words. -/
def words : SystemFault → String
  | notFound => "No such file or directory"
  | alreadyExists => "File exists"
  | notDirectory => "Not a directory"
  | isDirectory => "Is a directory"
  | noSpace => "No space left on device"
  | nameTooLong => "File name too long"
  | notEmpty => "Directory not empty"
  | tooManyLinks => "Too many levels of symbolic links"

end SystemFault

/-- Why reading or writing failed. -/
inductive IoFault where
  /-- The operating system refused. -/
  | system (fault : SystemFault)
  /-- A file that should hold text is not well-formed UTF-8. -/
  | notText
  /-- A file name holds a NUL character. -/
  | nulInName
  /-- Any other reason, in the words of whoever found it. -/
  | other (reason : String)
deriving DecidableEq, Repr

/-- What a log shows for a fault. -/
def IoFault.message : IoFault → String
  | .system fault =>
    fault.words ++ " (os error " ++ String.ofList (natDigits fault.code) ++ ")"
  | .notText => "stream did not contain valid UTF-8"
  | .nulInName => "file name contained an unexpected NUL byte"
  | .other reason => reason

end Mailroom
