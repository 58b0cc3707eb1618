import Mailroom.Bytes
import Mailroom.Text.Digits
import Mailroom.Toml.Value

/-! # Strings, numbers and dates

The smallest parts of a document.  A `Reader` looks at the characters in front and gives what it
read with the characters that follow, or nothing if the text is wrong. -/

namespace Mailroom.Toml

/-- Something that reads from the front of a text. -/
abbrev Reader (α : Type) : Type := List Char → Option (α × List Char)

/-! ### Characters -/

/-- Space or tab. -/
def isBlankChar (c : Char) : Bool := c == ' ' || c == '\t'

/-- Whether a character may stand in a comment or a string: no control character but the tab. -/
def isText (c : Char) : Bool := c == '\t' || (0x20 ≤ c.toNat && c.toNat != 0x7F)

/-- The text without blanks at its start. -/
def skipBlanks (text : List Char) : List Char := text.dropWhile isBlankChar

/-- The text behind a line end at its start. -/
def lineEnd? : List Char → Option (List Char)
  | '\n' :: text => some text
  | '\r' :: '\n' :: text => some text
  | _ => none

/-- The text without a comment at its start. -/
def skipComment : List Char → List Char
  | '#' :: text => text.dropWhile isText
  | text => text

/-- The text behind the rest of a line, which holds blanks and a comment only. -/
def lineRest? (text : List Char) : Option (List Char) :=
  match skipComment (skipBlanks text) with
  | [] => some []
  | text => lineEnd? text

/-! ### Strings -/

/-- The character with the code point that so many hexadecimal digits give. -/
def codePoint? (width : Nat) (text : List Char) : Option (Char × List Char) := do
  let digits := text.take width
  if digits.length < width then none
  let n ← digits.foldl (fun n c => do return (← n) * 16 + (← hexValue? c)) (some 0)
  if n.isValidChar then return (Char.ofNat n, text.drop width) else none

/-- The character that an escape stands for; the backslash was read. -/
def escape? : List Char → Option (Char × List Char)
  | 'b' :: text => some ('\x08', text)
  | 't' :: text => some ('\t', text)
  | 'n' :: text => some ('\n', text)
  | 'f' :: text => some ('\x0c', text)
  | 'r' :: text => some ('\r', text)
  | '"' :: text => some ('"', text)
  | '\\' :: text => some ('\\', text)
  | 'u' :: text => codePoint? 4 text
  | 'U' :: text => codePoint? 8 text
  | _ => none

/-- The rest of a string on one line, with escapes; `fuel` bounds the number of characters. -/
def basicRest? : Nat → Reader (List Char)
  | 0, _ => none
  | _, [] => none
  | _, '"' :: text => some ([], text)
  | fuel + 1, '\\' :: text => do
    let (c, text) ← escape? text
    let (rest, text) ← basicRest? fuel text
    return (c :: rest, text)
  | fuel + 1, c :: text => do
    if !isText c then none
    let (rest, text) ← basicRest? fuel text
    return (c :: rest, text)

/-- The rest of a string on one line, without escapes. -/
def literalRest? : Reader (List Char)
  | [] => none
  | '\'' :: text => some ([], text)
  | c :: text => do
    if !isText c then none
    let (rest, text) ← literalRest? text
    return (c :: rest, text)

/-- The quotes at the start of a text. -/
def quoteRun (quote : Char) (text : List Char) : Nat := (text.takeWhile (· == quote)).length

/-- The text behind the white space and line ends at its start. -/
def skipLines (text : List Char) : List Char :=
  text.dropWhile fun c => isBlankChar c || c == '\n' || c == '\r'

/-- Whether every carriage return in the white space at the start belongs to a line end. -/
def hasWholeLineEnds : List Char → Bool
  | '\r' :: '\n' :: text => hasWholeLineEnds text
  | '\r' :: _ => false
  | c :: text => if isBlankChar c || c == '\n' then hasWholeLineEnds text else true
  | [] => true

/-- The rest of a string over several lines.  A line end in it is a line feed.  Three quotes end
it; one or two more in front of them belong to it.  With `escapes` a backslash starts an escape,
or at the end of a line leaves out the white space that follows. -/
def multilineRest? (quote : Char) (escapes : Bool) : Nat → Reader (List Char)
  | 0, _ => none
  | _, [] => none
  | fuel + 1, c :: text =>
    if c = quote then
      let run := quoteRun quote text + 1
      if 6 ≤ run then none
      else if 3 ≤ run then some (List.replicate (run - 3) quote, text.drop (run - 1))
      else do
        let (rest, text) ← multilineRest? quote escapes fuel text
        return (c :: rest, text)
    else if c = '\\' && escapes then
      match lineEnd? (skipBlanks text) with
      | some next =>
        if hasWholeLineEnds next then multilineRest? quote escapes fuel (skipLines next) else none
      | none => do
        let (c, text) ← escape? text
        let (rest, text) ← multilineRest? quote escapes fuel text
        return (c :: rest, text)
    else match lineEnd? (c :: text) with
      | some text => do
        let (rest, text) ← multilineRest? quote escapes fuel text
        return ('\n' :: rest, text)
      | none => do
        if !isText c then none
        let (rest, text) ← multilineRest? quote escapes fuel text
        return (c :: rest, text)

/-- The text without a line end at its start. -/
def skipLineEnd (text : List Char) : List Char := (lineEnd? text).getD text

/-- A string in any of its four forms. -/
def string? : Reader String
  | '"' :: '"' :: '"' :: text => do
    let (s, text) ← multilineRest? '"' true (text.length + 1) (skipLineEnd text)
    return (String.ofList s, text)
  | '\'' :: '\'' :: '\'' :: text => do
    let (s, text) ← multilineRest? '\'' false (text.length + 1) (skipLineEnd text)
    return (String.ofList s, text)
  | '"' :: text => do
    let (s, text) ← basicRest? (text.length + 1) text
    return (String.ofList s, text)
  | '\'' :: text => do
    let (s, text) ← literalRest? text
    return (String.ofList s, text)
  | _ => none

/-! ### Keys -/

/-- Whether a character may stand in a key without quotes. -/
def isKeyChar (c : Char) : Bool := c.isAlphanum || c == '-' || c == '_'

/-- A key without dots. -/
def simpleKey? (text : List Char) : Option (String × List Char) :=
  match text with
  | '"' :: text => do
    let (s, text) ← basicRest? (text.length + 1) text
    return (String.ofList s, text)
  | '\'' :: text => do
    let (s, text) ← literalRest? text
    return (String.ofList s, text)
  | _ =>
    let name := text.takeWhile isKeyChar
    if name.isEmpty then none else some (String.ofList name, text.dropWhile isKeyChar)

/-- The most parts that a dotted key, and the most brackets that a value may be deep. -/
def maxDepth : Nat := 79

/-- A key of at most so many parts, with blanks around each part. -/
def keyParts? : Nat → Reader (List String)
  | 0, _ => none
  | parts + 1, text => do
    let (first, text) ← simpleKey? (skipBlanks text)
    match skipBlanks text with
    | '.' :: text =>
      let (rest, text) ← keyParts? parts text
      return (first :: rest, text)
    | text => return ([first], text)

/-- A key: its parts, the last one apart. -/
def key? (text : List Char) : Option ((List String × String) × List Char) := do
  let (parts, text) ← keyParts? maxDepth text
  return ((parts.dropLast, ← parts.getLast?), text)

/-! ### Numbers -/

/-- Digits with single underscores between them; with `due` a digit must come next. -/
def digitsFrom? (isDigit : Char → Bool) : (due : Bool) → Reader (List Char)
  | due, [] => if due then none else some ([], [])
  | due, c :: text =>
    if isDigit c then do
      let (rest, text) ← digitsFrom? isDigit false text
      return (c :: rest, text)
    else if due then none
    else if c = '_' then digitsFrom? isDigit true text
    else some ([], c :: text)

/-- At least one digit, with single underscores between digits. -/
def digitRun? (isDigit : Char → Bool) : Reader (List Char) := digitsFrom? isDigit true

/-- A sign, if there is one: whether the number is negative. -/
def sign : List Char → Bool × List Char
  | '-' :: text => (true, text)
  | '+' :: text => (false, text)
  | text => (false, text)

/-- The digits of a decimal integer; a leading zero stands alone. -/
def wholeDigits? : Reader (List Char)
  | '0' :: text => some (['0'], text)
  | text => digitRun? Char.isDigit text

/-- The number that digits denote in some base. -/
def inBase (base : Nat) (digits : List Char) : Nat :=
  digits.foldl (fun n c => n * base + (hexValue? c).getD 0) 0

/-- An integer, if it fits into 64 bits. -/
def ofInteger? (n : Int) : Option Value :=
  if -Int.pow 2 63 ≤ n ∧ n < Int.pow 2 63 then some (.integer n) else none

/-- An integer in the base that its prefix gives. -/
def baseInteger? (base : Nat) (text : List Char) : Option (Value × List Char) := do
  let isDigit (c : Char) : Bool := (hexValue? c).any (· < base)
  let (digits, text) ← digitRun? isDigit text
  return (← ofInteger? (inBase base digits), text)

/-- The exponent of a number, if one follows; `none` if it is broken off. -/
def exponent? (text : List Char) : Option (Option Int × List Char) :=
  match text with
  | 'e' :: text | 'E' :: text => do
    let (negative, text) := sign text
    let (digits, text) ← digitRun? Char.isDigit text
    let n : Int := digitsValue digits
    return (some (if negative then -n else n), text)
  | _ => some (none, text)

/-- The places of a number, if a point follows; `none` if they are broken off. -/
def places? (text : List Char) : Option (Option (List Char) × List Char) :=
  match text with
  | '.' :: text => do
    let (digits, text) ← digitRun? Char.isDigit text
    return (some digits, text)
  | _ => some (none, text)

/-- Refuses a number that is too large; too small ones are kept. -/
def ofFloat? (x : Binary64) : Option Value :=
  if x = .infinite false then none else some (.float x)

/-- A decimal number: an integer, or a float if it has places or an exponent. -/
def decimal? (text : List Char) : Option (Value × List Char) := do
  let (negative, text) := sign text
  let (whole, text) ← wholeDigits? text
  let (places, text) ← places? text
  let (exponent, text) ← exponent? text
  if places.isNone && exponent.isNone then
    let n : Int := digitsValue whole
    return (← ofInteger? (if negative then -n else n), text)
  else
    let digits := whole ++ places.getD []
    let scale := exponent.getD 0 - (places.getD []).length
    return (← ofFloat? (.ofDecimal negative (digitsValue digits) digits.length scale), text)

/-- An infinity or what is not a number. -/
def special? (text : List Char) : Option (Value × List Char) :=
  let (negative, text) := sign text
  match text with
  | 'i' :: 'n' :: 'f' :: text => some (.float (.infinite negative), text)
  | 'n' :: 'a' :: 'n' :: text => some (.float .nan, text)
  | _ => none

/-! ### Dates and times -/

/-- Exactly so many digits. -/
def fixedDigits? (count : Nat) (text : List Char) : Option (Nat × List Char) :=
  let digits := text.take count
  if digits.length = count && digits.all Char.isDigit then
    some (digitsValue digits, text.drop count)
  else none

/-- The text behind a character. -/
def expect? (c : Char) : List Char → Option (List Char)
  | [] => none
  | d :: text => if d = c then some text else none

/-- The number of days of a month. -/
def daysIn (year month : Nat) : Nat :=
  if month = 2 then
    if year % 4 = 0 && (year % 100 != 0 || year % 400 = 0) then 29 else 28
  else if [4, 6, 9, 11].contains month then 30
  else 31

/-- The text behind a date. -/
def date? (text : List Char) : Option (List Char) := do
  let (year, text) ← fixedDigits? 4 text
  let (month, text) ← fixedDigits? 2 (← expect? '-' text)
  let (day, text) ← fixedDigits? 2 (← expect? '-' text)
  if 1 ≤ month ∧ month ≤ 12 ∧ 1 ≤ day ∧ day ≤ daysIn year month then some text else none

/-- The text behind the parts of a second, if there are any. -/
def secondParts? (text : List Char) : Option (List Char) :=
  match text with
  | '.' :: text =>
    if (text.head?.any Char.isDigit) then some (text.dropWhile Char.isDigit) else none
  | _ => some text

/-- The text behind a time. -/
def time? (text : List Char) : Option (List Char) := do
  let (hour, text) ← fixedDigits? 2 text
  let (minute, text) ← fixedDigits? 2 (← expect? ':' text)
  let (second, text) ← fixedDigits? 2 (← expect? ':' text)
  if hour ≤ 23 ∧ minute ≤ 59 ∧ second ≤ 60 then secondParts? text else none

/-- The text behind the offset of a time, if there is one. -/
def offset? (text : List Char) : Option (List Char) :=
  match text with
  | 'Z' :: text | 'z' :: text => some text
  | '+' :: text | '-' :: text => do
    let (hour, text) ← fixedDigits? 2 text
    let (minute, text) ← fixedDigits? 2 (← expect? ':' text)
    if hour ≤ 23 ∧ minute ≤ 59 then some text else none
  | _ => some text

/-- The text behind a date with or without a time, or a time alone. -/
def datetimeEnd? (text : List Char) : Option (List Char) :=
  match date? text with
  | none => time? text
  | some rest =>
    match rest with
    | 'T' :: timed | 't' :: timed | ' ' :: timed =>
      match time? timed with
      | some rest => offset? rest
      | none => some rest
    | _ => some rest

/-- A date, a time or both. -/
def datetime? (text : List Char) : Option (Value × List Char) :=
  (datetimeEnd? text).map fun rest =>
    (.datetime (String.ofList (text.take (text.length - rest.length))), rest)

/-- A date or a number. -/
def number? (text : List Char) : Option (Value × List Char) :=
  match datetime? text with
  | some read => some read
  | none =>
    match text with
    | '0' :: 'x' :: text => baseInteger? 16 text
    | '0' :: 'o' :: text => baseInteger? 8 text
    | '0' :: 'b' :: text => baseInteger? 2 text
    | _ =>
      match special? text with
      | some read => some read
      | none => decimal? text

/-- A truth value. -/
def boolean? : Reader Value
  | 't' :: 'r' :: 'u' :: 'e' :: text => some (.boolean true, text)
  | 'f' :: 'a' :: 'l' :: 's' :: 'e' :: text => some (.boolean false, text)
  | _ => none

end Mailroom.Toml
