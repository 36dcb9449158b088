import MailDomain.Text.Printable

/-!
# Quoted texts

How a text is shown inside a message: between double quotes, with an escape for each
character that would end the quotation or could not be seen.

## Main definitions

* `Text.escape` — the form of one character within quotes.
* `Text.quoted` — a text between quotes.
* `Text.optional` — the form of a text that may be absent.
-/

set_option relaxedAutoImplicit false
set_option autoImplicit false

namespace MailDomain.Text

/-- The form of one character within quotes: escaped if it is a double quote or a backslash, if it
`isExtender`, or if it is not `isPrintable`. -/
def escape (c : Char) : List Char :=
  if c = '\x00' then ['\\', '0']
  else if c = '\t' then ['\\', 't']
  else if c = '\n' then ['\\', 'n']
  else if c = '\r' then ['\\', 'r']
  else if c = '"' then ['\\', '"']
  else if c = '\\' then ['\\', '\\']
  else if isExtender c || !isPrintable c then
    ['\\', 'u', '\x7b'] ++ Nat.toDigits 16 c.toNat ++ ['\x7d']
  else [c]

/-- A text between double quotes, every character of it as `escape` has it. -/
def quoted (s : String) : String := String.ofList ('"' :: s.toList.flatMap escape ++ ['"'])

/-- The form of a text that may be absent, with the text `quoted`. -/
def optional : Option String → String
  | none => "None"
  | some s => "Some(" ++ quoted s ++ ")"

end MailDomain.Text
