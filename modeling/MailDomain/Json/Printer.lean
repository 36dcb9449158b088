import MailDomain.Json.Basic

/-!
# Printing JSON text

## Main definitions

* `Json.quote` — a text as a JSON string.
* `Json.Number.text` — a number; a floating-point number always has a point or an exponent.
* `Json.render` — a value on one line without spaces.
-/

set_option relaxedAutoImplicit false
set_option autoImplicit false

namespace MailDomain.Json

/-- The escape of a control character, `\u` with the number `n` in four hexadecimal digits. -/
def controlEscape (n : Nat) : List Char :=
  let ds := Nat.toDigits 16 n
  ['\\', 'u'] ++ List.replicate (4 - ds.length) '0' ++ ds

/-- The form of the character `c` in a JSON string: escaped if it is a quote, a backslash or a
control character. -/
def escapeChar (c : Char) : List Char :=
  match c with
  | '"' => ['\\', '"']
  | '\\' => ['\\', '\\']
  | '\n' => ['\\', 'n']
  | '\r' => ['\\', 'r']
  | '\t' => ['\\', 't']
  | '\x08' => ['\\', 'b']
  | '\x0c' => ['\\', 'f']
  | c => if c.toNat < 0x20 then controlEscape c.toNat else [c]

/-- The text `s` as a JSON string, with its quotes. -/
def quote (s : String) : String := String.ofList ('"' :: s.toList.flatMap escapeChar ++ ['"'])

/-- The text of a number: the digits of an integer, and the fewest digits of a floating-point number
that read back. -/
def Number.text : Number → String
  | .int n => toString n
  | .float negative x => (if negative then "-" else "") ++ Decimal.scientific (Decimal.shortest x)

mutual

/-- The value on one line, without spaces. -/
def render : Json → String
  | .null => "null"
  | .bool true => "true"
  | .bool false => "false"
  | .num n => n.text
  | .str s => quote s
  | .arr es => "[" ++ renderElems true es ++ "]"
  | .obj ms => "\x7b" ++ renderMembers true ms ++ "\x7d"

/-- The elements of an array, with a comma before each but the first. -/
def renderElems (first : Bool) : List Json → String
  | [] => ""
  | e :: es => (if first then "" else ",") ++ render e ++ renderElems false es

/-- The members of an object, with a comma before each but the first. -/
def renderMembers (first : Bool) : List (String × Json) → String
  | [] => ""
  | (k, v) :: ms =>
    (if first then "" else ",") ++ quote k ++ ":" ++ render v ++ renderMembers false ms

end

end MailDomain.Json
