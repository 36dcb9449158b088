import MailDomain.Json.Printer
import MailDomain.Json.Reader
import MailDomain.Text.Blank

/-!
# Printing YAML text

Values are written in block form, two spaces deeper for each level of objects; the elements of
an array stand as deep as the member that holds them. A text of several lines is written as a
block of its own lines, and a text that could be taken for something else in quotes.

## Main definitions

* `Yaml.scalar` — a text on one line.
* `Yaml.Layout`, `Yaml.layout` — how a value is written after the name that it has.
* `Yaml.render` — the lines of a value.
-/

set_option relaxedAutoImplicit false
set_option autoImplicit false

namespace MailDomain.Yaml

/-- The texts that stand for a truth value or for nothing, in small letters. -/
def words : List String := ["~", "null", "true", "false", "y", "n", "yes", "no", "on", "off"]

/-- Whether a text would be taken for another value: one of `words` in any case of letters, a
number, or nothing at all. -/
def isOther (s : String) : Bool :=
  s.isEmpty || words.contains s.toLower ||
    match Json.read s with
    | .ok (.num _) => true
    | _ => false

/-- Whether a character has a meaning of its own at the start of a text. -/
def isIndicator (c : Char) : Bool :=
  ['-', '?', ':', ',', '[', ']', '\x7b', '\x7d', '#', '&', '*', '!', '|', '>', '\'', '"', '%',
    '@', '\x60', ' '].contains c

/-- Whether two neighbours in a text have a meaning of their own. -/
def isMark (a b : Char) : Bool := (a == ':' && b == ' ') || (a == ' ' && b == '#')

/-- Whether no two neighbours in a text are an `isMark`, and its end has no meaning of its own. -/
def isUnmarked : List Char → Bool
  | [] => true
  | [c] => c != ' ' && c != ':'
  | a :: b :: cs => !isMark a b && isUnmarked (b :: cs)

/-- Whether a text may be written as it is, without quotes. -/
def isPlain (s : String) : Bool :=
  !isOther s && !(s.toList.take 1).any isIndicator && isUnmarked s.toList

/-- A text on one line: as it is if it `isPlain`, or in quotes. -/
def scalar (s : String) : String :=
  if s.toList.any fun c => c.toNat < 0x20 || c.toNat == 0x7F then Json.quote s
  else if isPlain s then s
  else "'" ++ s.replace "'" "''" ++ "'"

/-- A line two spaces deeper, if there is anything on it. -/
def deeper (line : String) : String := if line.isEmpty then line else "  " ++ line

/-- The header of a block of lines, by the number of line feeds at the end of its text. -/
def blockHeader : Nat → String
  | 0 => "|-"
  | 1 => "|"
  | _ => "|+"

/-- How a value is written, which depends on whether it stands behind a name, behind a dash or
alone. -/
inductive Layout
  /-- On the line of its name. -/
  | inline (text : String)
  /-- A text in lines, below a header on the line of its name. -/
  | block (header : String) (lines : List String)
  /-- The members of an object. -/
  | members (lines : List String)
  /-- The elements of an array. -/
  | elements (lines : List String)

namespace Layout

/-- The lines of a member called `name`, given the `Layout` of its value. -/
def member (name : String) : Layout → List String
  | .inline t => [scalar name ++ ": " ++ t]
  | .block header lines => (scalar name ++ ": " ++ header) :: lines.map deeper
  | .members lines => (scalar name ++ ":") :: lines.map deeper
  | .elements lines => (scalar name ++ ":") :: lines

/-- The lines of an element of an array: a dash, and what follows below what stands after the
dash. -/
def element : Layout → List String
  | .inline t => ["- " ++ t]
  | .block header lines => ("- " ++ header) :: lines.map deeper
  | .members lines | .elements lines =>
    match lines with
    | [] => []
    | l :: ls => ("- " ++ l) :: ls.map deeper

/-- The lines of a value without a name, given its `Layout`. -/
def document : Layout → List String
  | .inline t => [t]
  | .block header lines => header :: lines.map deeper
  | .members lines => lines
  | .elements lines => lines

end Layout

/-- How a text is written: on one line by `scalar`, or as a block if it has line feeds. -/
def layoutText (s : String) : Layout :=
  if s.toList.contains '\n' then
    let ends := s.toList.reverse.takeWhile (· == '\n')
    let kept := s.toList.take (s.toList.length - ends.length)
    .block (blockHeader ends.length) ((Text.pieces (· == '\n') kept).map String.ofList)
  else .inline (scalar s)

mutual

/-- How a value is written. An object or an array without content stands on one line. -/
def layout : Json → Layout
  | .null => .inline "null"
  | .bool b => .inline (if b then "true" else "false")
  | .num n => .inline n.text
  | .str s => layoutText s
  | .arr [] => .inline "[]"
  | .arr (e :: es) => .elements ((layout e).element ++ elementLines es)
  | .obj [] => .inline "\x7b\x7d"
  | .obj ((k, v) :: ms) => .members ((layout v).member k ++ memberLines ms)

/-- The lines of the elements of an array. -/
def elementLines : List Json → List String
  | [] => []
  | e :: es => (layout e).element ++ elementLines es

/-- The lines of the members of an object. -/
def memberLines : List (String × Json) → List String
  | [] => []
  | (k, v) :: ms => (layout v).member k ++ memberLines ms

end

/-- The lines of a value, the document of its `layout`. -/
def render (v : Json) : List String := (layout v).document

end MailDomain.Yaml
