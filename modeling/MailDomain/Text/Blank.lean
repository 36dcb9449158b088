/-!
# White space, words and cuts

Texts are handled as lists of characters. White space is the Unicode property `White_Space`,
and case folding touches the ASCII letters only.

## Main definitions

* `Text.isBlank` — the white-space characters.
* `Text.squeeze` — a text without its white space.
* `Text.pieces`, `Text.words` — a text cut at separators, and at white space.
* `Text.cutAt?` — a text cut at the first occurrence of a separator.
* `Text.dropEnd`, `Text.trim` — a text without the given characters at its end, and without
  the white space at both ends.
* `Text.sameFolded` — equality up to the case of ASCII letters.

## Main results

* `Text.squeeze_append`, `Text.mem_squeeze` — what squeezing keeps.
* `Text.pieces_ne_nil` — a text has at least one piece.
-/

set_option relaxedAutoImplicit false
set_option autoImplicit false

namespace MailDomain.Text

/-- The characters with the Unicode property `White_Space`. -/
def isBlank (c : Char) : Bool :=
  let n := c.toNat
  (9 ≤ n && n ≤ 13) || n == 0x20 || n == 0x85 || n == 0xA0 || n == 0x1680 ||
    (0x2000 ≤ n && n ≤ 0x200A) || n == 0x2028 || n == 0x2029 || n == 0x202F ||
    n == 0x205F || n == 0x3000

/-- A text without its white space, wherever it stands. -/
def squeeze (cs : List Char) : List Char := cs.filter fun c => !isBlank c

@[simp] theorem squeeze_nil : squeeze [] = [] := rfl

/-- Squeezing goes through a concatenation: `squeeze (a ++ b) = squeeze a ++ squeeze b`. -/
@[simp] theorem squeeze_append (a b : List Char) : squeeze (a ++ b) = squeeze a ++ squeeze b := by
  simp [squeeze]

/-- The characters kept by `squeeze` are those of the text that are not `isBlank`. -/
theorem mem_squeeze {c : Char} {cs : List Char} :
    c ∈ squeeze cs ↔ c ∈ cs ∧ isBlank c = false := by
  simp [squeeze]

/-- The pieces of a text between the characters that satisfy `sep`. -/
def pieces (sep : Char → Bool) : List Char → List (List Char)
  | [] => [[]]
  | c :: cs =>
    if sep c then [] :: pieces sep cs
    else match pieces sep cs with
      | [] => [[c]]
      | w :: ws => (c :: w) :: ws

/-- A text has at least one piece, the empty text the empty one. -/
theorem pieces_ne_nil (sep : Char → Bool) (cs : List Char) : pieces sep cs ≠ [] := by
  cases cs with
  | nil => simp [pieces]
  | cons c cs =>
    simp only [pieces]
    split
    · simp
    · split <;> simp

/-- The maximal runs of a text's characters that are not white space: the `pieces` between blanks
that are not empty. -/
def words (cs : List Char) : List (List Char) :=
  (pieces isBlank cs).filter fun w => !w.isEmpty

/-- The parts of a text before and after its first `sep`, if it has one. -/
def cutAt? (sep : Char) : List Char → Option (List Char × List Char)
  | [] => none
  | c :: cs => if c = sep then some ([], cs) else (cutAt? sep cs).map fun p => (c :: p.1, p.2)

/-- A text without the longest run at its end of characters that satisfy `p`. -/
def dropEnd (p : Char → Bool) (cs : List Char) : List Char :=
  (cs.reverse.dropWhile p).reverse

/-- A text without the white space at its two ends; that inside it stays. -/
def trim (cs : List Char) : List Char := dropEnd isBlank (cs.dropWhile isBlank)

/-- Equality of two texts up to the case of ASCII letters. -/
def sameFolded (a b : List Char) : Bool := a.map Char.toLower == b.map Char.toLower

/-- The text without the white space at its two ends. -/
def trimmed (s : String) : String := String.ofList (trim s.toList)

end MailDomain.Text
