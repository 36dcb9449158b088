/-!
# Texts for a terminal

A text for a terminal may hold control sequences, which are not shown. A sequence begins with
the escape character, and the characters after it say how it goes on and where it ends. Line
breaks and tabs within a short sequence end it and are shown; a title or a message swallows
them. Control characters outside of sequences are not shown either. A sequence is made of single
octets: a character of several octets ends it, and as the sequence has taken the first octet, the
others cannot be read.

## Main definitions

* `Terminal.Mode` — where a reader of a text is.
* `Terminal.plain` — what is shown of a text.
* `Terminal.bold`, `Terminal.heading` — texts with an emphasis.

## Main results

* `Terminal.plain_of_all_shown` — a text without control characters is shown as it is.
-/

set_option relaxedAutoImplicit false
set_option autoImplicit false

namespace MailDomain.Terminal

/-- Where a reader of a text is: among text that is shown or in one of the sequences that control a
terminal. -/
inductive Mode
  /-- Among characters that are shown. -/
  | shown
  /-- After the start of a sequence. -/
  | escape
  /-- Within a sequence of which only the last character is due. -/
  | prefixed
  /-- Within a command with parameters. -/
  | command
  /-- Within a title. -/
  | title
  /-- Within a message for the terminal. -/
  | message
  deriving DecidableEq, Repr

/-- The character that begins a sequence, in every `Mode`. -/
def escapeChar : Char := '\x1b'

/-- Whether a control character only lays out the text, so that it is shown. -/
def isLayout (c : Char) : Bool := c == '\t' || c == '\n' || c == '\x0c' || c == '\r'

/-- Whether a character is one of the control characters of ASCII. -/
def isControl (c : Char) : Bool := c.toNat < 0x20 || c == '\x7f'

/-- Whether a character lies in the range of code points from `low` to `high`. -/
def within (low high : Nat) (c : Char) : Bool := low ≤ c.toNat && c.toNat ≤ high

/-- The mode after the second character of a sequence, which decides its kind. -/
def Mode.second (c : Char) : Mode :=
  if c == '[' then .command
  else if c == ']' then .title
  else if c == 'P' || c == 'X' || c == '^' || c == '_' then .message
  else if within 0x20 0x2f c then .prefixed
  else if within 0x30 0x7e c then .shown
  else .escape

/-- The mode after a character within a sequence in which line breaks and tabs are not
swallowed; `ends` are the characters with which it ends. -/
def Mode.until (m : Mode) (ends : Bool) (c : Char) : Mode × Bool :=
  if isLayout c then (.shown, true) else if ends then (.shown, false) else (m, false)

/-- The mode after a character, and whether the character is shown. A new `escapeChar` begins a new
sequence, and two of the control characters end any. -/
def Mode.step (m : Mode) (c : Char) : Mode × Bool :=
  if c == escapeChar then (.escape, false)
  else if c == '\x18' || c == '\x1a' then (.shown, false)
  else match m with
    | .shown => (.shown, isLayout c || !isControl c)
    | .escape => if isLayout c then (.shown, true) else (.second c, false)
    | .prefixed => Mode.prefixed.until (within 0x30 0x7e c) c
    | .command => Mode.command.until (within 0x40 0x7e c) c
    | .title => (if c == '\x07' then .shown else .title, false)
    | .message => (.message, false)

/-- What is shown of a character whose first octet was taken by a sequence: a mark for each of its
other octets. -/
def remnant (c : Char) : List Char := List.replicate (c.utf8Size - 1) '\uFFFD'

/-- What is shown of characters, given the mode before them. A character of several octets ends a
sequence, which takes the first octet. -/
def shownFrom (m : Mode) : List Char → List Char
  | [] => []
  | c :: cs =>
    if m ≠ .shown ∧ 1 < c.utf8Size then remnant c ++ shownFrom .shown cs
    else
      let (next, isShown) := m.step c
      if isShown then c :: shownFrom next cs else shownFrom next cs

/-- What is shown of the text `s`, without the sequences that control a terminal. -/
def plain (s : String) : String := String.ofList (shownFrom .shown s.toList)

/-- A text in bold, between two sequences of a terminal. -/
def bold (s : String) : String := "\x1b[1m" ++ s ++ "\x1b[0m"

/-- A text in bold and underlined, as headings of the help are. -/
def heading (s : String) : String := "\x1b[1m\x1b[4m" ++ s ++ "\x1b[0m"

theorem step_shown {c : Char} (h : isControl c = false) : Mode.shown.step c = (.shown, true) := by
  have hne : ∀ d : Char, isControl d = true → (c == d) = false := by
    intro d hd
    rw [beq_eq_false_iff_ne]
    rintro rfl
    simp [h] at hd
  simp [Mode.step, hne escapeChar (by decide), hne '\x18' (by decide), hne '\x1a' (by decide), h]

/-- A text without control characters is shown as it is: `plain s = s`. -/
theorem plain_of_all_shown {s : String} (h : ∀ c ∈ s.toList, isControl c = false) :
    plain s = s := by
  have all : ∀ cs : List Char, (∀ c ∈ cs, isControl c = false) → shownFrom .shown cs = cs := by
    intro cs hcs
    induction cs with
    | nil => rfl
    | cons c cs ih =>
      simp only [List.mem_cons, forall_eq_or_imp] at hcs
      simp [shownFrom, step_shown hcs.1, ih hcs.2]
  simp [plain, all s.toList h]

end MailDomain.Terminal
