import MailDomain.Text.Blank

/-!
# DNS names

A name is a list of labels. Its text has a dot between two labels, and may have escapes: a
backslash before a character, or before three octal digits that stand for one. A name is first
read with its letters in lower case and only letters, digits and hyphens in its labels; if that
fails, it is read as it stands, with underscores and dots allowed within labels.

## Main definitions

* `DnsName`, with its `text` and its `size` on the wire.
* `DnsName.Fault` — why a text is no name, with its `message`.
* `DnsName.read` — the name of a text.

## Main results

* `DnsName.plainLabel_ok_iff` — the labels that are read as they stand.

## Design

* Labels are ASCII. Internationalized names are left out: a label with a character beyond ASCII is
  refused by both readings and never turned into punycode, and whether what follows `xn--` in a
  label is valid punycode is not looked at. The base domains and selectors that the API server
  admits have no character beyond ASCII.
* A name is kept as its labels, each a list of characters that take one octet, so that `size` counts
  what the name takes when it is sent. A label may contain a dot, which an escape put there.
* Of the two readings, the second decides what is reported when both fail.
-/

set_option relaxedAutoImplicit false
set_option autoImplicit false

namespace MailDomain

/-- A DNS name, as its labels from the first to the last. The root has none. -/
structure DnsName where
  labels : List (List Char)
  deriving DecidableEq, Repr

namespace DnsName

/-- Why a text is no DNS name. -/
inductive Fault
  /-- A character that cannot be part of a name. -/
  | unrecognized (c : Char)
  /-- A digit that is not octal. -/
  | illegal (c : Char)
  | malformedLabel (label : List Char)
  | labelTooLong (length : Nat)
  | nameTooLong (length : Nat)
  deriving DecidableEq, Repr

/-- The wording of a fault, which a failed check gives as its reason. -/
def Fault.message : Fault → String
  | .unrecognized c => "unrecognized char: " ++ c.toString
  | .illegal c => "illegal char: " ++ c.toString
  | .malformedLabel l => "Malformed label: " ++ String.ofList l
  | .labelTooLong n => "label bytes exceed 63: " ++ toString n
  | .nameTooLong n => "name label data exceed 255: " ++ toString n

/-- The most octets that a label may have. -/
def maxLabel : Nat := 63

/-- The most octets that the labels of a name may have, each with the octet for its length. -/
def maxName : Nat := 255

/-- The octets that labels take in a message, each with the octet for its length. -/
def sizeOf : List (List Char) → Nat
  | [] => 0
  | l :: ls => l.length + 1 + sizeOf ls

/-- The octets that the name takes in a message, but for the zero at its end. -/
def size (n : DnsName) : Nat := sizeOf n.labels

/-- The root, which is the name of no label. -/
def root : DnsName := ⟨[]⟩

/-- Whether the character `c` may start a label: a letter, a digit, an underscore, an asterisk, or a
dot that was escaped. -/
def isLabelStart (c : Char) : Bool := c.isAlphanum || c == '_' || c == '*' || c == '.'

/-- Whether the character `c` may stand in a label after its start. -/
def isLabelChar (c : Char) : Bool := c.isAlphanum || c == '-' || c == '_' || c == '.'

/-- Whether a label may stand as it is: it is not empty, and each of its characters may stand where
it does. -/
def isLabel : List Char → Bool
  | [] => false
  | c :: cs => isLabelStart c && cs.all isLabelChar

/-- The octets of a label in UTF-8. -/
def octets : List Char → Nat
  | [] => 0
  | c :: cs => c.utf8Size + octets cs

/-- An ASCII letter or digit takes one octet in UTF-8. -/
theorem utf8Size_of_isAlphanum {c : Char} (h : c.isAlphanum = true) : c.utf8Size = 1 := by
  delta Char.isAlphanum Char.isAlpha Char.isUpper Char.isLower Char.isDigit at h
  have hZ : 'Z'.val.toNat = 90 := rfl
  have hz : 'z'.val.toNat = 122 := rfl
  have h9 : '9'.val.toNat = 57 := rfl
  simp only [Bool.or_eq_true, Bool.and_eq_true, decide_eq_true_eq, ge_iff_le,
    UInt32.le_iff_toNat_le] at h
  have : c.val ≤ 0x7F := by
    simp only [UInt32.le_iff_toNat_le, UInt32.reduceToNat]
    omega
  simp [Char.utf8Size, this]

theorem utf8Size_of_isLabelStart {c : Char} (h : isLabelStart c = true) : c.utf8Size = 1 := by
  simp only [isLabelStart, Bool.or_eq_true, beq_iff_eq] at h
  rcases h with ((h | h) | h) | h
  · exact utf8Size_of_isAlphanum h
  all_goals subst h; decide

theorem utf8Size_of_isLabelChar {c : Char} (h : isLabelChar c = true) : c.utf8Size = 1 := by
  simp only [isLabelChar, Bool.or_eq_true, beq_iff_eq] at h
  rcases h with ((h | h) | h) | h
  · exact utf8Size_of_isAlphanum h
  all_goals subst h; decide

/-- A label that may stand as it is takes one octet for each character. -/
theorem octets_of_isLabel {l : List Char} (h : isLabel l = true) : octets l = l.length := by
  have all : ∀ cs : List Char, cs.all isLabelChar = true → octets cs = cs.length := by
    intro cs hcs
    induction cs with
    | nil => rfl
    | cons c cs ih =>
      simp only [List.all_cons, Bool.and_eq_true] at hcs
      simp [octets, utf8Size_of_isLabelChar hcs.1, ih hcs.2, Nat.add_comm]
  cases l with
  | nil => rfl
  | cons c cs =>
    simp only [isLabel, Bool.and_eq_true] at h
    simp [octets, utf8Size_of_isLabelStart h.1, all cs h.2, Nat.add_comm]

/-- The label `l` as it stands, if it is not too long and may. The length is looked at first. -/
def plainLabel (l : List Char) : Except Fault (List Char) :=
  if maxLabel < octets l then .error (.labelTooLong (octets l))
  else if !isLabel l then .error (.malformedLabel l)
  else .ok l

/-- The label `l` in lower case, if it has only letters, digits and hyphens. An asterisk, and a
label that starts with an underscore, stand as they are. -/
def foldedLabel (l : List Char) : Except Fault (List Char) :=
  if l = ['*'] || l.head? = some '_' then plainLabel l
  else if l.all fun c => c.isAlphanum || c == '-' then plainLabel (l.map Char.toLower)
  else .error (.malformedLabel l)

/-- The labels that `plainLabel` takes: those that may stand as they are, with at most `maxLabel`
characters. -/
theorem plainLabel_ok_iff {l m : List Char} :
    plainLabel l = .ok m ↔ l = m ∧ isLabel l = true ∧ l.length ≤ maxLabel := by
  unfold plainLabel
  split
  · next h =>
    simp only [reduceCtorEq, false_iff, not_and]
    intro _ hl
    rw [octets_of_isLabel hl] at h
    omega
  · next h =>
    split
    · next hl => simp_all
    · next hl =>
      have hl : isLabel l = true := by simpa using hl
      rw [octets_of_isLabel hl] at h
      simp [hl]
      omega

/-- The name `n` with the label `l` at its end, unless that makes it longer than `maxName`. -/
def append (n : DnsName) (l : List Char) : Except Fault DnsName :=
  let size := n.size + l.length + 1
  if maxName < size then .error (.nameTooLong size) else .ok ⟨n.labels ++ [l]⟩

/-- Where a reader is in a text: in a label, after a backslash, or after octal digits. -/
inductive Spot
  | label
  | escape
  | octal (value : Nat)
  | octals (value : Nat)

/-- The value of an octal digit, if the character `c` is a digit at all. An 8 or a 9 is a fault. -/
def octalDigit? (c : Char) : Option (Except Fault Nat) :=
  if !c.isDigit then none
  else if c.toNat < 56 then some (.ok (c.toNat - 48))
  else some (.error (.illegal c))

/-- Whether the character `c` cannot stand in a name without an escape: white space and control
characters. -/
def isRefused (c : Char) : Bool :=
  Text.isBlank c || c.toNat < 0x20 || (0x7F ≤ c.toNat && c.toNat < 0xA0)

/-- The name `n` with the labels of a text; `label` holds the label under way, reversed, and
each label is taken as `check` says. -/
def labelsFrom (check : List Char → Except Fault (List Char)) :
    Spot → DnsName → (label : List Char) → List Char → Except Fault DnsName
  | _, n, [], [] => .ok n
  | _, n, l, [] => do n.append (← check l.reverse)
  | .label, n, l, c :: cs =>
    if c = '.' then do
      let n ← n.append (← check l.reverse)
      labelsFrom check .label n [] cs
    else if c = '\\' then labelsFrom check .escape n l cs
    else if isRefused c then .error (.unrecognized c)
    else labelsFrom check .label n (c :: l) cs
  | .escape, n, l, c :: cs =>
    match octalDigit? c with
    | none => labelsFrom check .label n (c :: l) cs
    | some (.ok d) => labelsFrom check (.octal d) n l cs
    | some (.error f) => .error f
  | .octal v, n, l, c :: cs =>
    match octalDigit? c with
    | none => .error (.unrecognized c)
    | some (.ok d) => labelsFrom check (.octals (v * 8 + d)) n l cs
    | some (.error f) => .error f
  | .octals v, n, l, c :: cs =>
    match octalDigit? c with
    | none => .error (.unrecognized c)
    | some (.ok d) => labelsFrom check .label n (Char.ofNat (v * 8 + d) :: l) cs
    | some (.error f) => .error f

/-- The name of the text `s` whose labels are taken as `check` says. A dot alone is the root. -/
def readAs (check : List Char → Except Fault (List Char)) (s : String) : Except Fault DnsName :=
  if s = "." then .ok root else labelsFrom check .label root [] s.toList

/-- The name of the text `s`: with its labels folded to lower case if they can be, and otherwise as
they stand. -/
def read (s : String) : Except Fault DnsName :=
  match readAs foldedLabel s with
  | .ok n => .ok n
  | .error _ => readAs plainLabel s

/-- The label `l` as it is written, with a backslash before each dot and each backslash. -/
def labelText (l : List Char) : List Char :=
  l.flatMap fun c => if c = '.' || c = '\\' then ['\\', c] else [c]

/-- The name `n` as a text, with a dot after each label and for the root alone. -/
def text (n : DnsName) : String :=
  if n.labels.isEmpty then "."
  else String.ofList (n.labels.flatMap fun l => labelText l ++ ['.'])

end DnsName

end MailDomain
