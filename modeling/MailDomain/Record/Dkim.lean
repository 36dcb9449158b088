import MailDomain.Text.Blank

/-!
# DKIM records

A DKIM record is a list of tags with semicolons between them, each a name and a value with an
equals sign between them. The tag `p` holds the public key. Long keys are wrapped, so white
space is ignored.

## Main definitions

* `Dkim.holdsKey` — whether one tag holds a key.
* `Dkim.hasKey` — whether a record holds a key.
-/

set_option relaxedAutoImplicit false
set_option autoImplicit false

namespace MailDomain.Dkim

/-- Whether a tag is a `p` tag whose value is `key`, which has no white space: that of the value is
dropped with `Text.squeeze`, that around the name with `Text.trim`. -/
def holdsKey (key tag : List Char) : Bool :=
  match Text.cutAt? '=' tag with
  | some (name, value) => Text.trim name == ['p'] && Text.squeeze value == key
  | none => false

/-- Whether a record holds a key: one of its tags `holdsKey` without white space. A blank key is
held by none. -/
def hasKey (record publicKey : String) : Bool :=
  let key := Text.squeeze publicKey.toList
  !key.isEmpty && (Text.pieces (· == ';') record.toList).any (holdsKey key)

end MailDomain.Dkim
