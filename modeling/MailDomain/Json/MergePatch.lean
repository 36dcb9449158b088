import MailDomain.Json.Basic

/-!
# Merge patches

A merge patch that is an object sets the members it names, merging objects, and removes those
it names with null; any other patch replaces the whole value.

## Main definitions

* `Json.mergePatch` — a value after a patch.

## Main results

* `Json.mergePatch_of_not_obj` — a patch that is no object replaces the value.
* `Json.mergePatch_obj` — a patch that is an object merges member by member.
-/

set_option relaxedAutoImplicit false
set_option autoImplicit false

namespace MailDomain.Json

mutual

/-- The value `target` after the merge patch: an object is merged member by member, and any other
value replaces `target`. -/
def mergePatch (target : Json) : Json → Json
  | .obj ms => .obj (mergeMembers target.members ms)
  | .null => .null
  | .bool b => .bool b
  | .num n => .num n
  | .str s => .str s
  | .arr es => .arr es

/-- The members `target` after those of a patch, in order. Null erases a member, and any other value
is merged into what is there. -/
def mergeMembers (target : Members) : List (String × Json) → Members
  | [] => target
  | (k, .null) :: ms => mergeMembers (Members.erase k target) ms
  | (k, v) :: ms =>
    mergeMembers (Members.set k (mergePatch ((Members.get? k target).getD .null) v) target) ms

end

/-- A patch that is no object replaces the value. -/
theorem mergePatch_of_not_obj {p : Json} (h : ∀ ms, p ≠ .obj ms) (v : Json) :
    mergePatch v p = p := by
  cases p with
  | obj ms => exact absurd rfl (h ms)
  | _ => rfl

/-- A patch that is an object merges its members into those of the value. -/
theorem mergePatch_obj (v : Json) (ms : Members) :
    mergePatch v (.obj ms) = .obj (mergeMembers v.members ms) := rfl

end MailDomain.Json
