import MailDomain.Definition.File

/-!
# Writing the file of the definition

## Main definitions

* `Definition.write` — writes the file below the working directory and says so.
-/

set_option relaxedAutoImplicit false
set_option autoImplicit false

namespace MailDomain.Definition

/-- Writes `fileLines` to `path`, making the directory if there is none, and says so. -/
def write : IO Unit := do
  IO.FS.createDirAll directory
  IO.FS.writeFile path (String.join (fileLines.map (· ++ "\n")))
  IO.print report

end MailDomain.Definition
