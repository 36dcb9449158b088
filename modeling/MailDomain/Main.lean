import MailDomain.Settings.Startup

/-!
# The operator

The command line of the operator. It shows the help and the version, and refuses wrong
arguments and settings; it has no access to a cluster, so that it does not go further.
-/

set_option relaxedAutoImplicit false
set_option autoImplicit false

open MailDomain

/-- The variables of the environment that settings are taken from, those with the `Flag.envName` of
a flag. -/
def readEnvironment : IO CommandLine.Environment := do
  let found ← Flag.all.mapM fun f => do return (f.envName, ← IO.getEnv f.envName)
  return fun name => (found.lookup name).join

/-- Shows how the program ends: what it prints, and the complaint with its cause. -/
def showExit (e : Exit) : IO Unit := do
  IO.print (e.output.getD "")
  match e.complaint with
  | none => return
  | some text => IO.eprintln text
  match e.cause with
  | none => return
  | some text => IO.eprint ("\nCaused by:\n    " ++ text ++ "\n")

/-- The operator: the settings of its arguments and of its environment, and the end of its start. No
cluster is reached from here. -/
def main (arguments : List String) : IO UInt32 := do
  let startup := Startup.of arguments (← readEnvironment)
  let e := startup.exit fun _ => Startup.noCluster
  match startup with
  | .refused message => IO.eprint message
  | _ => showExit e
  return e.code.toUInt32
