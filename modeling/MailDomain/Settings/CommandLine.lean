import MailDomain.Settings.Help

/-!
# The command line

Arguments are taken from left to right. A flag takes the value attached to it by an equals
sign, or else the argument after it; such a value is looked at when the next flag is met or
the arguments end. Flags that are not given take their value from the environment.

## Main definitions

* `CommandLine.Stop` — why no settings come out: a wrong argument, or a request for the help or
  the version. `Stop.message` is what is shown then.
* `CommandLine.parse` — the settings of arguments and an environment.
-/

set_option relaxedAutoImplicit false
set_option autoImplicit false

namespace MailDomain.CommandLine

/-- Why no settings come out of a command line: the help or the version is asked for, or an argument
is wrong. -/
inductive Stop
  | help
  | version
  | unknownArgument (argument : String)
  | missingValue (flag : Flag)
  | invalidValue (flag : Flag) (fault : ValueFault)
  | repeated (flag : Flag)
  | surplusValue (value flag : String)
  deriving DecidableEq, Repr

/-- The wording of a stop. Of what was given, only what `Terminal.plain` shows is repeated. -/
def Stop.message (env : Environment) : Stop → String
  | .help => Help.text env
  | .version => Help.version
  | .unknownArgument a => "error: unexpected argument '" ++ Terminal.plain a ++ "' found"
  | .missingValue f =>
    "error: a value is required for '" ++ f.usage ++ "' but none was supplied"
  | .invalidValue f fault =>
    "error: invalid value '" ++ Terminal.plain fault.value ++ "' for '" ++ f.usage ++ "': " ++
      fault.reason
  | .repeated f => "error: the argument '" ++ f.usage ++ "' cannot be used multiple times"
  | .surplusValue v f =>
    "error: unexpected value '" ++ Terminal.plain v ++ "' for '" ++ f ++
      "' found; no more were expected"

/-- What was made of the arguments so far, from which `step` goes on. -/
structure State where
  settings : Settings := {}
  /-- The flags that were given. -/
  given : List Flag := []
  /-- A flag that was given without an attached value, and the value if it came. -/
  pending : Option (Flag × Option String) := none

namespace State

/-- The state after `value` was given for the flag `f` on the command line, for the first time
unless `f` is `repeatable`. -/
def take (s : State) (f : Flag) (value : String) : Except Stop State :=
  if s.given.contains f && !f.repeatable then .error (.repeated f)
  else match f.assign value s.settings with
    | .ok settings => .ok { settings, given := f :: s.given, pending := none }
    | .error fault => .error (.invalidValue f fault)

/-- The state after the flag that is `pending` was given its value by `take`; a value that did not
come is missing now. -/
def settle (s : State) : Except Stop State :=
  match s.pending with
  | none => .ok s
  | some (f, none) => .error (.missingValue f)
  | some (f, some value) => s.take f value

end State

/-- The short flags after a dash: the help and the version, each after what is pending was
settled. -/
def shortFlags (s : State) : List Char → Except Stop State
  | [] => .ok s
  | c :: _ =>
    if c = 'h' then s.settle >>= fun _ => .error .help
    else if c = 'V' then s.settle >>= fun _ => .error .version
    else .error (.unknownArgument (String.ofList ['-', c]))

/-- A long flag after its dashes, with the `value` attached to it. Without one the flag becomes
`pending`. -/
def longFlag (s : State) (name : String) (value : Option String) : Except Stop State :=
  match Flag.ofName? name, value with
  | some f, some v => do (← s.settle).take f v
  | some f, none => do return { ← s.settle with pending := some (f, none) }
  | none, v =>
    if name = "help" || name = "version" then
      match v with
      | some v => .error (.surplusValue v ("--" ++ name))
      | none => s.settle >>= fun _ => .error (if name = "help" then .help else .version)
    else .error (.unknownArgument ("--" ++ name))

/-- The name and the attached value of a long flag, with the first equals sign between them. -/
def splitValue (cs : List Char) : String × Option String :=
  match Text.cutAt? '=' cs with
  | some (name, value) => (String.ofList name, some (String.ofList value))
  | none => (String.ofList cs, none)

/-- An argument that is neither a flag nor the mark of the end of flags. It is the value of the
`pending` flag or not expected. -/
def plain (s : State) (argument : String) : Except Stop State :=
  match s.pending with
  | some (f, none) => .ok { s with pending := some (f, some argument) }
  | _ => .error (.unknownArgument argument)

/-- One argument before the end of flags, by the dashes at its start. -/
def step (s : State) (argument : String) : Except Stop State :=
  match argument.toList with
  | '-' :: '-' :: cs =>
    let (name, value) := splitValue cs
    longFlag s name value
  | '-' :: c :: cs => shortFlags s (c :: cs)
  | _ => plain s argument

/-- The arguments in order, each by `step`. After two dashes there are no flags, and nothing else is
taken. -/
def steps (s : State) : List String → Except Stop State
  | [] => s.settle
  | "--" :: [] => s.settle
  | "--" :: argument :: _ => .error (.unknownArgument argument)
  | argument :: rest => do steps (← step s argument) rest

/-- The settings after the values of the environment for flags that were not `given`, in the order
of the list. -/
def fromEnvironment (env : Environment) (given : List Flag) :
    List Flag → Settings → Except Stop Settings
  | [], settings => .ok settings
  | f :: fs, settings =>
    match if given.contains f then none else env f.envName with
    | none => fromEnvironment env given fs settings
    | some value =>
      match f.assign value settings with
      | .ok settings => fromEnvironment env given fs settings
      | .error fault => .error (.invalidValue f fault)

/-- The settings of arguments and an environment: first the arguments by `steps`, then
`fromEnvironment` for all other flags. -/
def parse (arguments : List String) (env : Environment) : Except Stop Settings := do
  let s ← steps {} arguments
  fromEnvironment env s.given Flag.all s.settings

end MailDomain.CommandLine
