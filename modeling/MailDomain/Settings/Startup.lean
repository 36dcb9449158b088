import MailDomain.Settings.CommandLine

/-!
# Starting the operator

## Main definitions

* `Startup` — what the start of the operator comes to: it shows something, it refuses the
  command line or the settings, or it is ready to work.
* `Startup.of` — the start with given arguments and environment.
* `Exit` — how the program ends, with `Startup.exit` for a start that goes no further.
-/

set_option relaxedAutoImplicit false
set_option autoImplicit false

namespace MailDomain

/-- What the start of the operator comes to: it is `ready` with its settings, or it ends here. -/
inductive Startup
  /-- The help or the version is shown. -/
  | shown (text : String)
  /-- The command line is wrong. -/
  | refused (message : String)
  /-- The settings are wrong. -/
  | misconfigured (fault : Settings.Fault)
  | ready (settings : Settings)

/-- How the program ends: its exit code, what it prints, and the first line of what it
complains about with the cause. -/
structure Exit where
  code : Nat
  output : Option String := none
  complaint : Option String := none
  cause : Option String := none
  deriving DecidableEq, Repr

namespace Startup

/-- The first line of a text, which ends before a line feed or before a carriage return with a
line feed. -/
def firstLine (s : String) : String :=
  let line := s.toList.takeWhile (· != '\n')
  let broken := line.length < s.length
  String.ofList (if broken && line.getLast? = some '\r' then line.dropLast else line)

/-- The start with given arguments and environment: `CommandLine.parse`, and then
`Settings.validate`. -/
def of (arguments : List String) (env : CommandLine.Environment) : Startup :=
  match CommandLine.parse arguments env with
  | .error .help => .shown (Help.text env)
  | .error .version => .shown Help.version
  | .error stop => .refused (stop.message env)
  | .ok settings =>
    match settings.validate with
    | .error fault => .misconfigured fault
    | .ok () => .ready settings

/-- The complaint when no cluster can be reached. -/
def noCluster : Exit := { code := 1, complaint := some "Error: failed to create Kubernetes client" }

/-- The complaint when the port of the metrics is taken. -/
def noPort : Exit := { code := 1, complaint := some "Error: metrics server failed" }

/-- The end of a start; `working` is the end of an operator that got to work with its settings. -/
def exit (working : Settings → Exit) : Startup → Exit
  | .shown text => { code := 0, output := some text }
  | .refused message => { code := 2, complaint := some (firstLine message) }
  | .misconfigured fault => {
      code := 1
      complaint := some "Error: invalid configuration"
      cause := some fault.message }
  | .ready settings => working settings

end Startup

end MailDomain
