import MailDomain.Settings.Flag
import MailDomain.Text.Terminal

/-!
# The help

The help lists the flags, each with what it is for, the value of its environment variable and
its default. It is made with emphasis for a terminal, and shown without.

## Main definitions

* `CommandLine.Environment` — the variables of the environment.
* `Help.text`, `Help.version` — what is shown.
-/

set_option relaxedAutoImplicit false
set_option autoImplicit false

namespace MailDomain

/-- The variables of the environment: the value of each name, `none` where it is not set. -/
abbrev CommandLine.Environment := String → Option String

namespace Help

/-- The name of the program, as the usage and the version show it. -/
def program : String := "maildomain-operator"

/-- What is shown for the version. -/
def version : String := program ++ " 0.1.0\n"

/-- The space in front of what a flag is for, which stands below the flag. -/
def margin : String := "          "

/-- A text whose lines after the first start with the `margin`. -/
def indented (s : String) : String :=
  String.ofList (s.toList.flatMap fun c => if c = '\n' then c :: margin.toList else [c])

/-- What is said about a flag: what it is for, its variable with the value in the environment, and
its default. -/
def about (env : CommandLine.Environment) (f : Flag) : String :=
  let default := match f.default? with
    | some d => " [default: " ++ d ++ "]"
    | none => ""
  f.help ++ " [env: " ++ f.envName ++ "=" ++ (env f.envName).getD "" ++ "]" ++ default

/-- The entry of a flag: its name with that of its value, and below it what is said `about` it. -/
def entry (env : CommandLine.Environment) (f : Flag) : String :=
  "      " ++ Terminal.bold ("--" ++ f.name) ++ " <" ++ f.envName ++ ">\n" ++ margin ++
    indented (about env f) ++ "\n"

/-- The entry of a flag that takes no value, with its `short` form. -/
def plainEntry (short name help : String) : String :=
  "  " ++ Terminal.bold ("-" ++ short) ++ ", " ++ Terminal.bold ("--" ++ name) ++ "\n" ++ margin ++
    help ++ "\n"

/-- The help with its emphasis: the usage, an `entry` for each flag, and the help and the
version. -/
def emphasized (env : CommandLine.Environment) : String :=
  "Kubernetes operator that verifies mail domain DNS and publishes stats ingresses\n\n" ++
    Terminal.heading "Usage:" ++ " " ++ Terminal.bold program ++ " [OPTIONS]\n\n" ++
    Terminal.heading "Options:" ++ "\n" ++ String.join (Flag.all.map (entry env)) ++
    plainEntry "h" "help" "Print help" ++ plainEntry "V" "version" "Print version"

/-- What is shown for the help. `Terminal.plain` takes the emphasis away, and with it any control
sequence that a variable holds. -/
def text (env : CommandLine.Environment) : String := Terminal.plain (emphasized env)

end Help

end MailDomain
