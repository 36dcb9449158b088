import MailDomain.Decimal.Shortest
import MailDomain.Metrics.Registry

/-!
# The text form of a registry

Families are listed by name, each with its description, and the samples of a family by the
values of their labels. A family without samples is left out.

## Main definitions

* `Exposition.Family` — a family with its samples.
* `Exposition.families` — the families of a registry.
* `Exposition.lines`, `Exposition.text` — its text form.
* `Exposition.counts` — the samples that do not depend on durations.
-/

set_option relaxedAutoImplicit false
set_option autoImplicit false

namespace MailDomain.Exposition

/-- The start of the name of every family, which `nameOf` and `durationFamily` put before what is
counted. -/
def scope : String := "mail_firestoned_io_"

/-- One value with its labels; `suffix`, which only the samples of a distribution have, is added to
the name of the family. -/
structure Sample where
  suffix : String := ""
  labels : List (String × String)
  value : String

/-- A family of samples, with the description and the type that stand before them. -/
structure Family where
  name : String
  help : String
  type : String
  samples : List Sample

/-- The name of the family of a `Counter`. -/
def nameOf : Counter → String
  | .checks => scope ++ "dns_checks_total"
  | .errors => scope ++ "errors_total"
  | .reconciliations => scope ++ "reconciliations_total"
  | .requeues => scope ++ "requeues_total"
  | .created => scope ++ "resources_created_total"
  | .deleted => scope ++ "resources_deleted_total"

/-- The description of the family of a `Counter`. -/
def helpOf : Counter → String
  | .checks => "Total number of DNS checks by check and outcome"
  | .errors => "Total number of errors by resource type and error category"
  | .reconciliations => "Total number of reconciliations by resource type and status"
  | .requeues => "Total number of requeue operations by resource type and reason"
  | .created => "Total number of resources created by type"
  | .deleted => "Total number of resources deleted by type"

/-- Whether one list of label values comes before another or is the same, the first difference
deciding. -/
def inOrder : List String → List String → Bool
  | [], _ => true
  | _ :: _, [] => false
  | a :: as, b :: bs => a < b || (a == b && inOrder as bs)

/-- The labels of a counter, each with its value, sorted by the name of the label and not as in
`Counter.labels`. -/
def labelsOf (s : Series) : List (String × String) :=
  (s.family.labels.zip s.values).mergeSort fun a b => !(b.1 < a.1 : Bool)

/-- The family of the counter `c`: a sample for each `Series` of the registry, sorted by label
values with `inOrder`. -/
def counterFamily (r : Registry) (c : Counter) : Family where
  name := nameOf c
  help := helpOf c
  type := "counter"
  samples :=
    let entries := r.counts.filter fun e => e.1.family = c
    let samples := entries.map fun e => { labels := labelsOf e.1, value := toString e.2 }
    samples.mergeSort fun a b => inOrder (a.labels.map Prod.snd) (b.labels.map Prod.snd)

/-- The text of a bound of `Distribution.bounds`: the shortest decimal number that is rounded to
it. -/
def boundText (b : Nat × Nat) : String :=
  Decimal.positional (Decimal.shortest (Binary64.round b.1 b.2))

/-- The samples of the distribution `d`: for each bound the number of durations within it, the
number of all, their sum and their number again. -/
def distributionSamples (resource : String) (d : Distribution) : List Sample :=
  let label := ("resource_type", resource)
  let bucket (bound : String) (n : Nat) : Sample :=
    { suffix := "_bucket", labels := [label, ("le", bound)], value := toString n }
  (Distribution.bounds.zip d.within).map (fun (b, n) => bucket (boundText b) n) ++
    [bucket "+Inf" d.count,
      { suffix := "_sum", labels := [label],
        value := Decimal.positional (Decimal.shortest d.sum) },
      { suffix := "_count", labels := [label], value := toString d.count }]

/-- The family of the durations of reconciliations, with `distributionSamples` for each resource
type by name. -/
def durationFamily (r : Registry) : Family where
  name := scope ++ "reconciliation_duration_seconds"
  help := "Duration of reconciliations in seconds by resource type"
  type := "histogram"
  samples :=
    let sorted := r.durations.mergeSort fun a b => !(b.1 < a.1 : Bool)
    sorted.flatMap fun e => distributionSamples e.1 e.2

/-- The families of a registry that have samples, sorted by name. -/
def families (r : Registry) : List Family :=
  [counterFamily r .checks, counterFamily r .errors, durationFamily r,
    counterFamily r .reconciliations, counterFamily r .requeues, counterFamily r .created,
    counterFamily r .deleted].filter fun f => !f.samples.isEmpty

/-- The form of one character of a label value, in which quotes, backslashes and line feeds are
escaped. -/
def escape (c : Char) : List Char :=
  if c = '\\' then ['\\', '\\']
  else if c = '"' then ['\\', '"']
  else if c = '\n' then ['\\', 'n']
  else [c]

/-- A label with its value in quotes, every character of it as `escape` has it. -/
def labelText (l : String × String) : String :=
  l.1 ++ "=\"" ++ String.ofList (l.2.toList.flatMap escape) ++ "\""

/-- The line of the sample `s` of the family `name`. -/
def sampleLine (name : String) (s : Sample) : String :=
  let labels := String.intercalate "," (s.labels.map labelText)
  name ++ s.suffix ++ "\x7b" ++ labels ++ "\x7d " ++ s.value

/-- The lines of a family: its description, its type and its samples. -/
def familyLines (f : Family) : List String :=
  ("# HELP " ++ f.name ++ " " ++ f.help) :: ("# TYPE " ++ f.name ++ " " ++ f.type) ::
    f.samples.map (sampleLine f.name)

/-- The lines of the text form, for all of `families` in order. -/
def lines (r : Registry) : List String := (families r).flatMap familyLines

/-- The text form of a registry, every one of `lines` with a line feed after it. -/
def text (r : Registry) : String := String.join ((lines r).map (· ++ "\n"))

/-- The lines of the samples that do not depend on how long anything took: those of counters and the
number of durations. -/
def counts (r : Registry) : List String :=
  (families r).flatMap fun f =>
    (f.samples.filter fun s => s.suffix == "" || s.suffix == "_count").map (sampleLine f.name)

end MailDomain.Exposition
