import MailDomain.Definition.Domain
import MailDomain.Yaml.Printer

/-!
# The file of the definition

## Main definitions

* `Definition.path` — where the file is written.
* `Definition.fileLines` — what it holds.
* `Definition.report` — what is said about it.
-/

set_option relaxedAutoImplicit false
set_option autoImplicit false

namespace MailDomain.Definition

/-- The directory in which definitions are kept. -/
def directory : String := "deploy/crds"

/-- The name of the file with the definition of domains. -/
def fileName : String := "domains.crd.yaml"

/-- Where the file is written, below the working directory. -/
def path : String := directory ++ "/" ++ fileName

/-- The comment at the start of the file, line by line. -/
def header : List String := [
  "# Copyright (c) 2025 Erick Bourgeois, firestoned",
  "# SPDX-License-Identifier: MIT",
  "#",
  "# This file is AUTO-GENERATED from src/crd.rs",
  "# DO NOT EDIT MANUALLY - Run `cargo run --bin crdgen` to regenerate",
  "#"]

/-- The lines of the file: the `header`, and the definition of `domain` in YAML. -/
def fileLines : List String := header ++ Yaml.render domain

/-- What is said after the file was written. -/
def report : String := "\n".intercalate [
  "Generating CRD YAML files from src/crd.rs...",
  "  ✓ Generated " ++ fileName,
  "✓ Successfully generated CRD YAML files in " ++ directory ++ "/",
  "",
  "Next steps:",
  "  1. Review the generated files",
  "  2. Deploy with: kubectl apply -f " ++ directory ++ "/",
  ""]

end MailDomain.Definition
