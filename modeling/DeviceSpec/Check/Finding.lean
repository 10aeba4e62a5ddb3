/-!
# Findings and reports

A rule reports findings, which warn or fail. A report gathers the findings of the rules that ran; it
passes unless some finding fails.
-/

namespace DeviceSpec

/-- How serious a finding is. -/
inductive Severity where
  /-- It is shown and never makes a report fail. -/
  | warn
  /-- It makes the report fail. -/
  | fail
  deriving DecidableEq

/-- What a rule has to say. -/
structure Finding where
  /-- The name of the rule. -/
  rule : String
  severity : Severity
  message : String
  deriving DecidableEq

/-- The finding makes a report fail. -/
def Finding.isFail (f : Finding) : Bool := decide (f.severity = .fail)

/-- The line that shows a finding. -/
def Finding.line (f : Finding) : String :=
  let mark := match f.severity with
    | .warn => "⚠ [WARN] "
    | .fail => "✗ [FAIL] "
  "  " ++ mark ++ f.rule ++ ": " ++ f.message

/-- The findings of the rules that ran. -/
structure Report where
  /-- The names of the rules, in the order they ran. -/
  rulesRun : List String := []
  findings : List Finding := []
  deriving DecidableEq

namespace Report

/-- No finding fails. -/
def passed (r : Report) : Bool := !r.findings.any Finding.isFail

/-- The findings that fail. -/
def failures (r : Report) : List Finding := r.findings.filter Finding.isFail

/-- The findings that warn. -/
def warnings (r : Report) : List Finding := r.findings.filter (fun f => !f.isFail)

/-- The rules with a finding that fails, in the order they ran. -/
def failedRules (r : Report) : List String :=
  r.rulesRun.filter (fun name => r.failures.any (fun f => f.rule == name))

/-- The findings of one rule. -/
def ofRule (r : Report) (name : String) : List Finding :=
  r.findings.filter (fun f => f.rule == name)

/-- The lines that sum a report up. -/
def summary (r : Report) : List String :=
  let total := r.rulesRun.length
  let failed := r.failedRules
  ["", "Summary: " ++ toString (total - failed.length) ++ "/" ++ toString total ++ " rules passed"]
    ++ (if failed.isEmpty then []
        else ["         " ++ toString failed.length ++ " FAILED: " ++ ", ".intercalate failed])
    ++ (if r.warnings.isEmpty then []
        else ["         " ++ toString r.warnings.length ++ " warnings"])

/-- The wording of the failure of a report. -/
def failureMessage (r : Report) : String :=
  let failed := r.failedRules
  "validation failed: " ++ toString failed.length ++ " rule(s) reported errors ("
    ++ ", ".intercalate failed ++ ")"

end Report

end DeviceSpec
