import DeviceSpec.Json.Codec
import DeviceSpec.Text.Blank

/-!
# Init scripts

A script is either a file of the device directory that is copied as it is, or it is described here
and written under its name. A file that is named next to a name wins, and what is described beside
a file is not used.

* `InitScript.source` tells the four cases apart.
-/

namespace DeviceSpec

open Json

/-- Commands that run when a trigger fires. -/
structure InitAction where
  triggers : String := ""
  commands : List String := []
  deriving DecidableEq, Inhabited

/-- The format of an action. -/
def InitAction.record : Record InitAction where
  name := "RcAction"
  start := {}
  fields := [
    .required "triggers" text ⟨InitAction.triggers, fun x r => { r with triggers := x }⟩,
    .required "commands" (listOf text) ⟨InitAction.commands, fun x r => { r with commands := x }⟩]

/-- A program that is kept running. -/
structure InitService where
  name : String := ""
  path : String := ""
  args : String := ""
  options : List String := []
  deriving DecidableEq, Inhabited

/-- The format of a service. -/
def InitService.record : Record InitService where
  name := "RcService"
  start := {}
  fields := [
    .required "name" text ⟨InitService.name, fun x r => { r with name := x }⟩,
    .required "path" text ⟨InitService.path, fun x r => { r with path := x }⟩,
    .text "args" ⟨InitService.args, fun x r => { r with args := x }⟩,
    .list "options" text ⟨InitService.options, fun x r => { r with options := x }⟩]

/-- An init script. -/
structure InitScript where
  /-- The script belongs to the vendor image and not to the ramdisk. -/
  isService : Bool := false
  /-- The file that is copied. -/
  file : String := ""
  /-- The name under which the script is written. -/
  name : String := ""
  imports : List String := []
  actions : List InitAction := []
  services : List InitService := []
  deriving DecidableEq, Inhabited

/-- The value of a flag, which may also be spelled as a text with blanks around it; an empty text
stands for an unset flag. -/
def spelledFlag : Loose → Except Error Bool
  | .flag b => .ok b
  | .text s =>
    let spelled := Text.trim s
    if spelled = "true" then .ok true
    else if spelled = "false" ∨ spelled = "" then .ok false
    else .error (.refused ("serviceRc must be true or false, got " ++ Text.quoted spelled))
  | .other => .error (.refused "data did not match any variant of untagged enum BoolOrString")

/-- A flag that may be spelled as a text. The value is read to its end before it is looked at. -/
def flagOrText : Codec Bool where
  read depth cs := do
    let (v, rest) ← loose depth cs
    let b ← spelledFlag v
    .ok (b, rest)
  write := flag.write

/-- The format of an init script. -/
def InitScript.record : Record InitScript where
  name := "RcScript"
  start := {}
  fields := [
    .flag "serviceRc" flagOrText ⟨InitScript.isService, fun x r => { r with isService := x }⟩,
    .text "file" ⟨InitScript.file, fun x r => { r with file := x }⟩,
    .text "name" ⟨InitScript.name, fun x r => { r with name := x }⟩,
    .list "imports" text ⟨InitScript.imports, fun x r => { r with imports := x }⟩,
    .list "actions" InitAction.record.codec
      ⟨InitScript.actions, fun x r => { r with actions := x }⟩,
    .list "services" InitService.record.codec
      ⟨InitScript.services, fun x r => { r with services := x }⟩]

/-! ## Where a script comes from -/

/-- Where a script comes from. -/
inductive ScriptSource where
  /-- A file of the device directory. -/
  | external (file : String)
  /-- The description itself. -/
  | embedded (name : String)
  /-- Both are given. -/
  | ambiguous
  /-- Neither is given. -/
  | unnamed
  deriving DecidableEq

/-- Where the script comes from. -/
def InitScript.source (s : InitScript) : ScriptSource :=
  match s.file.isEmpty, s.name.isEmpty with
  | false, true => .external s.file
  | true, false => .embedded s.name
  | false, false => .ambiguous
  | true, true => .unnamed

/-- The script is written from its description. -/
def InitScript.isEmbedded (s : InitScript) : Bool :=
  s.file.isEmpty && !s.name.isEmpty

/-- The script is copied from a file, and something else is given that is not used. -/
def InitScript.hasUnusedContent (s : InitScript) : Bool :=
  !s.file.isEmpty
    && (!s.name.isEmpty || !s.imports.isEmpty || !s.actions.isEmpty || !s.services.isEmpty)

/-- The file of the device directory that is installed. -/
def InitScript.installed? (s : InitScript) : Option String :=
  if !s.file.isEmpty then some s.file
  else if !s.name.isEmpty then some s.name
  else none

/-- A script is embedded exactly when its description is all there is. -/
theorem InitScript.isEmbedded_iff {s : InitScript} :
    s.isEmbedded = true ↔ s.source = .embedded s.name := by
  unfold InitScript.isEmbedded InitScript.source
  cases s.file.isEmpty <;> cases s.name.isEmpty <;> simp

end DeviceSpec
