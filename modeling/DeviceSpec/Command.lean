import DeviceSpec.Check.Rule
import DeviceSpec.Generate
import DeviceSpec.Ledger
import DeviceSpec.Overlay
import DeviceSpec.Profile
import DeviceSpec.Settings.Basic

/-!
# Commands

What the user can ask for: make a device directory, check it, generate its files, remove them, and
show what is set and what was generated.

* A command runs on a world: a disk and what has been printed. When it fails, the world is what it
  had become by then.
* `generateAndRecord` keeps the ledger in step with the disk, also when a run stops half way.
-/

namespace DeviceSpec

/-- A disk and what has been printed. -/
structure World where
  disk : Disk
  /-- The standard output. -/
  out : String := ""
  /-- The error output. -/
  err : String := ""

/-- Why a command fails. -/
inductive CommandError where
  | emptyNames
  | workingDir (cause : FileError)
  | createDir (path : Path) (cause : FileError)
  | spec (cause : SpecError)
  | ledger (cause : LedgerError)
  | generate (dir : Path) (cause : GenerateError)
  | invalid (report : Report)

/-- The wordings of what caused a generation error. -/
def GenerateError.causes : GenerateError → List String
  | .createDir _ cause => [cause.message]
  | .write _ cause => [cause.message]
  | .render _ _ => []

/-- The wording of a command error. -/
def CommandError.message : CommandError → String
  | .emptyNames => "Vendor and device names must not be empty"
  | .workingDir _ => "Failed to get working directory"
  | .createDir path _ => "Failed to create " ++ path.text
  | .spec cause => cause.message
  | .ledger cause => cause.message
  | .generate dir _ => "Failed to generate " ++ dir.text
  | .invalid report => report.failureMessage

/-- The wordings of what caused a command error, the nearest cause first. -/
def CommandError.causes : CommandError → List String
  | .emptyNames => []
  | .workingDir cause => [cause.message]
  | .createDir _ cause => [cause.message]
  | .spec cause => cause.causes
  | .ledger cause => cause.causes
  | .generate _ cause => cause.message :: cause.causes
  | .invalid _ => []

/-- A computation on a world that may fail. -/
abbrev Action (α : Type) := ExceptT CommandError (StateM World) α

/-! ## Steps of commands -/

/-- The disk as it is. -/
def getDisk : Action Disk := do return (← get).disk

/-- Replace the disk. -/
def setDisk (d : Disk) : Action Unit := modify fun w => { w with disk := d }

/-- Print a line. -/
def say (line : String) : Action Unit := modify fun w => { w with out := w.out ++ line ++ "\n" }

/-- Print a line on the error output. -/
def warn (line : String) : Action Unit := modify fun w => { w with err := w.err ++ line ++ "\n" }

/-- Print a notice. -/
def Notice.show : Notice → Action Unit
  | .said line => say line
  | .warned line => warn line

/-- Change the disk, and go on unless that failed. -/
def change {ε α : Type} (wrap : ε → CommandError) (f : Disk → Except ε α × Disk) : Action α := do
  let (result, d) := f (← getDisk)
  setDisk d
  match result with
  | .ok v => return v
  | .error e => throw (wrap e)

/-- Look something up on the disk, and go on unless that failed. -/
def look {ε α : Type} (wrap : ε → CommandError) (f : Disk → Except ε α) : Action α := do
  match f (← getDisk) with
  | .ok v => return v
  | .error e => throw (wrap e)

/-- A path from the root. -/
def absolute (p : Path) : Action Path := look .workingDir (absolutePath p)

/-! ## Parts of commands -/

/-- The file name of a description. -/
def configName : String := "config.json"

/-- The description in a device directory. -/
def configPath (dir : Path) : Path := dir.join configName

/-- Load the description of a device directory and merge its overlays. -/
def loadDeviceSpec (dir : Path) : Action Spec := do
  let s ← look .spec (loadSpec (configPath dir))
  let m := mergeOverlays s.hals dir (← getDisk)
  m.notices.forM Notice.show
  return s.withMerge m

/-- Add the files that are not listed yet. -/
def addUnlisted : List Path → List Path → List Path
  | files, [] => files
  | files, f :: rest =>
    if files.any f.same then addUnlisted files rest else addUnlisted (files ++ [f]) rest

/-- What to record after a run that stopped half way: what it wrote, and what was listed before. -/
def Ledger.afterFailure (dir : Path) (written : List Path) (d : Disk) : Ledger :=
  match Ledger.load dir d with
  | .ok previous => ⟨dir, addUnlisted written previous.files⟩
  | .error _ => ⟨dir, written⟩

/-- Generate all files of a description and record them. -/
def generateAndRecord (s : Spec) (dir : Path) : Action Ledger := do
  let g := s.generate dir (← getDisk)
  setDisk g.disk
  g.lines.forM say
  match g.failure with
  | none => change .ledger (Ledger.store ⟨dir, g.paths dir⟩)
  | some e =>
    let (stored, d) := (Ledger.afterFailure dir (g.paths dir) g.disk).store g.disk
    setDisk d
    match stored with
    | .ok _ => pure ()
    | .error cause => warn ("  [WARN] Failed to record partial output: " ++ cause.message)
    throw (.generate dir e)

/-- Print what rules find and the summary of it. -/
def Report.show (r : Report) : Action Unit := do
  r.findings.forM fun f => say f.line
  r.summary.forM say

/-! ## Commands -/

/-- Make the directories of a new device, write its description from a template or the bundled
profile, and generate its files. -/
def initialise (root : Path) (vendor device : String) (template : Option Path) : Action Path := do
  if vendor.isEmpty ∨ device.isEmpty then throw .emptyNames
  let root ← absolute root
  let vendorDir := root.join vendor
  let dir := vendorDir.join device
  [dir, vendorDir.join (device ++ "-kernel")].forM fun p =>
    change (.createDir p) (fun d => d.makeDirs p)
  let base ← match template with
    | none => pure profile
    | some path => do
      let path ← absolute path
      say ("[avs i] Using " ++ path.text ++ " as template")
      look .spec (loadSpec path)
  let s := base.retarget vendor device
  change .spec (saveSpec s (configPath dir))
  say ("[avs i] Created " ++ (configPath dir).text)
  let l ← generateAndRecord s dir
  say ("[avs i] OK: " ++ toString l.files.length ++ " files generated in " ++ dir.text)
  return dir

/-- Check the description of a device directory. -/
def check (dir : Path) (settings : Settings) : Action Report := do
  let dir ← absolute dir
  let s ← loadDeviceSpec dir
  let r := validate s (settings.surroundings dir) (← getDisk)
  r.show
  if r.passed then
    say "[avs v] OK"
    return r
  else
    say "[avs v] FAILED"
    throw (.invalid r)

/-- Check the description of a device directory and generate its files. -/
def update (dir : Path) (settings : Settings) : Action Ledger := do
  let dir ← absolute dir
  let s ← loadDeviceSpec dir
  let r := validate s (settings.surroundings dir) (← getDisk)
  r.show
  if r.passed then
    let l ← generateAndRecord s dir
    say ("[avs u] OK: " ++ toString l.files.length ++ " files generated")
    return l
  else
    say "[avs u] FAILED: fix the validation errors first"
    throw (.invalid r)

/-- Remove the files that were generated into a device directory. -/
def clean (dir : Path) : Action CleanSummary := do
  let dir ← absolute dir
  let summary ← change .ledger (Ledger.clean dir)
  summary.removed.forM fun p => say ("Removing " ++ p.text ++ "...")
  summary.missing.forM fun p => warn ("  [WARN] " ++ p.text ++ " was already gone")
  summary.keptDirs.forM fun p => warn ("  [WARN] " ++ p.text ++ " is a directory, kept")
  say ("[avs c] OK: " ++ toString summary.removed.length ++ " files removed")
  return summary

/-- Show the settings. -/
def showSettings (settings : Settings) : Action Unit := do
  say "Configuration:"
  match settings.buildTop with
  | some top =>
    say ("  " ++ buildTopVariable ++ ": " ++ top.text)
    say ("  Android tree: " ++ if (← getDisk).isDir top then "FOUND" else "NOT FOUND")
  | none => say ("  " ++ buildTopVariable ++ ": (unset, checks of Android tree paths are skipped)")
  say ("  " ++ checkModulesVariable ++ ": " ++ if settings.checksModules then "true" else "false")

/-- Show the files that were generated into a device directory, and which are there. -/
def showLedger (dir : Path) : Action Unit := do
  let dir ← absolute dir
  let l ← look .ledger (Ledger.load dir)
  say ("Device directory: " ++ l.dir.text)
  if l.files.isEmpty then say "  (no generated files)"
  let d ← getDisk
  l.files.forM fun p => say ("  " ++ (if d.pathExists p then "✓ " else "✗ ") ++ p.text)

end DeviceSpec
