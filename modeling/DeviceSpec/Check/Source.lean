import DeviceSpec.Check.Finding
import DeviceSpec.Disk.Basic
import DeviceSpec.Install

/-!
# Sources of copied files

A source under `$(LOCAL_PATH)` lies in the device directory. Any other lies in the Android tree and
cannot be looked at when it is not known where that is.

* `Surroundings.resolve` says where a source lies.
* `checkSources` reports the sources that are missing, and how many could not be looked at.
-/

namespace DeviceSpec

/-- Where files are looked for. -/
structure Surroundings where
  /-- The device directory. -/
  dir : Path
  /-- The root of the Android tree. -/
  buildTop : Option Path := none
  /-- Look for the modules of vendor packages too. -/
  checksModules : Bool := false

/-- Where a source lies, if that is known. -/
def Surroundings.resolve (env : Surroundings) (source : String) : Option Path :=
  match Text.afterHead? localPath source with
  | some rest => some (env.dir.join (dropSlashes rest))
  | none => env.buildTop.map (fun top => top.join (dropSlashes source))

/-- What is known of a source. -/
inductive SourceStatus where
  | found (path : Path)
  | missing (path : Path)
  /-- The source lies in the Android tree, and it is not known where that is. -/
  | unchecked
  deriving DecidableEq

/-- Look for a source. -/
def checkSource (source : String) (env : Surroundings) (d : Disk) : SourceStatus :=
  match env.resolve source with
  | none => .unchecked
  | some path => if d.pathExists path then .found path else .missing path

/-- How a missing source is named. -/
def missingSource? (env : Surroundings) (d : Disk) (source : String) : Option String :=
  match checkSource source env d with
  | .missing path => some (source ++ " (" ++ path.text ++ ")")
  | _ => none

/-- The sources that cannot be looked at. -/
def uncheckedSources (sources : List String) (env : Surroundings) (d : Disk) : List String :=
  sources.filter (fun s => decide (checkSource s env d = .unchecked))

/-- The variable that says where the Android tree is. -/
def buildTopVariable : String := "ANDROID_BUILD_TOP"

/-- Look for sources: one warning for those that cannot be looked at, then one finding of the given
severity that names the missing ones. -/
def checkSources (rule what : String) (sources : List String) (env : Surroundings)
    (severity : Severity) (d : Disk) : List Finding :=
  let unchecked := uncheckedSources sources env d
  let missing := sources.filterMap (missingSource? env d)
  (if unchecked.isEmpty then []
   else
    [⟨rule, .warn,
      "$\x7b" ++ buildTopVariable ++ "\x7d not set, skipped checking "
        ++ toString unchecked.length ++ " " ++ what⟩])
    ++ (if missing.isEmpty then []
        else [⟨rule, severity, "can't find " ++ what ++ ": " ++ ", ".intercalate missing⟩])

end DeviceSpec
