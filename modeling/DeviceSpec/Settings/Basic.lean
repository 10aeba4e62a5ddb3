import DeviceSpec.Check.Source
import DeviceSpec.Disk.Access
import DeviceSpec.Settings.EnvFile

/-!
# Settings

Where the Android tree is and whether the modules of vendor packages are looked for. Both are
variables of the environment, or else of the file `.env` in a directory.

* `Settings.load` reads them for a directory.
* `adoptEnvFile` first takes the definitions of the nearest `.env` file into the environment, as
  the command line does.
-/

namespace DeviceSpec

/-- The settings of a run. -/
structure Settings where
  buildTop : Option Path := none
  checksModules : Bool := false
  deriving DecidableEq

/-- The variable that asks for the modules of vendor packages to be looked for. -/
def checkModulesVariable : String := "AVS_CHECK_BUILD_PACKAGES"

/-- The settings that variables give. A blank root of the Android tree counts as unset. -/
def Settings.ofVariables (vars : Variables) : Settings where
  buildTop :=
    (((vars.lookup buildTopVariable).map Text.trim).filter (fun s => !s.isEmpty)).map Path.mk
  checksModules :=
    match (vars.lookup checkModulesVariable).map Text.trim with
    | some v => v == "1" || v == "true" || v == "yes"
    | none => false

/-- The environment file of a directory. -/
def envFile (dir : Path) : Path := dir.join ".env"

/-- The settings for a directory. The environment wins over the file, and in the file the last
definition of a variable. -/
def Settings.load (dir : Path) (environment : Variables) (d : Disk) : Settings :=
  let defined := match d.read (envFile dir) with
    | .error _ => []
    | .ok content => EnvFile.definitions environment content
  Settings.ofVariables (environment ++ defined.reverse)

/-- Where a run with these settings looks for the files of a device. -/
def Settings.surroundings (s : Settings) (dir : Path) : Surroundings :=
  ⟨dir, s.buildTop, s.checksModules⟩

/-! ## The nearest environment file -/

/-- The nearest environment file of a directory and those above it, the last of which comes `steps`
above. An error other than a missing file ends the search. -/
def nearestEnvFile : Nat → Disk → Path → Option Path
  | 0, _, _ => none
  | steps + 1, d, dir =>
    let above := match dir.parent? with
      | none => none
      | some parent => nearestEnvFile steps d parent
    match d.find (envFile dir) with
    | .ok (_, .file _) => some (envFile dir)
    | .ok (_, .directory) => above
    | .error .notFound => above
    | .error _ => none

/-- A file without the mark that some editors put in front of a text. -/
def withoutMark (content : ByteArray) : ByteArray :=
  if content.toList.take 3 = [0xEF, 0xBB, 0xBF] then content.extract 3 content.size else content

/-- Take definitions into the environment, line by line. A variable that is set keeps its value,
and the first fault ends the reading. -/
def adoptLines : Variables → Variables → List EnvFile.Line → Variables
  | environment, _, [] => environment
  | environment, _, .fault :: _ => environment
  | environment, earlier, .text line :: rest =>
    match EnvFile.parseLine environment earlier line with
    | .fault => environment
    | .nothing => adoptLines environment earlier rest
    | .define key value =>
      let environment :=
        if (environment.lookup key).isSome then environment else environment ++ [(key, value)]
      adoptLines environment ((key, value) :: earlier) rest

/-- The environment with the definitions of the environment file nearest to a directory. -/
def adoptEnvFile (environment : Variables) (dir : Path) (d : Disk) : Variables :=
  match nearestEnvFile (dir.components.length + 1) d dir with
  | none => environment
  | some path =>
    match d.read path with
    | .error _ => environment
    | .ok content => adoptLines environment [] (EnvFile.lines (withoutMark content))

/-- The settings of a run in a directory: those of the directory, once the nearest environment file
has been taken into the environment. -/
def Settings.ofRun (dir : Path) (environment : Variables) (d : Disk) : Settings :=
  Settings.load dir (adoptEnvFile environment dir d) d

end DeviceSpec
