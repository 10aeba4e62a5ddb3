import DeviceSpec.CommandLine

/-!
# What a request can reach

A request depends on a small part of a disk: the environment files, the device directories it is
about, and the single places that descriptions and ledgers refer to. Nothing else need be known of
the disk to run it.

* `environmentFiles` and `Request.directories` need no look at the disk.
* `Request.reach` follows what the descriptions and ledgers in those directories refer to.
-/

namespace DeviceSpec

/-- The places a request depends on. -/
structure Reach where
  /-- Places that matter with all that is below them. -/
  trees : List Path := []
  /-- Places of which it matters only whether something is there. -/
  places : List Path := []

/-- The environment files of a directory and those above it. -/
def environmentFiles (dir : Location) : List Location :=
  (List.range (dir.length + 1)).map fun n => dir.take n ++ [".env"]

/-- The device directories a request is about. -/
def Request.directories : Request → List Path
  | .init vendor device _ =>
    let vendorDir : Path := ⟨vendor⟩
    [vendorDir.join device, vendorDir.join (device ++ "-kernel")]
  | .validate dir => [dir]
  | .update dir => [dir]
  | .clean dir => [dir]
  | .showSettings => []
  | .showLedger dir => [dir]

/-- The file a request reads besides its device directory. -/
def Request.template? : Request → Option Path
  | .init _ _ template => template
  | _ => none

/-- The init scripts of the ramdisk, then those of each HAL. -/
def Spec.allScripts (s : Spec) : List InitScript :=
  s.bootImage.ramdisk.initScripts ++ s.hals.flatMap Hal.initScripts

/-- The sources that the rules look for. -/
def Spec.checkedSources (s : Spec) : List String :=
  [s.bootImage.kernel.image, s.bootImage.kernel.deviceTree]
    ++ (s.allScripts.filterMap InitScript.installed?).map localSource
    ++ s.featureSources ++ s.runtimeSources ++ s.copySources

/-- What the rules look at: the sources, and the directories of the HALs if modules are looked
for. -/
def Spec.reach (s : Spec) (env : Surroundings) : Reach where
  trees := if env.checksModules then s.hals.map (fun h => env.dir.join h.name) else []
  places := s.checkedSources.filterMap env.resolve

/-- What the ledger of a directory refers to. -/
def Ledger.reach (dir : Path) (d : Disk) : Reach where
  places :=
    match Ledger.load dir d with
    | .ok l => l.files ++ l.files.map (rebase l.dir dir)
    | .error _ => []

/-- What a request looks at besides its directories, as far as these are known. -/
def Request.reach (settings : Settings) (d : Disk) : Request → Reach
  | .init _ _ _ => {}
  | .validate dir => ofSpec dir
  | .update dir => ofSpec dir
  | .clean dir => Ledger.reach dir d
  | .showSettings => { places := settings.buildTop.toList }
  | .showLedger dir => Ledger.reach dir d
where
  /-- What the rules look at in the description of a directory. -/
  ofSpec (dir : Path) : Reach :=
    match (loadDeviceSpec dir).run ⟨d, "", ""⟩ with
    | (.ok s, _) => s.reach (settings.surroundings dir)
    | (.error _, _) => {}

end DeviceSpec
