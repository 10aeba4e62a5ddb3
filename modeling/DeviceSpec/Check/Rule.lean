import DeviceSpec.Check.Module
import DeviceSpec.Check.Source

/-!
# The rules of a description

Ten rules compare a description with itself, with the device directory and with the Android tree.
All of them run, whatever the others find.

* `Rule.check` gives the findings of one rule.
* `validate` runs the rules and gathers what they find.
-/

namespace DeviceSpec

/-- A rule. -/
inductive Rule where
  | halNames
  | kernelImages
  | ramdiskScripts
  | partitions
  | loadAddress
  | features
  | runtimeConfigs
  | copiedFiles
  | halScripts
  | modules
  deriving DecidableEq

/-- The name of a rule. -/
def Rule.name : Rule → String
  | .halNames => "hal-names"
  | .kernelImages => "kernel-dtb"
  | .ramdiskScripts => "rootfs-init-rc"
  | .partitions => "partitions"
  | .loadAddress => "mkbootimg-args"
  | .features => "feature-files"
  | .runtimeConfigs => "runtime-configs"
  | .copiedFiles => "copy-packages"
  | .halScripts => "hal-init-rc"
  | .modules => "build-packages"

/-- A finding of a rule that warns. -/
def Rule.warning (r : Rule) (message : String) : Finding := ⟨r.name, .warn, message⟩

/-- A finding of a rule that fails. -/
def Rule.failure (r : Rule) (message : String) : Finding := ⟨r.name, .fail, message⟩

/-! ## Sets of names -/

/-- Put a name in its place in an ordered list, unless it is there. -/
def insertName (x : String) : List String → List String
  | [] => [x]
  | y :: ys => if x < y then x :: y :: ys else if x = y then y :: ys else y :: insertName x ys

/-- The names of a list in order, each once. -/
def nameSet (names : List String) : List String := names.foldr insertName []

/-! ## HALs have names -/

/-- The HALs without a name, by their place in the description. -/
def namelessHals (hals : List Hal) : List Nat :=
  (hals.zipIdx 1).filterMap fun (h, i) => if Text.isBlankText h.name then some i else none

/-- The names that are given to more than one HAL, in order, with how many. -/
def repeatedHalNames (hals : List Hal) : List (String × Nat) :=
  let names := (hals.map Hal.name).filter (fun n => !Text.isBlankText n)
  ((nameSet names).map (fun n => (n, names.count n))).filter (fun e => decide (1 < e.2))

/-- Every HAL has a name of its own. -/
def checkHalNames (hals : List Hal) : List Finding :=
  (namelessHals hals).map (fun i => Rule.halNames.failure ("HAL #" ++ toString i ++ " has no name"))
    ++ (repeatedHalNames hals).map fun (name, count) =>
      Rule.halNames.failure ("HAL " ++ name ++ " is declared " ++ toString count ++ " times")

/-! ## Kernel -/

/-- One image of the kernel is there. It may be built later, so this only warns. -/
def checkImage (what source : String) (env : Surroundings) (d : Disk) : List Finding :=
  if source.isEmpty then []
  else
    match checkSource source env d with
    | .found _ => []
    | .missing path =>
      [Rule.kernelImages.warning
        ("can't find " ++ what ++ " " ++ source ++ " (" ++ path.text ++ ")")]
    | .unchecked =>
      [Rule.kernelImages.warning
        ("can't check " ++ what ++ " " ++ source ++ " without a build top")]

/-- The kernel image and its device tree are there. -/
def checkKernelImages (k : Kernel) (env : Surroundings) (d : Disk) : List Finding :=
  checkImage "kernel image" k.image env d ++ checkImage "dtb" k.deviceTree env d

/-! ## Init scripts -/

/-- A script says in one way where it comes from. -/
def checkScriptSource (rule : Rule) (s : InitScript) : List Finding :=
  match s.source with
  | .ambiguous =>
    [rule.warning
      ("rc file (" ++ s.file ++ ") and name (" ++ s.name
        ++ ") are both set; only one is allowed, the file wins")]
  | .unnamed => [rule.warning "rc script has neither a file nor a name"]
  | .external file =>
    if s.hasUnusedContent then
      [rule.warning ("rc file (" ++ file ++ ") is set, all other attributes are ignored")]
    else []
  | .embedded _ => []

/-- The file of a script is there. One that is generated is there once the files have been. -/
def checkScriptFile (rule : Rule) (s : InitScript) (env : Surroundings) (d : Disk) :
    List Finding :=
  match s.installed? with
  | none => []
  | some name =>
    match checkSource (localSource name) env d with
    | .missing path =>
      [rule.warning ("can't find rc file " ++ name ++ " (" ++ path.text ++ ")")]
    | _ => []

/-- Init scripts are named and there. This only warns. -/
def checkScripts (rule : Rule) (scripts : List InitScript) (env : Surroundings) (d : Disk) :
    List Finding :=
  scripts.flatMap fun s => checkScriptSource rule s ++ checkScriptFile rule s env d

/-! ## Partitions -/

/-- The partition that a mount refers to, if it refers to one. -/
def mountPartition? (destination : String) : Option String :=
  if destination = "auto" then none
  else
    let name := dropSlashes destination
    some (if name = "data" then userdataPartition else name)

/-- The names of the partitions that are mounted. -/
def Fstab.partitions (f : Fstab) : List String :=
  f.mounts.filterMap (fun m => mountPartition? m.destination)

/-- The table of partitions and the table of mounts speak of the same partitions, and these include
the ones every device has. -/
def checkPartitions (t : PartitionTable) (f : Fstab) : List Finding :=
  let parts := nameSet t.names
  let mounts := nameSet f.partitions
  let needed := nameSet requiredPartitions
  (if needed.all parts.contains then []
   else
    [Rule.partitions.failure
      ("missing partition table declarations, has only " ++ Text.quotedSet parts
        ++ ", need at least " ++ Text.quotedSet needed)])
    ++ (if needed.all mounts.contains then []
        else
          [Rule.partitions.failure
            ("missing partitions in fstab, has only " ++ Text.quotedSet mounts
              ++ ", need at least " ++ Text.quotedSet needed)])
    ++ (if parts = mounts then []
        else
          [Rule.partitions.failure
            ("partitions " ++ Text.quotedSet parts ++ " and mounts " ++ Text.quotedSet mounts
              ++ " don't match")])

/-! ## Load address -/

/-- The addresses are all set or all left out. -/
def checkLoadAddress : Option LoadAddress → List Finding
  | none => []
  | some a =>
    if a.isConsistent then []
    else
      [Rule.loadAddress.failure
        ("load_base (" ++ Text.quoted a.base ++ "), kernel_offset (" ++ Text.quoted a.kernelOffset
          ++ ") and ramdisk_offset (" ++ Text.quoted a.ramdiskOffset
          ++ ") must all be set or all be empty")]

/-! ## Sources -/

/-- The feature declarations of the board, then those of each HAL. -/
def Spec.featureSources (s : Spec) : List String :=
  (s.board.features ++ s.hals.flatMap Hal.features).map featureSource

/-- The configuration files of each HAL. -/
def Spec.runtimeSources (s : Spec) : List String :=
  s.hals.flatMap (fun h => h.runtimeConfigs.map RuntimeConfig.source)

/-- The copied files, firmware and kernel modules of each HAL. -/
def Spec.copySources (s : Spec) : List String :=
  s.hals.flatMap fun h => h.copyPackages.map CopyPackage.source ++ h.firmwares ++ h.drivers

/-! ## Modules -/

/-- The modules of a HAL whose source lies in the device directory are declared there. -/
def checkHalModules (env : Surroundings) (d : Disk) (h : Hal) : List Finding :=
  let modules := h.vendorModules
  if modules.isEmpty then []
  else
    let dir := env.dir.join h.name
    let files := findBuildFiles dir d
    if files.isEmpty then
      [Rule.modules.failure
        ("HAL '" ++ h.name ++ "' has vendor packages but no Android.mk or Android.bp in "
          ++ dir.text)]
    else
      let isDeclared (module : String) : Bool :=
        files.any fun file =>
          match declaresModule file module d with
          | .ok found => found
          | .error _ => false
      (modules.filter (fun m => !isDeclared m)).map fun module =>
        Rule.modules.failure
          ("no module " ++ module ++ " in the build files of HAL '" ++ h.name ++ "' (" ++ dir.text
            ++ ")")

/-! ## All rules -/

/-- What a rule finds. -/
def Rule.check (r : Rule) (s : Spec) (env : Surroundings) (d : Disk) : List Finding :=
  match r with
  | .halNames => checkHalNames s.hals
  | .kernelImages => checkKernelImages s.bootImage.kernel env d
  | .ramdiskScripts => checkScripts .ramdiskScripts s.bootImage.ramdisk.initScripts env d
  | .partitions => checkPartitions s.board.partitionTable s.bootImage.ramdisk.fstab
  | .loadAddress => checkLoadAddress s.bootImage.loadAddress
  | .features => checkSources Rule.features.name "feature files" s.featureSources env .fail d
  | .runtimeConfigs =>
    checkSources Rule.runtimeConfigs.name "runtime configs" s.runtimeSources env .fail d
  | .copiedFiles => checkSources Rule.copiedFiles.name "copy sources" s.copySources env .fail d
  | .halScripts => checkScripts .halScripts (s.hals.flatMap Hal.initScripts) env d
  | .modules => s.hals.flatMap (checkHalModules env d)

/-- The rules in the order they run. The last one runs on request. -/
def Surroundings.rules (env : Surroundings) : List Rule :=
  [.halNames, .kernelImages, .ramdiskScripts, .partitions, .loadAddress, .features,
   .runtimeConfigs, .copiedFiles, .halScripts]
    ++ (if env.checksModules then [.modules] else [])

/-- Run rules in order and gather what they find. -/
def runRules (rules : List Rule) (s : Spec) (env : Surroundings) (d : Disk) : Report :=
  ⟨rules.map Rule.name, rules.flatMap (fun r => r.check s env d)⟩

/-- Run all rules. -/
def validate (s : Spec) (env : Surroundings) (d : Disk) : Report := runRules env.rules s env d

end DeviceSpec
