import DeviceSpec.Spec.BootImage

/-!
# Hardware abstraction layers

A HAL lists what a vendor component needs besides its source code: manifest entries, features,
packages, files to copy, scripts, settings, device nodes and policy.
-/

namespace DeviceSpec

open Json

/-! ## Packages and copied files -/

/-- A file that is copied to the vendor image. -/
structure CopyPackage where
  source : String := ""
  /-- The directory it goes to, or empty for the one that fits its kind. -/
  directory : String := ""
  tag : String := ""
  deriving DecidableEq, Inhabited

/-- The format of a copied file. -/
def CopyPackage.record : Record CopyPackage where
  name := "CopyPackage"
  start := {}
  fields := [
    .required "src" text ⟨CopyPackage.source, fun x r => { r with source := x }⟩,
    .text "destDir" ⟨CopyPackage.directory, fun x r => { r with directory := x }⟩,
    .text "tag" ⟨CopyPackage.tag, fun x r => { r with tag := x }⟩]

/-- The packages a HAL needs. -/
structure Packages where
  /-- Modules that are built, with an optional tag after the last colon. -/
  build : List String := []
  /-- Files that are copied as they are. -/
  copy : List CopyPackage := []
  deriving DecidableEq, Inhabited

/-- The format of the packages. -/
def Packages.record : Record Packages where
  name := "Packages"
  start := {}
  fields := [
    .list "build" text ⟨Packages.build, fun x r => { r with build := x }⟩,
    .list "copy" CopyPackage.record.codec ⟨Packages.copy, fun x r => { r with copy := x }⟩]

/-- Name and tag of a package. The last colon separates them. -/
def splitTag (package : String) : String × Option String :=
  let reversed := package.toList.reverse
  match reversed.dropWhile (· != ':') with
  | [] => (package, none)
  | _ :: name =>
    (String.ofList name.reverse, some (String.ofList (reversed.takeWhile (· != ':')).reverse))

/-- A package without its tag. -/
def packageName (package : String) : String := (splitTag package).1

/-- A configuration file that is read at run time. -/
structure RuntimeConfig where
  source : String := ""
  /-- The directory it goes to, or empty for the usual one. -/
  directory : String := ""
  deriving DecidableEq, Inhabited

/-- The format of a configuration file. -/
def RuntimeConfig.record : Record RuntimeConfig where
  name := "RuntimeConfig"
  start := {}
  fields := [
    .required "src" text ⟨RuntimeConfig.source, fun x r => { r with source := x }⟩,
    .text "destDir" ⟨RuntimeConfig.directory, fun x r => { r with directory := x }⟩]

/-! ## Manifest entries -/

/-- How a service is reached. -/
structure Transport where
  arch : String := ""
  mode : String := ""
  deriving DecidableEq, Inhabited

/-- The format of a transport. -/
def Transport.record : Record Transport where
  name := "HalTransport"
  start := {}
  fields := [
    .text "arch" ⟨Transport.arch, fun x r => { r with arch := x }⟩,
    .required "mode" text ⟨Transport.mode, fun x r => { r with mode := x }⟩]

/-- How complete an implementation is. -/
structure Implementation where
  level : String := ""
  deriving DecidableEq, Inhabited

/-- The format of an implementation level. -/
def Implementation.record : Record Implementation where
  name := "Impl"
  start := {}
  fields := [
    .required "level" text ⟨Implementation.level, fun x r => { r with level := x }⟩]

/-- The interface of a service. -/
structure Interface where
  name : String := ""
  instanceName : String := ""
  deriving DecidableEq, Inhabited

/-- The format of an interface. -/
def Interface.record : Record Interface where
  name := "ServiceInterface"
  start := {}
  fields := [
    .required "name" text ⟨Interface.name, fun x r => { r with name := x }⟩,
    .required "instance" text ⟨Interface.instanceName, fun x r => { r with instanceName := x }⟩]

/-- An entry of the manifest. -/
structure ManifestEntry where
  name : String := ""
  format : String := ""
  transport : Transport := {}
  implementation : Option Implementation := none
  version : String := ""
  interface : Interface := {}
  deriving DecidableEq, Inhabited

/-- The format of a manifest entry. -/
def ManifestEntry.record : Record ManifestEntry where
  name := "Manifest"
  start := {}
  fields := [
    .required "name" text ⟨ManifestEntry.name, fun x r => { r with name := x }⟩,
    .required "format" text ⟨ManifestEntry.format, fun x r => { r with format := x }⟩,
    .required "transport" Transport.record.codec
      ⟨ManifestEntry.transport, fun x r => { r with transport := x }⟩,
    .option "impl" Implementation.record.codec
      ⟨ManifestEntry.implementation, fun x r => { r with implementation := x }⟩,
    .required "version" text ⟨ManifestEntry.version, fun x r => { r with version := x }⟩,
    .required "interface" Interface.record.codec
      ⟨ManifestEntry.interface, fun x r => { r with interface := x }⟩]

/-! ## Policy -/

/-- The access control policy of a HAL, by the file it goes to. -/
structure Policy where
  fileTypes : List String := []
  serviceTypes : List String := []
  fileContexts : List String := []
  serviceContexts : List String := []
  deriving DecidableEq, Inhabited

/-- The format of a policy. -/
def Policy.record : Record Policy where
  name := "SePolicy"
  start := {}
  fields := [
    .list "file.te" text ⟨Policy.fileTypes, fun x r => { r with fileTypes := x }⟩,
    .list "service.te" text ⟨Policy.serviceTypes, fun x r => { r with serviceTypes := x }⟩,
    .list "file_contexts" text ⟨Policy.fileContexts, fun x r => { r with fileContexts := x }⟩,
    .list "service_contexts" text
      ⟨Policy.serviceContexts, fun x r => { r with serviceContexts := x }⟩]

/-! ## HALs -/

/-- A hardware abstraction layer. -/
structure Hal where
  name : String := ""
  manifest : List ManifestEntry := []
  features : List String := []
  /-- Lines for the board configuration. -/
  buildConfigs : List String := []
  packages : Option Packages := none
  firmwares : List String := []
  drivers : List String := []
  /-- Lines for the device makefile. -/
  rawLines : List String := []
  initScripts : List InitScript := []
  runtimeConfigs : List RuntimeConfig := []
  properties : List String := []
  ueventRules : List UeventRule := []
  policy : Option Policy := none
  deriving DecidableEq, Inhabited

/-- The format of a HAL. -/
def Hal.record : Record Hal where
  name := "Hal"
  start := {}
  fields := [
    .required "name" text ⟨Hal.name, fun x r => { r with name := x }⟩,
    .list "manifests" ManifestEntry.record.codec
      ⟨Hal.manifest, fun x r => { r with manifest := x }⟩,
    .list "features" text ⟨Hal.features, fun x r => { r with features := x }⟩,
    .list "build_configs" text ⟨Hal.buildConfigs, fun x r => { r with buildConfigs := x }⟩,
    .option "required_packages" Packages.record.codec
      ⟨Hal.packages, fun x r => { r with packages := x }⟩,
    .list "firmwares" text ⟨Hal.firmwares, fun x r => { r with firmwares := x }⟩,
    .list "drivers" text ⟨Hal.drivers, fun x r => { r with drivers := x }⟩,
    .list "raw" text ⟨Hal.rawLines, fun x r => { r with rawLines := x }⟩,
    .list "init.rc" InitScript.record.codec
      ⟨Hal.initScripts, fun x r => { r with initScripts := x }⟩,
    .list "runtime_configs" RuntimeConfig.record.codec
      ⟨Hal.runtimeConfigs, fun x r => { r with runtimeConfigs := x }⟩,
    .list "properties" text ⟨Hal.properties, fun x r => { r with properties := x }⟩,
    .list "uevent_rules" UeventRule.record.codec
      ⟨Hal.ueventRules, fun x r => { r with ueventRules := x }⟩,
    .option "sepolicy" Policy.record.codec ⟨Hal.policy, fun x r => { r with policy := x }⟩]

/-- The modules that are built. -/
def Hal.buildPackages (h : Hal) : List String := (h.packages.map Packages.build).getD []

/-- The files that are copied. -/
def Hal.copyPackages (h : Hal) : List CopyPackage := (h.packages.map Packages.copy).getD []

/-- The tag of a module whose source lies in the device directory. -/
def vendorTag : String := "v"

/-- The modules whose source lies in the device directory, in order. -/
def Hal.vendorModules (h : Hal) : List String :=
  h.buildPackages.filterMap fun p =>
    let (name, tag) := splitTag p
    if tag = some vendorTag then some name else none

end DeviceSpec
