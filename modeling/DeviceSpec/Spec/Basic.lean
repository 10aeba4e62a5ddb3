import DeviceSpec.Spec.Board
import DeviceSpec.Spec.Hal

/-!
# Device descriptions

The description of a device: its product, board, boot image and HALs.

* `Spec.decode` and `Spec.encode` read and write it.
* `Spec.halsByName` is the order in which HALs reach the generated files.
-/

namespace DeviceSpec

open Json

/-- Version of the description and of the system it is for. -/
structure Version where
  schema : String := ""
  android : String := ""
  deriving DecidableEq, Inhabited

/-- The format of the versions. -/
def Version.record : Record Version where
  name := "Version"
  start := {}
  fields := [
    .required "schema" text ⟨Version.schema, fun x r => { r with schema := x }⟩,
    .required "android" text ⟨Version.android, fun x r => { r with android := x }⟩]

/-- The identity of a product, and the products it builds on. -/
structure Product where
  name : String := ""
  device : String := ""
  brand : String := ""
  model : String := ""
  manufacturer : String := ""
  inherits : List String := []
  deriving DecidableEq, Inhabited

/-- The format of a product. -/
def Product.record : Record Product where
  name := "Product"
  start := {}
  fields := [
    .required "name" text ⟨Product.name, fun x r => { r with name := x }⟩,
    .required "device" text ⟨Product.device, fun x r => { r with device := x }⟩,
    .required "brand" text ⟨Product.brand, fun x r => { r with brand := x }⟩,
    .required "model" text ⟨Product.model, fun x r => { r with model := x }⟩,
    (Field.required "manufacturer" text
      ⟨Product.manufacturer, fun x r => { r with manufacturer := x }⟩).orKey "manufacture",
    .list "inherit_products" text ⟨Product.inherits, fun x r => { r with inherits := x }⟩]

/-- Settings of the framework. -/
structure Framework where
  /-- Lines for the board configuration. -/
  buildConfigs : List String := []
  /-- System properties. -/
  properties : List String := []
  deriving DecidableEq, Inhabited

/-- The format of the framework settings. -/
def Framework.record : Record Framework where
  name := "FrameworkConfigs"
  start := {}
  fields := [
    .list "build_configs" text ⟨Framework.buildConfigs, fun x r => { r with buildConfigs := x }⟩,
    .list "properties" text ⟨Framework.properties, fun x r => { r with properties := x }⟩]

/-- Lines copied to the end of the device makefile. -/
structure RawLines where
  lines : List String := []
  deriving DecidableEq, Inhabited

/-- The format of the copied lines. -/
def RawLines.record : Record RawLines where
  name := "VendorRaw"
  start := {}
  fields := [
    .required "instructions" (listOf text) ⟨RawLines.lines, fun x r => { r with lines := x }⟩]

/-- The description of a device. -/
structure Spec where
  version : Version := {}
  product : Product := {}
  board : Board := {}
  bootImage : BootImage := {}
  framework : Option Framework := none
  hals : List Hal := []
  rawLines : Option RawLines := none
  deriving DecidableEq, Inhabited

/-- The format of a device description. -/
def Spec.record : Record Spec where
  name := "Spec"
  start := {}
  fields := [
    .required "version" Version.record.codec ⟨Spec.version, fun x r => { r with version := x }⟩,
    .required "product" Product.record.codec ⟨Spec.product, fun x r => { r with product := x }⟩,
    .required "boardConfig" Board.record.codec ⟨Spec.board, fun x r => { r with board := x }⟩,
    .required "boot_image" BootImage.record.codec
      ⟨Spec.bootImage, fun x r => { r with bootImage := x }⟩,
    .option "framework_configs" Framework.record.codec
      ⟨Spec.framework, fun x r => { r with framework := x }⟩,
    .required "hals" (listOf Hal.record.codec) ⟨Spec.hals, fun x r => { r with hals := x }⟩,
    .option "vendor_raw" RawLines.record.codec
      ⟨Spec.rawLines, fun x r => { r with rawLines := x }⟩]

/-- Read a description. -/
def Spec.decode (document : String) : Except Error Spec := Spec.record.codec.decode document

/-- Write a description. -/
def Spec.encode (s : Spec) : String := Spec.record.codec.encode s

/-- Read a HAL that stands alone. -/
def Hal.decode (document : String) : Except Error Hal := Hal.record.codec.decode document

/-! ## Looking things up -/

/-- The position of the first HAL of that name. -/
def Spec.halIndex? (s : Spec) (name : String) : Option Nat :=
  s.hals.findIdx? (fun h => h.name == name)

/-- The first HAL of that name. -/
def Spec.hal? (s : Spec) (name : String) : Option Hal :=
  s.hals.find? (fun h => h.name == name)

/-- The HALs in the order of their names; HALs of one name keep their order. -/
def Spec.halsByName (s : Spec) : List Hal :=
  s.hals.mergeSort (fun a b => decide (a.name ≤ b.name))

/-- Every HAL is there once, in the order of the names. -/
theorem Spec.halsByName_sorted (s : Spec) :
    s.halsByName.Perm s.hals ∧ s.halsByName.Pairwise (fun a b => a.name ≤ b.name) := by
  refine ⟨List.mergeSort_perm _ _, ?_⟩
  have hsorted : s.halsByName.Pairwise fun a b => decide (a.name ≤ b.name) = true :=
    List.pairwise_mergeSort (by simpa using fun a b c : Hal => String.le_trans)
      (by simpa using fun a b : Hal => String.le_total a.name b.name) s.hals
  simpa using hsorted

/-- The init scripts of the ramdisk, then those of each HAL. -/
def Spec.initScripts (s : Spec) : List InitScript :=
  s.bootImage.ramdisk.initScripts ++ s.hals.flatMap Hal.initScripts

end DeviceSpec
