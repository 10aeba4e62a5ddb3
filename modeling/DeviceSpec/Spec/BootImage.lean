import DeviceSpec.Spec.InitScript

/-!
# The boot image

The kernel with its arguments and the files of the ramdisk.
-/

namespace DeviceSpec

open Json

/-! ## Kernel -/

/-- Where the image is loaded. Either every address is set or none is. -/
structure LoadAddress where
  base : String := ""
  kernelOffset : String := ""
  ramdiskOffset : String := ""
  deriving DecidableEq, Inhabited

/-- The format of the load addresses. -/
def LoadAddress.record : Record LoadAddress where
  name := "LoadAddress"
  start := {}
  fields := [
    .text "load_base" ⟨LoadAddress.base, fun x r => { r with base := x }⟩,
    .text "kernel_offset" ⟨LoadAddress.kernelOffset, fun x r => { r with kernelOffset := x }⟩,
    .text "ramdisk_offset" ⟨LoadAddress.ramdiskOffset, fun x r => { r with ramdiskOffset := x }⟩]

/-- The three addresses. -/
def LoadAddress.values (a : LoadAddress) : List String := [a.base, a.kernelOffset, a.ramdiskOffset]

/-- Every address is set. -/
def LoadAddress.isComplete (a : LoadAddress) : Bool := a.values.all (fun v => !Text.isBlankText v)

/-- No address is set. -/
def LoadAddress.isUnset (a : LoadAddress) : Bool := a.values.all Text.isBlankText

/-- All addresses are set, or none. -/
def LoadAddress.isConsistent (a : LoadAddress) : Bool := a.isComplete || a.isUnset

/-- Arguments of the image builder. -/
structure ImageArgs where
  loadAddress : Option LoadAddress := none
  deriving DecidableEq, Inhabited

/-- The format of the arguments of the image builder. -/
def ImageArgs.record : Record ImageArgs where
  name := "MkBootImgArgs"
  start := {}
  fields := [
    .option "lda" LoadAddress.record.codec
      ⟨ImageArgs.loadAddress, fun x r => { r with loadAddress := x }⟩]

/-- The kernel image, its device tree and its arguments. -/
structure Kernel where
  cmdline : String := ""
  image : String := ""
  compressed : String := ""
  deviceTree : String := ""
  deriving DecidableEq, Inhabited

/-- The format of a kernel. -/
def Kernel.record : Record Kernel where
  name := "Kernel"
  start := {}
  fields := [
    .required "cmd_line" text ⟨Kernel.cmdline, fun x r => { r with cmdline := x }⟩,
    .required "local_kernel" text ⟨Kernel.image, fun x r => { r with image := x }⟩,
    .text "compressed" ⟨Kernel.compressed, fun x r => { r with compressed := x }⟩,
    .text "local_dtb" ⟨Kernel.deviceTree, fun x r => { r with deviceTree := x }⟩]

/-! ## Ramdisk -/

/-- A file system that is mounted at boot. -/
structure Mount where
  source : String := ""
  destination : String := ""
  fileSystem : String := ""
  flags : String := ""
  managerFlags : String := ""
  deriving DecidableEq, Inhabited

/-- The format of a mount. -/
def Mount.record : Record Mount where
  name := "Mount"
  start := {}
  fields := [
    .required "src" text ⟨Mount.source, fun x r => { r with source := x }⟩,
    .required "dst" text ⟨Mount.destination, fun x r => { r with destination := x }⟩,
    .required "type" text ⟨Mount.fileSystem, fun x r => { r with fileSystem := x }⟩,
    .required "mnt_flag" text ⟨Mount.flags, fun x r => { r with flags := x }⟩,
    .required "fs_mgr_flag" text ⟨Mount.managerFlags, fun x r => { r with managerFlags := x }⟩]

/-- The table of mounts. -/
structure Fstab where
  /-- The name it is written under, or empty for one made from the product name. -/
  name : String := ""
  mounts : List Mount := []
  deriving DecidableEq, Inhabited

/-- The format of the table of mounts. -/
def Fstab.record : Record Fstab where
  name := "Fstab"
  start := {}
  fields := [
    .text "name" ⟨Fstab.name, fun x r => { r with name := x }⟩,
    .required "mounts" (listOf Mount.record.codec)
      ⟨Fstab.mounts, fun x r => { r with mounts := x }⟩]

/-- Owner and permissions of a device node. -/
structure UeventRule where
  node : String := ""
  attr : String := ""
  mode : String := ""
  uid : String := ""
  gid : String := ""
  deriving DecidableEq, Inhabited

/-- The format of a device node rule. -/
def UeventRule.record : Record UeventRule where
  name := "UeventRule"
  start := {}
  fields := [
    .required "node" text ⟨UeventRule.node, fun x r => { r with node := x }⟩,
    .text "attr" ⟨UeventRule.attr, fun x r => { r with attr := x }⟩,
    .required "mode" text ⟨UeventRule.mode, fun x r => { r with mode := x }⟩,
    .required "uid" text ⟨UeventRule.uid, fun x r => { r with uid := x }⟩,
    (Field.required "gid" text ⟨UeventRule.gid, fun x r => { r with gid := x }⟩).orKey "guid"]

/-- The script with the device node rules: a file that is copied, or else rules that are written
under a name together with the rules of the HALs. -/
structure UeventScript where
  file : String := ""
  name : String := ""
  rules : List UeventRule := []
  deriving DecidableEq, Inhabited

/-- The format of the device node script. The rules may be missing but are always written. -/
def UeventScript.record : Record UeventScript where
  name := "UeventRc"
  start := {}
  fields := [
    .text "file" ⟨UeventScript.file, fun x r => { r with file := x }⟩,
    .text "name" ⟨UeventScript.name, fun x r => { r with name := x }⟩,
    .of "rules" false (fun _ => false) (listOf UeventRule.record.codec)
      ⟨UeventScript.rules, fun x r => { r with rules := x }⟩]

/-- The script is copied from a file. -/
def UeventScript.isExternal (s : UeventScript) : Bool := !s.file.isEmpty

/-- The files placed in the ramdisk. -/
structure Ramdisk where
  fstab : Fstab := {}
  initScripts : List InitScript := []
  ueventScript : UeventScript := {}
  deriving DecidableEq, Inhabited

/-- The format of the ramdisk files. -/
def Ramdisk.record : Record Ramdisk where
  name := "RootfsOverlay"
  start := {}
  fields := [
    .required "fstab" Fstab.record.codec ⟨Ramdisk.fstab, fun x r => { r with fstab := x }⟩,
    .required "init.rc" (listOf InitScript.record.codec)
      ⟨Ramdisk.initScripts, fun x r => { r with initScripts := x }⟩,
    .required "uevent.rc" UeventScript.record.codec
      ⟨Ramdisk.ueventScript, fun x r => { r with ueventScript := x }⟩]

/-! ## Boot image -/

/-- The boot image. -/
structure BootImage where
  args : Option ImageArgs := none
  kernel : Kernel := {}
  ramdisk : Ramdisk := {}
  deriving DecidableEq, Inhabited

/-- The format of a boot image. -/
def BootImage.record : Record BootImage where
  name := "BootImage"
  start := {}
  fields := [
    .option "args" ImageArgs.record.codec ⟨BootImage.args, fun x r => { r with args := x }⟩,
    .required "kernel" Kernel.record.codec ⟨BootImage.kernel, fun x r => { r with kernel := x }⟩,
    .required "rootfs_overlay" Ramdisk.record.codec
      ⟨BootImage.ramdisk, fun x r => { r with ramdisk := x }⟩]

/-- The load addresses, if the image sets any. -/
def BootImage.loadAddress (b : BootImage) : Option LoadAddress := b.args.bind ImageArgs.loadAddress

end DeviceSpec
