import DeviceSpec.Json.Codec
import DeviceSpec.Text.Lines

/-!
# The board

Partitions, target architecture, boot loader, access control and USB gadget of a board, with the
format they are written in.
-/

namespace DeviceSpec

open Json

/-! ## Partitions -/

/-- The name of the partition that holds the operating system. -/
def systemPartition : String := "system"

/-- The name of the partition that holds the data of the users. -/
def userdataPartition : String := "userdata"

/-- The name of the cache partition. -/
def cachePartition : String := "cache"

/-- The name of the partition that holds vendor files, on boards that have one. -/
def vendorPartition : String := "vendor"

/-- The partitions that every device declares. -/
def requiredPartitions : List String := [systemPartition, userdataPartition, cachePartition]

/-- A partition of the flash memory. -/
structure Partition where
  name : String := ""
  fileSystem : String := ""
  size : String := ""
  deriving DecidableEq, Inhabited

/-- The format of a partition. -/
def Partition.record : Record Partition where
  name := "Partition"
  start := {}
  fields := [
    .required "name" text ⟨Partition.name, fun x r => { r with name := x }⟩,
    .required "type" text ⟨Partition.fileSystem, fun x r => { r with fileSystem := x }⟩,
    .required "size" text ⟨Partition.size, fun x r => { r with size := x }⟩]

/-- The partitions of a board. -/
structure PartitionTable where
  flashBlockSize : String := ""
  scheme : String := ""
  partitions : List Partition := []
  deriving DecidableEq, Inhabited

/-- The format of a partition table. -/
def PartitionTable.record : Record PartitionTable where
  name := "PartitionTable"
  start := {}
  fields := [
    .text "flash_block_size"
      ⟨PartitionTable.flashBlockSize, fun x r => { r with flashBlockSize := x }⟩,
    .required "scheme" text ⟨PartitionTable.scheme, fun x r => { r with scheme := x }⟩,
    .required "partitions" (listOf Partition.record.codec)
      ⟨PartitionTable.partitions, fun x r => { r with partitions := x }⟩]

/-- The names of the partitions, in order. -/
def PartitionTable.names (t : PartitionTable) : List String := t.partitions.map Partition.name

/-- A partition of that name is in the table. -/
def PartitionTable.has (t : PartitionTable) (name : String) : Bool := t.names.contains name

/-- Vendor files have a partition of their own. -/
def PartitionTable.hasVendor (t : PartitionTable) : Bool := t.has vendorPartition

/-! ## Target architecture -/

/-- A processor. -/
structure Cpu where
  variant : String := ""
  abi : String := ""
  abi2 : String := ""
  deriving DecidableEq, Inhabited

/-- The format of a processor. -/
def Cpu.record : Record Cpu where
  name := "Cpu"
  start := {}
  fields := [
    .required "variant" text ⟨Cpu.variant, fun x r => { r with variant := x }⟩,
    .required "abi" text ⟨Cpu.abi, fun x r => { r with abi := x }⟩,
    .text "abi2" ⟨Cpu.abi2, fun x r => { r with abi2 := x }⟩]

/-- An instruction set the target runs. -/
structure Arch where
  name : String := ""
  variant : String := ""
  cpu : Cpu := {}
  deriving DecidableEq, Inhabited

/-- The format of an instruction set. -/
def Arch.record : Record Arch where
  name := "Arch"
  start := {}
  fields := [
    .required "name" text ⟨Arch.name, fun x r => { r with name := x }⟩,
    .required "variant" text ⟨Arch.variant, fun x r => { r with variant := x }⟩,
    .required "cpu" Cpu.record.codec ⟨Arch.cpu, fun x r => { r with cpu := x }⟩]

/-- What is built for. -/
structure Target where
  archs : List Arch := []
  noRecovery : Bool := false
  noRadio : Bool := false
  /-- Word size of the binder interface, `32` or `64`. -/
  binder : String := ""
  /-- The product name if empty. -/
  platform : String := ""
  deriving DecidableEq, Inhabited

/-- The format of a target. -/
def Target.record : Record Target where
  name := "Target"
  start := {}
  fields := [
    .required "archs" (listOf Arch.record.codec) ⟨Target.archs, fun x r => { r with archs := x }⟩,
    .required "no_recovery" flag ⟨Target.noRecovery, fun x r => { r with noRecovery := x }⟩,
    .required "no_radioimage" flag ⟨Target.noRadio, fun x r => { r with noRadio := x }⟩,
    .required "binder" text ⟨Target.binder, fun x r => { r with binder := x }⟩,
    .text "boardPlatform" ⟨Target.platform, fun x r => { r with platform := x }⟩]

/-! ## The rest of the board -/

/-- The boot loader. -/
structure Bootloader where
  hasSecondStage : Bool := false
  boardName : String := ""
  deriving DecidableEq, Inhabited

/-- The format of a boot loader. -/
def Bootloader.record : Record Bootloader where
  name := "Bootloader"
  start := {}
  fields := [
    .flag "has_2nd_bootloader" flag
      ⟨Bootloader.hasSecondStage, fun x r => { r with hasSecondStage := x }⟩,
    .text "board_name" ⟨Bootloader.boardName, fun x r => { r with boardName := x }⟩]

/-- Mandatory access control. -/
structure SeLinux where
  /-- `enforcing` or `permissive`. -/
  mode : String := ""
  policyDir : String := ""
  deriving DecidableEq, Inhabited

/-- The format of the access control settings. -/
def SeLinux.record : Record SeLinux where
  name := "SeLinux"
  start := {}
  fields := [
    .required "mode" text ⟨SeLinux.mode, fun x r => { r with mode := x }⟩,
    .required "policyDir" text ⟨SeLinux.policyDir, fun x r => { r with policyDir := x }⟩]

/-- The USB gadget through which the device is debugged. -/
structure UsbGadget where
  serialNumber : String := ""
  manufacturer : String := ""
  product : String := ""
  controller : String := ""
  deriving DecidableEq, Inhabited

/-- The format of a USB gadget. -/
def UsbGadget.record : Record UsbGadget where
  name := "UsbGadget"
  start := {}
  fields := [
    .required "serialnumber" text
      ⟨UsbGadget.serialNumber, fun x r => { r with serialNumber := x }⟩,
    .required "manufacturer" text
      ⟨UsbGadget.manufacturer, fun x r => { r with manufacturer := x }⟩,
    .required "product" text ⟨UsbGadget.product, fun x r => { r with product := x }⟩,
    .required "controller" text ⟨UsbGadget.controller, fun x r => { r with controller := x }⟩]

/-- A board. -/
structure Board where
  partitionTable : PartitionTable := {}
  target : Target := {}
  bootloader : Option Bootloader := none
  selinux : Option SeLinux := none
  /-- Features that belong to no HAL. -/
  features : List String := []
  usbGadget : Option UsbGadget := none
  deriving DecidableEq, Inhabited

/-- The format of a board. -/
def Board.record : Record Board where
  name := "BoardConfig"
  start := {}
  fields := [
    .required "partition_table" PartitionTable.record.codec
      ⟨Board.partitionTable, fun x r => { r with partitionTable := x }⟩,
    .required "target" Target.record.codec ⟨Board.target, fun x r => { r with target := x }⟩,
    .option "bootloader" Bootloader.record.codec
      ⟨Board.bootloader, fun x r => { r with bootloader := x }⟩,
    .option "selinux" SeLinux.record.codec ⟨Board.selinux, fun x r => { r with selinux := x }⟩,
    .list "board_features" text ⟨Board.features, fun x r => { r with features := x }⟩,
    .option "usb_gadget" UsbGadget.record.codec
      ⟨Board.usbGadget, fun x r => { r with usbGadget := x }⟩]

/-- The access control mode, if the board sets one. -/
def Board.selinuxMode (b : Board) : Option String :=
  (b.selinux.map SeLinux.mode).filter (fun m => !m.isEmpty)

/-- Some partition is of the ext4 family, so the build needs its image tools. -/
def Board.usesExt4 (b : Board) : Bool :=
  b.partitionTable.partitions.any fun p => Text.occursIn "ext4".toList p.fileSystem.toList

end DeviceSpec
