import DeviceSpec.Install
import DeviceSpec.Render.Makefile
import DeviceSpec.Text.UpperCase

/-!
# The board configuration

The makefile with the settings of the board: target, partitions, kernel, access control, and the
lines of the framework and of each HAL in the order of their names.
-/

namespace DeviceSpec

/-- An assignment that replaces the value of a variable. -/
def setTo (variableName value : String) : Statement := .assign variableName ":=" value

/-- The settings of one instruction set, under the given stem of variable names. -/
def Arch.settings (stem : String) (a : Arch) : Makefile :=
  [setTo (stem ++ "_ARCH") a.name,
   setTo (stem ++ "_ARCH_VARIANT") a.variant,
   setTo (stem ++ "_CPU_VARIANT") a.cpu.variant,
   setTo (stem ++ "_CPU_ABI") a.cpu.abi]
    ++ (if a.cpu.abi2.isEmpty then [] else [setTo (stem ++ "_CPU_ABI2") a.cpu.abi2])

/-- A statement that stands only under a condition. -/
def onlyIf (condition : Bool) (s : Statement) : Makefile := if condition then [s] else []

/-- The settings of the target. Two instruction sets are named; further ones are left out. -/
def Spec.targetSettings (s : Spec) : Makefile :=
  let t := s.board.target
  (List.zipWith Arch.settings ["TARGET", "TARGET_2ND"] t.archs).flatten
    ++ [setTo "TARGET_BOARD_PLATFORM" (if t.platform.isEmpty then s.product.name else t.platform)]
    ++ onlyIf t.noRecovery (setTo "TARGET_NO_RECOVERY" "true")
    ++ onlyIf t.noRadio (setTo "TARGET_NO_RADIOIMAGE" "true")
    ++ onlyIf (t.binder == "64") (setTo "TARGET_USES_64_BIT_BINDER" "true")
    ++ (match s.board.bootloader with
        | some b =>
          onlyIf (!b.boardName.isEmpty) (setTo "TARGET_BOOTLOADER_BOARD_NAME" b.boardName)
        | none => [])

/-- The settings of one partition. System and user data take their type from the setting that
covers all images. -/
def Partition.settings (p : Partition) : Makefile :=
  let stem := "BOARD_" ++ Text.upperCase p.name ++ "IMAGE"
  setTo (stem ++ "_PARTITION_SIZE") p.size
    :: onlyIf (p.name != systemPartition && p.name != userdataPartition)
        (setTo (stem ++ "_FILE_SYSTEM_TYPE") p.fileSystem)

/-- The settings of the partitions. -/
def Board.partitionSettings (b : Board) : Makefile :=
  let t := b.partitionTable
  onlyIf (!t.flashBlockSize.isEmpty) (setTo "BOARD_FLASH_BLOCK_SIZE" t.flashBlockSize)
    ++ onlyIf b.usesExt4 (setTo "TARGET_USERIMAGES_USE_EXT4" "true")
    ++ t.partitions.flatMap Partition.settings
    ++ [setTo "TARGET_COPY_OUT_VENDOR" t.vendorDir]

/-- The arguments of the image builder, when every address is set. -/
def LoadAddress.arguments (a : LoadAddress) : String :=
  "--base " ++ Text.trim a.base ++ " --kernel_offset " ++ Text.trim a.kernelOffset
    ++ " --ramdisk_offset " ++ Text.trim a.ramdiskOffset

/-- The settings of the kernel. -/
def Spec.kernelSettings (s : Spec) : Makefile :=
  setTo "BOARD_KERNEL_CMDLINE" s.kernelCmdline
    :: (match s.bootImage.loadAddress with
        | some a => onlyIf a.isComplete (setTo "BOARD_MKBOOTIMG_ARGS" a.arguments)
        | none => [])

/-- The settings of access control. -/
def Board.selinuxSettings (b : Board) : Makefile :=
  match b.selinux with
  | some s =>
    if s.policyDir.isEmpty then []
    else [blankLine, .line "# selinux", .assign "BOARD_SEPOLICY_DIRS" "+=" s.policyDir]
  | none => []

/-- The board configuration. -/
def Spec.boardMakefile (s : Spec) : Makefile :=
  [makefileHeader, blankLine, .line "# target"] ++ s.targetSettings
    ++ [blankLine, .line "# partitions"] ++ s.board.partitionSettings
    ++ [blankLine, .line "# kernel"] ++ s.kernelSettings
    ++ s.board.selinuxSettings
    ++ titledLines "# framework" ((s.framework.map Framework.buildConfigs).getD [])
    ++ s.halsByName.flatMap (fun h => titledLines ("# HAL " ++ h.name) h.buildConfigs)

end DeviceSpec
