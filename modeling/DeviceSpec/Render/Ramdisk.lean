import DeviceSpec.Spec.Basic

/-!
# Files of the ramdisk

The table of mounts, the rules for device nodes, the script of the USB gadget and init scripts.
-/

namespace DeviceSpec

/-! ## Tables -/

/-- The line of a mount. -/
def Mount.line (m : Mount) : String :=
  "    ".intercalate [m.source, m.destination, m.fileSystem, m.flags, m.managerFlags]

/-- The table of mounts. -/
def Spec.fstab (s : Spec) : String :=
  Text.unlines (s.bootImage.ramdisk.fstab.mounts.map Mount.line)

/-- The columns of a rule. -/
def UeventRule.columns (r : UeventRule) : List String :=
  [r.node] ++ (if r.attr.isEmpty then [] else [r.attr]) ++ [r.mode, r.uid, r.gid]

/-- The line of a rule. -/
def UeventRule.line (r : UeventRule) : String := " ".intercalate r.columns

/-- The rules of a HAL under its name, if it has any. -/
def Hal.ueventLines (h : Hal) : List String :=
  if h.ueventRules.isEmpty then []
  else "" :: ("# " ++ h.name) :: h.ueventRules.map UeventRule.line

/-- The rules for device nodes: those of the board, then those of each HAL in the order of their
names. -/
def Spec.ueventScript (s : Spec) : String :=
  Text.unlines (s.bootImage.ramdisk.ueventScript.rules.map UeventRule.line
    ++ s.halsByName.flatMap Hal.ueventLines)

/-! ## USB gadget -/

/-- Where the gadget is configured. -/
def gadgetDir : String := "/config/usb_gadget/g1"

/-- The script that sets the USB gadget up for debugging. -/
def UsbGadget.script (g : UsbGadget) : String :=
  let names := gadgetDir ++ "/strings/0x409"
  let config := gadgetDir ++ "/configs/b.1"
  Text.unlines
    ["on early-boot",
     "    mkdir " ++ gadgetDir ++ " 0770 shell shell",
     "    write " ++ gadgetDir ++ "/idVendor 0x18D1",
     "    write " ++ gadgetDir ++ "/idProduct 0x4EE7",
     "    mkdir " ++ names ++ " 0770 shell shell",
     "    write " ++ names ++ "/serialnumber " ++ g.serialNumber,
     "    write " ++ names ++ "/manufacturer " ++ g.manufacturer,
     "    write " ++ names ++ "/product " ++ g.product,
     "    mkdir " ++ gadgetDir ++ "/functions/ffs.adb",
     "    mkdir " ++ config ++ " 0770 shell shell",
     "    mkdir " ++ config ++ "/strings/0x409 0770 shell shell",
     "    setprop sys.usb.configfs 1",
     "    setprop sys.usb.controller " ++ g.controller,
     "",
     "on fs",
     "    mount configfs none /config",
     "    mkdir /dev/usb-ffs 0770 shell shell",
     "    mkdir /dev/usb-ffs/adb 0770 shell shell",
     "    mount functionfs adb /dev/usb-ffs/adb uid=2000,gid=2000",
     "",
     "on property:sys.usb.config=adb && property:sys.usb.configfs=1",
     "    write " ++ config ++ "/strings/0x409/configuration \"adb\"",
     "    symlink " ++ gadgetDir ++ "/functions/ffs.adb " ++ config ++ "/f1",
     "    write " ++ gadgetDir ++ "/UDC $\x7bsys.usb.controller\x7d",
     "    setprop sys.usb.state $\x7bsys.usb.config\x7d"]

/-! ## Init scripts -/

/-- The lines of an action. -/
def InitAction.lines (a : InitAction) : List String :=
  "" :: ("on " ++ a.triggers) :: a.commands.map ("    " ++ ·)

/-- The line that opens a service. -/
def InitService.head (s : InitService) : String :=
  " ".intercalate (["service", s.name, s.path] ++ if s.args.isEmpty then [] else [s.args])

/-- The lines of a service. -/
def InitService.lines (s : InitService) : List String :=
  "" :: s.head :: s.options.map ("    " ++ ·)

/-- The lines of an init script: imports, then actions, then services. -/
def InitScript.lines (s : InitScript) : List String :=
  s.imports.map ("import " ++ ·) ++ s.actions.flatMap InitAction.lines
    ++ s.services.flatMap InitService.lines

/-- The text of an init script. -/
def InitScript.render (s : InitScript) : String := Text.unlines s.lines

end DeviceSpec
