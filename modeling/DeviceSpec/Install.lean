import DeviceSpec.Spec.Basic

/-!
# Where files are installed

The build system copies a file by an entry `source:destination`. Sources lie in the Android tree or,
under `$(LOCAL_PATH)`, in the device directory; destinations lie in the output of the product.

* `joinMake` joins two paths of a makefile with one slash between them.
* Each kind of file has a function that gives its copy entry.
-/

namespace DeviceSpec

/-- The make variable for the device directory. -/
def localPath : String := "$(LOCAL_PATH)"

/-- The make variable for the vendor part of the output. -/
def vendorOut : String := "$(TARGET_COPY_OUT_VENDOR)"

/-- The text without the slashes it begins with. -/
def dropSlashes (s : String) : String := String.ofList (s.toList.dropWhile (· == '/'))

/-- The text without the slashes it ends with. -/
def dropEndSlashes (s : String) : String := String.ofList (Text.dropEndWhile (· == '/') s.toList)

/-- Two paths of a makefile with one slash between them; an empty one is left out. -/
def joinMake (dir file : String) : String :=
  let dir := dropEndSlashes dir
  let file := dropSlashes file
  if dir.isEmpty then file
  else if file.isEmpty then dir
  else dir ++ "/" ++ file

/-- What follows the last slash of a text. -/
def afterLastSlash (cs : List Char) : List Char :=
  (cs.reverse.takeWhile (· != '/')).reverse

/-- The last component of a path of a makefile. -/
def baseName (path : String) : String :=
  String.ofList (afterLastSlash (dropEndSlashes path).toList)

/-- A file of the device directory as a source. -/
def localSource (name : String) : String := localPath ++ "/" ++ dropSlashes name

/-! ## Copy entries -/

/-- A file that the build system copies. -/
structure CopyEntry where
  source : String
  destination : String
  deriving DecidableEq

/-- The text of an entry. -/
def CopyEntry.toText (e : CopyEntry) : String := e.source ++ ":" ++ e.destination

/-- The source of a stock feature declaration. -/
def featureSource (feature : String) : String := joinMake "frameworks/native/data/etc" feature

/-- The destination of a feature declaration. -/
def featureDestination (feature : String) : String := joinMake "system/etc/permissions" feature

/-- The entry of a feature declaration. -/
def featureEntry (feature : String) : CopyEntry :=
  ⟨featureSource feature, featureDestination feature⟩

/-- Where a copied file goes: shared libraries to `lib`, anything else to `bin`, unless a directory
is given. -/
def CopyPackage.destination (c : CopyPackage) : String :=
  if !c.directory.isEmpty then joinMake vendorOut c.directory
  else if Text.hasTail ".so" c.source then joinMake vendorOut "lib"
  else joinMake vendorOut "bin"

/-- The entry of a copied file. -/
def CopyPackage.entry (c : CopyPackage) : CopyEntry :=
  ⟨c.source, joinMake c.destination (baseName c.source)⟩

/-- The entry of a configuration file. -/
def RuntimeConfig.entry (c : RuntimeConfig) : CopyEntry :=
  ⟨c.source,
    joinMake (if c.directory.isEmpty then "system/etc" else c.directory) (baseName c.source)⟩

/-- The entry of a firmware file. -/
def firmwareEntry (source : String) : CopyEntry :=
  ⟨source, joinMake (joinMake vendorOut "firmware") (baseName source)⟩

/-- The entry of a kernel module. -/
def driverEntry (source : String) : CopyEntry :=
  ⟨source, joinMake (joinMake vendorOut "lib/modules") (baseName source)⟩

/-- Where a script goes: services to the vendor image, other scripts to the ramdisk. -/
def InitScript.destination (s : InitScript) : String :=
  if s.isService then joinMake vendorOut "etc/init" else "root"

/-- The entry of a script, if it has a file or a name. -/
def InitScript.entry? (s : InitScript) : Option CopyEntry :=
  s.installed?.map fun name =>
    ⟨joinMake localPath name, joinMake s.destination (baseName name)⟩

/-! ## File names -/

/-- The name of a generated file that has no name of its own. -/
def generatedName (name : String) : String := name ++ ".gen"

/-- The file in the device directory that holds the device node rules. -/
def UeventScript.fileName (s : UeventScript) : String :=
  if s.isExternal then s.file
  else if !s.name.isEmpty then s.name
  else generatedName "ueventd.rc"

/-- The device node rules as a source. -/
def UeventScript.source (s : UeventScript) : String := joinMake localPath s.fileName

/-- The file in the device directory that holds the table of mounts. -/
def Fstab.fileName (f : Fstab) (product : String) : String :=
  if f.name.isEmpty then "fstab." ++ product else f.name

/-- The table of mounts as a source. -/
def Fstab.source (f : Fstab) (product : String) : String :=
  joinMake localPath (f.fileName product)

/-- The file in the device directory that holds the script of the USB gadget. -/
def usbScriptName (product : String) : String := "rootfs/init." ++ product ++ ".usb.rc"

/-- The makefile of a stock product. -/
def inheritedProduct (product : String) : String :=
  joinMake "$(SRC_TARGET_DIR)/product" (product ++ ".mk")

/-! ## The device as a whole -/

/-- The vendor files within the output of the product. -/
def PartitionTable.vendorDir (t : PartitionTable) : String :=
  if t.hasVendor then "vendor" else "system/vendor"

/-- The directory on the device where the kernel looks for firmware. -/
def Spec.firmwareDir (s : Spec) : String :=
  if s.board.partitionTable.hasVendor then "/vendor/firmware" else "/system/etc/firmware"

/-- The arguments of the kernel: what the device is, the access control mode, which is `enforcing`
unless the board sets another, where the firmware lies, and the device's own arguments. -/
def Spec.kernelArgs (s : Spec) : List String :=
  let own := Text.trim s.bootImage.kernel.cmdline
  ["androidboot.hardware=" ++ s.product.device,
   "androidboot.selinux=" ++ s.board.selinuxMode.getD "enforcing",
   "firmware_class.path=" ++ s.firmwareDir]
    ++ (if own.isEmpty then [] else [own])

/-- The command line of the kernel. -/
def Spec.kernelCmdline (s : Spec) : String := " ".intercalate s.kernelArgs

end DeviceSpec
