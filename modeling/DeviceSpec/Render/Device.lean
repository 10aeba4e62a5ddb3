import DeviceSpec.Install
import DeviceSpec.Render.Board

/-!
# The device makefile and its companions

The makefile that names every file to copy, every package to build and every property to set, the
makefile of the product, the index of products and the script that offers the product for building.

* HALs come in the order of their names, each between a start and an end line.
-/

namespace DeviceSpec

/-- A list of copy entries under a title. -/
def titledCopies (title : String) (entries : List CopyEntry) : Makefile :=
  titledList title "PRODUCT_COPY_FILES" "+=" (entries.map CopyEntry.toText)

/-! ## HALs -/

/-- The statements of a HAL. -/
def Hal.statements (h : Hal) : Makefile :=
  [blankLine, .line ("# start HAL " ++ h.name ++ " >>>>>>>>")]
    ++ titledCopies "## feature declaration" (h.features.map featureEntry)
    ++ titledList "## build packages" "PRODUCT_PACKAGES" "+=" (h.buildPackages.map packageName)
    ++ titledCopies "## copy packages" (h.copyPackages.map CopyPackage.entry)
    ++ titledCopies "## firmwares" (h.firmwares.map firmwareEntry)
    ++ titledCopies "## drivers" (h.drivers.map driverEntry)
    ++ titledLines "## raw instructions" h.rawLines
    ++ titledCopies "## service init.rc scripts" (h.initScripts.filterMap InitScript.entry?)
    ++ titledCopies "## runtime configs" (h.runtimeConfigs.map RuntimeConfig.entry)
    ++ titledList ("## " ++ h.name ++ " properties") "PRODUCT_PROPERTY_OVERRIDES" "+=" h.properties
    ++ [.line ("# end HAL " ++ h.name ++ " <<<<<<<<")]

/-! ## Device -/

/-- An entry that stands on a line of its own. -/
def addCopy (entry : String) : Statement := .assign "PRODUCT_COPY_FILES" "+=" entry

/-- The kernel image and its device tree. -/
def Spec.kernelCopies (s : Spec) : Makefile :=
  let k := s.bootImage.kernel
  let second := (s.board.bootloader.map Bootloader.hasSecondStage).getD false
  [blankLine, .line "# kernel and dtb", setTo "LOCAL_KERNEL" k.image,
   addCopy "$(LOCAL_KERNEL):kernel"]
    ++ (if k.deviceTree.isEmpty then []
        else
          [setTo "LOCAL_DTB" k.deviceTree,
           addCopy ("$(LOCAL_DTB):" ++ s.product.device ++ ".dtb")]
            ++ onlyIf second (addCopy "$(LOCAL_DTB):2ndbootloader"))

/-- The files of the ramdisk. -/
def Spec.ramdiskCopies (s : Spec) : List CopyEntry :=
  let product := s.product.name
  let r := s.bootImage.ramdisk
  [⟨r.ueventScript.source, "root/ueventd." ++ product ++ ".rc"⟩,
   ⟨r.fstab.source product, "root/fstab." ++ product⟩]
    ++ r.initScripts.filterMap InitScript.entry?
    ++ (if s.board.usbGadget.isSome then
          [⟨localSource (usbScriptName product), "root/init." ++ product ++ ".usb.rc"⟩]
        else [])

/-- The entry of the manifest. -/
def manifestEntry : CopyEntry := ⟨localSource "manifest.xml", vendorOut ++ "/manifest.xml"⟩

/-- The device makefile. -/
def Spec.deviceMakefile (s : Spec) : Makefile :=
  [makefileHeader] ++ s.kernelCopies
    ++ titledCopies "# rootfs" s.ramdiskCopies
    ++ titledCopies "# feature declaration" (s.board.features.map featureEntry)
    ++ titledList "# framework properties" "PRODUCT_PROPERTY_OVERRIDES" "+="
        ((s.framework.map Framework.properties).getD [])
    ++ s.halsByName.flatMap Hal.statements
    ++ titledCopies "# manifest.xml" [manifestEntry]
    ++ titledLines "# vendor raw instructions" ((s.rawLines.map RawLines.lines).getD [])

/-! ## Product -/

/-- A statement that includes another makefile of a product. -/
def inheritProduct (path : String) : Statement :=
  .line ("$(call inherit-product, " ++ path ++ ")")

/-- The directory of the device in the Android tree. -/
def Product.deviceDir (p : Product) : String := "device/" ++ p.manufacturer ++ "/" ++ p.device

/-- The makefile of the product. -/
def Spec.productMakefile (s : Spec) : Makefile :=
  let p := s.product
  [makefileHeader]
    ++ (if p.inherits.isEmpty then []
        else blankLine :: p.inherits.map (fun i => inheritProduct (inheritedProduct i)))
    ++ [blankLine,
        setTo "PRODUCT_NAME" p.name,
        setTo "PRODUCT_DEVICE" p.device,
        setTo "PRODUCT_BRAND" p.brand,
        setTo "PRODUCT_MODEL" p.model,
        setTo "PRODUCT_MANUFACTURER" p.manufacturer,
        blankLine,
        setTo "DEVICE_PACKAGE_OVERLAYS" (p.deviceDir ++ "/overlay"),
        blankLine,
        inheritProduct (p.deviceDir ++ "/device.mk")]

/-- The index of products. -/
def Spec.productIndex (s : Spec) : Makefile :=
  [makefileHeader, .list "PRODUCT_MAKEFILES" ":=" ["$(LOCAL_DIR)/" ++ s.product.name ++ ".mk"]]

/-- The script that offers the product for building, in each variant. -/
def Spec.lunchScript (s : Spec) : Makefile :=
  makefileHeader
    :: ["eng", "userdebug"].map fun v => .line ("add_lunch_combo " ++ s.product.name ++ "-" ++ v)

end DeviceSpec
