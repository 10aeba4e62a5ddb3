import DeviceSpec.Render.Device
import DeviceSpec.Render.Manifest
import DeviceSpec.Render.Policy
import DeviceSpec.Render.Ramdisk

/-!
# Generated files

The files that are made from a description, with their names in the device directory and their
text, and the plan: which of them a description asks for.

* `Spec.plan` lists the files that come before the init scripts; six of them every device has.
* `Spec.items` lists everything that is generated, in order.
-/

namespace DeviceSpec

/-- A kind of generated file. -/
inductive Artifact where
  | lunchScript
  | productIndex
  | boardMakefile
  | deviceMakefile
  | manifest
  | productMakefile
  | ueventScript
  | fstab
  | usbScript
  | policy (file : PolicyFile)
  deriving DecidableEq

namespace Artifact

/-- Where the file lies in the device directory. -/
def fileName (s : Spec) : Artifact → String
  | lunchScript => "vendorsetup.sh"
  | productIndex => "AndroidProducts.mk"
  | boardMakefile => "BoardConfig.mk"
  | deviceMakefile => "device.mk"
  | manifest => "manifest.xml"
  | productMakefile => s.product.name ++ ".mk"
  | ueventScript => s.bootImage.ramdisk.ueventScript.fileName
  | fstab => s.bootImage.ramdisk.fstab.fileName s.product.name
  | usbScript => usbScriptName s.product.name
  | policy file => file.fileName

/-- The text of the file. Only the script of the USB gadget can be wanting, when there is no
gadget. -/
def render? (s : Spec) : Artifact → Option String
  | lunchScript => some s.lunchScript.render
  | productIndex => some s.productIndex.render
  | boardMakefile => some s.boardMakefile.render
  | deviceMakefile => some s.deviceMakefile.render
  | manifest => some s.manifest
  | productMakefile => some s.productMakefile.render
  | ueventScript => some s.ueventScript
  | fstab => some s.fstab
  | usbScript => s.board.usbGadget.map UsbGadget.script
  | policy file => some (file.render s)

end Artifact

/-- The files that are generated before the init scripts, in order. A script for device nodes that
is copied from elsewhere is not generated. -/
def Spec.plan (s : Spec) : List Artifact :=
  [.lunchScript, .productIndex, .boardMakefile, .deviceMakefile, .manifest, .productMakefile]
    ++ (if s.bootImage.ramdisk.ueventScript.isExternal then [] else [.ueventScript])
    ++ [.fstab]
    ++ (if s.board.usbGadget.isSome then [.usbScript] else [])
    ++ (PolicyFile.all.filter (fun f => f.isUsed s)).map .policy

/-- The init scripts that are written from their description, in order. -/
def Spec.embeddedScripts (s : Spec) : List InitScript := s.initScripts.filter InitScript.isEmbedded

/-! ## Items -/

/-- Something that is generated. -/
inductive Item where
  | artifact (a : Artifact)
  | script (s : InitScript)
  deriving DecidableEq

/-- The name of an item in the device directory. -/
def Item.fileName (s : Spec) : Item → String
  | .artifact a => a.fileName s
  | .script i => i.name

/-- The text of an item. -/
def Item.render? (s : Spec) : Item → Option String
  | .artifact a => a.render? s
  | .script i => some i.render

/-- Everything that is generated, in order: the plan, then the embedded scripts. -/
def Spec.items (s : Spec) : List Item := s.plan.map .artifact ++ s.embeddedScripts.map .script

end DeviceSpec
