import DeviceSpec.Spec.Basic

/-!
# Templates

A new device starts from a template, which is either another description or the bundled profile: a
64-bit board with the three partitions every device has, a rudimentary ramdisk, and HALs for
graphics and audio.

* `Spec.retarget` points a template at a vendor and a device.
-/

namespace DeviceSpec

/-! ## The bundled profile -/

/-- The board of the bundled profile. -/
def profileBoard : Board where
  partitionTable := {
    flashBlockSize := "131072"
    scheme := "gpt"
    partitions := [
      ⟨"system", "ext4", "1610612736"⟩,
      ⟨"userdata", "ext4", "5588893184"⟩,
      ⟨"cache", "ext4", "268435456"⟩] }
  target := {
    archs := [
      ⟨"arm64", "armv8-a", ⟨"generic", "arm64-v8a", ""⟩⟩,
      ⟨"arm", "armv7-a-neon", ⟨"cortex-a15", "armeabi-v7a", "armeabi"⟩⟩]
    noRecovery := true
    noRadio := true
    binder := "64" }
  selinux := some ⟨"permissive", ""⟩
  features := ["android.hardware.usb.host.xml", "android.software.app_widgets.xml"]

/-- The mounts of the bundled profile. -/
def profileMounts : List Mount := [
  ⟨"/dev/block/by-name/system", "/system", "ext4", "ro", "wait"⟩,
  ⟨"/dev/block/by-name/userdata", "/data", "ext4", "noatime,nosuid,nodev,discard", "wait,check"⟩,
  ⟨"/dev/block/by-name/cache", "/cache", "ext4", "noatime,nosuid,nodev", "wait,check"⟩,
  ⟨"/devices/platform/usb*", "auto", "auto", "defaults", "voldmanaged=usb:auto"⟩]

/-- The init script of the bundled profile. -/
def profileScript : InitScript where
  name := "init.device.rc"
  imports := ["init.$\x7bro.hardware\x7d.usb.rc"]
  actions := [
    ⟨"fs", ["mount_all /fstab.$\x7bro.hardware\x7d"]⟩,
    ⟨"post-fs-data", ["mkdir /data/media 0770 media_rw media_rw"]⟩]

/-- A manifest entry of the bundled profile. -/
def profileService (name interface : String) : ManifestEntry where
  name := name
  format := "hidl"
  transport := ⟨"", "hwbinder"⟩
  implementation := some ⟨"generic"⟩
  version := "2.0"
  interface := ⟨interface, "default"⟩

/-- The HALs of the bundled profile. -/
def profileHals : List Hal := [
  { name := "graphics"
    manifest := [profileService "android.hardware.graphics.allocator" "IAllocator"]
    packages := some {
      build := [
        "android.hardware.graphics.allocator@2.0-impl",
        "android.hardware.graphics.allocator@2.0-service"] }
    properties := ["debug.hwui.renderer=opengl"] },
  { name := "audio"
    manifest := [profileService "android.hardware.audio" "IDevicesFactory"]
    features := ["android.hardware.audio.output.xml"]
    packages := some { build := ["android.hardware.audio@2.0-impl", "audio.primary.default"] } }]

/-- The bundled profile. -/
def profile : Spec where
  version := ⟨"0.1", "Android O"⟩
  product := {
    name := "device"
    device := "device"
    brand := "vendor"
    model := "device"
    manufacturer := "vendor"
    inherits := ["core_64_bit", "full_base"] }
  board := profileBoard
  bootImage := {
    kernel := { cmdline := "console=ttyAMA0,115200" }
    ramdisk := {
      fstab := { mounts := profileMounts }
      initScripts := [profileScript]
      ueventScript := { rules := [⟨"/dev/ion", "", "0664", "system", "system"⟩] } } }
  framework := some {
    buildConfigs := ["USE_OPENGL_RENDERER := true"]
    properties := ["ro.opengles.version=131072"] }
  hals := profileHals

/-! ## Pointing a template at a device -/

/-- Rename the first embedded script of a list. -/
def renameEmbedded (name : String) : List InitScript → List InitScript
  | [] => []
  | s :: rest =>
    if s.isEmbedded then { s with name := name } :: rest else s :: renameEmbedded name rest

/-- The description for a device of a vendor. The first embedded script is the device's own. -/
def Spec.retarget (s : Spec) (vendor device : String) : Spec :=
  let tree := "device/" ++ vendor ++ "/" ++ device
  { s with
    product := { s.product with
      name := device, device := device, brand := device, model := device, manufacturer := vendor }
    board := { s.board with
      selinux := some {
        mode := (s.board.selinux.map SeLinux.mode).getD ""
        policyDir := tree ++ "/sepolicy" } }
    bootImage := { s.bootImage with
      kernel := { s.bootImage.kernel with
        image := tree ++ "-kernel/Image"
        deviceTree := tree ++ "-kernel/" ++ device ++ ".dtb" }
      ramdisk := { s.bootImage.ramdisk with
        initScripts :=
          renameEmbedded ("init." ++ device ++ ".rc") s.bootImage.ramdisk.initScripts } } }

end DeviceSpec
