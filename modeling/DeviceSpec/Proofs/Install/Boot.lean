import DeviceSpec.Check.Rule
import DeviceSpec.Proofs.Install.Join
import DeviceSpec.Proofs.Render.Board

/-!
# What a booted device looks for

A device learns from the command line of its kernel what hardware it is and where its firmware lies,
and looks for files of the ramdisk and for firmware there. Where these files are is up to the copy
entries of the device makefile, which are made from other parts of the description. The entries and
the command line stand in the texts of the makefiles, and are read from there.

* **ramdisk** — the files of the ramdisk are installed under the name of the product, and looked up
  under that of the hardware, which is the name of the device (`ramdisk_found_iff`); no rule
  compares the two (`ramdisk_lost`);
* **firmware** — firmware is installed into the vendor directory, and looked for there if the vendor
  files have a partition of their own (`firmware_found_iff`); without one it is looked for elsewhere
  (`firmware_lost`).
-/

namespace DeviceSpec

/-! ## Files of the ramdisk -/

/-- The device node rules of a device of that hardware. -/
def ueventScriptOf (hardware : String) : String := "ueventd." ++ hardware ++ ".rc"

/-- The table of mounts of a device of that hardware. -/
def fstabOf (hardware : String) : String := "fstab." ++ hardware

/-- The script of the USB gadget of a device of that hardware. -/
def usbScriptOf (hardware : String) : String := "init." ++ hardware ++ ".usb.rc"

/-- What a script calls the hardware of the device it runs on. -/
def hardwareProperty : String := "$\x7bro.hardware\x7d"

/-- The hardware that the command line says the device is. The first argument counts. -/
def Spec.hardware? (s : Spec) : Option String := (s.bootArguments "androidboot.hardware").head?

/-- The files of the ramdisk that have a name of the device's own are installed where a device of
that hardware finds them. -/
structure Spec.FoundAs (s : Spec) (hardware : String) : Prop where
  ueventScript : s.ueventEntry.destination = "root/" ++ ueventScriptOf hardware
  fstab : s.fstabEntry.destination = "root/" ++ fstabOf hardware
  usbScript : s.board.usbGadget.isSome = true →
    s.usbEntry.destination = "root/" ++ usbScriptOf hardware

/-- The entries of these files. -/
def Spec.hardwareEntries (s : Spec) : List CopyEntry :=
  [s.ueventEntry, s.fstabEntry] ++ if s.board.usbGadget.isSome then [s.usbEntry] else []

section
variable {s : Spec} {hardware : String}

theorem Spec.hardware?_eq (s : Spec) : s.hardware? = some (firstWord s.product.device) := by
  have hfirst : (argumentsOf "androidboot.hardware"
      ("androidboot.hardware=" ++ s.product.device)).head? = some (firstWord s.product.device) :=
    head?_argumentsOf (by decide) s.product.device
  rw [Spec.hardware?, Spec.bootArguments_eq, List.append_assoc, List.append_assoc,
    List.head?_append, hfirst]
  rfl

theorem Spec.foundAs_iff : s.FoundAs hardware ↔ s.product.name = hardware := by
  constructor
  · intro h
    have hfstab := h.fstab
    simpa [Spec.fstabEntry, fstabOf, ← String.append_assoc] using hfstab
  · rintro rfl
    exact ⟨rfl, rfl, fun _ => rfl⟩

theorem Spec.mem_copies_hardwareEntries {e : CopyEntry} (he : e ∈ s.hardwareEntries) :
    e ∈ s.copies := by
  rw [mem_copies]
  simp only [Spec.hardwareEntries, List.mem_append, List.mem_cons, List.not_mem_nil, or_false,
    List.mem_ite_nil_right] at he
  rcases he with (rfl | rfl) | he
  · exact .inl rfl
  · exact .inr (.inl rfl)
  · exact .inr (.inr (.inl he))

/-- No rule looks at the product. -/
theorem validate_withProduct (s : Spec) (product : Product) (env : Surroundings) (d : Disk) :
    validate { s with product := product } env d = validate s env d := by
  have hcheck : ∀ r : Rule, r.check { s with product := product } env d = r.check s env d := by
    intro r
    cases r <;> rfl
  simp only [validate, runRules, hcheck]

end

/-- The bundled profile refers to files of the ramdisk by the hardware, and the command line makes
the device the hardware. The device makefile installs the files under these names exactly if the
product is called like the device, up to the first blank, where the command line breaks off. Both
texts say so: the entries and the command line stand in them and can be read back. No rule sees
whether the names agree: the findings are the same whatever the product is. -/
theorem ramdisk_found_iff (s : Spec) :
    (profileScript.imports = [usbScriptOf hardwareProperty] ∧
      ⟨"fs", ["mount_all /" ++ fstabOf hardwareProperty]⟩ ∈ profileScript.actions) ∧
    (∀ e ∈ s.hardwareEntries,
      e.toText ∈ Makefile.values s.deviceMakefile "PRODUCT_COPY_FILES" ∧
        Text.Appends s.deviceMakefile.render "PRODUCT_COPY_FILES" e.toText) ∧
    (s.DeviceReadable → valuesOf "PRODUCT_COPY_FILES" (readMakefile s.deviceMakefile.render) =
      Makefile.values s.deviceMakefile "PRODUCT_COPY_FILES") ∧
    Text.HasBlock s.boardMakefile.render ("BOARD_KERNEL_CMDLINE := " ++ s.kernelCmdline ++ "\n") ∧
    (s.BoardReadable "BOARD_KERNEL_CMDLINE" →
      (readBootArguments "androidboot.hardware" s.boardMakefile.render).head? = s.hardware?) ∧
    (∃ hardware, s.hardware? = some hardware ∧ hardware = firstWord s.product.device ∧
      (s.FoundAs hardware ↔ s.product.name = hardware)) ∧
    ∀ product env d, validate { s with product := product } env d = validate s env d := by
  refine ⟨⟨by decide, by decide⟩, ?_, fun hread => hread.valuesOf_eq _, s.hasBlock_kernelCmdline, ?_,
    ⟨_, s.hardware?_eq, rfl, Spec.foundAs_iff⟩, validate_withProduct s⟩
  · intro e he
    have hmem := List.mem_append_right s.imageCopies (s.mem_copies_hardwareEntries he)
    exact ⟨s.toText_mem_values hmem, s.appends_copies hmem⟩
  · intro hread
    rw [hread.readBootArguments_eq]
    rfl

/-- A device whose product has another name. -/
def renamedProduct : Spec where
  product := { name := "n", device := "d", brand := "d", model := "d", manufacturer := "v" }
  board := { partitionTable := profileBoard.partitionTable, usbGadget := some {} }
  bootImage := { ramdisk := { fstab := { mounts := profileMounts } } }

theorem boardReadable_renamedProduct : renamedProduct.BoardReadable "BOARD_KERNEL_CMDLINE" := by
  constructor <;> decide +kernel

/-- It is accepted, and finds none of its files. -/
theorem ramdisk_lost :
    (validate renamedProduct ⟨⟨"/d"⟩, none, false⟩ {}).passed = true ∧
      readBootArguments "androidboot.hardware" renamedProduct.boardMakefile.render = ["d"] ∧
      renamedProduct.hardware? = some "d" ∧
      renamedProduct.ueventEntry.destination = "root/ueventd.n.rc" ∧
      renamedProduct.fstabEntry.destination = "root/fstab.n" ∧
      renamedProduct.usbEntry.destination = "root/init.n.usb.rc" ∧
      Text.Appends renamedProduct.deviceMakefile.render "PRODUCT_COPY_FILES"
        "$(LOCAL_PATH)/fstab.n:root/fstab.n" ∧
      ¬ renamedProduct.FoundAs "d" := by
  refine ⟨by decide +kernel, ?_, ?_, by decide, by decide, by decide, ?_, ?_⟩
  · rw [boardReadable_renamedProduct.readBootArguments_eq, Spec.bootArguments_eq]
    decide +kernel
  · exact renamedProduct.hardware?_eq.trans (by decide)
  · have htext : renamedProduct.fstabEntry.toText = "$(LOCAL_PATH)/fstab.n:root/fstab.n" := by
      decide +kernel
    have hmem : renamedProduct.fstabEntry ∈ renamedProduct.copies :=
      mem_copies.mpr (.inr (.inl rfl))
    exact htext ▸ Spec.appends_copies (List.mem_append_right _ hmem)
  · rw [Spec.foundAs_iff]
    decide

/-! ## Firmware -/

/-- The directory part of a path: what stands before its last slash. -/
def directoryOf (path : String) : String :=
  String.ofList ((path.toList.reverse.dropWhile (· != '/')).tail.reverse)

/-- Where a directory of the output lies on the device. The variable for the vendor files stands for
the directory that the board configuration sets. -/
def Spec.deviceDir? (s : Spec) (dir : String) : Option String :=
  match Text.afterHead? vendorOut dir with
  | some rest =>
    (Makefile.value? s.boardMakefile "TARGET_COPY_OUT_VENDOR").map fun v => "/" ++ v ++ rest
  | none => some ("/" ++ dir)

/-- Where a path of the device leads. Without a partition for vendor files, `/vendor` is
`/system/vendor`. -/
def PartitionTable.followed (t : PartitionTable) (path : String) : String :=
  if !t.hasVendor && Text.hasHead "/vendor/" (path ++ "/") then "/system" ++ path else path

/-- The directory on the device that a firmware file is installed into. -/
def Spec.firmwareInstalled? (s : Spec) (source : String) : Option String :=
  (s.deviceDir? (directoryOf (firmwareEntry source).destination)).map
    s.board.partitionTable.followed

/-- The directory on the device where the kernel is told to look. The last argument counts. -/
def Spec.firmwareGiven? (s : Spec) : Option String :=
  (s.bootArguments "firmware_class.path").getLast?.map s.board.partitionTable.followed

/-- The kernel finds a firmware file. -/
def Spec.FindsFirmware (s : Spec) (source : String) : Prop :=
  ∃ dir, s.firmwareInstalled? source = some dir ∧ s.firmwareGiven? = some dir

section
variable {s : Spec} {h : Hal} {source dir base : String}

theorem directoryOf_append (hbase : '/' ∉ base.toList) :
    directoryOf (dir ++ "/" ++ base) = dir := by
  have hreverse : (dir ++ "/" ++ base).toList.reverse =
      base.toList.reverse ++ '/' :: dir.toList.reverse := by
    simp
  have hnone := forall_bne_of_not_mem (fun hmem => hbase (List.mem_reverse.mp hmem))
  rw [directoryOf, hreverse, List.dropWhile_append_of_pos hnone]
  simp

theorem slash_not_mem_baseName (path : String) : '/' ∉ (baseName path).toList := by
  rw [baseName, String.toList_ofList, afterLastSlash, List.mem_reverse]
  intro hmem
  have hne := List.all_eq_true.mp List.all_takeWhile _ hmem
  exact absurd hne (by decide)

theorem dropSlashes_of_not_mem (hbase : '/' ∉ base.toList) : dropSlashes base = base := by
  apply dropSlashes_of_relative
  rw [← Bool.not_eq_true]
  intro habs
  obtain ⟨rest, hrest⟩ := Path.eq_of_isAbsolute habs
  have htext : base = "" ++ "/" ++ rest := congrArg Path.text hrest
  exact hbase (by simp [htext])

/-- A firmware file is installed under its own name. -/
theorem firmwareEntry_destination (source : String) : (firmwareEntry source).destination =
    withSlash (vendorOut ++ "/firmware") (baseName source) := by
  have hdir : dropEndSlashes (joinMake vendorOut "firmware") = vendorOut ++ "/firmware" := by decide
  rw [firmwareEntry, joinMake_eq, hdir, dropSlashes_of_not_mem (slash_not_mem_baseName source)]

/-- A file without a name would take the place of its directory. -/
theorem directoryOf_firmwareEntry (source : String) :
    directoryOf (firmwareEntry source).destination =
      vendorOut ++ if baseName source = "" then "" else "/firmware" := by
  rw [firmwareEntry_destination]
  by_cases hbase : baseName source = ""
  · rw [hbase]
    decide
  · rw [if_neg hbase, withSlash_of_ne (by decide) hbase,
      directoryOf_append (slash_not_mem_baseName source)]

/-- Firmware is installed below the directory for vendor files. -/
theorem Spec.firmwareInstalled?_eq (s : Spec) (source : String) : s.firmwareInstalled? source =
    some ("/" ++ s.board.partitionTable.vendorDir
      ++ if baseName source = "" then "" else "/firmware") := by
  have hvalue : Makefile.value? s.boardMakefile "TARGET_COPY_OUT_VENDOR" =
      some s.board.partitionTable.vendorDir := by
    rw [Makefile.value?, s.assigned_vendorDir, List.getLast?_singleton]
  rw [Spec.firmwareInstalled?, directoryOf_firmwareEntry, Spec.deviceDir?, Text.afterHead?_append,
    hvalue]
  simp only [Option.map_some, Option.some.injEq, PartitionTable.followed, PartitionTable.vendorDir]
  by_cases hbase : baseName source = "" <;> cases s.board.partitionTable.hasVendor <;>
    simp only [hbase, if_true, if_false] <;> decide

/-- The kernel looks where the device's own arguments say, or else where the program does. -/
theorem Spec.firmwareGiven?_eq (s : Spec) : s.firmwareGiven? =
    ((s.bootImage.kernel.ownArguments "firmware_class.path").getLast?.or (some s.firmwareDir)).map
      s.board.partitionTable.followed := by
  have hblank : ' ' ∉ s.firmwareDir.toList := by
    unfold Spec.firmwareDir
    split <;> decide
  have hargument : argumentsOf "firmware_class.path" ("firmware_class.path=" ++ s.firmwareDir) =
      [s.firmwareDir] := argumentsOf_argument (by decide) hblank
  rw [Spec.firmwareGiven?, Spec.bootArguments_eq, hargument, List.getLast?_append,
    List.getLast?_concat]

theorem Spec.findsFirmware_iff : s.FindsFirmware source ↔
    s.firmwareGiven? = s.firmwareInstalled? source := by
  rw [Spec.FindsFirmware, Spec.firmwareInstalled?_eq]
  constructor
  · rintro ⟨dir, hinstalled, hgiven⟩
    rw [hgiven, hinstalled]
  · intro hgiven
    exact ⟨_, rfl, hgiven⟩

/-- The directory that the program gives the kernel is the one that firmware is installed into only
on a partition for vendor files. -/
theorem Spec.followed_firmwareDir_iff (s : Spec) (source : String) :
    some (s.board.partitionTable.followed s.firmwareDir) = s.firmwareInstalled? source ↔
      s.board.partitionTable.hasVendor = true ∧ baseName source ≠ "" := by
  rw [Spec.firmwareInstalled?_eq]
  unfold PartitionTable.followed PartitionTable.vendorDir Spec.firmwareDir
  by_cases hbase : baseName source = "" <;> cases s.board.partitionTable.hasVendor <;>
    simp only [hbase, ne_eq, if_true, if_false] <;> decide

/-- Every firmware file is copied. -/
theorem mem_copies_firmwareEntry (hh : h ∈ s.hals) (hsource : source ∈ h.firmwares) :
    firmwareEntry source ∈ s.copies := by
  have hgiven : firmwareEntry source ∈ h.givenCopies := by
    simp only [Hal.givenCopies, List.mem_append]
    exact .inl (.inl (.inr (List.mem_map_of_mem hsource)))
  rw [mem_copies]
  exact .inr (.inr (.inr (.inr (.inr (.inr (List.mem_flatMap.mpr ⟨h, hh, hgiven⟩))))))

/-- The device makefile installs each firmware file, and the kernel finds it exactly if vendor files
have a partition of their own and the file has a name; unless the device's own arguments give
another directory: then that has to be the one it is installed into. The entry, the directory for
vendor files and the command line stand in the texts of the makefiles and can be read back. -/
theorem firmware_found_iff (hh : h ∈ s.hals) (hsource : source ∈ h.firmwares) :
    ((firmwareEntry source).toText ∈ Makefile.values s.deviceMakefile "PRODUCT_COPY_FILES" ∧
      Text.Appends s.deviceMakefile.render "PRODUCT_COPY_FILES" (firmwareEntry source).toText) ∧
    (s.DeviceReadable → valuesOf "PRODUCT_COPY_FILES" (readMakefile s.deviceMakefile.render) =
      Makefile.values s.deviceMakefile "PRODUCT_COPY_FILES") ∧
    (Text.HasBlock s.boardMakefile.render
        ("TARGET_COPY_OUT_VENDOR := " ++ s.board.partitionTable.vendorDir ++ "\n") ∧
      Text.HasBlock s.boardMakefile.render ("BOARD_KERNEL_CMDLINE := " ++ s.kernelCmdline ++ "\n")) ∧
    (s.BoardReadable "TARGET_COPY_OUT_VENDOR" →
      (readAssigned "TARGET_COPY_OUT_VENDOR" s.boardMakefile.render).getLast? =
        Makefile.value? s.boardMakefile "TARGET_COPY_OUT_VENDOR") ∧
    (s.BoardReadable "BOARD_KERNEL_CMDLINE" →
      readBootArguments "firmware_class.path" s.boardMakefile.render =
        s.bootArguments "firmware_class.path") ∧
    (s.FindsFirmware source ↔
      match (s.bootImage.kernel.ownArguments "firmware_class.path").getLast? with
      | none => s.board.partitionTable.hasVendor = true ∧ baseName source ≠ ""
      | some dir => some (s.board.partitionTable.followed dir) = s.firmwareInstalled? source) := by
  have hmem := List.mem_append_right s.imageCopies (mem_copies_firmwareEntry hh hsource)
  refine ⟨⟨s.toText_mem_values hmem, s.appends_copies hmem⟩, fun hread => hread.valuesOf_eq _,
    ⟨s.hasBlock_vendorDir, s.hasBlock_kernelCmdline⟩, ?_, fun hread => hread.readBootArguments_eq _,
    ?_⟩
  · intro hread
    rw [hread.readAssigned_eq (by decide), Makefile.value?]
  · rw [Spec.findsFirmware_iff, Spec.firmwareGiven?_eq]
    cases (s.bootImage.kernel.ownArguments "firmware_class.path").getLast? with
    | none => exact s.followed_firmwareDir_iff source
    | some dir => rfl

end

/-- A device with one firmware file, and partitions of the given names. -/
def firmwareDevice (partitions : List String) : Spec where
  board := { partitionTable := { partitions := partitions.map fun name => ⟨name, "ext4", "1"⟩ } }
  hals := [{ name := "wifi", firmwares := ["vendor/acme/fw.bin"] }]

/-- Its board configuration can be read for any variable. -/
theorem boardReadable_firmwareDevice (name : String) {partition : String}
    (h : partition ∈ ["system", "vendor"]) : (firmwareDevice [partition]).BoardReadable name where
  archs := List.forall_mem_nil _
  platform := by simp [firmwareDevice]
  bootloader _ hb := nomatch hb
  blockSize := by simp [firmwareDevice]
  partitions := by
    intro p hp
    obtain rfl := List.mem_singleton.mp hp
    refine ⟨?_, by simp, by simp⟩
    clear hp
    revert partition
    decide +kernel
  device := by simp [firmwareDevice]
  cmdline := by simp [firmwareDevice]
  addresses _ ha := nomatch ha
  selinux _ hx := nomatch hx
  names := by simp [firmwareDevice]
  lines := List.forall_mem_nil _

/-- The file is found on a partition for vendor files: the texts give it the directory that they
tell the kernel. -/
theorem firmware_found_iff_vendorPartition :
    { name := "wifi", firmwares := ["vendor/acme/fw.bin"] } ∈ (firmwareDevice ["vendor"]).hals ∧
      "vendor/acme/fw.bin" ∈ Hal.firmwares { name := "wifi", firmwares := ["vendor/acme/fw.bin"] } ∧
        Text.Appends (firmwareDevice ["vendor"]).deviceMakefile.render "PRODUCT_COPY_FILES"
          "vendor/acme/fw.bin:$(TARGET_COPY_OUT_VENDOR)/firmware/fw.bin" ∧
        (readAssigned "TARGET_COPY_OUT_VENDOR"
          (firmwareDevice ["vendor"]).boardMakefile.render).getLast? = some "vendor" ∧
        readBootArguments "firmware_class.path" (firmwareDevice ["vendor"]).boardMakefile.render =
          ["/vendor/firmware"] ∧
        (firmwareDevice ["vendor"]).FindsFirmware "vendor/acme/fw.bin" := by
  have hhal : { name := "wifi", firmwares := ["vendor/acme/fw.bin"] } ∈
      (firmwareDevice ["vendor"]).hals := List.mem_singleton_self _
  have hsource : "vendor/acme/fw.bin" ∈
      Hal.firmwares { name := "wifi", firmwares := ["vendor/acme/fw.bin"] } :=
    List.mem_singleton_self _
  have hown : ((firmwareDevice ["vendor"]).bootImage.kernel.ownArguments
      "firmware_class.path").getLast? = none := by
    decide
  have hentry : (firmwareEntry "vendor/acme/fw.bin").toText =
      "vendor/acme/fw.bin:$(TARGET_COPY_OUT_VENDOR)/firmware/fw.bin" := by
    decide +kernel
  obtain ⟨⟨-, htext⟩, -, -, hvendor, hpath, hfound⟩ := firmware_found_iff hhal hsource
  rw [hown] at hfound
  have hvendorDir := hvendor (boardReadable_firmwareDevice _ (by decide))
  have hgiven := hpath (boardReadable_firmwareDevice _ (by decide))
  rw [Makefile.value?, Spec.assigned_vendorDir] at hvendorDir
  rw [Spec.bootArguments_eq] at hgiven
  refine ⟨hhal, hsource, hentry ▸ htext, hvendorDir.trans (by decide), hgiven.trans ?_,
    hfound.mpr ⟨by decide, by decide⟩⟩
  decide +kernel

/-- Without one it is installed where the kernel does not look. -/
theorem firmware_lost :
    (readAssigned "TARGET_COPY_OUT_VENDOR"
        (firmwareDevice ["system"]).boardMakefile.render).getLast? = some "system/vendor" ∧
      readBootArguments "firmware_class.path" (firmwareDevice ["system"]).boardMakefile.render =
        ["/system/etc/firmware"] ∧
      (firmwareDevice ["system"]).firmwareInstalled? "vendor/acme/fw.bin" =
        some "/system/vendor/firmware" ∧
      (firmwareDevice ["system"]).firmwareGiven? = some "/system/etc/firmware" ∧
      ¬ (firmwareDevice ["system"]).FindsFirmware "vendor/acme/fw.bin" := by
  have hinstalled : (firmwareDevice ["system"]).firmwareInstalled? "vendor/acme/fw.bin" =
      some "/system/vendor/firmware" :=
    (Spec.firmwareInstalled?_eq _ _).trans (by decide)
  have hgiven : (firmwareDevice ["system"]).firmwareGiven? = some "/system/etc/firmware" :=
    (Spec.firmwareGiven?_eq _).trans (by decide)
  have hvendor : (firmwareDevice ["system"]).BoardReadable "TARGET_COPY_OUT_VENDOR" :=
    boardReadable_firmwareDevice _ (by decide)
  have hcmdline : (firmwareDevice ["system"]).BoardReadable "BOARD_KERNEL_CMDLINE" :=
    boardReadable_firmwareDevice _ (by decide)
  refine ⟨?_, ?_, hinstalled, hgiven, ?_⟩
  · rw [hvendor.readAssigned_eq (by decide), Spec.assigned_vendorDir]
    decide
  · rw [hcmdline.readBootArguments_eq, Spec.bootArguments_eq]
    decide +kernel
  · rw [Spec.findsFirmware_iff, hinstalled, hgiven]
    decide

end DeviceSpec
