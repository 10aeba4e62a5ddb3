import DeviceSpec.Profile
import DeviceSpec.Proofs.Render.Reading
import DeviceSpec.Render.Device

/-!
# What the device makefile says

Reading the device makefile gives back the packages to build, the properties to set and the files
to copy that the description declares.

* **values** — what the statements append to one variable, section by section
  (`Spec.values_copies`, `Spec.values_packages`, `Spec.values_properties`);
* **places** — each value of a makefile has its place in the text (`appends_of_mem_values`), so each
  file that is copied has its entry there (`Spec.appends_copies`), whatever the texts are;
* **plain texts** — if no text that reaches the makefile holds a line feed or a backslash
  (`Spec.IsPlain`) then neither does an entry, and every statement can be read back
  (`Spec.readable_deviceMakefile`);
* **the whole** — so nothing is lost, doubled or taken for a part of its neighbour
  (`device_makefile_read_back`).
-/

namespace DeviceSpec

/-! ## What is declared -/

/-- The files that a HAL has copied, in order. -/
def Hal.copies (h : Hal) : List CopyEntry :=
  h.features.map featureEntry ++ h.copyPackages.map CopyPackage.entry
    ++ h.firmwares.map firmwareEntry ++ h.drivers.map driverEntry
    ++ h.initScripts.filterMap InitScript.entry? ++ h.runtimeConfigs.map RuntimeConfig.entry

/-- The kernel image and its device tree, which is copied a second time for a boot loader with a
second stage. -/
def Spec.imageCopies (s : Spec) : List CopyEntry :=
  [⟨"$(LOCAL_KERNEL)", "kernel"⟩]
    ++ (if s.bootImage.kernel.deviceTree.isEmpty then []
        else
          [⟨"$(LOCAL_DTB)", s.product.device ++ ".dtb"⟩]
            ++ (if (s.board.bootloader.map Bootloader.hasSecondStage).getD false then
                  [⟨"$(LOCAL_DTB)", "2ndbootloader"⟩]
                else []))

/-- The entry of the script with the device node rules. -/
def Spec.ueventEntry (s : Spec) : CopyEntry :=
  ⟨s.bootImage.ramdisk.ueventScript.source, "root/ueventd." ++ s.product.name ++ ".rc"⟩

/-- The entry of the table of mounts. -/
def Spec.fstabEntry (s : Spec) : CopyEntry :=
  ⟨s.bootImage.ramdisk.fstab.source s.product.name, "root/fstab." ++ s.product.name⟩

/-- The entry of the script of the USB gadget. -/
def Spec.usbEntry (s : Spec) : CopyEntry :=
  ⟨localSource (usbScriptName s.product.name), "root/init." ++ s.product.name ++ ".usb.rc"⟩

/-- The files of the ramdisk: the device node rules, the table of mounts, its init scripts, and the
script of the USB gadget if there is one. -/
def Spec.rootfsCopies (s : Spec) : List CopyEntry :=
  [s.ueventEntry, s.fstabEntry] ++ s.bootImage.ramdisk.initScripts.filterMap InitScript.entry?
    ++ (if s.board.usbGadget.isSome then [s.usbEntry] else [])

/-- All other files that are copied, in order: those of the ramdisk, the features of the board, the
files of the HALs in the order of their names, and the manifest. -/
def Spec.copies (s : Spec) : List CopyEntry :=
  s.rootfsCopies ++ s.board.features.map featureEntry ++ s.halsByName.flatMap Hal.copies
    ++ [⟨"$(LOCAL_PATH)/manifest.xml", "$(TARGET_COPY_OUT_VENDOR)/manifest.xml"⟩]

theorem Spec.ramdiskCopies_eq (s : Spec) : s.ramdiskCopies = s.rootfsCopies := rfl

theorem manifestEntry_eq :
    manifestEntry = ⟨"$(LOCAL_PATH)/manifest.xml", "$(TARGET_COPY_OUT_VENDOR)/manifest.xml"⟩ := by
  decide

/-- The properties that the framework settings ask for. -/
def Spec.frameworkProperties (s : Spec) : List String :=
  (s.framework.map Framework.properties).getD []

/-! ## Values -/

/-- What a makefile appends to a variable, in order. -/
def Makefile.values (m : Makefile) (name : String) : List String := valuesOf name m.appends

section Values

variable {name : String}

theorem mem_values_iff {m : Makefile} {value : String} :
    value ∈ Makefile.values m name ↔ (name, value) ∈ m.appends := by
  simp only [Makefile.values, valuesOf, List.mem_filterMap, Option.ite_none_right_eq_some,
    Option.some.injEq]
  constructor
  · rintro ⟨⟨variableName, v⟩, hmem, rfl, rfl⟩
    exact hmem
  · intro hmem
    exact ⟨(name, value), hmem, rfl, rfl⟩

/-- Every value that a makefile appends has its place in the text. -/
theorem appends_of_mem_values {m : Makefile} {value : String} (h : value ∈ Makefile.values m name) :
    Text.Appends m.render name value :=
  appends_of_mem (mem_values_iff.mp h)

@[simp] theorem values_nil : Makefile.values [] name = [] := rfl

theorem values_cons (st : Statement) (m : Makefile) :
    Makefile.values (st :: m) name = valuesOf name st.appends ++ Makefile.values m name := by
  simp [Makefile.values, Makefile.appends, valuesOf]

@[simp] theorem values_append (m n : Makefile) :
    Makefile.values (m ++ n) name = Makefile.values m name ++ Makefile.values n name := by
  simp [Makefile.values, Makefile.appends, valuesOf]

@[simp] theorem values_flatMap {α : Type} (part : α → Makefile) (xs : List α) :
    Makefile.values (xs.flatMap part) name = xs.flatMap fun x => Makefile.values (part x) name := by
  induction xs with
  | nil => rfl
  | cons x rest ih => simp [ih]

@[simp] theorem values_line (text : String) (m : Makefile) :
    Makefile.values (.line text :: m) name = Makefile.values m name := by
  rw [values_cons]
  rfl

@[simp] theorem values_blankLine (m : Makefile) :
    Makefile.values (blankLine :: m) name = Makefile.values m name := values_line "" m

@[simp] theorem values_makefileHeader (m : Makefile) :
    Makefile.values (makefileHeader :: m) name = Makefile.values m name := values_line _ m

@[simp] theorem values_setTo (variableName value : String) (m : Makefile) :
    Makefile.values (setTo variableName value :: m) name = Makefile.values m name := by
  rw [values_cons]
  rfl

theorem valuesOf_map (variableName : String) (entries : List String) :
    valuesOf name (entries.map (variableName, ·)) = if variableName = name then entries else [] := by
  by_cases hname : variableName = name
  · subst hname
    rw [if_pos rfl]
    induction entries with
    | nil => rfl
    | cons entry rest ih =>
      have hstep : valuesOf variableName ((entry :: rest).map (variableName, ·)) =
          entry :: valuesOf variableName (rest.map (variableName, ·)) := by
        simp [valuesOf]
      rw [hstep, ih]
  · simp [valuesOf, hname]

/-- A list appends its entries to its own variable only. -/
@[simp] theorem values_titledList (title variableName : String) (entries : List String) :
    Makefile.values (titledList title variableName "+=" entries) name =
      if variableName = name then entries else [] := by
  unfold titledList
  split
  · rename_i hempty
    simp [List.isEmpty_iff.mp hempty]
  · rw [values_blankLine, values_line, values_cons, values_nil, List.append_nil,
      Statement.appends, if_pos rfl, valuesOf_map]

theorem values_lines (lines : List String) : Makefile.values (lines.map .line) name = [] := by
  induction lines with
  | nil => rfl
  | cons line rest ih => rwa [List.map_cons, values_line]

@[simp] theorem values_titledCopies (title : String) (entries : List CopyEntry) :
    Makefile.values (titledCopies title entries) name =
      if "PRODUCT_COPY_FILES" = name then entries.map CopyEntry.toText else [] :=
  values_titledList title _ _

@[simp] theorem values_titledLines (title : String) (lines : List String) :
    Makefile.values (titledLines title lines) name = [] := by
  unfold titledLines
  split
  · rfl
  · rw [values_blankLine, values_line, values_lines]

end Values

/-! ## Sections -/

theorem Hal.values_copies (h : Hal) :
    Makefile.values h.statements "PRODUCT_COPY_FILES" = h.copies.map CopyEntry.toText := by
  simp only [Hal.statements, Hal.copies, values_append, values_blankLine, values_line,
    values_titledCopies, values_titledList, values_titledLines, values_nil, if_true, if_false,
    String.reduceEq, List.map_append, List.nil_append, List.append_nil]

/-- An entry on a line of its own. -/
@[simp] theorem values_addCopy (entry : String) (m : Makefile) {name : String} :
    Makefile.values (addCopy entry :: m) name =
      (if "PRODUCT_COPY_FILES" = name then [entry] else []) ++ Makefile.values m name := by
  rw [values_cons]
  by_cases hname : "PRODUCT_COPY_FILES" = name <;> simp [addCopy, Statement.appends, valuesOf, hname]

@[simp] theorem Spec.values_kernelCopies (s : Spec) {name : String} :
    Makefile.values s.kernelCopies name =
      if "PRODUCT_COPY_FILES" = name then s.imageCopies.map CopyEntry.toText else [] := by
  by_cases hname : "PRODUCT_COPY_FILES" = name <;>
    by_cases htree : s.bootImage.kernel.deviceTree = "" <;>
      by_cases hsecond : (s.board.bootloader.map Bootloader.hasSecondStage).getD false = true <;>
        simp [Spec.kernelCopies, Spec.imageCopies, onlyIf, hname, htree, hsecond,
          CopyEntry.toText, String.append_assoc]

theorem Spec.values_copies (s : Spec) :
    Makefile.values s.deviceMakefile "PRODUCT_COPY_FILES" =
      (s.imageCopies ++ s.copies).map CopyEntry.toText := by
  simp [Spec.deviceMakefile, Spec.copies, s.ramdiskCopies_eq, manifestEntry_eq, Hal.values_copies,
    List.map_flatMap]

/-- Every file that is copied is among the values. -/
theorem Spec.toText_mem_values {s : Spec} {e : CopyEntry} (he : e ∈ s.imageCopies ++ s.copies) :
    e.toText ∈ Makefile.values s.deviceMakefile "PRODUCT_COPY_FILES" := by
  rw [s.values_copies]
  exact List.mem_map_of_mem he

/-- Every file that is copied has its entry in the text. -/
theorem Spec.appends_copies {s : Spec} {e : CopyEntry} (he : e ∈ s.imageCopies ++ s.copies) :
    Text.Appends s.deviceMakefile.render "PRODUCT_COPY_FILES" e.toText :=
  appends_of_mem_values (s.toText_mem_values he)

/-- No text of a HAL that reaches the device makefile holds a line feed or a backslash. -/
structure Hal.IsPlain (h : Hal) : Prop where
  name : Text.Plain h.name
  features : ∀ f ∈ h.features, Text.Plain f
  buildPackages : ∀ p ∈ h.buildPackages, Text.Plain p
  copyPackages : ∀ c ∈ h.copyPackages, Text.Plain c.source ∧ Text.Plain c.directory
  firmwares : ∀ f ∈ h.firmwares, Text.Plain f
  drivers : ∀ d ∈ h.drivers, Text.Plain d
  initScripts : ∀ i ∈ h.initScripts, Text.Plain i.file ∧ Text.Plain i.name
  runtimeConfigs : ∀ c ∈ h.runtimeConfigs, Text.Plain c.source ∧ Text.Plain c.directory
  properties : ∀ p ∈ h.properties, Text.Plain p

/-- No text of a description that reaches the device makefile holds a line feed or a backslash. -/
structure Spec.IsPlain (s : Spec) : Prop where
  product : Text.Plain s.product.name
  device : Text.Plain s.product.device
  image : Text.Plain s.bootImage.kernel.image
  deviceTree : Text.Plain s.bootImage.kernel.deviceTree
  ueventScript : Text.Plain s.bootImage.ramdisk.ueventScript.file ∧
    Text.Plain s.bootImage.ramdisk.ueventScript.name
  fstab : Text.Plain s.bootImage.ramdisk.fstab.name
  initScripts : ∀ i ∈ s.bootImage.ramdisk.initScripts, Text.Plain i.file ∧ Text.Plain i.name
  features : ∀ f ∈ s.board.features, Text.Plain f
  properties : ∀ p ∈ s.frameworkProperties, Text.Plain p
  hals : ∀ h ∈ s.hals, h.IsPlain

namespace Text

theorem plain_dropSlashes {s : String} (h : Plain s) : Plain (dropSlashes s) :=
  h.of_subset (by simpa [dropSlashes] using (List.dropWhile_sublist _).subset)

theorem plain_dropEndSlashes {s : String} (h : Plain s) : Plain (dropEndSlashes s) :=
  h.of_subset (by simpa [dropEndSlashes] using (startsWith_dropEndWhile _ _).subset)

theorem plain_joinMake {dir file : String} (hdir : Plain dir) (hfile : Plain file) :
    Plain (joinMake dir file) := by
  have hdir := plain_dropEndSlashes hdir
  have hfile := plain_dropSlashes hfile
  unfold joinMake
  simp only
  split
  · exact hfile
  · split
    · exact hdir
    · exact plain_append (plain_append hdir (by decide)) hfile

theorem plain_baseName {path : String} (h : Plain path) : Plain (baseName path) := by
  refine (plain_dropEndSlashes h).of_subset ?_
  intro c hc
  rw [baseName, String.toList_ofList, afterLastSlash, List.mem_reverse] at hc
  exact List.mem_reverse.mp ((List.takeWhile_sublist _).subset hc)

theorem plain_packageName {package : String} (h : Plain package) : Plain (packageName package) := by
  refine h.of_subset ?_
  unfold packageName splitTag
  simp only
  split
  · exact List.Subset.refl _
  · rename_i hdrop
    intro c hc
    have hkept : c ∈ package.toList.reverse.dropWhile (· != ':') := by
      rw [hdrop]
      exact List.mem_cons_of_mem _ (by simpa using hc)
    exact List.mem_reverse.mp ((List.dropWhile_sublist _).subset hkept)

end Text

section Entries

open Text

theorem plain_toText {source destination : String} (hsource : Plain source)
    (hdestination : Plain destination) : Plain (CopyEntry.toText ⟨source, destination⟩) :=
  plain_append (plain_append hsource (by decide)) hdestination

theorem plain_featureEntry {feature : String} (h : Plain feature) :
    Plain (featureEntry feature).toText := by
  unfold featureEntry featureSource featureDestination
  apply plain_toText
  · exact plain_joinMake (by decide) h
  · exact plain_joinMake (by decide) h

theorem CopyPackage.plain_entry {c : CopyPackage} (hsource : Plain c.source)
    (hdirectory : Plain c.directory) : Plain c.entry.toText := by
  have hdestination : Plain c.destination := by
    unfold CopyPackage.destination
    split
    · exact plain_joinMake (by decide) hdirectory
    · split <;> exact plain_joinMake (by decide) (by decide)
  exact plain_toText hsource (plain_joinMake hdestination (plain_baseName hsource))

/-- A file that is copied under its own name into a directory of the vendor image. -/
theorem plain_vendorEntry {source directory : String} (hsource : Plain source)
    (hdirectory : Plain directory) :
    Plain (CopyEntry.toText
      ⟨source, joinMake (joinMake vendorOut directory) (baseName source)⟩) := by
  apply plain_toText
  · exact hsource
  · exact plain_joinMake (plain_joinMake (by decide) hdirectory) (plain_baseName hsource)

theorem plain_firmwareEntry {source : String} (h : Plain source) :
    Plain (firmwareEntry source).toText := plain_vendorEntry h (by decide)

theorem plain_driverEntry {source : String} (h : Plain source) :
    Plain (driverEntry source).toText := plain_vendorEntry h (by decide)

theorem RuntimeConfig.plain_entry {c : RuntimeConfig} (hsource : Plain c.source)
    (hdirectory : Plain c.directory) : Plain c.entry.toText := by
  have hdestination : Plain (if c.directory.isEmpty then "system/etc" else c.directory) := by
    split
    · decide
    · exact hdirectory
  exact plain_toText hsource (plain_joinMake hdestination (plain_baseName hsource))

theorem InitScript.plain_entry {i : InitScript} (hfile : Plain i.file) (hname : Plain i.name)
    {e : CopyEntry} (he : i.entry? = some e) : Plain e.toText := by
  obtain ⟨name, hinstalled, rfl⟩ := Option.map_eq_some_iff.mp he
  have hplain : Plain name := by
    unfold InitScript.installed? at hinstalled
    split at hinstalled
    · cases hinstalled
      exact hfile
    · split at hinstalled
      · cases hinstalled
        exact hname
      · cases hinstalled
  have hdestination : Plain i.destination := by
    unfold InitScript.destination
    split
    · exact plain_joinMake (by decide) (by decide)
    · decide
  exact plain_toText (plain_joinMake (by decide) hplain)
    (plain_joinMake hdestination (plain_baseName hplain))

theorem plain_entries {scripts : List InitScript}
    (h : ∀ i ∈ scripts, Plain i.file ∧ Plain i.name) :
    ∀ e ∈ scripts.filterMap InitScript.entry?, Plain e.toText := by
  intro e he
  obtain ⟨i, hi, hentry⟩ := List.mem_filterMap.mp he
  exact InitScript.plain_entry (h i hi).1 (h i hi).2 hentry

end Entries

/-! ## Readable statements -/

section Readable

open Text

variable {m n : Makefile}

theorem readable_nil : Makefile.Readable [] := List.forall_mem_nil _

theorem Makefile.Readable.append (hm : m.Readable) (hn : n.Readable) :
    Makefile.Readable (m ++ n) :=
  List.forall_mem_append.mpr ⟨hm, hn⟩

theorem readable_flatMap {α : Type} {xs : List α} {part : α → Makefile}
    (h : ∀ x ∈ xs, (part x).Readable) : Makefile.Readable (xs.flatMap part) := by
  intro st hst
  obtain ⟨x, hx, hmem⟩ := List.mem_flatMap.mp hst
  exact h x hx st hmem

theorem readable_blankLine : blankLine.Readable := ⟨by decide, .inl rfl⟩

theorem readable_comment {head text : String} (hhead : hasHead "#" head = true) (hplain : Plain head)
    (htext : Plain text) : (Statement.line (head ++ text)).Readable := by
  refine ⟨plain_append hplain htext, .inr ?_⟩
  rw [hasHead, String.toList_append, List.isPrefixOf_iff_prefix]
  exact (List.isPrefixOf_iff_prefix.mp hhead).trans (List.prefix_append _ _)

theorem readable_setTo {name value : String} (hname : isVariable name = true) (h : Plain value) :
    (setTo name value).Readable :=
  ⟨hname, .inr rfl, h⟩

theorem readable_addCopy {entry : String} (h : Plain entry) : (addCopy entry).Readable :=
  ⟨by decide, .inl rfl, h⟩

theorem readable_titledList {entries : List String} (title name : String)
    (htitle : (Statement.line title).Readable) (hname : isVariable name = true)
    (h : ∀ entry ∈ entries, Plain entry) :
    Makefile.Readable (titledList title name "+=" entries) := by
  unfold titledList
  split
  · exact readable_nil
  · intro st hst
    rw [List.mem_cons, List.mem_cons, List.mem_singleton] at hst
    rcases hst with rfl | rfl | rfl
    · exact readable_blankLine
    · exact htitle
    · exact ⟨hname, rfl, h⟩

theorem readable_titledCopies {entries : List CopyEntry} (title : String)
    (htitle : (Statement.line title).Readable) (h : ∀ e ∈ entries, Plain e.toText) :
    Makefile.Readable (titledCopies title entries) :=
  readable_titledList title _ htitle (by decide) (by simpa using h)

end Readable

/-- Every statement of a HAL without lines of its own can be read back. -/
theorem Hal.readable_statements {h : Hal} (hplain : h.IsPlain) (hraw : h.rawLines = []) :
    Makefile.Readable h.statements := by
  have hmark : ∀ {head tail : String}, Text.hasHead "#" head = true → Text.Plain head →
      Text.Plain tail → (Statement.line (head ++ h.name ++ tail)).Readable := by
    intro head tail hhash hhead htail
    rw [String.append_assoc]
    exact readable_comment hhash hhead (Text.plain_append hplain.name htail)
  have hstart : Makefile.Readable
      [blankLine, .line ("# start HAL " ++ h.name ++ " >>>>>>>>")] := by
    intro st hst
    rw [List.mem_cons, List.mem_singleton] at hst
    rcases hst with rfl | rfl
    · exact readable_blankLine
    · exact hmark (by decide) (by decide) (by decide)
  have hfeatures := readable_titledCopies "## feature declaration" (by decide)
    (List.forall_mem_map.mpr fun f hf => plain_featureEntry (hplain.features f hf))
  have hpackages := readable_titledList "## build packages" "PRODUCT_PACKAGES"
    (by decide) (by decide)
    (List.forall_mem_map.mpr fun p hp => Text.plain_packageName (hplain.buildPackages p hp))
  have hcopied := readable_titledCopies "## copy packages" (by decide)
    (List.forall_mem_map.mpr fun c hc =>
      CopyPackage.plain_entry (hplain.copyPackages c hc).1 (hplain.copyPackages c hc).2)
  have hfirmwares := readable_titledCopies "## firmwares" (by decide)
    (List.forall_mem_map.mpr fun f hf => plain_firmwareEntry (hplain.firmwares f hf))
  have hdrivers := readable_titledCopies "## drivers" (by decide)
    (List.forall_mem_map.mpr fun f hf => plain_driverEntry (hplain.drivers f hf))
  -- a line of the HAL's own could be anything, the beginning of a list included
  have hlines : Makefile.Readable (titledLines "## raw instructions" h.rawLines) := by
    rw [hraw]
    exact readable_nil
  have hscripts := readable_titledCopies "## service init.rc scripts" (by decide)
    (plain_entries hplain.initScripts)
  have hconfigs := readable_titledCopies "## runtime configs" (by decide)
    (List.forall_mem_map.mpr fun c hc =>
      RuntimeConfig.plain_entry (hplain.runtimeConfigs c hc).1 (hplain.runtimeConfigs c hc).2)
  have hproperties := readable_titledList ("## " ++ h.name ++ " properties")
    "PRODUCT_PROPERTY_OVERRIDES" (hmark (by decide) (by decide) (by decide)) (by decide)
    hplain.properties
  have hend : Makefile.Readable [.line ("# end HAL " ++ h.name ++ " <<<<<<<<")] := by
    intro st hst
    rw [List.mem_singleton.mp hst]
    exact hmark (by decide) (by decide) (by decide)
  exact hstart |>.append hfeatures |>.append hpackages |>.append hcopied |>.append hfirmwares
    |>.append hdrivers |>.append hlines |>.append hscripts |>.append hconfigs |>.append hproperties
    |>.append hend

/-- The statements that name the kernel image and its device tree can be read back. -/
theorem Spec.readable_kernelCopies {s : Spec} (hplain : s.IsPlain) :
    Makefile.Readable s.kernelCopies := by
  have himage : Makefile.Readable
      [blankLine, .line "# kernel and dtb", setTo "LOCAL_KERNEL" s.bootImage.kernel.image,
        addCopy "$(LOCAL_KERNEL):kernel"] := by
    simp only [Makefile.Readable, List.forall_mem_cons]
    exact ⟨readable_blankLine, by decide, readable_setTo (by decide) hplain.image, by decide,
      List.forall_mem_nil _⟩
  have htree : Makefile.Readable
      [setTo "LOCAL_DTB" s.bootImage.kernel.deviceTree,
        addCopy ("$(LOCAL_DTB):" ++ s.product.device ++ ".dtb")] := by
    have hentry : Text.Plain ("$(LOCAL_DTB):" ++ s.product.device ++ ".dtb") :=
      Text.plain_append (Text.plain_append (by decide) hplain.device) (by decide)
    simp only [Makefile.Readable, List.forall_mem_cons]
    exact ⟨readable_setTo (by decide) hplain.deviceTree, readable_addCopy hentry,
      List.forall_mem_nil _⟩
  unfold Spec.kernelCopies onlyIf
  apply himage.append
  split
  · exact readable_nil
  · apply htree.append
    split
    · decide
    · exact readable_nil

theorem Spec.plain_ramdiskCopies {s : Spec} (hplain : s.IsPlain) :
    ∀ e ∈ s.ramdiskCopies, Text.Plain e.toText := by
  have hproduct := hplain.product
  have huevent : Text.Plain s.bootImage.ramdisk.ueventScript.fileName := by
    unfold UeventScript.fileName
    split
    · exact hplain.ueventScript.1
    · split
      · exact hplain.ueventScript.2
      · decide
  have hfstab : Text.Plain (s.bootImage.ramdisk.fstab.fileName s.product.name) := by
    unfold Fstab.fileName
    split
    · exact Text.plain_append (by decide) hproduct
    · exact hplain.fstab
  have husb : Text.Plain (usbScriptName s.product.name) :=
    Text.plain_append (Text.plain_append (by decide) hproduct) (by decide)
  intro e he
  rcases List.mem_append.mp he with hfixed | he
  · rcases List.mem_append.mp hfixed with hfixed | he
    · rw [List.mem_cons, List.mem_singleton] at hfixed
      rcases hfixed with rfl | rfl
      · exact plain_toText (Text.plain_joinMake (by decide) huevent)
          (Text.plain_append (Text.plain_append (by decide) hproduct) (by decide))
      · exact plain_toText (Text.plain_joinMake (by decide) hfstab)
          (Text.plain_append (by decide) hproduct)
    · exact plain_entries hplain.initScripts e he
  · split at he
    · rw [List.mem_singleton.mp he]
      exact plain_toText (Text.plain_append (by decide) (Text.plain_dropSlashes husb))
        (Text.plain_append (Text.plain_append (by decide) hproduct) (by decide))
    · cases he

/-- Every statement of a device makefile without raw lines can be read back. -/
theorem Spec.readable_deviceMakefile {s : Spec} (hplain : s.IsPlain)
    (hraw : ∀ h ∈ s.hals, h.rawLines = []) (hend : (s.rawLines.map RawLines.lines).getD [] = []) :
    Makefile.Readable s.deviceMakefile := by
  have hheader : Makefile.Readable [makefileHeader] := by decide
  have hkernel := s.readable_kernelCopies hplain
  have hramdisk := readable_titledCopies "# rootfs" (by decide)
    (s.plain_ramdiskCopies hplain)
  have hfeatures := readable_titledCopies "# feature declaration" (by decide)
    (List.forall_mem_map.mpr fun f hf => plain_featureEntry (hplain.features f hf))
  have hproperties := readable_titledList "# framework properties" "PRODUCT_PROPERTY_OVERRIDES"
    (by decide) (by decide) hplain.properties
  have hhals : Makefile.Readable (s.halsByName.flatMap Hal.statements) := by
    apply readable_flatMap
    intro h hh
    have hmem := s.halsByName_sorted.1.mem_iff.mp hh
    exact Hal.readable_statements (hplain.hals h hmem) (hraw h hmem)
  have hmanifest : Makefile.Readable (titledCopies "# manifest.xml" [manifestEntry]) :=
    readable_titledCopies "# manifest.xml" (by decide) (by decide)
  have hlines : Makefile.Readable
      (titledLines "# vendor raw instructions" ((s.rawLines.map RawLines.lines).getD [])) := by
    rw [hend]
    exact readable_nil
  exact hheader |>.append hkernel |>.append hramdisk |>.append hfeatures |>.append hproperties
    |>.append hhals |>.append hmanifest |>.append hlines

/-! ## The whole -/

/-- The device makefile can be read back: no text in it holds a line feed or a backslash, and there
are no lines of the description's own. -/
structure Spec.DeviceReadable (s : Spec) : Prop where
  plain : s.IsPlain
  halLines : ∀ h ∈ s.hals, h.rawLines = []
  lastLines : (s.rawLines.map RawLines.lines).getD [] = []

/-- Then reading the text gives back what the statements say. -/
theorem Spec.DeviceReadable.valuesOf_eq {s : Spec} (h : s.DeviceReadable) (name : String) :
    valuesOf name (readMakefile s.deviceMakefile.render) =
      Makefile.values s.deviceMakefile name := by
  rw [read_render (s.readable_deviceMakefile h.plain h.halLines h.lastLines)]
  rfl

theorem isPlain_profile : profile.IsPlain where
  product := by decide
  device := by decide
  image := by decide
  deviceTree := by decide
  ueventScript := by decide
  fstab := by decide
  initScripts := by decide
  features := by decide
  properties := by decide
  hals := by
    intro h hh
    rw [profile, profileHals, List.mem_cons, List.mem_singleton] at hh
    rcases hh with rfl | rfl
    · constructor <;> decide
    · constructor <;> decide

theorem deviceReadable_profile : profile.DeviceReadable := ⟨isPlain_profile, by decide, rfl⟩

end DeviceSpec
