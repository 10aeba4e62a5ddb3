import DeviceSpec.Proofs.Render.Assigned
import DeviceSpec.Proofs.Text.Blank

/-!
# What the board configuration sets

The board configuration gives the variables of the build their values, the command line of the
kernel among them. Lines that the description adds as they are stand behind these assignments.

* **sections** — what the assignments of each section give a variable; the directory for vendor
  files and the command line are set once each (`Spec.assigned_vendorDir`,
  `Spec.assigned_kernelCmdline`);
* **text** — these two have a line of their own (`Spec.hasBlock_vendorDir`,
  `Spec.hasBlock_kernelCmdline`). If the texts of the description keep to their lines, and the lines
  that it adds do not set the variable, reading the text gives the values
  (`Spec.BoardReadable.readAssigned_eq`);
* **arguments** — the values that a command line gives a key, in order (`argumentsOf`). The
  arguments of the program come first and those of the device after them
  (`Spec.bootArguments_eq`).
-/

namespace DeviceSpec

/-! ## Sections -/

section
variable {name : String}

/-- A text is no other than one that ends as it does. -/
theorem append_ne_of_hasTail {tail text : String} (h : Text.hasTail tail text = false)
    (front : String) : front ++ tail ≠ text := by
  intro heq
  rw [Text.hasTail_iff.mpr ⟨front, heq⟩] at h
  cases h

/-- The settings of a partition are no other variables than those of an image. -/
theorem Partition.assigned_settings (p : Partition)
    (hsize : Text.hasTail "_PARTITION_SIZE" name = false)
    (htype : Text.hasTail "_FILE_SYSTEM_TYPE" name = false) :
    Makefile.assigned p.settings name = [] := by
  rw [Partition.settings, assigned_setTo_of_ne (append_ne_of_hasTail hsize _),
    assigned_onlyIf_of_ne (append_ne_of_hasTail htype _)]

/-- The settings of an instruction set are the five of its stem. -/
theorem Arch.assigned_settings (a : Arch) {stem : String}
    (h : ∀ tail ∈ ["_ARCH", "_ARCH_VARIANT", "_CPU_VARIANT", "_CPU_ABI", "_CPU_ABI2"],
      stem ++ tail ≠ name) : Makefile.assigned (a.settings stem) name = [] := by
  simp only [List.forall_mem_cons, List.not_mem_nil, false_implies, implies_true, and_true] at h
  obtain ⟨h1, h2, h3, h4, h5⟩ := h
  unfold Arch.settings
  split <;> simp [assigned_setTo_of_ne, *]

/-- The settings of the target have variables of their own. -/
theorem Spec.assigned_targetSettings (s : Spec)
    (h : name ∈ ["TARGET_COPY_OUT_VENDOR", "BOARD_KERNEL_CMDLINE"]) :
    Makefile.assigned s.targetSettings name = [] := by
  have hstem : ∀ stem ∈ ["TARGET", "TARGET_2ND"], ∀ a : Arch,
      Makefile.assigned (a.settings stem) name = [] := by
    intro stem hstem a
    apply Arch.assigned_settings
    revert stem name
    decide
  have harchs : Makefile.assigned
      (List.zipWith Arch.settings ["TARGET", "TARGET_2ND"] s.board.target.archs).flatten name =
        [] := by
    cases s.board.target.archs with
    | nil => rfl
    | cons a rest =>
      cases rest with
      | nil => simp [hstem]
      | cons b rest => simp [hstem]
  have hother : ∀ variableName ∈ ["TARGET_BOARD_PLATFORM", "TARGET_NO_RECOVERY",
      "TARGET_NO_RADIOIMAGE", "TARGET_USES_64_BIT_BINDER", "TARGET_BOOTLOADER_BOARD_NAME"],
      variableName ≠ name := by
    clear harchs hstem
    revert name
    decide
  simp only [List.forall_mem_cons, List.not_mem_nil, false_implies, implies_true, and_true]
    at hother
  obtain ⟨hplatform, hrecovery, hradio, hbinder, hboard⟩ := hother
  simp only [Spec.targetSettings, assigned_append, harchs, assigned_setTo_of_ne hplatform,
    assigned_onlyIf_of_ne hrecovery, assigned_onlyIf_of_ne hradio, assigned_onlyIf_of_ne hbinder,
    assigned_nil, List.nil_append]
  split
  · exact assigned_onlyIf_of_ne hboard _
  · rfl

theorem Board.assigned_selinuxSettings (b : Board) :
    Makefile.assigned b.selinuxSettings name = [] := by
  unfold Board.selinuxSettings
  split
  · split
    · rfl
    · simp [Makefile.assigned, Statement.sets?, blankLine]
  · rfl

/-- The directory for vendor files is set among the partitions, and nowhere else. -/
theorem Spec.assigned_vendorDir (s : Spec) :
    Makefile.assigned s.boardMakefile "TARGET_COPY_OUT_VENDOR" =
      [s.board.partitionTable.vendorDir] := by
  have hpartitions : Makefile.assigned s.board.partitionSettings "TARGET_COPY_OUT_VENDOR" =
      [s.board.partitionTable.vendorDir] := by
    have htable : ∀ p : Partition, Makefile.assigned p.settings "TARGET_COPY_OUT_VENDOR" = [] :=
      fun p => p.assigned_settings (by decide) (by decide)
    simp [Board.partitionSettings, assigned_onlyIf_of_ne, assigned_setTo_self, htable]
  have hkernel : Makefile.assigned s.kernelSettings "TARGET_COPY_OUT_VENDOR" = [] := by
    rw [Spec.kernelSettings, assigned_setTo_of_ne (by decide)]
    split
    · exact assigned_onlyIf_of_ne (by decide) _
    · rfl
  simp [Spec.boardMakefile, s.assigned_targetSettings, hpartitions, hkernel,
    Board.assigned_selinuxSettings]

/-- The command line of the kernel is set once. -/
theorem Spec.assigned_kernelCmdline (s : Spec) :
    Makefile.assigned s.boardMakefile "BOARD_KERNEL_CMDLINE" = [s.kernelCmdline] := by
  have hpartitions : Makefile.assigned s.board.partitionSettings "BOARD_KERNEL_CMDLINE" = [] := by
    have htable : ∀ p : Partition, Makefile.assigned p.settings "BOARD_KERNEL_CMDLINE" = [] :=
      fun p => p.assigned_settings (by decide) (by decide)
    simp [Board.partitionSettings, assigned_onlyIf_of_ne, assigned_setTo_of_ne, htable]
  have hkernel : Makefile.assigned s.kernelSettings "BOARD_KERNEL_CMDLINE" =
      [s.kernelCmdline] := by
    rw [Spec.kernelSettings, assigned_setTo_self]
    split
    · rw [assigned_onlyIf_of_ne (by decide)]
    · rfl
  simp [Spec.boardMakefile, s.assigned_targetSettings, hpartitions, hkernel,
    Board.assigned_selinuxSettings]

end

/-! ## The text -/

/-- The directory for vendor files has its line. -/
theorem Spec.hasBlock_vendorDir (s : Spec) : Text.HasBlock s.boardMakefile.render
    ("TARGET_COPY_OUT_VENDOR := " ++ s.board.partitionTable.vendorDir ++ "\n") := by
  have hmem : s.board.partitionTable.vendorDir ∈
      Makefile.assigned s.boardMakefile "TARGET_COPY_OUT_VENDOR" := by
    rw [s.assigned_vendorDir]
    exact List.mem_singleton_self _
  have hhead : "TARGET_COPY_OUT_VENDOR := " = "TARGET_COPY_OUT_VENDOR" ++ " := " := by decide
  rw [hhead]
  exact hasBlock_of_mem_assigned hmem

/-- The command line of the kernel has its line. -/
theorem Spec.hasBlock_kernelCmdline (s : Spec) : Text.HasBlock s.boardMakefile.render
    ("BOARD_KERNEL_CMDLINE := " ++ s.kernelCmdline ++ "\n") := by
  have hmem : s.kernelCmdline ∈ Makefile.assigned s.boardMakefile "BOARD_KERNEL_CMDLINE" := by
    rw [s.assigned_kernelCmdline]
    exact List.mem_singleton_self _
  have hhead : "BOARD_KERNEL_CMDLINE := " = "BOARD_KERNEL_CMDLINE" ++ " := " := by decide
  rw [hhead]
  exact hasBlock_of_mem_assigned hmem

/-- The text of the board configuration can be read for a variable: the texts in it keep to their
lines, no partition has a blank in its name, and the lines that the description adds do not set the
variable. -/
structure Spec.BoardReadable (s : Spec) (name : String) : Prop where
  archs : ∀ a ∈ s.board.target.archs,
    ∀ t ∈ [a.name, a.variant, a.cpu.variant, a.cpu.abi, a.cpu.abi2], '\n' ∉ t.toList
  platform : '\n' ∉ s.product.name.toList ∧ '\n' ∉ s.board.target.platform.toList
  bootloader : ∀ b ∈ s.board.bootloader, '\n' ∉ b.boardName.toList
  blockSize : '\n' ∉ s.board.partitionTable.flashBlockSize.toList
  partitions : ∀ p ∈ s.board.partitionTable.partitions,
    isUnbroken (Text.upperCase p.name) = true ∧
      '\n' ∉ p.size.toList ∧ '\n' ∉ p.fileSystem.toList
  device : '\n' ∉ s.product.device.toList
  cmdline : '\n' ∉ s.bootImage.kernel.cmdline.toList
  addresses : ∀ a ∈ s.bootImage.loadAddress,
    ∀ t ∈ [a.base, a.kernelOffset, a.ramdiskOffset], '\n' ∉ t.toList
  selinux : ∀ x ∈ s.board.selinux, '\n' ∉ x.mode.toList ∧ '\n' ∉ x.policyDir.toList
  names : ∀ h ∈ s.hals, '\n' ∉ h.name.toList
  lines : ∀ line ∈ (s.framework.map Framework.buildConfigs).getD []
      ++ s.hals.flatMap Hal.buildConfigs,
    '\n' ∉ line.toList ∧ Text.hasHead (name ++ " := ") line = false

section Readable

variable {name : String}

/-- The settings of an instruction set, under either stem. -/
theorem Arch.readsFor_settings {a : Arch} {stem : String} (hname : isVariable name = true)
    (hstem : isUnbroken stem = true)
    (h : ∀ t ∈ [a.name, a.variant, a.cpu.variant, a.cpu.abi, a.cpu.abi2], '\n' ∉ t.toList) :
    ∀ st ∈ a.settings stem, st.ReadsFor name := by
  have hset : ∀ tail ∈ ["_ARCH", "_ARCH_VARIANT", "_CPU_VARIANT", "_CPU_ABI", "_CPU_ABI2"],
      ∀ t ∈ [a.name, a.variant, a.cpu.variant, a.cpu.abi, a.cpu.abi2],
        Statement.ReadsFor name (setTo (stem ++ tail) t) := by
    intro tail htail t ht
    have htail' : isUnbroken tail = true := by
      revert tail
      decide
    refine readsFor_setTo hname ?_ (h t ht)
    rw [isUnbroken_append, hstem, htail', Bool.true_and]
  simp only [List.forall_mem_cons, List.not_mem_nil, false_implies, implies_true, and_true] at hset
  unfold Arch.settings
  split <;> simp [hset]

/-- The settings of the target. -/
theorem Spec.readsFor_targetSettings {s : Spec} (hname : isVariable name = true)
    (h : s.BoardReadable name) : ∀ st ∈ s.targetSettings, st.ReadsFor name := by
  have hset : ∀ variableName ∈ ["TARGET_BOARD_PLATFORM", "TARGET_NO_RECOVERY",
      "TARGET_NO_RADIOIMAGE", "TARGET_USES_64_BIT_BINDER", "TARGET_BOOTLOADER_BOARD_NAME"],
      ∀ value : String, '\n' ∉ value.toList →
        Statement.ReadsFor name (setTo variableName value) := by
    intro variableName hmem value hvalue
    refine readsFor_setTo hname ?_ hvalue
    revert variableName
    decide
  simp only [List.forall_mem_cons, List.not_mem_nil, false_implies, implies_true, and_true] at hset
  obtain ⟨hplatform, hrecovery, hradio, hbinder, hboard⟩ := hset
  have harchs : ∀ st ∈ (List.zipWith Arch.settings ["TARGET", "TARGET_2ND"]
      s.board.target.archs).flatten, st.ReadsFor name := by
    intro st hst
    obtain ⟨settings, hsettings, hst⟩ := List.mem_flatten.mp hst
    rw [← List.map_uncurry_zip_eq_zipWith] at hsettings
    obtain ⟨⟨stem, a⟩, hzip, rfl⟩ := List.mem_map.mp hsettings
    obtain ⟨hstem, ha⟩ := List.of_mem_zip hzip
    have hchars : isUnbroken stem = true := by
      clear hst hsettings hzip
      revert stem
      decide
    exact Arch.readsFor_settings hname hchars (h.archs a ha) st hst
  have hvalue : '\n' ∉ (if s.board.target.platform.isEmpty then s.product.name
      else s.board.target.platform).toList := by
    split
    · exact h.platform.1
    · exact h.platform.2
  simp only [Spec.targetSettings, List.forall_mem_append, List.forall_mem_singleton]
  refine ⟨⟨⟨⟨⟨harchs, hplatform _ hvalue⟩, readsFor_onlyIf (hrecovery _ (by decide)) _⟩,
    readsFor_onlyIf (hradio _ (by decide)) _⟩, readsFor_onlyIf (hbinder _ (by decide)) _⟩, ?_⟩
  split
  · rename_i b hb
    exact readsFor_onlyIf (hboard _ (h.bootloader b hb)) _
  · exact List.forall_mem_nil _

/-- The settings of the partitions, each under its name in capitals. -/
theorem Spec.readsFor_partitionSettings {s : Spec} (hname : isVariable name = true)
    (h : s.BoardReadable name) : ∀ st ∈ s.board.partitionSettings, st.ReadsFor name := by
  have hpartition : ∀ p ∈ s.board.partitionTable.partitions,
      ∀ st ∈ p.settings, st.ReadsFor name := by
    intro p hp
    obtain ⟨hchars, hsize, htype⟩ := h.partitions p hp
    have hvariable : ∀ tail, isUnbroken tail = true →
        isUnbroken ("BOARD_" ++ Text.upperCase p.name ++ "IMAGE" ++ tail) = true := by
      intro tail htail
      have hfront : isUnbroken "BOARD_" = true ∧ isUnbroken "IMAGE" = true := by decide
      simp only [isUnbroken_append, hfront, hchars, htail, Bool.and_self]
    rw [Partition.settings, List.forall_mem_cons]
    exact ⟨readsFor_setTo hname (hvariable _ (by decide)) hsize,
      readsFor_onlyIf (readsFor_setTo hname (hvariable _ (by decide)) htype) _⟩
  have hvendor : '\n' ∉ s.board.partitionTable.vendorDir.toList := by
    unfold PartitionTable.vendorDir
    split <;> decide
  simp only [Board.partitionSettings, List.forall_mem_append, List.forall_mem_singleton,
    List.forall_mem_flatMap]
  exact ⟨⟨⟨readsFor_onlyIf (readsFor_setTo hname (by decide) h.blockSize) _,
    readsFor_onlyIf (readsFor_setTo hname (by decide) (by decide)) _⟩, hpartition⟩,
    readsFor_setTo hname (by decide) hvendor⟩

theorem Spec.newline_not_mem_kernelCmdline {s : Spec} (h : s.BoardReadable name) :
    '\n' ∉ s.kernelCmdline.toList := by
  have hmode : '\n' ∉ (s.board.selinuxMode.getD "enforcing").toList := by
    unfold Board.selinuxMode
    cases hselinux : s.board.selinux with
    | none => decide
    | some x =>
      rw [Option.map_some, Option.filter_some]
      split
      · exact (h.selinux x hselinux).1
      · decide
  have hfirmware : '\n' ∉ s.firmwareDir.toList := by
    unfold Spec.firmwareDir
    split <;> decide
  have hown : '\n' ∉ (Text.trim s.bootImage.kernel.cmdline).toList :=
    fun hmem => h.cmdline (Text.subset_trim _ hmem)
  refine Text.not_mem_intercalate (by decide) ?_
  simp only [Spec.kernelArgs, List.forall_mem_append, List.forall_mem_cons]
  refine ⟨⟨by simp [h.device], by simp [hmode], by simp [hfirmware], List.forall_mem_nil _⟩, ?_⟩
  split
  · exact List.forall_mem_nil _
  · exact List.forall_mem_singleton.mpr hown

/-- The settings of the kernel. -/
theorem Spec.readsFor_kernelSettings {s : Spec} (hname : isVariable name = true)
    (h : s.BoardReadable name) : ∀ st ∈ s.kernelSettings, st.ReadsFor name := by
  rw [Spec.kernelSettings, List.forall_mem_cons]
  refine ⟨readsFor_setTo hname (by decide) (s.newline_not_mem_kernelCmdline h), ?_⟩
  split
  · rename_i a ha
    have htrim : ∀ t ∈ [a.base, a.kernelOffset, a.ramdiskOffset], '\n' ∉ (Text.trim t).toList :=
      fun t ht hmem => h.addresses a ha t ht (Text.subset_trim _ hmem)
    simp only [List.forall_mem_cons, List.not_mem_nil, false_implies, implies_true, and_true]
      at htrim
    obtain ⟨hbase, hkernel, hramdisk⟩ := htrim
    refine readsFor_onlyIf (readsFor_setTo hname (by decide) ?_) _
    simp [LoadAddress.arguments, hbase, hkernel, hramdisk]
  · exact List.forall_mem_nil _

/-- The settings of access control. -/
theorem Spec.readsFor_selinuxSettings {s : Spec} (hname : isVariable name = true)
    (h : s.BoardReadable name) : ∀ st ∈ s.board.selinuxSettings, st.ReadsFor name := by
  unfold Board.selinuxSettings
  split
  · rename_i x hx
    split
    · exact List.forall_mem_nil _
    · simp only [List.forall_mem_cons]
      exact ⟨readsFor_blankLine hname, readsFor_comment hname (by decide) (.inr (by decide)),
        readsFor_assign (not_mem_of_isVariable hname (by decide)) (by decide) (.inr rfl)
          (h.selinux x hx).2, List.forall_mem_nil _⟩
  · exact List.forall_mem_nil _

/-- Reading the text of the board configuration for a variable gives the values it is set to. -/
theorem Spec.BoardReadable.readAssigned_eq {s : Spec} (hname : isVariable name = true)
    (h : s.BoardReadable name) :
    readAssigned name s.boardMakefile.render = Makefile.assigned s.boardMakefile name := by
  have hheader : Statement.ReadsFor name makefileHeader :=
    readsFor_comment hname (by decide) (.inr (by decide))
  have hsection : ∀ title, '\n' ∉ title.toList → Text.hasHead "#" title = true →
      ∀ st ∈ [blankLine, .line title], st.ReadsFor name := by
    intro title hnewline hhash
    simp only [List.forall_mem_cons]
    exact ⟨readsFor_blankLine hname, readsFor_comment hname hnewline (.inr hhash),
      List.forall_mem_nil _⟩
  have htarget : ∀ st ∈ [makefileHeader, blankLine, .line "# target"], st.ReadsFor name :=
    List.forall_mem_cons.mpr ⟨hheader, hsection "# target" (by decide) (by decide)⟩
  have hpartitions := hsection "# partitions" (by decide) (by decide)
  have hkernel := hsection "# kernel" (by decide) (by decide)
  obtain ⟨hframework, hhals⟩ := List.forall_mem_append.mp h.lines
  have hlines : ∀ st ∈ titledLines "# framework" ((s.framework.map Framework.buildConfigs).getD []),
      st.ReadsFor name := readsFor_titledLines hname (by decide) (by decide) hframework
  have hhal : ∀ g ∈ s.halsByName, ∀ st ∈ titledLines ("# HAL " ++ g.name) g.buildConfigs,
      st.ReadsFor name := by
    intro g hg
    have hmem := s.halsByName_sorted.1.mem_iff.mp hg
    exact readsFor_titledLines hname (by simp [h.names g hmem])
      (by simp [Text.hasHead, List.isPrefixOf])
      fun line hline => hhals line (List.mem_flatMap.mpr ⟨g, hmem, hline⟩)
  apply readAssigned_render
  simp only [Spec.boardMakefile, List.forall_mem_append, List.forall_mem_flatMap]
  exact ⟨⟨⟨⟨⟨⟨⟨⟨htarget, s.readsFor_targetSettings hname h⟩,
    hpartitions⟩, s.readsFor_partitionSettings hname h⟩,
    hkernel⟩, s.readsFor_kernelSettings hname h⟩,
    s.readsFor_selinuxSettings hname h⟩, hlines⟩, hhal⟩

end Readable

/-! ## Arguments -/

/-- The values that a command line gives a key, in order: what stands behind `key=` in each of its
arguments that begins so. Blanks separate the arguments. -/
def argumentsOf (key cmdline : String) : List String :=
  ((cmdline.toList.splitOn ' ').map String.ofList).filterMap (Text.afterHead? (key ++ "="))

/-- A text up to its first blank. -/
def firstWord (text : String) : String := String.ofList (text.toList.takeWhile (· != ' '))

section
variable {key value : String}

theorem afterHead?_empty (key : String) : Text.afterHead? (key ++ "=") "" = none := by
  simp [Text.afterHead?, Text.hasHead]

theorem argumentsOf_empty (key : String) : argumentsOf key "" = [] := by
  simp [argumentsOf, afterHead?_empty]

/-- Arguments on both sides of a blank. -/
theorem argumentsOf_append (key a b : String) :
    argumentsOf key (a ++ " " ++ b) = argumentsOf key a ++ argumentsOf key b := by
  have hchars : (a ++ " " ++ b).toList = a.toList ++ ' ' :: b.toList := by simp
  rw [argumentsOf, hchars, List.splitOn_append_cons_self, List.map_append, List.filterMap_append]
  rfl

theorem argumentsOf_intercalate (key : String) (args : List String) :
    argumentsOf key (" ".intercalate args) = args.flatMap (argumentsOf key) := by
  induction args with
  | nil => exact argumentsOf_empty key
  | cons arg rest ih =>
    by_cases hrest : rest = []
    · subst hrest
      simp
    · rw [String.intercalate_cons_of_ne_nil hrest, argumentsOf_append, ih, List.flatMap_cons]

/-- The first stretch between blanks. -/
theorem exists_splitOn_blank (cs : List Char) :
    ∃ more, cs.splitOn ' ' = cs.takeWhile (· != ' ') :: more := by
  by_cases hmem : ' ' ∈ cs
  · obtain ⟨word, rest, rfl, hword⟩ := List.eq_append_cons_of_mem hmem
    refine ⟨rest.splitOn ' ', ?_⟩
    rw [List.splitOn_append_cons_self, Text.splitOn_of_not_mem hword, takeWhile_blank hword]
    rfl
  · have htake : cs.takeWhile (· != ' ') = cs := by
      rw [← List.append_nil cs, List.takeWhile_append_of_pos (forall_bne_of_not_mem hmem),
        List.takeWhile_nil]
    exact ⟨[], by rw [Text.splitOn_of_not_mem hmem, htake]⟩

/-- An argument gives its key what stands behind the sign, up to the first blank. -/
theorem head?_argumentsOf (hkey : ' ' ∉ key.toList) (value : String) :
    (argumentsOf key (key ++ "=" ++ value)).head? = some (firstWord value) := by
  obtain ⟨more, hmore⟩ := exists_splitOn_blank (key ++ "=" ++ value).toList
  have hnone : ' ' ∉ (key ++ "=").toList := by simp [hkey]
  have hfront := forall_bne_of_not_mem hnone
  have hfirst : String.ofList ((key ++ "=" ++ value).toList.takeWhile (· != ' ')) =
      key ++ "=" ++ firstWord value := by
    rw [String.toList_append, List.takeWhile_append_of_pos hfront, String.ofList_append,
      String.ofList_toList, firstWord]
  rw [argumentsOf, hmore, List.map_cons, hfirst,
    List.filterMap_cons_some (Text.afterHead?_append _ _), List.head?_cons]

/-- A value without blanks is all that an argument gives. -/
theorem argumentsOf_argument (hkey : ' ' ∉ key.toList) (hvalue : ' ' ∉ value.toList) :
    argumentsOf key (key ++ "=" ++ value) = [value] := by
  have hnone : ' ' ∉ (key ++ "=" ++ value).toList := by simp [hkey, hvalue]
  rw [argumentsOf, Text.splitOn_of_not_mem hnone, List.map_singleton, String.ofList_toList,
    List.filterMap_cons_some (Text.afterHead?_append _ _), List.filterMap_nil]

end

/-- The values that the command line of the kernel gives a key, in order. -/
def Spec.bootArguments (s : Spec) (key : String) : List String :=
  ((Makefile.value? s.boardMakefile "BOARD_KERNEL_CMDLINE").map (argumentsOf key)).getD []

/-- The values that the command line in the text of a board configuration gives a key, in order. -/
def readBootArguments (key text : String) : List String :=
  ((readAssigned "BOARD_KERNEL_CMDLINE" text).getLast?.map (argumentsOf key)).getD []

/-- Reading the text gives the arguments of the command line. -/
theorem Spec.BoardReadable.readBootArguments_eq {s : Spec}
    (h : s.BoardReadable "BOARD_KERNEL_CMDLINE") (key : String) :
    readBootArguments key s.boardMakefile.render = s.bootArguments key := by
  rw [readBootArguments, h.readAssigned_eq (by decide)]
  rfl

/-- The values that the device's own arguments give a key. -/
def Kernel.ownArguments (k : Kernel) (key : String) : List String :=
  argumentsOf key (Text.trim k.cmdline)

/-- The command line has the arguments of the program, and then the device's own. -/
theorem Spec.bootArguments_eq (s : Spec) (key : String) : s.bootArguments key =
    argumentsOf key ("androidboot.hardware=" ++ s.product.device)
      ++ argumentsOf key ("androidboot.selinux=" ++ s.board.selinuxMode.getD "enforcing")
      ++ argumentsOf key ("firmware_class.path=" ++ s.firmwareDir)
      ++ s.bootImage.kernel.ownArguments key := by
  rw [Spec.bootArguments, Makefile.value?, s.assigned_kernelCmdline, List.getLast?_singleton,
    Option.map_some, Option.getD_some, Spec.kernelCmdline, argumentsOf_intercalate,
    Spec.kernelArgs, Kernel.ownArguments]
  split
  · rename_i hempty
    simp [String.isEmpty_iff.mp hempty, argumentsOf_empty]
  · simp

end DeviceSpec
