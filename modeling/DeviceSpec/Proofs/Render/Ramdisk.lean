import DeviceSpec.Proofs.Text.Lines
import DeviceSpec.Proofs.Text.Words
import DeviceSpec.Render.Ramdisk

/-!
# Reading the tables of the ramdisk

The table of mounts has a line of five columns for each mount. The table of device nodes has a line
of four or five columns for each rule, the second of five being the attribute; lines without words
and lines that begin with `#` are passed over.

* **one line** — a mount and a rule are read from the columns of their lines (`Mount.read_line`,
  `UeventRule.read_line`);
* **tables** — the rules of a HAL come after a line that is passed over, and a HAL without rules
  leaves no line (`Hal.read_ueventLines`), so the tables are read back as the mounts and the rules
  in order (`ramdisk_tables_read_back`).
-/

namespace DeviceSpec

/-! ## The reader -/

/-- The mount of a line with five columns. -/
def Mount.ofColumns? : List String → Option Mount
  | [source, destination, fileSystem, flags, managerFlags] =>
    some ⟨source, destination, fileSystem, flags, managerFlags⟩
  | _ => none

/-- The rule of a line with four columns, or with five if it has an attribute. -/
def UeventRule.ofColumns? : List String → Option UeventRule
  | [node, mode, uid, gid] => some ⟨node, "", mode, uid, gid⟩
  | [node, attr, mode, uid, gid] => some ⟨node, attr, mode, uid, gid⟩
  | _ => none

/-- Read every line of a table of mounts. -/
def readFstab (text : String) : List (Option Mount) :=
  (Text.linesOf text).map fun line => Mount.ofColumns? (Text.words line)

/-- The line holds a rule: it is neither blank nor a comment. -/
def isRuleLine (line : String) : Bool := !Text.isBlankText line && !Text.hasHead "#" line

/-- Read the lines that hold rules. -/
def readRules (lines : List String) : List (Option UeventRule) :=
  (lines.filter isRuleLine).map fun line => UeventRule.ofColumns? (Text.words line)

/-- Read a table of device nodes. -/
def readUeventScript (text : String) : List (Option UeventRule) := readRules (Text.linesOf text)

/-! ## What can be read -/

/-- Every field of the mount stands in a column. -/
def Mount.Readable (m : Mount) : Prop :=
  ∀ s ∈ [m.source, m.destination, m.fileSystem, m.flags, m.managerFlags], Text.IsColumn s

instance Mount.decidableReadable (m : Mount) : Decidable m.Readable :=
  inferInstanceAs (Decidable (∀ s ∈ _, _))

/-- Every field of the rule stands in a column, except that there may be no attribute, and the
first is not taken for a comment. -/
structure UeventRule.Readable (r : UeventRule) : Prop where
  columns : ∀ s ∈ [r.node, r.mode, r.uid, r.gid], Text.IsColumn s
  attr : ∀ c ∈ r.attr.toList, Text.isBlank c = false
  node : Text.hasHead "#" r.node = false

instance UeventRule.decidableReadable (r : UeventRule) : Decidable r.Readable :=
  letI := List.decidableBAll (fun c => Text.isBlank c = false) r.attr.toList
  decidable_of_iff ((∀ s ∈ [r.node, r.mode, r.uid, r.gid], Text.IsColumn s) ∧
      (∀ c ∈ r.attr.toList, Text.isBlank c = false) ∧ Text.hasHead "#" r.node = false)
    ⟨fun h => ⟨h.1, h.2.1, h.2.2⟩, fun h => ⟨h.columns, h.attr, h.node⟩⟩

/-- The mounts and the rules can be read, and no HAL has a name of several lines. -/
structure Spec.TablesReadable (s : Spec) : Prop where
  mounts : ∀ m ∈ s.bootImage.ramdisk.fstab.mounts, m.Readable
  rules : ∀ r ∈ s.bootImage.ramdisk.ueventScript.rules, r.Readable
  halRules : ∀ h ∈ s.hals, ∀ r ∈ h.ueventRules, r.Readable
  names : ∀ h ∈ s.hals, '\n' ∉ h.name.toList

/-! ## One line -/

theorem Mount.read_line {m : Mount} (h : m.Readable) :
    Mount.ofColumns? (Text.words m.line) = some m := by
  rw [Mount.line, Text.words_intercalate (by decide) h]
  rfl

theorem UeventRule.Readable.isColumn {r : UeventRule} (h : r.Readable) :
    ∀ s ∈ r.columns, Text.IsColumn s := by
  have hcolumns := h.columns
  have hattr := h.attr
  by_cases hempty : r.attr = ""
  · simpa [UeventRule.columns, hempty] using hcolumns
  · have hcolumn : Text.IsColumn r.attr := ⟨hempty, hattr⟩
    simpa [UeventRule.columns, hempty, hcolumn] using hcolumns

theorem UeventRule.read_line {r : UeventRule} (h : r.Readable) :
    UeventRule.ofColumns? (Text.words r.line) = some r := by
  rw [UeventRule.line, Text.words_intercalate (by decide) h.isColumn]
  by_cases hempty : r.attr = ""
  · simp only [UeventRule.columns, hempty]
    exact congrArg (fun attr => some (UeventRule.mk r.node attr r.mode r.uid r.gid)) hempty.symm
  · simp [UeventRule.columns, hempty, UeventRule.ofColumns?]

/-- The line of a rule begins with the node. -/
theorem UeventRule.line_eq (r : UeventRule) : ∃ rest, r.line = r.node ++ rest := by
  have hcolumns : ∃ next more, r.columns = r.node :: next :: more := by
    unfold UeventRule.columns
    split <;> exact ⟨_, _, rfl⟩
  obtain ⟨next, more, hcolumns⟩ := hcolumns
  exact ⟨" " ++ " ".intercalate (next :: more), by
    rw [UeventRule.line, hcolumns, String.intercalate_cons_cons, String.append_assoc]⟩

theorem UeventRule.isRuleLine_line {r : UeventRule} (h : r.Readable) :
    isRuleLine r.line = true := by
  obtain ⟨rest, hline⟩ := r.line_eq
  obtain ⟨hne, hblank⟩ := h.columns r.node List.mem_cons_self
  have hnode := h.node
  cases hchars : r.node.toList with
  | nil => exact absurd (String.toList_eq_nil_iff.mp hchars) hne
  | cons c cs =>
    have hc : Text.isBlank c = false := hblank c (hchars ▸ List.mem_cons_self)
    rw [Text.hasHead, hchars] at hnode
    simpa [isRuleLine, hline, Text.isBlankText, Text.hasHead, hchars, hc, List.isPrefixOf]
      using hnode

theorem newline_not_mem_intercalate {separator : String} (h : '\n' ∉ separator.toList)
    {columns : List String} (hcolumns : ∀ s ∈ columns, Text.IsColumn s) :
    '\n' ∉ (separator.intercalate columns).toList := by
  refine Text.not_mem_intercalate h fun s hs hmem => ?_
  have hblank := (hcolumns s hs).2 _ hmem
  revert hblank
  decide

/-! ## Tables -/

theorem readRules_append (a b : List String) : readRules (a ++ b) = readRules a ++ readRules b := by
  simp [readRules]

/-- The lines of rules are read as the rules. -/
theorem readRules_lines {rules : List UeventRule} (h : ∀ r ∈ rules, r.Readable) :
    readRules (rules.map UeventRule.line) = rules.map some := by
  have hlines : (rules.map UeventRule.line).filter isRuleLine = rules.map UeventRule.line := by
    rw [List.filter_eq_self, List.forall_mem_map]
    exact fun r hr => UeventRule.isRuleLine_line (h r hr)
  rw [readRules, hlines, List.map_map]
  exact List.map_congr_left fun r hr => UeventRule.read_line (h r hr)

/-- The lines of a HAL are read as its rules, its name being passed over. -/
theorem Hal.read_ueventLines {h : Hal} (hrules : ∀ r ∈ h.ueventRules, r.Readable) :
    readRules h.ueventLines = h.ueventRules.map some := by
  unfold Hal.ueventLines
  split
  · rename_i hempty
    rw [List.isEmpty_iff.mp hempty]
    rfl
  · have hblank : isRuleLine "" = false := by decide
    have hname : isRuleLine ("# " ++ h.name) = false := by
      simp [isRuleLine, Text.hasHead, List.isPrefixOf]
    have hskip : readRules ("" :: ("# " ++ h.name) :: h.ueventRules.map UeventRule.line) =
        readRules (h.ueventRules.map UeventRule.line) := by
      simp [readRules, hblank, hname]
    rw [hskip, readRules_lines hrules]

theorem Hal.read_flatMap_ueventLines {hals : List Hal}
    (h : ∀ hal ∈ hals, ∀ r ∈ hal.ueventRules, r.Readable) :
    readRules (hals.flatMap Hal.ueventLines) = (hals.flatMap Hal.ueventRules).map some := by
  induction hals with
  | nil => rfl
  | cons hal rest ih =>
    rw [List.flatMap_cons, readRules_append, Hal.read_ueventLines (h hal List.mem_cons_self),
      ih fun g hg => h g (List.mem_cons_of_mem hal hg), List.flatMap_cons, List.map_append]

theorem newline_not_mem_rules {rules : List UeventRule} (h : ∀ r ∈ rules, r.Readable) :
    ∀ line ∈ rules.map UeventRule.line, '\n' ∉ line.toList := by
  rw [List.forall_mem_map]
  exact fun r hr => newline_not_mem_intercalate (by decide) (h r hr).isColumn

theorem Hal.newline_not_mem_ueventLines {h : Hal} (hrules : ∀ r ∈ h.ueventRules, r.Readable)
    (hname : '\n' ∉ h.name.toList) : ∀ line ∈ h.ueventLines, '\n' ∉ line.toList := by
  unfold Hal.ueventLines
  split
  · exact List.forall_mem_nil _
  · simp only [List.forall_mem_cons]
    exact ⟨by simp, by simpa using hname, newline_not_mem_rules hrules⟩

/-- The mounts and the rules are read back from their tables, in order: every mount from five
columns, and every rule from the columns of its line, those of the board first and then those of
the HALs, every HAL once and in the order of the names. -/
theorem ramdisk_tables_read_back {s : Spec} (h : s.TablesReadable) :
    (s.halsByName.Perm s.hals ∧ s.halsByName.Pairwise fun a b => a.name ≤ b.name) ∧
    readFstab s.fstab = s.bootImage.ramdisk.fstab.mounts.map some ∧
    readUeventScript s.ueventScript =
      (s.bootImage.ramdisk.ueventScript.rules ++ s.halsByName.flatMap Hal.ueventRules).map some := by
  -- the names are sorted, but the HALs are the same
  have hmem : ∀ hal ∈ s.halsByName, hal ∈ s.hals := fun _ => s.halsByName_sorted.1.mem_iff.mp
  have hrules : ∀ hal ∈ s.halsByName, ∀ r ∈ hal.ueventRules, r.Readable :=
    fun hal hhal => h.halRules hal (hmem hal hhal)
  refine ⟨s.halsByName_sorted, ?_, ?_⟩
  · have hlines : ∀ line ∈ s.bootImage.ramdisk.fstab.mounts.map Mount.line, '\n' ∉ line.toList := by
      rw [List.forall_mem_map]
      exact fun m hm => newline_not_mem_intercalate (by decide) (h.mounts m hm)
    rw [readFstab, Spec.fstab, Text.linesOf_unlines hlines, List.map_map]
    exact List.map_congr_left fun m hm => Mount.read_line (h.mounts m hm)
  · have hlines : ∀ line ∈ s.bootImage.ramdisk.ueventScript.rules.map UeventRule.line
        ++ s.halsByName.flatMap Hal.ueventLines, '\n' ∉ line.toList := by
      rw [List.forall_mem_append, List.forall_mem_flatMap]
      exact ⟨newline_not_mem_rules h.rules, fun hal hhal =>
        Hal.newline_not_mem_ueventLines (hrules hal hhal) (h.names hal (hmem hal hhal))⟩
    rw [readUeventScript, Spec.ueventScript, Text.linesOf_unlines hlines, readRules_append,
      readRules_lines h.rules, Hal.read_flatMap_ueventLines hrules, List.map_append]

/-- A device whose tables have all kinds of lines: a rule with an attribute and one without, HALs
out of order, and one without rules. -/
def nodesSpec : Spec where
  bootImage := { ramdisk := {
    fstab := { mounts := [⟨"/dev/block/system", "/system", "ext4", "ro", "wait"⟩] }
    ueventScript := { rules := [⟨"/dev/null", "", "0666", "root", "root"⟩] } } }
  hals := [
    { name := "wifi", ueventRules := [⟨"/sys/class/net", "mtu", "0660", "wifi", "#wifi"⟩] },
    { name := "audio" },
    { name := "camera front", ueventRules := [⟨"/dev/video0", "", "0660", "camera", "camera"⟩] }]

theorem nodesSpec_ueventRules : nodesSpec.halsByName.flatMap Hal.ueventRules =
    [⟨"/dev/video0", "", "0660", "camera", "camera"⟩,
      ⟨"/sys/class/net", "mtu", "0660", "wifi", "#wifi"⟩] := by
  simp [Spec.halsByName, nodesSpec, List.mergeSort, List.MergeSort.Internal.splitInTwo]

/-- Its tables are read back, the rule of `camera front` before that of `wifi`. -/
theorem ramdisk_tables_read_back_nodesSpec : nodesSpec.TablesReadable ∧
    readFstab nodesSpec.fstab = [some ⟨"/dev/block/system", "/system", "ext4", "ro", "wait"⟩] ∧
    readUeventScript nodesSpec.ueventScript =
      [some ⟨"/dev/null", "", "0666", "root", "root"⟩,
        some ⟨"/dev/video0", "", "0660", "camera", "camera"⟩,
        some ⟨"/sys/class/net", "mtu", "0660", "wifi", "#wifi"⟩] := by
  have h : nodesSpec.TablesReadable := ⟨by decide, by decide, by decide, by decide⟩
  obtain ⟨-, hmounts, hrules⟩ := ramdisk_tables_read_back h
  rw [nodesSpec_ueventRules] at hrules
  exact ⟨h, hmounts, hrules⟩

end DeviceSpec
