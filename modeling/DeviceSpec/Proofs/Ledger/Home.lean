import DeviceSpec.Proofs.Disk.Descend
import DeviceSpec.Proofs.Ledger.Removal
import DeviceSpec.Proofs.Overlay.Order

/-!
# A directory under its full name

A directory may be given from the working directory on. Its ledger is then fetched under the path as
it is given, and stored under the full one.

* **the full name** — both lead to the same place (`place_home`), and to the same ledger as far as
  the system accepts the longer path (`find_ledgerPath_home_iff`);
* **storing** — where a ledger could be fetched, one can be stored as far as the system accepts the
  full name (`store_home`);
* **cleaning** — when it goes well in a directory that is given in any way (`clean_ok_iff`), and
  what it leaves then (`clean_ok_home`).
-/

namespace DeviceSpec

/-- The names of the working directory lead to it from the root. -/
structure Disk.Grounded (d : Disk) : Prop where
  named : ∀ s ∈ d.workingDir, Path.IsName s
  reached : d.enterAll [] d.workingDir = .ok d.workingDir

theorem Disk.Grounded.mono {d e : Disk} (h : d.Grounded) (hkeeps : d.KeepsDirs e) :
    e.Grounded := by
  refine ⟨?_, ?_⟩
  · rw [hkeeps.workingDir]
    exact h.named
  · rw [hkeeps.workingDir]
    exact Disk.enterAll_mono hkeeps h.reached

/-! ## The full name -/

section Home

variable {d : Disk} {dir home : Path} (hhome : absolutePath dir d = .ok home)

include hhome

theorem isAbsolute_home : home.isAbsolute = true := by
  unfold absolutePath at hhome
  split at hhome
  · rename_i habs
    rwa [← Except.ok.inj hhome]
  · split at hhome
    · cases hhome
    · rename_i working hworking
      rw [← Except.ok.inj hhome]
      refine Path.isAbsolute_join ?_ _
      unfold Disk.workingPath at hworking
      split at hworking
      · rw [← Except.ok.inj hworking]
        simp [Path.isAbsolute, Text.hasHead, List.isPrefixOf]
      · cases hworking

/-- The full name of a relative path is its text behind the names of the working directory. -/
theorem home_of_relative (hrel : dir.isAbsolute = false) :
    d.node? d.workingDir = some .directory ∧
      home = Path.join ⟨"/" ++ "/".intercalate d.workingDir⟩ dir.text := by
  unfold absolutePath Disk.workingPath at hhome
  rw [if_neg (by simp [hrel])] at hhome
  by_cases hnode : d.node? d.workingDir = some .directory
  · rw [if_pos hnode] at hhome
    exact ⟨hnode, (Except.ok.inj hhome).symm⟩
  · rw [if_neg hnode] at hhome
    cases hhome

theorem node?_origin_home (hstart : d.node? (d.origin home) = some .directory) :
    d.node? (d.origin dir) = some .directory := by
  cases hrel : dir.isAbsolute with
  | true =>
    rw [absolutePath_of_isAbsolute hrel, Except.ok.injEq] at hhome
    rwa [hhome]
  | false =>
    obtain ⟨hnode, -⟩ := home_of_relative hhome hrel
    simpa [Disk.origin, hrel] using hnode

/-- What the system accepts under the full name it accepts as it is given. -/
theorem accepted_ledgerPath_of_home (h : (ledgerPath home).Accepted) :
    (ledgerPath dir).Accepted := by
  cases hrel : dir.isAbsolute with
  | true =>
    rw [absolutePath_of_isAbsolute hrel, Except.ok.injEq] at hhome
    rwa [hhome]
  | false =>
    obtain ⟨-, rfl⟩ := home_of_relative hhome hrel
    obtain ⟨hnul, -, hshort⟩ := h
    have hname := Ledger.isAbsolute_ledgerName
    have hslash : ("/" : String).utf8ByteSize = 1 := by decide
    have hgap : dir.gap.utf8ByteSize ≤ 1 := by
      unfold Path.gap
      split <;> decide
    simp only [ledgerPath, Path.text_join hname, Path.text_join hrel, String.toList_append,
      List.mem_append, not_or, String.utf8ByteSize_append, hslash] at hnul hshort
    refine ⟨?_, ?_, ?_⟩
    · simp only [ledgerPath, Path.text_join hname, String.toList_append, List.mem_append, not_or]
      exact ⟨⟨hnul.1.1.2, Path.nul_not_mem_gap dir⟩, hnul.2⟩
    · rw [ledgerPath, Path.text_join hname]
      simp [ledgerName]
    · simp only [ledgerPath, Path.text_join hname, String.utf8ByteSize_append]
      omega

variable (hground : dir.isAbsolute = false → d.Grounded)

include hground

/-- The steps of the full name are those of the working directory, and then those as given. -/
theorem steps_home (hrel : dir.isAbsolute = false) : home.steps = d.workingDir ++ dir.steps := by
  obtain ⟨-, rfl⟩ := home_of_relative hhome hrel
  have hnamed := (hground hrel).named
  have htext : "/" ++ "/".intercalate d.workingDir = "" ++ "/" ++ "/".intercalate d.workingDir := by
    simp
  have hidle : d.workingDir.filter (fun s => !Path.isIdle s) = d.workingDir :=
    List.filter_eq_self.mpr fun s hs => by simp [(hnamed s hs).notIdle]
  rw [Path.steps_join hrel, htext, Path.steps_intercalate fun s hs => (hnamed s hs).noSlash, hidle]

/-- Both names lead to the same place. -/
theorem place_home : d.place home = d.place dir := by
  cases hrel : dir.isAbsolute with
  | true =>
    rw [absolutePath_of_isAbsolute hrel, Except.ok.injEq] at hhome
    rw [hhome]
  | false =>
    have hup : ".." ∉ d.workingDir := fun hmem => ((hground hrel).named _ hmem).notUp rfl
    have horigin : d.origin dir = d.workingDir := by simp [Disk.origin, hrel]
    rw [Disk.place_of_isAbsolute (isAbsolute_home hhome), steps_home hhome hground hrel,
      List.foldl_append, Disk.foldl_walk hup, List.nil_append, Disk.place, horigin]

theorem enterAll_home :
    d.enterAll (d.origin home) home.steps = d.enterAll (d.origin dir) dir.steps := by
  cases hrel : dir.isAbsolute with
  | true =>
    rw [absolutePath_of_isAbsolute hrel, Except.ok.injEq] at hhome
    rw [hhome]
  | false =>
    have horigin : d.origin dir = d.workingDir := by simp [Disk.origin, hrel]
    have horigin' : d.origin home = [] := by simp [Disk.origin, isAbsolute_home hhome]
    rw [steps_home hhome hground hrel, horigin, horigin', Disk.enterAll_append,
      (hground hrel).reached]

theorem place_ledgerPath_home : d.place (ledgerPath home) = d.place (ledgerPath dir) := by
  rw [Ledger.place_ledgerPath, Ledger.place_ledgerPath, place_home hhome hground]

end Home

/-- The path of a ledger leads to a file when the system accepts it, its directory is there, and the
file lies in that. -/
theorem find_ledgerPath_iff {d : Disk} {dir : Path} {l : Location} {content : ByteArray} :
    d.find (ledgerPath dir) = .ok (l, .file content) ↔
      (ledgerPath dir).Accepted ∧ d.node? (d.origin dir) = some .directory ∧
        d.enterAll (d.origin dir) dir.steps = .ok (d.place dir) ∧
        l = d.place (ledgerPath dir) ∧ d.node? l = some (.file content) := by
  have hname := Ledger.isAbsolute_ledgerName
  have horigin : d.origin (ledgerPath dir) = d.origin dir := by
    rw [Disk.origin, Disk.origin, ledgerPath, Path.isAbsolute_join_eq hname]
  have hsteps : (ledgerPath dir).steps = dir.steps ++ [".avsstate"] := by
    rw [ledgerPath, Path.steps_join hname, Ledger.steps_ledgerName]
  rw [Disk.find_file_iff, horigin, hsteps, Ledger.place_ledgerPath]
  constructor
  · rintro ⟨haccepted, -, hstart, front, last, here, hfront, -, henter, -, rfl, hnode⟩
    obtain ⟨rfl, hlast⟩ := List.append_inj' hfront rfl
    obtain rfl : ".avsstate" = last := (List.cons.inj hlast).1
    obtain rfl : here = d.place dir := Disk.enterAll_ok (Disk.dot_not_mem_steps dir) henter
    exact ⟨haccepted, hstart, henter, rfl, hnode⟩
  · rintro ⟨haccepted, hstart, henter, rfl, hnode⟩
    refine ⟨haccepted, fun s hs => ?_, hstart, dir.steps, ".avsstate", d.place dir, rfl, by decide,
      henter, by decide, rfl, hnode⟩
    have hsegments : Path.segments ⟨ledgerName⟩ = [".avsstate"] := by decide +kernel
    rw [ledgerPath, Path.getLast?_segments_join hname, hsegments] at hs
    rw [← Option.some.inj hs]
    decide

/-- Both paths lead to the same ledger, as far as the system accepts the full one. -/
theorem find_ledgerPath_home_iff {d : Disk} {dir home : Path}
    (hhome : absolutePath dir d = .ok home) (hground : dir.isAbsolute = false → d.Grounded)
    {l : Location} {content : ByteArray} :
    d.find (ledgerPath home) = .ok (l, .file content) ↔
      (ledgerPath home).Accepted ∧ d.find (ledgerPath dir) = .ok (l, .file content) := by
  rw [find_ledgerPath_iff, find_ledgerPath_iff, enterAll_home hhome hground,
    place_home hhome hground, place_ledgerPath_home hhome hground]
  constructor
  · rintro ⟨haccepted, hstart, hrest⟩
    exact ⟨haccepted, accepted_ledgerPath_of_home hhome haccepted, node?_origin_home hhome hstart,
      hrest⟩
  · rintro ⟨haccepted, -, -, hrest⟩
    have hstart : d.node? (d.origin home) = some .directory := by
      simp [Disk.origin, isAbsolute_home hhome, Disk.node?]
    exact ⟨haccepted, hstart, hrest⟩

/-- A full name only depends on the working directory and whether it is there. -/
theorem absolutePath_congr {d e : Disk} (h : d.KeepsDirs e) (h' : e.KeepsDirs d) (dir : Path) :
    absolutePath dir e = absolutePath dir d := by
  have hnode : e.node? d.workingDir = some .directory ↔ d.node? d.workingDir = some .directory :=
    ⟨h'.directory _, h.directory _⟩
  simp only [absolutePath, Disk.workingPath, h.workingDir, hnode]

/-- A directory that has a full name keeps it. -/
theorem absolutePath_mono {d e : Disk} (h : d.KeepsDirs e) {dir home : Path}
    (hhome : absolutePath dir d = .ok home) : absolutePath dir e = .ok home := by
  cases hrel : dir.isAbsolute with
  | true =>
    rw [absolutePath_of_isAbsolute hrel] at hhome ⊢
    exact hhome
  | false =>
    obtain ⟨hnode, rfl⟩ := home_of_relative hhome hrel
    have hnode' := h.directory _ hnode
    simp [absolutePath, Disk.workingPath, hrel, h.workingDir, hnode']

/-- A directory whose ledger can be fetched has a full name. -/
theorem exists_home {d : Disk} {dir : Path} (hfile : d.isFile (ledgerPath dir) = true) :
    ∃ home, absolutePath dir d = .ok home := by
  cases hrel : dir.isAbsolute with
  | true => exact ⟨dir, absolutePath_of_isAbsolute hrel d⟩
  | false =>
    obtain ⟨content, hfind⟩ := Disk.find_of_isFile hfile
    obtain ⟨-, hstart, -⟩ := find_ledgerPath_iff.mp hfind
    have hworking : d.node? d.workingDir = some .directory := by
      simpa [Disk.origin, hrel] using hstart
    refine ⟨Path.join ⟨"/" ++ "/".intercalate d.workingDir⟩ dir.text, ?_⟩
    simp [absolutePath, Disk.workingPath, hrel, hworking]

/-! ## Storing and cleaning -/

namespace Ledger

section Store

variable {d e : Disk} {dir home : Path}

/-- A ledger is stored under the full name of its directory. -/
theorem store_eq_home (hhome : absolutePath dir d = .ok home) (files : List Path) :
    Ledger.store ⟨dir, files⟩ d = Ledger.store ⟨home, files⟩ d := by
  simp only [Ledger.store, hhome, absolutePath_of_isAbsolute (isAbsolute_home hhome)]

/-- What has been stored is the ledger under the full name of its directory. -/
theorem store_ok_home {files : List Path} {l : Ledger}
    (h : Ledger.store ⟨dir, files⟩ d = (.ok l, e)) :
    ∃ home, absolutePath dir d = .ok home ∧ l = ⟨home, files⟩ ∧
      d.WroteAll e [(ledgerPath home, l.encode.toUTF8)] ∧ Ledger.load home e = .ok l := by
  cases hhome : absolutePath dir d with
  | error err => simp [Ledger.store, hhome] at h
  | ok home =>
    rw [store_eq_home hhome] at h
    have habs := isAbsolute_home hhome
    obtain ⟨rfl, hwrote⟩ := store_ok (l := ⟨home, files⟩) habs h
    exact ⟨home, rfl, rfl, hwrote, load_of_store (l := ⟨home, files⟩) habs h⟩

/-- Where a ledger could be fetched, one is stored in its place, as long as directories are kept and
the system accepts the full name. -/
theorem store_home (hhome : absolutePath dir d = .ok home)
    (hground : dir.isAbsolute = false → d.Grounded) (haccepted : (ledgerPath home).Accepted)
    (hfile : d.isFile (ledgerPath dir) = true) (hkeeps : d.KeepsDirs e)
    (hhome' : absolutePath dir e = .ok home)
    (hnode : e.node? (d.place (ledgerPath dir)) ≠ some .directory) (files : List Path) :
    Ledger.store ⟨dir, files⟩ e = (.ok ⟨home, files⟩,
      e.put (d.place (ledgerPath dir)) (.file (Ledger.encode ⟨home, files⟩).toUTF8)) := by
  obtain ⟨content, hfind⟩ := Disk.find_of_isFile hfile
  have hfind' := (find_ledgerPath_home_iff hhome hground).mpr ⟨haccepted, hfind⟩
  have hplace := place_ledgerPath_home hhome hground
  have hwritable := Disk.writable_of_isFile (Disk.isFile_of_find hfind') hkeeps (hplace ▸ hnode)
  have hstore := store_of_writable (l := ⟨home, files⟩) (isAbsolute_home hhome) hwritable
  rw [store_eq_home hhome', hstore, ← hplace, hkeeps.place_eq]

end Store

/-- There is a ledger that lists something, and one can be stored in its place. -/
structure Ready (dir : Path) (d : Disk) (l : Ledger) (home : Path) : Prop where
  load : Ledger.load dir d = .ok l
  lists : l.files ≠ []
  named : absolutePath dir d = .ok home
  accepted : (ledgerPath home).Accepted

/-- In a directory that is given in full, a ledger can be stored where one was found. -/
theorem ready_of_load {dir : Path} (hdir : dir.isAbsolute = true) {d : Disk} {l : Ledger}
    (hload : Ledger.load dir d = .ok l) (hlists : l.files ≠ []) : Ready dir d l dir := by
  obtain ⟨content, hfind⟩ := Disk.find_of_isFile (isFile_of_load hload)
  exact ⟨hload, hlists, absolutePath_of_isAbsolute hdir d, Disk.accepted_of_find hfind⟩

section Clean

variable {d f : Disk} {dir : Path} {summary : CleanSummary}
  (hground : dir.isAbsolute = false → d.Grounded)

include hground

/-- Once all files are removed, the empty ledger is stored. -/
theorem Ready.store_of_run {l : Ledger} {home : Path} (h : Ready dir d l home) {e : Disk}
    (hrun : removeListed (l.listed dir) {} d = (.ok summary, e)) :
    Ledger.store ⟨dir, []⟩ e = (.ok ⟨home, []⟩,
      e.put (d.place (ledgerPath dir)) (.file (Ledger.encode ⟨home, []⟩).toUTF8)) := by
  obtain ⟨hremoved, -⟩ := removeListed_ok hrun
  have hfile := isFile_of_load h.load
  exact store_home h.named hground h.accepted hfile hremoved.keepsDirs
    ((absolutePath_congr hremoved.keepsDirs hremoved.keepsDirs' dir).trans h.named)
    (node?_ledgerPath_of_removed hremoved hfile) []

/-- Cleaning goes well exactly when there is a ledger that lists something, all of it is removed,
and the ledger can be stored. -/
theorem clean_ok_iff :
    Ledger.clean dir d = (.ok summary, f) ↔
      ∃ l home e, Ready dir d l home ∧ removeListed (l.listed dir) {} d = (.ok summary, e) ∧
        f = e.put (d.place (ledgerPath dir)) (.file (Ledger.encode ⟨home, []⟩).toUTF8) := by
  constructor
  · intro h
    obtain ⟨l, e, l', hload, hfiles, hrun, hstore⟩ := run_of_clean_ok h
    obtain ⟨hremoved, -⟩ := removeListed_ok hrun
    obtain ⟨home, hhome, -, -, hstored⟩ := store_ok_home hstore
    rw [absolutePath_congr hremoved.keepsDirs hremoved.keepsDirs'] at hhome
    -- what was stored can be fetched, so its path is one that the system accepts
    obtain ⟨content, hfind⟩ := Disk.find_of_isFile (isFile_of_load hstored)
    obtain ⟨haccepted, -⟩ := find_ledgerPath_iff.mp hfind
    have hready : Ready dir d l home := ⟨hload, hfiles, hhome, haccepted⟩
    have hput := hready.store_of_run hground hrun
    rw [hstore] at hput
    exact ⟨l, home, e, hready, hrun, (Prod.mk.inj hput).2⟩
  · rintro ⟨l, home, e, hready, hrun, rfl⟩
    have hput := hready.store_of_run hground hrun
    unfold listed at hrun
    simp only [Ledger.clean, hready.load, hrun, hput, List.isEmpty_iff, hready.lists, if_false]

/-- Cleaning that goes well neither makes nor removes directories. -/
theorem keepsDirs_of_clean_home (h : Ledger.clean dir d = (.ok summary, f)) :
    d.KeepsDirs f ∧ f.KeepsDirs d := by
  obtain ⟨l, home, e, hready, hrun, rfl⟩ := (clean_ok_iff hground).mp h
  obtain ⟨hremoved, -⟩ := removeListed_ok hrun
  have hledger := node?_ledgerPath_of_removed hremoved (isFile_of_load hready.load)
  have hplace : d.place (ledgerPath dir) ≠ [] := by simp [place_ledgerPath]
  constructor
  · refine ⟨hremoved.keepsDirs.workingDir, fun m hm => ?_⟩
    have hm' := hremoved.keepsDirs.directory m hm
    rw [Disk.node?_put hplace, if_neg]
    · exact hm'
    · rintro rfl
      exact hledger hm'
  · refine ⟨hremoved.keepsDirs'.workingDir, fun m hm => ?_⟩
    rw [Disk.node?_put hplace] at hm
    split at hm
    · cases hm
    · exact hremoved.keepsDirs'.directory m hm

/-- Cleaning that goes well removes all that the ledger lists and leaves an empty ledger, which
names the directory in full. -/
theorem clean_ok_home (h : Ledger.clean dir d = (.ok summary, f)) :
    ∃ l home e, Ready dir d l home ∧ removeListed (l.listed dir) {} d = (.ok summary, e) ∧
      Ledger.load dir f = .ok ⟨home, []⟩ ∧
      ∀ m, f.node? m = if m = d.place (ledgerPath dir)
        then some (.file (Ledger.encode ⟨home, []⟩).toUTF8) else e.node? m := by
  obtain ⟨hkeeps, -⟩ := keepsDirs_of_clean_home hground h
  obtain ⟨l, home, e, hready, hrun, rfl⟩ := (clean_ok_iff hground).mp h
  have hplace : d.place (ledgerPath dir) ≠ [] := by simp [place_ledgerPath]
  refine ⟨l, home, e, hready, hrun, ?_, fun m => Disk.node?_put hplace⟩
  obtain ⟨content, hfind⟩ := Disk.find_of_isFile (isFile_of_load hready.load)
  have hnode := Disk.node?_put (d := e) (m := d.place (ledgerPath dir))
    (n := .file (Ledger.encode ⟨home, []⟩).toUTF8) hplace
  rw [if_pos rfl] at hnode
  exact load_of_read (Disk.read_of_find
    (Disk.find_file_mono hkeeps hfind ((Disk.place_of_find hfind).symm ▸ hnode)))

end Clean

end Ledger

end DeviceSpec
