import DeviceSpec.Ledger
import DeviceSpec.Proofs.Disk.Change
import DeviceSpec.Proofs.Json.Restore

/-!
# Keeping a ledger

A ledger that has been stored is the one that is fetched, and one that could not be stored leaves
none to be fetched.

* **format** — a ledger is read back from its document (`Ledger.decode_encode`);
* **storing** — storing writes one file (`Ledger.store_ok`), from which the ledger is fetched again
  (`Ledger.load_of_store`);
* **failing** — when storing fails, nothing is fetched afterwards (`Ledger.store_error`);
* **fetching** — what is fetched only depends on that file (`Ledger.load_congr`), so it stays when
  nothing is written there (`load_of_sparesLedger`).
-/

namespace DeviceSpec

open Json

/-! ## Saving a document -/

section Document

variable {document : String} {p : Path} {d e : Disk}

theorem wroteAll_saveDocument (h : saveDocument document p d = (.ok (), e)) :
    d.WroteAll e [(p, document.toUTF8)] := by
  unfold saveDocument at h
  split at h
  · cases h
  · split at h
    · cases h
    · rename_i f hwrite
      cases h
      exact Disk.wroteAll_writeWithParents hwrite

/-- A document that has been saved is read back. -/
theorem read_of_saveDocument (h : saveDocument document p d = (.ok (), e)) :
    e.read p = .ok document.toUTF8 := by
  refine (wroteAll_saveDocument h).read List.mem_cons_self ?_
  rw [Disk.lastAt_singleton, if_pos rfl]

/-- A document that cannot be saved is not there, and nothing but directories is made. -/
theorem of_saveDocument_error (hp : p.isAbsolute = true) {err : SpecError}
    (h : saveDocument document p d = (.error err, e)) : e.isFile p = false ∧ d.MoreDirs e := by
  unfold saveDocument at h
  split at h
  · rename_i hrel
    simp [hp] at hrel
  · split at h
    · rename_i f hwrite
      cases h
      exact Disk.of_writeWithParents_error hp hwrite
    · cases h

end Document

theorem absolutePath_of_isAbsolute {p : Path} (hp : p.isAbsolute = true) (d : Disk) :
    absolutePath p d = .ok p := by
  rw [absolutePath, if_pos hp]

namespace Ledger

/-! ## The document -/

theorem lawful_pathCodec {n : Nat} : pathCodec.Lawful n := by
  have htext := (lawful_textNamed "path string").mono (Nat.zero_le n)
  refine ⟨fun p depth indent gap rest hdepth hgap => ?_, fun indent p => htext.opens indent p.text⟩
  have hread := htext.readsBack p.text depth indent gap rest hdepth hgap
  show ((textNamed "path string").read depth
    (gap ++ ((textNamed "path string").write indent p.text ++ rest)) >>= _) = _
  rw [hread]
  rfl

theorem lawful_codec {n : Nat} : Ledger.record.codec.Lawful (n + 2) :=
  lawful_record (by decide) fun _ =>
    .required lawful_pathCodec <| .required (lawful_listOf lawful_pathCodec) .done

/-- A ledger is read back from its document. -/
theorem decode_encode (l : Ledger) : Ledger.decode l.encode = .ok l :=
  Json.decode_encode ((lawful_codec (n := 0)).readsBack l) (by decide)

/-! ## Fetching -/

theorem fromUTF8?_toUTF8 (s : String) : String.fromUTF8? s.toUTF8 = some s := by
  have hvalid : s.toUTF8.IsValidUTF8 := s.isValidUTF8
  unfold String.fromUTF8?
  rw [dif_pos hvalid]
  rfl

/-- What is fetched depends on one file only. -/
theorem load_congr {dir : Path} {d e : Disk}
    (h : e.read (ledgerPath dir) = d.read (ledgerPath dir)) :
    Ledger.load dir e = Ledger.load dir d := by
  unfold Ledger.load Disk.readText
  simp only [h]

/-- A ledger is fetched from its content, wherever that lies. -/
theorem load_of_same_content {dir dir' : Path} {d e : Disk} {content : ByteArray} {l : Ledger}
    (hd : d.read (ledgerPath dir) = .ok content) (he : e.read (ledgerPath dir') = .ok content)
    (hl : Ledger.load dir d = .ok l) : Ledger.load dir' e = .ok l := by
  unfold Ledger.load Disk.readText at hl ⊢
  simp only [hd] at hl
  simp only [he]
  cases htext : String.fromUTF8? content with
  | none => simp [htext] at hl
  | some text =>
    simp only [htext] at hl ⊢
    cases hdecode : Ledger.decode text with
    | error err => simp [hdecode] at hl
    | ok l' => simpa [hdecode] using hl

theorem isFile_of_load {dir : Path} {d : Disk} {l : Ledger} (h : Ledger.load dir d = .ok l) :
    d.isFile (ledgerPath dir) = true := by
  unfold Ledger.load Disk.readText at h
  cases hread : d.read (ledgerPath dir) with
  | error e => cases e <;> simp [hread] at h
  | ok content =>
    exact Disk.isFile_of_find (Disk.find_of_read hread)

theorem load_of_read {dir : Path} {d : Disk} {l : Ledger}
    (h : d.read (ledgerPath dir) = .ok l.encode.toUTF8) : Ledger.load dir d = .ok l := by
  unfold Ledger.load Disk.readText
  simp only [h, fromUTF8?_toUTF8, decode_encode]

/-! ## Storing -/

section Store

variable {l : Ledger} {d e : Disk}

/-- Storing writes one file. -/
theorem store_ok (hdir : l.dir.isAbsolute = true) {l' : Ledger} (h : l.store d = (.ok l', e)) :
    l' = l ∧ d.WroteAll e [(ledgerPath l.dir, l.encode.toUTF8)] := by
  unfold Ledger.store absolutePath at h
  simp only [hdir, if_true] at h
  split at h
  · cases h
  · rename_i f hsave
    cases h
    exact ⟨rfl, wroteAll_saveDocument hsave⟩

/-- A ledger that cannot be stored leaves no file to fetch one from, and nothing but directories is
made. -/
theorem store_error (hdir : l.dir.isAbsolute = true) {err : LedgerError}
    (h : l.store d = (.error err, e)) : e.isFile (ledgerPath l.dir) = false ∧ d.MoreDirs e := by
  unfold Ledger.store absolutePath at h
  simp only [hdir, if_true] at h
  split at h
  · rename_i f hsave
    cases h
    exact of_saveDocument_error (Path.isAbsolute_join hdir ledgerName) hsave
  · cases h

/-- The ledger that was stored is fetched. -/
theorem load_of_store (hdir : l.dir.isAbsolute = true) {l' : Ledger} (h : l.store d = (.ok l', e)) :
    Ledger.load l.dir e = .ok l := by
  obtain ⟨-, hwrote⟩ := store_ok hdir h
  refine load_of_read (hwrote.read List.mem_cons_self ?_)
  rw [Disk.lastAt_singleton, if_pos rfl]

theorem isAbsolute_ledgerName : Path.isAbsolute ⟨ledgerName⟩ = false := by decide +kernel

theorem steps_ledgerName : Path.steps ⟨ledgerName⟩ = [".avsstate"] := by decide +kernel

theorem up_not_mem_steps_ledgerName : ".." ∉ Path.steps ⟨ledgerName⟩ := by
  simp [steps_ledgerName]

/-- The ledger lies in its directory. -/
theorem place_ledgerPath (d : Disk) (dir : Path) :
    d.place (ledgerPath dir) = d.place dir ++ [".avsstate"] := by
  rw [ledgerPath, Disk.place_join isAbsolute_ledgerName up_not_mem_steps_ledgerName,
    steps_ledgerName]

theorem store_disk (hdir : l.dir.isAbsolute = true) :
    (l.store d).2 = (d.writeWithParents (ledgerPath l.dir) l.encode.toUTF8).2 := by
  have habs : (ledgerPath l.dir).isAbsolute = true := Path.isAbsolute_join hdir ledgerName
  unfold Ledger.store absolutePath saveDocument
  simp only [hdir, habs, if_true]
  cases d.writeWithParents (ledgerPath l.dir) l.encode.toUTF8 with
  | mk result e => cases result <;> simp

/-- Storing in a directory that is there changes nothing outside. -/
theorem store_outside (hdir : l.dir.isAbsolute = true) (hthere : d.isDir l.dir = true)
    {m : Location} (hm : ¬ d.place l.dir <+: m) : (l.store d).2.node? m = d.node? m := by
  rw [store_disk hdir]
  exact Disk.writeWithParents_outside hdir hthere isAbsolute_ledgerName
    up_not_mem_steps_ledgerName hm

/-- A ledger is stored where its path can be written to. -/
theorem store_of_writable (hdir : l.dir.isAbsolute = true) (h : d.Writable (ledgerPath l.dir)) :
    l.store d = (.ok l, d.put (d.place (ledgerPath l.dir)) (.file l.encode.toUTF8)) := by
  have habs : (ledgerPath l.dir).isAbsolute = true := Path.isAbsolute_join hdir ledgerName
  simp only [Ledger.store, absolutePath, saveDocument, hdir, habs, h.writeWithParents habs,
    if_true, Bool.not_true, Bool.false_eq_true, if_false]

/-- Where a ledger could be fetched, one can be stored, as long as directories are kept. -/
theorem store_of_isFile {dir : Path} (hdir : dir.isAbsolute = true)
    (hfile : d.isFile (ledgerPath dir) = true) (hkeeps : d.KeepsDirs e)
    (hnode : e.node? (d.place (ledgerPath dir)) ≠ some .directory) (files : List Path) :
    ∃ l' f, Ledger.store ⟨dir, files⟩ e = (.ok l', f) :=
  ⟨_, _, store_of_writable hdir (Disk.writable_of_isFile hfile hkeeps hnode)⟩

end Store

end Ledger

/-! ## Leaving a ledger alone -/

/-- The second disk comes from the first by writes that leave the ledger of a directory alone. -/
def Disk.SparesLedger (dir : Path) (d e : Disk) : Prop :=
  ∃ ws, d.WroteAll e ws ∧ ∀ w ∈ ws, d.place w.1 ≠ d.place (ledgerPath dir)

theorem Disk.MoreDirs.sparesLedger {d e : Disk} (h : d.MoreDirs e) (dir : Path) :
    d.SparesLedger dir e := ⟨[], h.wroteAll, nofun⟩

theorem Disk.SparesLedger.trans {dir : Path} {d e f : Disk} (h : d.SparesLedger dir e)
    (h' : e.SparesLedger dir f) : d.SparesLedger dir f := by
  obtain ⟨ws, hwrote, hws⟩ := h
  obtain ⟨ws', hwrote', hws'⟩ := h'
  refine ⟨ws ++ ws', hwrote.append hwrote', fun w hw => ?_⟩
  rcases List.mem_append.mp hw with hw | hw
  · exact hws w hw
  · rw [← hwrote.keepsDirs.place_eq, ← hwrote.keepsDirs.place_eq]
    exact hws' w hw

/-- A ledger that could be fetched is still fetched. -/
theorem load_of_sparesLedger {dir : Path} {d e : Disk} (h : d.SparesLedger dir e) {l : Ledger}
    (hl : Ledger.load dir d = .ok l) : Ledger.load dir e = .ok l := by
  obtain ⟨ws, hwrote, hspared⟩ := h
  obtain ⟨content, hfind⟩ := Disk.find_of_isFile (Ledger.isFile_of_load hl)
  have hlast : d.lastAt (d.place (ledgerPath dir)) ws = none :=
    Disk.lastAt_eq_none_iff.mpr hspared
  have hnode := hwrote.node?_file.mpr (.inr ⟨hlast, Disk.node?_of_find hfind⟩)
  have hfind' := Disk.find_file_mono hwrote.keepsDirs hfind hnode
  have hread := Disk.read_of_find hfind
  have hread' := Disk.read_of_find hfind'
  rw [Ledger.load_congr (hread'.trans hread.symm), hl]

end DeviceSpec
