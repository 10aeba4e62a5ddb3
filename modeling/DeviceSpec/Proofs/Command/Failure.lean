import DeviceSpec.Proofs.Command.Moved

/-!
# Runs that fail

A run that stops half way records what it has written, and after that what was recorded before.

* **the list** — what was listed before is added in its order, each file once
  (`exists_remainder`);
* **the run** — so nothing that was listed is lost, and no file is but for those that the run has
  written (`failed_run_recorded`).
-/

namespace DeviceSpec

/-- What is left of an earlier list after what has been written: its other files in their order,
each once. -/
structure Remainder (written previous kept : List Path) : Prop where
  sublist : kept.Sublist previous
  once : kept.Pairwise fun a b => a.same b = false
  unlisted : ∀ f ∈ written, ∀ k ∈ kept, f.same k = false
  complete : ∀ p ∈ previous, ∃ f ∈ written ++ kept, f.same p = true

/-! ## The list -/

/-- Adding what is not listed yet adds the remainder. -/
theorem exists_remainder (written previous : List Path) :
    ∃ kept, addUnlisted written previous = written ++ kept ∧ Remainder written previous kept := by
  induction previous generalizing written with
  | nil =>
    exact ⟨[], by simp [addUnlisted], List.Sublist.refl _, .nil, fun _ _ => List.forall_mem_nil _,
      List.forall_mem_nil _⟩
  | cons p rest ih =>
    rw [addUnlisted]
    split
    · rename_i hlisted
      obtain ⟨f, hf, hsame⟩ := List.any_eq_true.mp hlisted
      rw [Path.same_comm] at hsame
      obtain ⟨kept, hadd, hsub, honce, hunlisted, hcomplete⟩ := ih written
      refine ⟨kept, hadd, hsub.cons p, honce, hunlisted, fun q hq => ?_⟩
      rcases List.mem_cons.mp hq with rfl | hq
      · exact ⟨f, List.mem_append_left _ hf, hsame⟩
      · exact hcomplete q hq
    · rename_i hnew
      -- the file is listed now, so the rest adds no other spelling of it
      obtain ⟨kept, hadd, hsub, honce, hunlisted, hcomplete⟩ := ih (written ++ [p])
      have happend : written ++ [p] ++ kept = written ++ p :: kept := by simp
      rw [happend] at hadd hcomplete
      refine ⟨p :: kept, hadd, hsub.cons_cons p, ?_, ?_, fun q hq => ?_⟩
      · refine List.pairwise_cons.mpr ⟨fun k hk => ?_, honce⟩
        exact hunlisted p (List.mem_append_right _ List.mem_cons_self) k hk
      · intro f hf k hk
        rcases List.mem_cons.mp hk with rfl | hk
        · rw [Path.same_comm, ← Bool.not_eq_true]
          exact fun hsame => hnew (List.any_eq_true.mpr ⟨f, hf, hsame⟩)
        · exact hunlisted f (List.mem_append_left _ hf) k hk
      · rcases List.mem_cons.mp hq with rfl | hq
        · exact ⟨q, List.mem_append_right _ List.mem_cons_self, Path.same_refl q⟩
        · exact hcomplete q hq

/-! ## The run -/

section Run

variable {s : Spec} {dir : Path} {d : Disk}

/-- A run that stops half way fails with its reason, whatever becomes of the ledger. -/
theorem perform_generateAndRecord_error {w : World} {err : GenerateError}
    (h : (s.generate dir w.disk).failure = some err) :
    ((generateAndRecord s dir).perform w).1 = .error (.generate dir err) := by
  rw [(generateAndRecord_stores s dir w).1, Spec.recordResult, h]

/-- What was listed before is still listed, in its order after what the run has written. -/
theorem newLedger_of_failure (hfailure : (s.generate dir d).failure ≠ none)
    (hown : ∀ p ∈ (s.generate dir d).paths dir, d.place p ≠ d.place (ledgerPath dir)) {l : Ledger}
    (hl : Ledger.load dir d = .ok l) :
    ∃ kept, s.newLedger dir d = ⟨dir, (s.generate dir d).paths dir ++ kept⟩ ∧
      Remainder ((s.generate dir d).paths dir) l.files kept := by
  obtain ⟨kept, hadd, hrest⟩ := exists_remainder ((s.generate dir d).paths dir) l.files
  exact ⟨kept, by rw [newLedger_merges hfailure hown hl, hadd], hrest⟩

/-- What either list lists is listed. -/
theorem Remainder.lists_iff {written previous kept : List Path}
    (h : Remainder written previous kept) {p : Path} :
    (∃ f ∈ written ++ kept, f.same p = true) ↔
      (∃ f ∈ previous, f.same p = true) ∨ ∃ f ∈ written, f.same p = true := by
  constructor
  · rintro ⟨f, hf, hsame⟩
    rcases List.mem_append.mp hf with hf | hf
    · exact .inr ⟨f, hf, hsame⟩
    · exact .inl ⟨f, h.sublist.subset hf, hsame⟩
  · rintro (⟨f, hf, hsame⟩ | ⟨f, hf, hsame⟩)
    · obtain ⟨g, hg, hgf⟩ := h.complete f hf
      exact ⟨g, hg, Path.same_trans hgf hsame⟩
    · exact ⟨f, List.mem_append_left _ hf, hsame⟩

/-- A run fails in a directory with a ledger, without writing to that. Its ledger lists what the run
wrote, in order, and then what is left of the earlier list, so what is listed is what was listed or
written. The disk has changed by these writes and that of the ledger: no file is gone, and no other
file is another. -/
theorem failed_run_recorded (hdir : dir.isAbsolute = true) {l : Ledger}
    (hload : Ledger.load dir d = .ok l)
    (hown : ∀ p ∈ (s.generate dir d).paths dir, d.place p ≠ d.place (ledgerPath dir))
    {err : GenerateError} (hfailure : (s.generate dir d).failure = some err) :
    ∃ w kept ws,
      (generateAndRecord s dir).perform { disk := d } = (.error (.generate dir err), w) ∧
      ws.map Prod.fst = (s.generate dir d).paths dir ∧
      Ledger.load dir w.disk = .ok ⟨dir, ws.map Prod.fst ++ kept⟩ ∧
      Remainder (ws.map Prod.fst) l.files kept ∧
      (∀ p, (∃ f ∈ ws.map Prod.fst ++ kept, f.same p = true) ↔
        (∃ f ∈ l.files, f.same p = true) ∨ ∃ f ∈ ws.map Prod.fst, f.same p = true) ∧
      d.WroteAll w.disk
        (ws ++ [(ledgerPath dir, (Ledger.mk dir (ws.map Prod.fst ++ kept)).encode.toUTF8)]) ∧
      (∀ loc content, d.node? loc = some (.file content) →
        ∃ content', w.disk.node? loc = some (.file content')) ∧
      ∀ loc, loc ≠ d.place (ledgerPath dir) → (∀ v ∈ ws, d.place v.1 ≠ loc) → ∀ content,
        w.disk.node? loc = some (.file content) ↔ d.node? loc = some (.file content) := by
  obtain ⟨hran, -⟩ := generate_ran s dir d
  have hpaths := hran.map_fst_writes
  obtain ⟨kept, hledger, hrest⟩ := newLedger_of_failure (by simp [hfailure]) hown hload
  have hrecord : s.Records dir d := records_of_isFile hdir (Ledger.isFile_of_load hload)
  obtain ⟨hwrote, hrecords, -⟩ := recordDisk_spec (s := s) hdir d
  have hstored := hrecords hrecord
  have hwrites : s.recordWrites dir d = writes s dir (s.doneItems dir d) ++
      [(ledgerPath dir, (s.newLedger dir d).encode.toUTF8)] := by
    rw [Spec.recordWrites, if_pos hrecord]
  rw [hwrites, hledger] at hwrote
  rw [hledger] at hstored
  rw [← hpaths] at hwrote hstored hrest
  refine ⟨((generateAndRecord s dir).perform { disk := d }).2, kept,
    writes s dir (s.doneItems dir d), ?_, hpaths, hstored, hrest, fun p => hrest.lists_iff, hwrote,
    fun loc content hnode => ?_, fun loc hother hunwritten content => ?_⟩
  · exact Prod.ext (perform_generateAndRecord_error (w := { disk := d }) hfailure) rfl
  · -- where something is written a file stays, with another content
    cases hlast : d.lastAt loc _ with
    | some content' => exact ⟨content', hwrote.written loc content' hlast⟩
    | none => exact ⟨content, hwrote.node?_file.mpr (.inr ⟨hlast, hnode⟩)⟩
  · have hnone : d.lastAt loc (writes s dir (s.doneItems dir d) ++
        [(ledgerPath dir, (Ledger.mk dir ((writes s dir (s.doneItems dir d)).map Prod.fst
          ++ kept)).encode.toUTF8)]) = none := by
      rw [Disk.lastAt_eq_none_iff]
      intro v hv
      rcases List.mem_append.mp hv with hv | hv
      · exact hunwritten v hv
      · rw [List.mem_singleton.mp hv]
        exact hother.symm
    refine hwrote.node?_file.trans ?_
    rw [hnone]
    simp

end Run

/-! ## A second run -/

/-- The bundled profile, generated and recorded in a directory. -/
def recordedDirectory : Disk := profile.recordDisk ⟨"/d"⟩ oneDirectory

set_option maxRecDepth 100000 in
/-- With a name that is not allowed, a second run stops at the table of mounts. Until then it has
not written to the ledger. -/
theorem badName_again :
    (badName.generate ⟨"/d"⟩ recordedDirectory).failure = some (outsideName "/fstab") ∧
      (∀ p ∈ (badName.generate ⟨"/d"⟩ recordedDirectory).paths ⟨"/d"⟩,
        recordedDirectory.place p ≠ recordedDirectory.place (ledgerPath ⟨"/d"⟩)) ∧
      ⟨"/d/fstab.device"⟩ ∈ (profile.newLedger ⟨"/d"⟩ oneDirectory).files := by
  decide +kernel

/-- The table of mounts from the first run is still listed. -/
theorem failed_run_recorded_badName : ∃ l w, Ledger.load ⟨"/d"⟩ recordedDirectory = .ok l ∧
    (badName.generate ⟨"/d"⟩ recordedDirectory).failure = some (outsideName "/fstab") ∧
    ⟨"/d/fstab.device"⟩ ∈ l.files ∧
    (generateAndRecord badName ⟨"/d"⟩).perform { disk := recordedDirectory } =
      (.error (.generate ⟨"/d"⟩ (outsideName "/fstab")), w) ∧
    ∃ l', Ledger.load ⟨"/d"⟩ w.disk = .ok l' ∧ ∃ f ∈ l'.files, f.same ⟨"/d/fstab.device"⟩ = true := by
  obtain ⟨hfailure, hown, hfstab⟩ := badName_again
  obtain ⟨w, kept, ws, hperform, -, hload, -, hlists, -⟩ :=
    failed_run_recorded (by decide) load_recorded hown hfailure
  refine ⟨_, w, load_recorded, hfailure, hfstab, hperform, _, hload, ?_⟩
  exact (hlists _).mpr (.inl ⟨_, hfstab, Path.same_refl _⟩)

end DeviceSpec
