import DeviceSpec.Proofs.Command.Record
import DeviceSpec.Proofs.Disk.Overwrite
import DeviceSpec.Proofs.Generate.Course

/-!
# Generating once more

A description that has been generated and recorded can be again, as long as the directories are
kept, and what has become of the files in between makes no difference: each of them is written anew.

* **one item** — it is written where its path can be written to (`Item.written_of_writable`);
* **a run** — items that can all be written to are written over what is there
  (`allWritten_of_writable`);
* **the command** — it answers with the ledger of a run that goes well, and so do the commands that
  prepare a description first (`generateAndRecord_ok_iff`, `prepared_ok_iff`);
* **once more** — the same files are listed, and the disk is the one after the first run
  (`recordAgain`).
-/

namespace DeviceSpec

/-- Generating and recording goes well. -/
structure Spec.GoesWell (s : Spec) (dir : Path) (d : Disk) : Prop where
  generates : (s.generate dir d).failure = none
  records : s.Records dir d

/-- Generating and recording on the second disk comes to what it came to on the first. -/
structure Spec.ComesTo (s : Spec) (dir : Path) (d e : Disk) : Prop where
  goesWell : s.GoesWell dir e
  ledger : s.newLedger dir e = s.newLedger dir d
  node? : ∀ l, (s.recordDisk dir e).node? l = (s.recordDisk dir d).node? l

section
variable {s : Spec} {dir : Path} {i : Item} {is : List Item} {d e f : Disk}

/-! ## A run -/

/-- The item has a name that is allowed and a text, and its path can be written to. -/
structure Item.Ready (s : Spec) (dir : Path) (d : Disk) (i : Item) : Prop where
  inside : isInsideName (i.fileName s) = true
  rendered : ∃ text, i.render? s = some text
  writable : d.Writable (dir.join (i.fileName s))

theorem Item.written_of_writable (hdir : dir.isAbsolute = true) (h : i.Ready s dir d) :
    ∃ e, i.Written s dir d e ∧ d.Overwrote e (writes s dir [i]) := by
  obtain ⟨hinside, ⟨text, hrender⟩, hwritable⟩ := h
  have hmake := hwritable.makeParents (Path.isAbsolute_join hdir (i.fileName s))
  have hwrite := hwritable.write text.toUTF8
  have hwrites : writes s dir [i] = [(dir.join (i.fileName s), text.toUTF8)] := by
    simp [writes, Item.write?, hrender]
  exact ⟨_, ⟨hinside, text, d, hrender, hmake, hwrite⟩, hwrites ▸ Disk.overwrote_write hwrite⟩

/-- Items that can be written to are written one after the other, and nothing else changes. -/
theorem allWritten_of_writable (hdir : dir.isAbsolute = true) (h : ∀ i ∈ is, i.Ready s dir d) :
    ∃ e, AllWritten s dir is d e ∧ d.Overwrote e (writes s dir is) := by
  induction is generalizing d with
  | nil => exact ⟨d, .nil d, Disk.Overwrote.refl d⟩
  | cons i is ih =>
    obtain ⟨e, hwritten, hover⟩ := Item.written_of_writable hdir (h i List.mem_cons_self)
    -- the others can still be written to when the first has been
    have hrest : ∀ j ∈ is, j.Ready s dir e := by
      intro j hj
      obtain ⟨hinside, hrendered, hwritable⟩ := h j (List.mem_cons_of_mem i hj)
      exact ⟨hinside, hrendered, hover.writable hwritable⟩
    obtain ⟨f, hall, hover'⟩ := ih hrest
    have hwrites : writes s dir (i :: is) = writes s dir [i] ++ writes s dir is := by
      rw [writes, writes, writes, ← List.filterMap_append]
      rfl
    exact ⟨f, .cons hwritten hall, hwrites ▸ hover.append hover'⟩

/-- A ledger is written over what is there too. -/
theorem Ledger.overwrote_store {l : Ledger} (hdir : l.dir.isAbsolute = true)
    (h : d.Writable (ledgerPath l.dir)) :
    ∃ e, l.store d = (.ok l, e) ∧ d.Overwrote e [(ledgerPath l.dir, l.encode.toUTF8)] :=
  ⟨_, store_of_writable hdir h, Disk.overwrote_write (h.write l.encode.toUTF8)⟩

/-! ## The command -/

/-- What is answered is the ledger that has been stored. -/
theorem ledger_of_generateAndRecord (hdir : dir.isAbsolute = true) {w : World} {l : Ledger}
    (hl : ((generateAndRecord s dir).perform w).1 = .ok l) : l = s.newLedger dir w.disk := by
  obtain ⟨hfailure, hstore⟩ := generateAndRecord_ok (Prod.ext hl rfl)
  rw [newLedger_of_ok hfailure]
  exact (Ledger.store_ok (l := ⟨dir, _⟩) hdir hstore).1

/-- The command answers with the ledger of the run when all goes well, and only then. -/
theorem generateAndRecord_ok_iff (hdir : dir.isAbsolute = true) {w : World} {l : Ledger} :
    (∃ w', (generateAndRecord s dir).perform w = (.ok l, w') ∧ w'.disk = e) ↔
      s.GoesWell dir w.disk ∧ l = s.newLedger dir w.disk ∧ e = s.recordDisk dir w.disk := by
  obtain ⟨hdisk, hok⟩ := perform_generateAndRecord s dir w
  rw [← recordDisk_eq] at hdisk
  have hledger : ∀ l, ((generateAndRecord s dir).perform w).1 = .ok l →
      l = s.newLedger dir w.disk := fun l => ledger_of_generateAndRecord hdir
  generalize (generateAndRecord s dir).perform w = performed at hdisk hok hledger ⊢
  obtain ⟨result, w₁⟩ := performed
  constructor
  · rintro ⟨w', hperform, he⟩
    obtain ⟨hresult, rfl⟩ := Prod.mk.inj hperform
    obtain ⟨hfailure, hrecords⟩ := hok.mp ⟨l, hresult⟩
    exact ⟨⟨hfailure, hrecords⟩, hledger l hresult, he.symm.trans hdisk⟩
  · rintro ⟨⟨hfailure, hrecords⟩, hl, he⟩
    obtain ⟨l', hl'⟩ := hok.mpr ⟨hfailure, hrecords⟩
    have hresult : result = .ok l := by
      rw [hl, ← hledger l' hl']
      exact hl'
    exact ⟨w₁, by rw [hresult], hdisk.trans he.symm⟩

/-- What has been prepared is generated and recorded. -/
theorem prepared_ok_iff {α : Type} {prepare : Action (Path × Spec)}
    {next : Path × Spec → Ledger → Action α} {value : Path × Spec → Ledger → α} {w : World} {v : α}
    (habs : ∀ ready w', prepare.perform w = (.ok ready, w') → ready.1.isAbsolute = true)
    (hnext : ∀ ready l, (next ready l).Yields (value ready l)) :
    (∃ w', (prepare >>= fun ready => generateAndRecord ready.2 ready.1 >>= next ready).perform w =
        (.ok v, w') ∧ w'.disk = e) ↔
      ∃ ready w', prepare.perform w = (.ok ready, w') ∧ ready.2.GoesWell ready.1 w'.disk ∧
        v = value ready (ready.2.newLedger ready.1 w'.disk) ∧
        e = ready.2.recordDisk ready.1 w'.disk := by
  constructor
  · rintro ⟨w', hperform, rfl⟩
    obtain ⟨ready, w₁, hready, hrest⟩ := Action.perform_bind_ok_iff.mp hperform
    obtain ⟨l, w₂, hgenerate, hlast⟩ := Action.perform_bind_ok_iff.mp hrest
    obtain ⟨w₃, hyields, hdisk⟩ := hnext ready l w₂
    rw [hyields] at hlast
    cases hlast
    obtain ⟨hwell, hl, hrecord⟩ :=
      (generateAndRecord_ok_iff (habs ready w₁ hready)).mp ⟨w₂, hgenerate, rfl⟩
    exact ⟨ready, w₁, hready, hwell, congrArg _ hl, hdisk.trans hrecord⟩
  · rintro ⟨ready, w₁, hready, hwell, rfl, rfl⟩
    obtain ⟨w₂, hgenerate, hrecord⟩ :=
      (generateAndRecord_ok_iff (habs ready w₁ hready)).mpr ⟨hwell, rfl, rfl⟩
    obtain ⟨w₃, hyields, hdisk⟩ := hnext ready (ready.2.newLedger ready.1 w₁.disk) w₂
    have hrest := Action.perform_bind_ok_iff.mpr ⟨_, w₂, hgenerate, hyields⟩
    exact ⟨w₃, Action.perform_bind_ok_iff.mpr ⟨ready, w₁, hready, hrest⟩, hdisk.trans hrecord⟩

/-! ## Once more -/

/-- What is written when all goes well: every item, and then the ledger that lists them. -/
theorem Spec.GoesWell.recordWrites (h : s.GoesWell dir d) :
    s.recordWrites dir d = writes s dir s.items ++
      [(ledgerPath dir, (s.newLedger dir d).encode.toUTF8)] := by
  rw [Spec.recordWrites, if_pos h.records, (generate_ran s dir d).2 h.generates]

/-- The ledger lists every item when all goes well. -/
theorem Spec.GoesWell.newLedger (h : s.GoesWell dir d) :
    s.newLedger dir d = ⟨dir, s.items.map fun i => dir.join (i.fileName s)⟩ := by
  have hran := (generate_ran s dir d).1.written
  rw [(generate_ran s dir d).2 h.generates] at hran
  rw [newLedger_of_ok h.generates, Generation.paths, hran, List.map_map]
  rfl

/-- Where all items and the ledger can be written to, all goes well, and they are written over what
is there. -/
theorem recorded_of_writable (hdir : dir.isAbsolute = true)
    (hready : ∀ i ∈ s.items, i.Ready s dir d) (hledger : d.Writable (ledgerPath dir)) :
    s.GoesWell dir d ∧ d.Overwrote (s.recordDisk dir d) (s.recordWrites dir d) := by
  obtain ⟨e, hall, hover⟩ := allWritten_of_writable hdir hready
  have hgenerate := generate_of_allWritten hall
  have hgenerates : (s.generate dir d).failure = none := by rw [hgenerate]
  have hpath : ledgerPath (s.newLedger dir d).dir = ledgerPath dir := by rw [newLedger_dir]
  have habs : (s.newLedger dir d).dir.isAbsolute = true := by rw [newLedger_dir, hdir]
  have hledger' : e.Writable (ledgerPath (s.newLedger dir d).dir) := by
    rw [hpath]
    exact hover.writable hledger
  obtain ⟨f, hstore, hover'⟩ := Ledger.overwrote_store habs hledger'
  have hstored : (s.newLedger dir d).store (s.generate dir d).disk =
      (.ok (s.newLedger dir d), f) := by
    rw [hgenerate, hstore]
  have hwell : s.GoesWell dir d := ⟨hgenerates, _, by rw [hstored]⟩
  refine ⟨hwell, ?_⟩
  rw [recordDisk_eq, hstored, hwell.recordWrites, ← hpath]
  exact hover.append hover'

/-- Generating and recording once more restores what the first run has left, whatever has become of
the files that it wrote. -/
theorem recordAgain (hdir : dir.isAbsolute = true) (h : s.GoesWell dir d)
    (hsame : (s.recordDisk dir d).SameApart e (s.recordWrites dir d)) : s.ComesTo dir d e := by
  obtain ⟨hwrote, -, -⟩ := recordDisk_spec (s := s) hdir d
  have hran := (generate_ran s dir d).1
  -- what has been written once can be written again
  have hwritable : ∀ w ∈ s.recordWrites dir d, e.Writable w.1 := fun w => hsame.writable hwrote
  rw [h.recordWrites] at hwritable
  have hready : ∀ i ∈ s.items, i.Ready s dir e := by
    intro i hi
    obtain ⟨text, hrender⟩ := exists_render_of_mem_items hi
    refine ⟨hran.inside i ((generate_ran s dir d).2 h.generates ▸ hi), ⟨text, hrender⟩, ?_⟩
    exact hwritable _ (List.mem_append_left _ (mem_writes.mpr ⟨i, hi, text, hrender, rfl⟩))
  have hledgerPath : e.Writable (ledgerPath dir) :=
    hwritable _ (List.mem_append_right _ (List.mem_singleton_self _))
  obtain ⟨hwell, hover⟩ := recorded_of_writable hdir hready hledgerPath
  have hledger : s.newLedger dir e = s.newLedger dir d := by rw [hwell.newLedger, h.newLedger]
  have hwrites : s.recordWrites dir e = s.recordWrites dir d := by
    rw [hwell.recordWrites, h.recordWrites, hledger]
  rw [hwrites] at hover
  exact ⟨hwell, hledger, hsame.node?_eq hwrote hover⟩

end

end DeviceSpec
