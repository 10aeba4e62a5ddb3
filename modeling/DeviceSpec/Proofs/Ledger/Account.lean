import DeviceSpec.Proofs.Ledger.Home

/-!
# What becomes of each listed path

Cleaning answers with three lists. They are read off the disk as it was before, path by path and in
order (`Disk.account`).

* **the account** — it has one entry for each path (`Disk.map_fst_account`), and a file that is
  listed again is missing the second time (`Disk.fate_of_mem`);
* **a later disk** — a path fares after some removals as it does after the paths that were removed
  (`Disk.Removed.fate_eq`);
* **the run** — the answer is what the account says (`removeListed_account`);
* **cleaning** — the three lists and the disk that is left (`clean_accounts`).
-/

namespace DeviceSpec

/-- What becomes of each path of a list, after some paths before it. -/
def Disk.account (d : Disk) (before : List Path) : List Path → List (Path × Fate)
  | [] => []
  | p :: rest => (p, d.fate before p) :: d.account (before ++ [p]) rest

theorem CleanSummary.add_nil (summary : CleanSummary) : summary.add [] = summary := by
  simp [add, having]

theorem having_cons (o : Fate) (entry : Path × Fate) (account : List (Path × Fate)) :
    having o (entry :: account) = having o [entry] ++ having o account := by
  unfold having
  by_cases h : entry.2 = o <;> simp [h]

theorem mem_having_iff {o : Fate} {account : List (Path × Fate)} {p : Path} :
    p ∈ having o account ↔ (p, o) ∈ account := by
  simp [having]

theorem CleanSummary.add_cons (summary : CleanSummary) (entry : Path × Fate)
    (account : List (Path × Fate)) :
    summary.add (entry :: account) = (summary.add [entry]).add account := by
  simp only [add, having_cons _ entry account, List.append_assoc]

namespace Disk

variable {d e : Disk}

theorem map_fst_account (d : Disk) (before files : List Path) :
    (d.account before files).map Prod.fst = files := by
  induction files generalizing before with
  | nil => rfl
  | cons p rest ih => rw [account, List.map_cons, ih]

theorem account_append (d : Disk) (before front rest : List Path) :
    d.account before (front ++ rest) =
      d.account before front ++ d.account (before ++ front) rest := by
  induction front generalizing before with
  | nil => simp [account]
  | cons p front ih => simp [account, ih]

/-- A file that is listed again is missing the second time. -/
theorem fate_of_mem {before : List Path} {p : Path} (hfile : d.isFile p = true)
    (hp : p ∈ before) : d.fate before p = .missing := by
  unfold fate
  rw [if_neg, if_neg]
  · exact fun hfirst => hfirst.2 p hp hfile rfl
  · intro hdir
    rw [isFile_of_isDir hdir] at hfile
    cases hfile

/-- Where nothing is there, a path is missing whatever came before. -/
theorem fate_of_gone {p : Path} (h : d.pathExists p = false) (before : List Path) :
    d.fate before p = .missing := by
  have hnone : d.isDir p = false ∧ d.isFile p = false := by
    constructor
    · exact Bool.eq_false_iff.mpr fun hdir => by simp [pathExists_iff.mpr (.inl hdir)] at h
    · exact Bool.eq_false_iff.mpr fun hfile => by simp [pathExists_iff.mpr (.inr hfile)] at h
  simp [fate, hnone]

/-! ## After some removals -/

/-- A file is still there exactly when no path that was removed led to it. -/
theorem Removed.isFile_iff {front : List Path} (h : d.Removed e front) {p : Path} :
    e.isFile p = true ↔
      d.isFile p = true ∧ ∀ q ∈ front, d.isFile q = true → d.place q ≠ d.place p := by
  constructor
  · intro hp
    refine ⟨h.isFile hp, fun q hq hfile hplace => ?_⟩
    obtain ⟨content, hnode⟩ := node?_of_isFile hp
    rw [h.keepsDirs.place_eq, ← hplace, h.gone q hq hfile] at hnode
    cases hnode
  · rintro ⟨hp, hspared⟩
    exact h.isFile_of_node?_eq hp (h.kept (d.place p) hspared)

theorem Removed.isDir_eq {front : List Path} (h : d.Removed e front) (p : Path) :
    e.isDir p = d.isDir p := by
  rw [Bool.eq_iff_iff]
  exact ⟨isDir_mono h.keepsDirs', isDir_mono h.keepsDirs⟩

/-- After some removals a path fares as it does after the paths that were removed. -/
theorem Removed.fate_eq {front : List Path} (h : d.Removed e front) (before : List Path)
    (p : Path) : e.fate before p = d.fate (front ++ before) p := by
  have hplace := h.keepsDirs.place_eq
  have hfirst : (e.isFile p = true ∧ ∀ q ∈ before, e.isFile q = true → e.place q ≠ e.place p) ↔
      d.isFile p = true ∧ ∀ q ∈ front ++ before, d.isFile q = true → d.place q ≠ d.place p := by
    simp only [List.forall_mem_append, hplace]
    rw [h.isFile_iff, and_assoc]
    refine and_congr_right fun _ => and_congr_right fun hspared => forall₂_congr fun q _ => ?_
    -- a path that leads where none of the removed ones did is a file before and afterwards
    constructor
    · intro hother hfile hsame
      exact hother (h.isFile_iff.mpr ⟨hfile, hsame ▸ hspared⟩) hsame
    · exact fun hother hfile => hother (h.isFile hfile)
  unfold fate
  simp only [h.isDir_eq, hfirst]

theorem Removed.account_eq {front : List Path} (h : d.Removed e front) (before files : List Path) :
    e.account before files = d.account (front ++ before) files := by
  induction files generalizing before with
  | nil => rfl
  | cons p rest ih => simp only [account, h.fate_eq, ih, List.append_assoc]

end Disk

/-! ## The run -/

/-- A run that goes well answers what becomes of each path. -/
theorem removeListed_account {files : List Path} {summary summary' : CleanSummary} {d e : Disk}
    (h : removeListed files summary d = (.ok summary', e)) :
    summary' = summary.add (d.account [] files) := by
  induction files generalizing d summary with
  | nil =>
    cases h
    exact (CleanSummary.add_nil _).symm
  | cons p rest ih =>
    rcases removeListed_step d p with ⟨-, e', hremoved, hrest⟩ | ⟨-, err, -, hstop⟩
    · rw [hrest] at h
      rw [ih h, hremoved.account_eq, Disk.account, List.append_nil, List.nil_append]
      exact (CleanSummary.add_cons _ _ _).symm
    · rw [hstop] at h
      cases h

/-! ## Cleaning -/

section Clean

variable {dir : Path} {d f : Disk} {l : Ledger} {summary : CleanSummary}

/-- Cleaning that goes well answers what the account says. -/
theorem summary_of_clean (hload : Ledger.load dir d = .ok l)
    (h : Ledger.clean dir d = (.ok summary, f)) :
    summary = CleanSummary.add {} (d.account [] (l.listed dir)) := by
  obtain ⟨l', e, -, hload', -, hrun, -⟩ := Ledger.run_of_clean_ok h
  obtain rfl : l = l' := Except.ok.inj (hload.symm.trans hload')
  exact removeListed_account hrun

/-- Cleaning that goes well answers the fate of every listed path, in order, and a file that is
listed again is missing there. All listed files are gone, every directory is kept, and nothing else
is changed but the ledger, which is empty then and names its directory in full. So there is nothing
to clean any more. -/
theorem clean_accounts (hground : dir.isAbsolute = false → d.Grounded)
    (hload : Ledger.load dir d = .ok l) (h : Ledger.clean dir d = (.ok summary, f)) :
    summary = CleanSummary.add {} (d.account [] (l.listed dir)) ∧
    (d.account [] (l.listed dir)).map Prod.fst = l.listed dir ∧
    (∀ front p rest, l.listed dir = front ++ p :: rest → d.isFile p = true → p ∈ front →
      d.account [] (l.listed dir) =
        d.account [] front ++ (p, .missing) :: d.account (front ++ [p]) rest) ∧
    (∀ p ∈ l.listed dir, d.isFile p = true → d.place p ≠ d.place (ledgerPath dir) →
      f.node? (d.place p) = none ∧ f.pathExists p = false) ∧
    (∀ m, f.node? m = some .directory ↔ d.node? m = some .directory) ∧
    (∀ m, m ≠ d.place (ledgerPath dir) →
      (∀ p ∈ l.listed dir, d.isFile p = true → d.place p ≠ m) → f.node? m = d.node? m) ∧
    ∃ home, absolutePath dir d = .ok home ∧
      f.node? (d.place (ledgerPath dir)) = some (.file (Ledger.encode ⟨home, []⟩).toUTF8) ∧
      Ledger.load dir f = .ok ⟨home, []⟩ ∧
      Ledger.clean dir f = (.error (.noLedger dir), f) := by
  obtain ⟨l', home, e, hready, hrun, hempty, hnode⟩ := Ledger.clean_ok_home hground h
  obtain rfl : l = l' := Except.ok.inj (hload.symm.trans hready.load)
  obtain ⟨hremoved, -⟩ := removeListed_ok hrun
  obtain ⟨hkeeps, hkeeps'⟩ := Ledger.keepsDirs_of_clean_home hground h
  refine ⟨summary_of_clean hload h, d.map_fst_account [] _, ?_, ?_, ?_, ?_,
    home, hready.named, ?_, hempty, Ledger.clean_of_load_empty hempty⟩
  · intro front p rest hlisted hfile hp
    rw [hlisted, Disk.account_append, Disk.account, List.nil_append, Disk.fate_of_mem hfile hp]
  · intro p hp hfile hplace
    have hgone : f.node? (d.place p) = none := by
      rw [hnode, if_neg hplace, hremoved.gone p hp hfile]
    exact ⟨hgone, by rw [Disk.pathExists, Disk.find_of_gone hkeeps hfile hgone]⟩
  · exact fun m => ⟨hkeeps'.directory m, hkeeps.directory m⟩
  · intro m hm hspared
    rw [hnode, if_neg hm, hremoved.kept m hspared]
  · rw [hnode, if_pos rfl]

/-- What the ledger of `listedTwice` lists: a file twice, the ledger itself, a directory, and a file
that is not there. -/
def listingTwice : Ledger :=
  ⟨⟨"/home/d"⟩, [⟨"/home/d/a"⟩, ⟨"/home/d/sub/../a"⟩, ⟨"/home/d/.avsstate"⟩, ⟨"/home/d/sub"⟩,
    ⟨"/home/d/c"⟩]⟩

/-- A device directory in the working directory. -/
def listedTwice : Disk where
  entries := [(["home"], .directory), (["home", "d"], .directory),
    (["home", "d", "sub"], .directory), (["home", "d", "a"], .file "a".toUTF8),
    (["home", "d", "b"], .file "b".toUTF8),
    (["home", "d", ".avsstate"], .file listingTwice.encode.toUTF8)]
  workingDir := ["home"]

theorem grounded_listedTwice : listedTwice.Grounded where
  named := by
    intro s hs
    rw [List.mem_singleton.mp hs]
    exact ⟨by decide, by decide, by decide⟩
  reached := Json.toOption_eq_some_iff.mp (by decide +kernel)

set_option maxRecDepth 100000 in
/-- The second path to a file is missing, the ledger is removed and written again. -/
theorem clean_accounts_listedTwice : ∃ f,
    listedTwice.Grounded ∧ Ledger.load ⟨"d"⟩ listedTwice = .ok listingTwice ∧
    Ledger.clean ⟨"d"⟩ listedTwice = (.ok
      { removed := [⟨"d/a"⟩, ⟨"d/.avsstate"⟩], missing := [⟨"d/sub/../a"⟩, ⟨"d/c"⟩],
        keptDirs := [⟨"d/sub"⟩] }, f) ∧
    f.node? ["home", "d", "a"] = none ∧ f.node? ["home", "d", "b"] = some (.file "b".toUTF8) ∧
    Ledger.load ⟨"d"⟩ f = .ok ⟨⟨"/home/d"⟩, []⟩ ∧
    Ledger.clean ⟨"d"⟩ f = (.error (.noLedger ⟨"d"⟩), f) := by
  have hload : Ledger.load ⟨"d"⟩ listedTwice = .ok listingTwice :=
    Ledger.load_of_read (Json.toOption_eq_some_iff.mp (by decide +kernel))
  have hready : Ledger.Ready ⟨"d"⟩ listedTwice listingTwice ⟨"/home/d"⟩ :=
    ⟨hload, by decide, Json.toOption_eq_some_iff.mp (by decide +kernel),
      by decide +kernel, by decide, by decide⟩
  have hanswer : (removeListed (listingTwice.listed ⟨"d"⟩) {} listedTwice).1 = .ok
      { removed := [⟨"d/a"⟩, ⟨"d/.avsstate"⟩], missing := [⟨"d/sub/../a"⟩, ⟨"d/c"⟩],
        keptDirs := [⟨"d/sub"⟩] } :=
    Json.toOption_eq_some_iff.mp (by decide +kernel)
  obtain ⟨e, he⟩ : ∃ e, (removeListed (listingTwice.listed ⟨"d"⟩) {} listedTwice).2 = e := ⟨_, rfl⟩
  have hrun : removeListed (listingTwice.listed ⟨"d"⟩) {} listedTwice = (_, e) :=
    Prod.ext hanswer he
  have hclean := (Ledger.clean_ok_iff fun _ => grounded_listedTwice).mpr
    ⟨listingTwice, _, e, hready, hrun, rfl⟩
  obtain ⟨-, -, -, hgone, -, hkept, home, hhome, -, hempty, hagain⟩ :=
    clean_accounts (fun _ => grounded_listedTwice) hload hclean
  obtain rfl : home = ⟨"/home/d"⟩ := Except.ok.inj (hhome.symm.trans hready.named)
  refine ⟨_, grounded_listedTwice, hload, hclean, ?_, ?_, hempty, hagain⟩
  · have hplace : listedTwice.place ⟨"d/a"⟩ = ["home", "d", "a"] := by decide +kernel
    rw [← hplace]
    exact (hgone ⟨"d/a"⟩ (by decide +kernel) (by decide +kernel) (by decide +kernel)).1
  · rw [hkept ["home", "d", "b"] (by decide +kernel) (by decide +kernel)]
    decide +kernel

end Clean

end DeviceSpec
