import DeviceSpec.Proofs.Ledger.Home

/-!
# Cleaning a directory that is given in full

The empty ledger can always be stored there, so cleaning removes what the ledger lists and leaves
the ledger empty, or stops at a path that cannot be removed (`clean_cases`).

* **what is left** — it can be read off the list (`isFile_of_clean_iff`, `node?_of_clean`);
* **once more** — cleaning twice is cleaning once (`clean_clean`).
-/

namespace DeviceSpec

namespace Ledger

section Clean

variable {dir : Path}

/-- In a directory given from the root, the empty ledger can always be stored. -/
theorem clean_cases (hdir : dir.isAbsolute = true) (d : Disk) :
    ((∃ err, Ledger.clean dir d = (.error err, d)) ∧
      ∀ l, Ledger.load dir d = .ok l → l.files = []) ∨
    ∃ l, Ledger.load dir d = .ok l ∧ l.files ≠ [] ∧
      ((∃ file err e, removeListed (l.listed dir) {} d = (.error (file, err), e) ∧
        Ledger.clean dir d = (.error (.remove file err), e)) ∨
      ∃ summary e l' f, removeListed (l.listed dir) {} d = (.ok summary, e) ∧
        Ledger.store ⟨dir, []⟩ e = (.ok l', f) ∧ Ledger.clean dir d = (.ok summary, f)) := by
  rcases clean_course dir d with hnothing | ⟨l, hload, hfiles, hstop | ⟨summary, e, hrun, hstored⟩⟩
  · exact .inl hnothing
  · exact .inr ⟨l, hload, hfiles, .inl hstop⟩
  · refine .inr ⟨l, hload, hfiles, .inr ⟨summary, e, ?_⟩⟩
    rcases hstored with ⟨err, f, hstore, -⟩ | ⟨l', f, hstore, hclean⟩
    · rw [(ready_of_load hdir hload hfiles).store_of_run (by simp [hdir]) hrun] at hstore
      cases hstore
    · exact ⟨l', f, hrun, hstore, hclean⟩

/-- Cleaning goes well when everything that is listed can be removed. -/
theorem clean_ok_of_removable (hdir : dir.isAbsolute = true) {d : Disk} {l : Ledger}
    (hload : Ledger.load dir d = .ok l) (hne : l.files ≠ [])
    (h : ∀ p ∈ l.listed dir, d.Removable p) :
    ∃ summary f, Ledger.clean dir d = (.ok summary, f) := by
  obtain ⟨summary, e, hrun⟩ := removeListed_ok_of_removable {} h
  exact ⟨summary, _, (clean_ok_iff (by simp [hdir])).mpr
    ⟨l, dir, e, ready_of_load hdir hload hne, hrun, rfl⟩⟩

section CleanOk

variable {d f : Disk} {summary : CleanSummary}

/-- Cleaning that goes well neither makes nor removes directories. -/
theorem keepsDirs_of_clean (hdir : dir.isAbsolute = true)
    (h : Ledger.clean dir d = (.ok summary, f)) : d.KeepsDirs f ∧ f.KeepsDirs d :=
  keepsDirs_of_clean_home (by simp [hdir]) h

/-- Cleaning that goes well removes all that the ledger lists and then writes the ledger. -/
theorem clean_ok (hdir : dir.isAbsolute = true) (h : Ledger.clean dir d = (.ok summary, f)) :
    ∃ l e, Ledger.load dir d = .ok l ∧ removeListed (l.listed dir) {} d = (.ok summary, e) ∧
      e.KeepsDirs f ∧ Ledger.load dir f = .ok ⟨dir, []⟩ ∧
      ∀ m, f.node? m = if m = d.place (ledgerPath dir)
        then some (.file (Ledger.encode ⟨dir, []⟩).toUTF8) else e.node? m := by
  obtain ⟨hkeeps, -⟩ := keepsDirs_of_clean hdir h
  obtain ⟨l, home, e, hready, hrun, hempty, hnode⟩ := clean_ok_home (by simp [hdir]) h
  obtain ⟨hremoved, -⟩ := removeListed_ok hrun
  have hhome := hready.named
  rw [absolutePath_of_isAbsolute hdir, Except.ok.injEq] at hhome
  subst hhome
  exact ⟨l, e, hready.load, hrun, hremoved.keepsDirs'.trans hkeeps, hempty, hnode⟩

/-- Apart from the ledger, what changes is what listed paths lead to. -/
theorem node?_of_clean_iff (hdir : dir.isAbsolute = true)
    (h : Ledger.clean dir d = (.ok summary, f)) {l : Ledger} (hload : Ledger.load dir d = .ok l)
    {m : Location} (hm : m ≠ d.place (ledgerPath dir)) :
    f.node? m = d.node? m ↔ ∀ p ∈ l.listed dir, d.isFile p = true → d.place p ≠ m := by
  obtain ⟨l', e, hload', hrun, -, -, hnode⟩ := clean_ok hdir h
  rw [hload, Except.ok.injEq] at hload'
  subst hload'
  obtain ⟨hremoved, -⟩ := removeListed_ok hrun
  rw [hnode, if_neg hm]
  constructor
  · rintro hsame p hp hfile rfl
    obtain ⟨content, hthere⟩ := Disk.node?_of_isFile hfile
    rw [hremoved.gone p hp hfile, hthere] at hsame
    cases hsame
  · exact hremoved.kept m

/-- Apart from the ledger, nothing is there that was not there before. -/
theorem node?_some_of_clean (hdir : dir.isAbsolute = true)
    (h : Ledger.clean dir d = (.ok summary, f)) {m : Location}
    (hm : m ≠ d.place (ledgerPath dir)) {n : Node} (hn : f.node? m = some n) :
    d.node? m = some n := by
  obtain ⟨l, e, -, hrun, -, -, hnode⟩ := clean_ok hdir h
  obtain ⟨hremoved, -⟩ := removeListed_ok hrun
  rw [hnode, if_neg hm] at hn
  exact hremoved.node?_some hn

/-- A file is left exactly when no listed path leads to it, or it is the ledger. -/
theorem isFile_of_clean_iff (hdir : dir.isAbsolute = true)
    (h : Ledger.clean dir d = (.ok summary, f)) {l : Ledger} (hload : Ledger.load dir d = .ok l)
    {q : Path} : f.isFile q = true ↔ d.isFile q = true ∧
      (d.place q = d.place (ledgerPath dir) ∨
        ∀ p ∈ l.listed dir, d.isFile p = true → d.place p ≠ d.place q) := by
  obtain ⟨hkeeps, hback⟩ := keepsDirs_of_clean hdir h
  obtain ⟨l', e, hload', hrun, -, hload'', hnode⟩ := clean_ok hdir h
  obtain ⟨hremoved, -⟩ := removeListed_ok hrun
  -- the ledger is a file before and after
  obtain ⟨content, hledger⟩ := Disk.node?_of_isFile (isFile_of_load hload)
  have hledger' := hnode (d.place (ledgerPath dir))
  rw [if_pos rfl] at hledger'
  constructor
  · intro hfile
    obtain ⟨content', hthere⟩ := Disk.node?_of_isFile hfile
    have hback' := @Disk.isFile_mono f d hback q hfile
    rw [hkeeps.place_eq] at hthere hback'
    by_cases hq : d.place q = d.place (ledgerPath dir)
    · rw [← hq] at hledger
      exact ⟨hback' hledger, .inl hq⟩
    · have hkept := hnode (d.place q)
      rw [if_neg hq, hthere] at hkept
      have hbefore := hremoved.node?_some hkept.symm
      refine ⟨hback' hbefore, .inr ?_⟩
      exact (node?_of_clean_iff hdir h hload hq).mp (hthere.trans hbefore.symm)
  · rintro ⟨hfile, hother⟩
    by_cases hq : d.place q = d.place (ledgerPath dir)
    · exact Disk.isFile_mono hkeeps hfile (hq ▸ hledger')
    · have hsame := (node?_of_clean_iff hdir h hload hq).mpr (hother.resolve_left hq)
      obtain ⟨content', hthere⟩ := Disk.node?_of_isFile hfile
      exact Disk.isFile_mono hkeeps hfile (hsame.trans hthere)

/-- A ledger that is written by cleaning was a different one. -/
theorem node?_ledgerPath_of_clean (hdir : dir.isAbsolute = true)
    (h : Ledger.clean dir d = (.ok summary, f)) :
    d.node? (d.place (ledgerPath dir)) ≠ some (.file (Ledger.encode ⟨dir, []⟩).toUTF8) := by
  intro hnode
  rcases clean_cases hdir d with ⟨⟨err, hclean⟩, -⟩ | ⟨l, hload, hne, -⟩
  · rw [hclean] at h
    cases h
  · obtain ⟨content, hfind⟩ := Disk.find_of_isFile (isFile_of_load hload)
    rw [Disk.node?_of_find hfind, Option.some.injEq, Node.file.injEq] at hnode
    have hread := Disk.read_of_find hfind
    rw [hnode] at hread
    rw [load_of_read hread, Except.ok.injEq] at hload
    exact hne (by rw [← hload])

/-- Cleaning that goes well keeps a file exactly when removing does, and it is not the ledger. -/
theorem node?_of_clean_ok (hdir : dir.isAbsolute = true)
    (h : Ledger.clean dir d = (.ok summary, f)) {l : Ledger} (hload : Ledger.load dir d = .ok l)
    {m : Location} {content : ByteArray} (hm : d.node? m = some (.file content)) :
    f.node? m = some (.file content) ↔
      (∀ q, Reaches (l.listed dir) {} d q → d.isFile q = true → d.place q ≠ m) ∧
      m ≠ d.place (ledgerPath dir) := by
  obtain ⟨l', e, hload', hrun, -, -, hnode⟩ := clean_ok hdir h
  rw [hload, Except.ok.injEq] at hload'
  subst hload'
  rw [hnode, ← node?_of_removeListed hrun hm]
  split
  · rename_i hplace
    subst hplace
    refine ⟨fun hsame => ?_, fun hkept => absurd rfl hkept.2⟩
    exact absurd (hm.trans hsame.symm) (node?_ledgerPath_of_clean hdir h)
  · rename_i hplace
    exact ⟨fun hkept => ⟨hkept, hplace⟩, fun hkept => hkept.1⟩

/-- Whatever comes of cleaning, it keeps a file exactly when no listed path that it gets to leads
there, and it does not store its ledger there. -/
theorem node?_of_clean (hdir : dir.isAbsolute = true) {m : Location} {content : ByteArray}
    (hm : d.node? m = some (.file content)) :
    (Ledger.clean dir d).2.node? m = some (.file content) ↔
      (∀ l, Ledger.load dir d = .ok l → ∀ q, Reaches (l.listed dir) {} d q →
        d.isFile q = true → d.place q ≠ m) ∧
      ((∃ summary f, Ledger.clean dir d = (.ok summary, f)) → m ≠ d.place (ledgerPath dir)) := by
  rcases clean_cases hdir d with ⟨⟨err, hclean⟩, hempty⟩ | ⟨l, hload, -, hrest⟩
  · rw [hclean]
    refine ⟨fun _ => ⟨fun l hl q hq => ?_, ?_⟩, fun _ => hm⟩
    · have hmem := hq.mem
      rw [Ledger.listed, hempty l hl] at hmem
      cases hmem
    · rintro ⟨summary, f, h⟩
      cases h
  · have hall : (∀ l', Ledger.load dir d = .ok l' → ∀ q, Reaches (l'.listed dir) {} d q →
        d.isFile q = true → d.place q ≠ m) ↔
          ∀ q, Reaches (l.listed dir) {} d q → d.isFile q = true → d.place q ≠ m := by
      refine ⟨fun h => h l hload, fun h l' hl' => ?_⟩
      rw [hload, Except.ok.injEq] at hl'
      exact hl' ▸ h
    rw [hall]
    rcases hrest with ⟨file, err, e, hrun, hclean⟩ | ⟨summary, e, l', f, -, -, hclean⟩
    · rw [hclean, node?_of_removeListed hrun hm]
      refine ⟨fun h => ⟨h, ?_⟩, fun h => h.1⟩
      rintro ⟨summary, f, h⟩
      cases h
    · have hkept := node?_of_clean_ok hdir hclean hload hm
      rw [hclean]
      exact hkept.trans (and_congr_right fun _ => ⟨fun h _ => h, fun h => h ⟨summary, f, rfl⟩⟩)

end CleanOk

/-- Cleaning removes no directory, whatever comes of it. -/
theorem keepsDirs_clean (hdir : dir.isAbsolute = true) (d : Disk) :
    d.KeepsDirs (Ledger.clean dir d).2 := by
  rcases clean_cases hdir d with ⟨⟨err, hclean⟩, -⟩ | ⟨l, -, -, hrest⟩
  · rw [hclean]
    exact Disk.KeepsDirs.refl d
  · rcases hrest with ⟨file, err, e, hrun, hclean⟩ | ⟨summary, e, l', f, -, -, hclean⟩
    · rw [hclean]
      obtain ⟨front, hremoved⟩ := removed_of_removeListed hrun
      exact hremoved.keepsDirs
    · rw [hclean]
      exact (keepsDirs_of_clean hdir hclean).1

/-- Cleaning once more changes nothing. -/
theorem clean_clean (hdir : dir.isAbsolute = true) (d : Disk) :
    (Ledger.clean dir (Ledger.clean dir d).2).2 = (Ledger.clean dir d).2 := by
  rcases clean_cases hdir d with ⟨⟨err, hclean⟩, -⟩ | ⟨l, hload, -, hrest⟩
  · rw [hclean, hclean]
  · rcases hrest with ⟨file, err, e, hrun, hclean⟩ | ⟨summary, e, l', f, hrun, hstore, hclean⟩
    · -- it fails at the same file again, or the ledger itself has been removed
      rw [hclean]
      obtain ⟨front, hremoved⟩ := removed_of_removeListed hrun
      rcases clean_cases hdir e with ⟨⟨err', hagain⟩, -⟩ | ⟨l', hload', -, hrest'⟩
      · rw [hagain]
      · have hsame := load_of_within hremoved.within (isFile_of_load hload')
        rw [hload, hload', Except.ok.injEq] at hsame
        rw [hsame, removeListed_again hrun] at hrest'
        rcases hrest' with ⟨file', err', e', hrun', hagain⟩ | ⟨summary', e', l'', f', hrun', -, -⟩
        · cases hrun'
          rw [hagain]
        · cases hrun'
    · rw [hclean]
      have hempty := load_of_store hdir hstore
      rcases clean_cases hdir f with ⟨⟨err', hagain⟩, -⟩ | ⟨l'', hload', hfiles, -⟩
      · rw [hagain]
      · rw [hempty, Except.ok.injEq] at hload'
        exact absurd (by rw [← hload']) hfiles

end Clean

end Ledger

end DeviceSpec
