import DeviceSpec.Proofs.Disk.Within
import DeviceSpec.Proofs.Ledger.Keep

/-!
# Removing what is listed

* **a removal** — files that were led to are gone and all else is as it was (`Disk.Removed`);
* **a list of removals** — each path has its fate or ends the run (`removeListed_step`); all its
  files are removed (`removeListed_ok`), or those before the first that cannot be removed
  (`removeListed_error`), and then trying again changes nothing
  (`removeListed_again`); a file is kept unless a path that is got to leads there
  (`node?_of_removeListed`);
* **cleaning** — it finds nothing to do, stops where the removals stop, or stores the empty ledger
  after them (`clean_course`).
-/

namespace DeviceSpec

/-- What becomes of a listed path. -/
inductive Fate where
  | removed
  | missing
  | kept
  deriving DecidableEq

namespace Disk

/-- The second disk is the first without the files that some paths lead to. -/
structure Removed (d e : Disk) (files : List Path) : Prop where
  keepsDirs : d.KeepsDirs e
  gone : ∀ f ∈ files, d.isFile f = true → e.node? (d.place f) = none
  kept : ∀ l, (∀ f ∈ files, d.isFile f = true → d.place f ≠ l) → e.node? l = d.node? l

namespace Removed

variable {d e f : Disk} {as bs : List Path}

theorem refl {as : List Path} (h : ∀ p ∈ as, d.isFile p = false) : d.Removed d as := by
  refine ⟨KeepsDirs.refl d, ?_, fun _ _ => rfl⟩
  intro p hp hfile
  rw [h p hp] at hfile
  cases hfile

/-- A location has lost its file or is as it was. -/
theorem node?_eq (h : d.Removed e as) (l : Location) :
    e.node? l = none ∨ e.node? l = d.node? l := by
  by_cases hled : ∃ p ∈ as, d.isFile p = true ∧ d.place p = l
  · obtain ⟨p, hp, hfile, rfl⟩ := hled
    exact .inl (h.gone p hp hfile)
  · exact .inr (h.kept l fun p hp hfile hplace => hled ⟨p, hp, hfile, hplace⟩)

theorem node?_some (h : d.Removed e as) {l : Location} {n : Node} (hn : e.node? l = some n) :
    d.node? l = some n := by
  rcases h.node?_eq l with hnone | hsame
  · rw [hn] at hnone
    cases hnone
  · rw [← hsame, hn]

/-- Nothing appears. -/
theorem within (h : d.Removed e as) : e.Within d :=
  ⟨h.keepsDirs.workingDir.symm, fun _ _ hn => h.node?_some hn⟩

theorem keepsDirs' (h : d.Removed e as) : e.KeepsDirs d := h.within.keepsDirs

theorem isFile (h : d.Removed e as) {p : Path} (hp : e.isFile p = true) : d.isFile p = true :=
  h.within.isFile hp

/-- A file whose location is as it was is still there. -/
theorem isFile_of_node?_eq (h : d.Removed e as) {p : Path} (hp : d.isFile p = true)
    (hsame : e.node? (d.place p) = d.node? (d.place p)) : e.isFile p = true := by
  obtain ⟨content, hnode⟩ := node?_of_isFile hp
  exact isFile_mono h.keepsDirs hp (hsame.trans hnode)

theorem append (h : d.Removed e as) (h' : e.Removed f bs) : d.Removed f (as ++ bs) := by
  refine ⟨h.keepsDirs.trans h'.keepsDirs, ?_, ?_⟩
  · intro p hp hfile
    -- it may be gone already when its turn comes
    have hnone : e.node? (d.place p) = none → f.node? (d.place p) = none := by
      intro hnone
      rcases h'.node?_eq (d.place p) with hl | hl
      · exact hl
      · rw [hl, hnone]
    rcases List.mem_append.mp hp with hp | hp
    · exact hnone (h.gone p hp hfile)
    · rcases h.node?_eq (d.place p) with hl | hl
      · exact hnone hl
      · rw [← h.keepsDirs.place_eq]
        exact h'.gone p hp (h.isFile_of_node?_eq hfile hl)
  · intro l hl
    have hde := h.kept l fun p hp => hl p (List.mem_append_left _ hp)
    have hef := h'.kept l fun p hp hfile => by
      rw [h.keepsDirs.place_eq]
      exact hl p (List.mem_append_right _ hp) (h.isFile hfile)
    exact hef.trans hde

/-- A file that is lost when one path is removed is what that path leads to. -/
theorem lost {p q : Path} (h : d.Removed e [q]) (hp : d.isFile p = true)
    (hp' : e.isFile p = false) : d.isFile q = true ∧ d.place q = d.place p := by
  apply Classical.byContradiction
  intro hother
  have hsame := h.kept (d.place p) fun f hf hfile hplace => by
    rw [List.mem_singleton.mp hf] at hfile hplace
    exact hother ⟨hfile, hplace⟩
  rw [h.isFile_of_node?_eq hp hsame] at hp'
  cases hp'

/-- What is led to after the removal is not a file any more. -/
theorem isFile_eq_false (h : d.Removed e as) {p : Path} (hp : p ∈ as) : e.isFile p = false := by
  cases hfile : e.isFile p with
  | false => rfl
  | true =>
    obtain ⟨content, hnode⟩ := node?_of_isFile hfile
    rw [h.keepsDirs.place_eq, h.gone p hp (h.isFile hfile)] at hnode
    cases hnode

end Removed

/-! ## One file -/

theorem remove_of_find {d : Disk} {p : Path} {l : Location} {content : ByteArray}
    (h : d.find p = .ok (l, .file content)) : d.remove p = .ok (d.erase l) := by
  obtain ⟨t, last, ht, hname, hshort, rfl, hnode, hslash⟩ := find_file h
  unfold remove
  simp [ht, at?, hname, Nat.not_lt.mpr hshort, hnode, hslash]

theorem find_of_remove {d e : Disk} {p : Path} (h : d.remove p = .ok e) :
    ∃ l content, d.find p = .ok (l, .file content) ∧ e = d.erase l := by
  unfold remove at h
  cases ht : d.target p with
  | error err => simp [ht] at h
  | ok t =>
    simp only [ht] at h
    cases hat : d.at? t with
    | error err => simp [hat] at h
    | ok n =>
      cases n with
      | none => simp [hat] at h
      | some n =>
        cases n with
        | directory => simp [hat] at h
        | file content =>
          simp only [hat] at h
          split at h
          · cases h
          · rename_i hslash
            exact ⟨t.location, content, by simp [find, ht, hat, hslash], (Except.ok.inj h).symm⟩

/-- Removing a file takes away what its path leads to. -/
theorem removed_of_remove {d e : Disk} {p : Path} (h : d.remove p = .ok e) : d.Removed e [p] := by
  obtain ⟨l, content, hfind, rfl⟩ := find_of_remove h
  have hnode := node?_of_find hfind
  have hl : l ≠ [] := by
    rintro rfl
    cases hnode
  refine ⟨⟨rfl, fun m hm => ?_⟩, ?_, ?_⟩
  · rw [node?_erase hl, if_neg]
    · exact hm
    · rintro rfl
      rw [hnode] at hm
      cases hm
  · intro q hq _
    rw [List.mem_singleton.mp hq, node?_erase hl, if_pos (place_of_find hfind).symm]
  · intro m hm
    rw [node?_erase hl, if_neg]
    rintro rfl
    exact hm p List.mem_cons_self (isFile_of_find hfind) (place_of_find hfind).symm

/-- The path leads to a directory or nowhere: there is nothing to remove. -/
def Settled (d : Disk) (p : Path) : Prop := d.isDir p = true ∨ d.find p = .error .notFound

theorem Removed.settled {d e : Disk} {as : List Path} (h : d.Removed e as) {p : Path}
    (hp : d.Settled p) : e.Settled p := by
  rcases hp with hdir | hnone
  · exact .inl (isDir_mono h.keepsDirs hdir)
  · exact .inr (h.within.find_notFound hnone)

theorem accepted_of_target_notFound {d : Disk} {p : Path} (hp : p.isAbsolute = true)
    (h : d.target p = .error .notFound) : p.Accepted := by
  rcases target_cases d p with ⟨err, herr, hempty⟩ | ⟨haccepted, -, -⟩ | ⟨haccepted, -, -⟩
  · rw [herr, Except.error.injEq] at h
    exact absurd (hempty h) (Path.text_ne_empty_of_isAbsolute hp)
  · exact haccepted
  · exact haccepted

theorem Settled.accepted {d : Disk} {p : Path} (hp : p.isAbsolute = true) (h : d.Settled p) :
    p.Accepted := by
  rcases h with hdir | hnone
  · exact (isDir_iff.mp hdir).1
  · cases ht : d.target p with
    | ok t => exact (target_ok ht).1
    | error err =>
      unfold find at hnone
      rw [ht] at hnone
      cases hnone
      exact accepted_of_target_notFound hp ht

theorem Settled.isFile_eq_false {d : Disk} {p : Path} (h : d.Settled p) : d.isFile p = false := by
  unfold isFile
  rcases h with hdir | hnone
  · unfold isDir at hdir
    split at hdir
    · rename_i hfind
      rw [hfind]
    · cases hdir
  · rw [hnone]

/-- There is no file to remove exactly when the path leads nowhere. -/
theorem remove_notFound_iff {d : Disk} {p : Path} :
    d.remove p = .error .notFound ↔ d.find p = .error .notFound := by
  unfold remove find
  cases d.target p with
  | error err => simp
  | ok t =>
    simp only
    cases d.at? t with
    | error err => simp
    | ok n =>
      cases n with
      | none => simp
      | some n =>
        cases n with
        | directory => simp
        | file content =>
          simp only
          split <;> simp

/-- A path whose file is gone leads nowhere. -/
theorem find_of_gone {d e : Disk} (h : d.KeepsDirs e) {p : Path} (hfile : d.isFile p = true)
    (hgone : e.node? (d.place p) = none) : e.find p = .error .notFound := by
  obtain ⟨content, hfind⟩ := find_of_isFile hfile
  obtain ⟨t, last, ht, hname, hshort, hl, -, -⟩ := find_file hfind
  rw [← hl] at hgone
  unfold find at?
  simp [target_mono h ht, hname, Nat.not_lt.mpr hshort, hgone]

/-- After a removal that went well the path leads nowhere. -/
theorem settled_of_remove {d e : Disk} {p : Path} (h : d.remove p = .ok e) : e.Settled p := by
  have hremoved := removed_of_remove h
  obtain ⟨l, content, hfind, -⟩ := find_of_remove h
  have hfile := isFile_of_find hfind
  exact .inr (find_of_gone hremoved.keepsDirs hfile (hremoved.gone p List.mem_cons_self hfile))

/-- The path leads to a file, or there is nothing to remove. -/
def Removable (d : Disk) (p : Path) : Prop := d.isFile p = true ∨ d.Settled p

/-- A path can be removed unless something is in its way. -/
theorem removable_iff {d : Disk} {p : Path} :
    d.Removable p ↔ ∀ err, d.find p = .error err → err = .notFound := by
  have hthere : d.isFile p = true ∨ d.isDir p = true ↔ d.pathExists p = true := by
    rw [pathExists_iff, or_comm]
  unfold Removable Settled
  rw [← or_assoc, hthere, pathExists]
  cases d.find p <;> simp

/-- What can be removed still can when there is less. -/
theorem Within.removable {d e : Disk} (h : d.Within e) {p : Path} (hp : e.Removable p) :
    d.Removable p := by
  rw [removable_iff] at hp ⊢
  intro err herr
  rcases h.find_eq_or hp with hsame | hnone
  · exact hp err (hsame ▸ herr)
  · rw [hnone] at herr
    exact (Except.error.inj herr).symm

/-- Removing a file if it is there, in one of the ways that are not failures. -/
theorem removed_of_removeIfThere {d e : Disk} {p : Path} {there : Bool}
    (h : d.removeIfThere p = .ok (there, e)) : d.Removed e [p] ∧ e.Settled p := by
  unfold removeIfThere at h
  split at h
  · rename_i e' hremove
    cases h
    exact ⟨removed_of_remove hremove, settled_of_remove hremove⟩
  · rename_i hremove
    cases h
    have hsettled : d.Settled p := .inr (remove_notFound_iff.mp hremove)
    refine ⟨Removed.refl ?_, hsettled⟩
    intro q hq
    rw [List.mem_singleton.mp hq]
    exact hsettled.isFile_eq_false
  · cases h

theorem find_of_removeIfThere_false {d e : Disk} {p : Path}
    (h : d.removeIfThere p = .ok (false, e)) : d.find p = .error .notFound := by
  unfold removeIfThere at h
  split at h
  · cases h
  · rename_i hremove
    exact remove_notFound_iff.mp hremove
  · cases h

theorem isFile_of_removeIfThere_true {d e : Disk} {p : Path}
    (h : d.removeIfThere p = .ok (true, e)) : d.isFile p = true := by
  unfold removeIfThere at h
  split at h
  · rename_i hremove
    obtain ⟨l, content, hfind, -⟩ := find_of_remove hremove
    exact isFile_of_find hfind
  · cases h
  · cases h

theorem removeIfThere_of_notFound {d : Disk} {p : Path} (h : d.find p = .error .notFound) :
    d.removeIfThere p = .ok (false, d) := by
  unfold removeIfThere
  rw [remove_notFound_iff.mpr h]

theorem not_removable_of_error {d : Disk} {p : Path} {err : FileError} (hdir : d.isDir p = false)
    (h : d.removeIfThere p = .error err) : ¬ d.Removable p := by
  unfold removeIfThere at h
  rintro (hfile | hdirectory | hnone)
  · obtain ⟨content, hfind⟩ := find_of_isFile hfile
    rw [remove_of_find hfind] at h
    cases h
  · rw [hdir] at hdirectory
    cases hdirectory
  · rw [remove_notFound_iff.mpr hnone] at h
    cases h

/-- What becomes of a path after the ones before it: only the first path to a file removes it. -/
def fate (d : Disk) (before : List Path) (p : Path) : Fate :=
  if d.isDir p then .kept
  else if d.isFile p ∧ ∀ q ∈ before, d.isFile q = true → d.place q ≠ d.place p then .removed
  else .missing

end Disk

/-- The paths with a fate, in order. -/
def having (o : Fate) (account : List (Path × Fate)) : List Path :=
  (account.filter fun entry => entry.2 = o).map Prod.fst

/-- A summary with what became of further paths. -/
def CleanSummary.add (summary : CleanSummary) (account : List (Path × Fate)) : CleanSummary where
  removed := summary.removed ++ having .removed account
  missing := summary.missing ++ having .missing account
  keptDirs := summary.keptDirs ++ having .kept account

/-! ## A list of removals -/

section Listed

variable {files : List Path} {summary summary' : CleanSummary} {d e : Disk}

/-- One listed path has its fate and the run goes on, or it cannot be removed and ends the run. -/
theorem removeListed_step (d : Disk) (p : Path) :
    (d.Removable p ∧ ∃ e, d.Removed e [p] ∧ ∀ rest summary, removeListed (p :: rest) summary d =
      removeListed rest (summary.add [(p, d.fate [] p)]) e) ∨
    ¬ d.Removable p ∧ ∃ err, d.removeIfThere p = .error err ∧ ∀ rest summary,
      removeListed (p :: rest) summary d = (.error (p, err), d) := by
  cases hdir : d.isDir p with
  | true =>
    have hsettled : d.Settled p := .inl hdir
    refine .inl ⟨.inr hsettled, d, Disk.Removed.refl ?_, fun rest summary => ?_⟩
    · intro q hq
      rw [List.mem_singleton.mp hq]
      exact hsettled.isFile_eq_false
    · simp [removeListed, Disk.fate, hdir, CleanSummary.add, having]
  | false =>
    cases hremove : d.removeIfThere p with
    | ok result =>
      obtain ⟨there, e⟩ := result
      obtain ⟨hremoved, -⟩ := Disk.removed_of_removeIfThere hremove
      cases there with
      | true =>
        have hfile := Disk.isFile_of_removeIfThere_true hremove
        refine .inl ⟨.inl hfile, e, hremoved, fun rest summary => ?_⟩
        simp [removeListed, Disk.fate, hdir, hfile, hremove, CleanSummary.add, having]
      | false =>
        have hsettled : d.Settled p := .inr (Disk.find_of_removeIfThere_false hremove)
        refine .inl ⟨.inr hsettled, e, hremoved, fun rest summary => ?_⟩
        simp [removeListed, Disk.fate, hdir, hsettled.isFile_eq_false, hremove,
          CleanSummary.add, having]
    | error err =>
      exact .inr ⟨Disk.not_removable_of_error hdir hremove, err, rfl, fun rest summary => by
        simp [removeListed, hdir, hremove]⟩

/-- A path that is passed is settled afterwards, and reported if it was a file. -/
theorem removeListed_cons (summary : CleanSummary) (d : Disk) (file : Path) :
    (∃ e summary', d.Removed e [file] ∧ e.Settled file ∧
      (∀ q ∈ summary.removed, q ∈ summary'.removed) ∧
      (d.isFile file = true → file ∈ summary'.removed) ∧
      ∀ files, removeListed (file :: files) summary d = removeListed files summary' e) ∨
    ∃ err, d.isFile file = false ∧
      (∀ files, removeListed (file :: files) summary d = (.error (file, err), d)) ∧
      d.isDir file = false ∧ d.removeIfThere file = .error err := by
  rcases removeListed_step d file with
    ⟨hremovable, e, hremoved, hrest⟩ | ⟨hnot, err, hremove, hstop⟩
  · refine .inl ⟨e, _, hremoved, ?_, ?_, ?_, fun files => hrest files summary⟩
    · rcases hremovable with hfile | hsettled
      · exact .inr (Disk.find_of_gone hremoved.keepsDirs hfile
          (hremoved.gone file List.mem_cons_self hfile))
      · exact hremoved.settled hsettled
    · exact fun q hq => List.mem_append_left _ hq
    · intro hfile
      have hdir : d.isDir file = false := by
        cases hdir : d.isDir file with
        | false => rfl
        | true =>
          rw [Disk.isFile_of_isDir hdir] at hfile
          cases hfile
      simp [CleanSummary.add, having, Disk.fate, hdir, hfile]
  · refine .inr ⟨err, ?_, fun files => hstop files summary, ?_, hremove⟩
    · exact Bool.eq_false_iff.mpr fun hfile => hnot (.inl hfile)
    · exact Bool.eq_false_iff.mpr fun hdir => hnot (.inr (.inl hdir))

/-- When all goes well, all listed files are removed. -/
theorem removeListed_ok (h : removeListed files summary d = (.ok summary', e)) :
    d.Removed e files ∧ ∀ p ∈ files, e.Settled p := by
  induction files generalizing d summary with
  | nil =>
    cases h
    exact ⟨Disk.Removed.refl nofun, nofun⟩
  | cons file files ih =>
    rcases removeListed_cons summary d file with
      ⟨e', summary'', hremoved, hsettled, -, -, hrest⟩ | ⟨err, -, hstop, -⟩
    · rw [hrest] at h
      obtain ⟨hrestRemoved, hall⟩ := ih h
      refine ⟨hremoved.append hrestRemoved, fun p hp => ?_⟩
      rcases List.mem_cons.mp hp with rfl | hp
      · exact hrestRemoved.settled hsettled
      · exact hall p hp
    · rw [hstop] at h
      cases h

/-- Every file that is listed is reported as removed, by this or another path to it. -/
theorem removed_of_removeListed_ok (h : removeListed files summary d = (.ok summary', e)) :
    (∀ q ∈ summary.removed, q ∈ summary'.removed) ∧
      ∀ p ∈ files, d.isFile p = true → ∃ q ∈ summary'.removed, d.place q = d.place p := by
  induction files generalizing d summary with
  | nil =>
    cases h
    exact ⟨fun _ hq => hq, nofun⟩
  | cons file files ih =>
    rcases removeListed_cons summary d file with
      ⟨e', summary'', hremoved, -, hkept, hfile, hrest⟩ | ⟨err, -, hstop, -⟩
    · rw [hrest] at h
      obtain ⟨hkept', hall⟩ := ih h
      refine ⟨fun q hq => hkept' q (hkept q hq), fun p hp hpFile => ?_⟩
      rcases List.mem_cons.mp hp with rfl | hp
      · exact ⟨p, hkept' p (hfile hpFile), rfl⟩
      · cases hpFile' : e'.isFile p with
        | true =>
          obtain ⟨q, hq, hplace⟩ := hall p hp hpFile'
          exact ⟨q, hq, by rwa [hremoved.keepsDirs.place_eq, hremoved.keepsDirs.place_eq] at hplace⟩
        | false =>
          -- it has gone with the head, which leads to the same place
          obtain ⟨hheadFile, hplace⟩ := hremoved.lost hpFile hpFile'
          exact ⟨file, hkept' file (hfile hheadFile), hplace⟩
    · rw [hstop] at h
      cases h

/-- A run that fails has gone well up to the path it fails at. -/
theorem removeListed_error {file : Path} {err : FileError}
    (h : removeListed files summary d = (.error (file, err), e)) :
    ∃ front rest summary', files = front ++ file :: rest ∧
      removeListed front summary d = (.ok summary', e) ∧ e.isDir file = false ∧
      e.removeIfThere file = .error err := by
  induction files generalizing d summary with
  | nil => cases h
  | cons p files ih =>
    rcases removeListed_cons summary d p with
      ⟨e', summary'', -, -, -, -, hrest⟩ | ⟨err', -, hstop, hdir, hremove⟩
    · rw [hrest] at h
      obtain ⟨front, rest, summary', hfiles, hfront, hlast⟩ := ih h
      exact ⟨p :: front, rest, summary', by rw [hfiles]; rfl, by rw [hrest, hfront], hlast⟩
    · rw [hstop] at h
      cases h
      exact ⟨[], files, summary, rfl, rfl, hdir, hremove⟩

/-- A run over two lists goes on with the second where it has left the first. -/
theorem removeListed_append {front : List Path} (rest : List Path)
    (h : removeListed front summary d = (.ok summary', e)) :
    removeListed (front ++ rest) summary d = removeListed rest summary' e := by
  induction front generalizing d summary with
  | nil =>
    cases h
    rfl
  | cons p front ih =>
    rcases removeListed_cons summary d p with
      ⟨e', summary'', -, -, -, -, hrest⟩ | ⟨err', -, hstop, -⟩
    · rw [hrest] at h
      rw [List.cons_append, hrest, ih h]
    · rw [hstop] at h
      cases h

/-- What can be removed does not stop a run. -/
theorem removeListed_ok_of_removable (summary : CleanSummary) (h : ∀ p ∈ files, d.Removable p) :
    ∃ summary' e, removeListed files summary d = (.ok summary', e) := by
  cases hrun : removeListed files summary d with
  | mk result e =>
    cases result with
    | ok summary' => exact ⟨summary', e, rfl⟩
    | error stop =>
      obtain ⟨file, err⟩ := stop
      obtain ⟨front, rest, summary', hfiles, hfront, hdir, hremove⟩ := removeListed_error hrun
      obtain ⟨hremoved, -⟩ := removeListed_ok hfront
      have hfile : file ∈ files := by
        rw [hfiles]
        exact List.mem_append_right _ List.mem_cons_self
      exact absurd (hremoved.within.removable (h file hfile))
        (Disk.not_removable_of_error hdir hremove)

/-- What is settled is passed over. -/
theorem removeListed_settled {front : List Path} (rest : List Path) (h : ∀ p ∈ front, d.Settled p) :
    ∃ summary', removeListed (front ++ rest) summary d = removeListed rest summary' d := by
  induction front generalizing summary with
  | nil => exact ⟨summary, rfl⟩
  | cons p front ih =>
    have hfront := fun q hq => h q (List.mem_cons_of_mem p hq)
    rw [List.cons_append, removeListed]
    rcases h p List.mem_cons_self with hdir | hnone
    · rw [if_pos hdir]
      exact ih hfront
    · have hdir : d.isDir p = false := by
        unfold Disk.isDir
        rw [hnone]
      rw [if_neg (by simp [hdir]), Disk.removeIfThere_of_notFound hnone]
      exact ih hfront

/-- After a run that failed, another fails in the same place and changes nothing. -/
theorem removeListed_again {file : Path} {err : FileError}
    (h : removeListed files summary d = (.error (file, err), e)) :
    removeListed files summary e = (.error (file, err), e) := by
  obtain ⟨front, rest, summary', rfl, hfront, hdir, hremove⟩ := removeListed_error h
  obtain ⟨-, hsettled⟩ := removeListed_ok hfront
  obtain ⟨summary', hrest⟩ := removeListed_settled (file :: rest) hsettled
  rw [hrest]
  unfold removeListed
  rw [if_neg (by simp [hdir]), hremove]

/-- Whatever comes of a run, some files are removed. -/
theorem removed_of_removeListed {result : Except (Path × FileError) CleanSummary}
    (h : removeListed files summary d = (result, e)) : ∃ front, d.Removed e front := by
  cases result with
  | ok summary' => exact ⟨files, (removeListed_ok h).1⟩
  | error stop =>
    obtain ⟨front, -, summary', -, hfront, -⟩ := removeListed_error h
    exact ⟨front, (removeListed_ok hfront).1⟩

/-- A run gets to a listed path when all that is listed before it can be removed. -/
def Reaches (files : List Path) (summary : CleanSummary) (d : Disk) (q : Path) : Prop :=
  ∃ front rest, files = front ++ q :: rest ∧
    ∃ summary' e, removeListed front summary d = (.ok summary', e)

theorem Reaches.mem {q : Path} (h : Reaches files summary d q) : q ∈ files := by
  obtain ⟨front, rest, rfl, -⟩ := h
  exact List.mem_append_right _ List.mem_cons_self

theorem reaches_of_removable (h : ∀ p ∈ files, d.Removable p) {q : Path} (hq : q ∈ files) :
    Reaches files summary d q := by
  obtain ⟨front, rest, hfiles⟩ := List.append_of_mem hq
  refine ⟨front, rest, hfiles, removeListed_ok_of_removable _ fun p hp => h p ?_⟩
  rw [hfiles]
  exact List.mem_append_left _ hp

theorem reaches_cons {file q : Path} (hrest : ∀ front, removeListed (file :: front) summary d =
    removeListed front summary' e) :
    Reaches (file :: files) summary d q ↔ q = file ∨ Reaches files summary' e q := by
  constructor
  · rintro ⟨front, rest, hfiles, hok⟩
    cases front with
    | nil => exact .inl (List.cons.inj hfiles).1.symm
    | cons f front =>
      obtain ⟨rfl, htail⟩ := List.cons.inj hfiles
      rw [hrest] at hok
      exact .inr ⟨front, rest, htail, hok⟩
  · rintro (rfl | ⟨front, rest, rfl, hok⟩)
    · exact ⟨[], files, rfl, summary, d, rfl⟩
    · exact ⟨file :: front, rest, rfl, by rwa [hrest]⟩

/-- A run that stops at its first path gets no further. -/
theorem eq_of_reaches_stop {file q : Path} {err : FileError}
    (hstop : ∀ files, removeListed (file :: files) summary d = (.error (file, err), d))
    (hq : Reaches (file :: files) summary d q) : q = file := by
  obtain ⟨front, rest, hfiles, summary', e, hok⟩ := hq
  cases front with
  | nil => exact (List.cons.inj hfiles).1.symm
  | cons f front =>
    obtain ⟨rfl, -⟩ := List.cons.inj hfiles
    rw [hstop] at hok
    cases hok

/-- Once a path that leads elsewhere is removed, a file is led to by the same ones of the others. -/
theorem spared_of_removed {file q : Path} {m : Location} (hremoved : d.Removed e [file])
    (hm : e.node? m = d.node? m) :
    (e.isFile q = true → e.place q ≠ m) ↔ (d.isFile q = true → d.place q ≠ m) := by
  rw [hremoved.keepsDirs.place_eq]
  constructor
  · intro hspared hfile hplace
    exact hspared (hremoved.isFile_of_node?_eq hfile (hplace ▸ hm)) hplace
  · exact fun hspared hfile => hspared (hremoved.isFile hfile)

/-- A run keeps a file exactly when no path that it gets to leads there. -/
theorem node?_of_removeListed {result : Except (Path × FileError) CleanSummary}
    (h : removeListed files summary d = (result, e)) {m : Location} {content : ByteArray}
    (hm : d.node? m = some (.file content)) :
    e.node? m = some (.file content) ↔
      ∀ q, Reaches files summary d q → d.isFile q = true → d.place q ≠ m := by
  induction files generalizing d summary with
  | nil =>
    cases h
    refine ⟨fun _ q hq => ?_, fun _ => hm⟩
    cases hq.mem
  | cons file files ih =>
    rcases removeListed_cons summary d file with
      ⟨e', summary'', hremoved, -, -, -, hrest⟩ | ⟨err, hnoFile, hstop, -⟩
    · have hreaches : ∀ {q}, Reaches (file :: files) summary d q ↔
          q = file ∨ Reaches files summary'' e' q := reaches_cons hrest
      rw [hrest] at h
      by_cases hled : d.isFile file = true ∧ d.place file = m
      · obtain ⟨hfile, rfl⟩ := hled
        have hgone := hremoved.gone file List.mem_cons_self hfile
        obtain ⟨front, hremoved'⟩ := removed_of_removeListed h
        constructor
        · intro hkept
          rw [hremoved'.node?_some hkept] at hgone
          cases hgone
        · intro hall
          exact absurd rfl (hall file (hreaches.mpr (.inl rfl)) hfile)
      · -- the first path leads elsewhere, so the file is as before for the others
        have hother : ∀ f ∈ [file], d.isFile f = true → d.place f ≠ m := by
          intro f hf hfile hplace
          rw [List.mem_singleton.mp hf] at hfile hplace
          exact hled ⟨hfile, hplace⟩
        have hm' := hremoved.kept m hother
        rw [ih h (hm'.trans hm)]
        constructor
        · intro hall q hq
          rcases hreaches.mp hq with rfl | hq
          · exact hother q List.mem_cons_self
          · exact (spared_of_removed hremoved hm').mp (hall q hq)
        · intro hall q hq
          exact (spared_of_removed hremoved hm').mpr (hall q (hreaches.mpr (.inr hq)))
    · rw [hstop] at h
      cases h
      refine ⟨fun _ q hq hqFile => ?_, fun _ => hm⟩
      rw [eq_of_reaches_stop hstop hq, hnoFile] at hqFile
      cases hqFile

end Listed

/-! ## Cleaning -/

namespace Ledger

/-- The files that a ledger lists, below the present name of its directory. -/
def listed (l : Ledger) (dir : Path) : List Path := l.files.map (rebase l.dir dir)

section Clean

variable {dir : Path}

/-- A ledger that is still there is the one that was there. -/
theorem load_of_within {d e : Disk} (h : e.Within d) (hfile : e.isFile (ledgerPath dir) = true) :
    Ledger.load dir e = Ledger.load dir d := by
  obtain ⟨content, hfind⟩ := Disk.find_of_isFile hfile
  exact load_congr ((Disk.read_of_find hfind).trans (Disk.read_of_find (h.find_file hfind)).symm)

/-- Cleaning finds nothing to do, stops at a file it cannot remove, or removes all files and then
stores the empty ledger or fails to. -/
theorem clean_course (dir : Path) (d : Disk) :
    ((∃ err, Ledger.clean dir d = (.error err, d)) ∧
      ∀ l, Ledger.load dir d = .ok l → l.files = []) ∨
    ∃ l, Ledger.load dir d = .ok l ∧ l.files ≠ [] ∧
      ((∃ file err e, removeListed (l.listed dir) {} d = (.error (file, err), e) ∧
        Ledger.clean dir d = (.error (.remove file err), e)) ∨
      ∃ summary e, removeListed (l.listed dir) {} d = (.ok summary, e) ∧
        ((∃ err f, Ledger.store ⟨dir, []⟩ e = (.error err, f) ∧
          Ledger.clean dir d = (.error err, f)) ∨
        ∃ l' f, Ledger.store ⟨dir, []⟩ e = (.ok l', f) ∧
          Ledger.clean dir d = (.ok summary, f))) := by
  unfold Ledger.clean
  cases hload : Ledger.load dir d with
  | error err => exact .inl ⟨⟨err, rfl⟩, nofun⟩
  | ok l =>
    simp only
    by_cases hfiles : l.files = []
    · refine .inl ⟨⟨.noLedger dir, by simp [hfiles]⟩, ?_⟩
      rintro l' hl'
      rwa [← Except.ok.inj hl']
    · refine .inr ⟨l, rfl, hfiles, ?_⟩
      have hlisted : l.files.map (rebase l.dir dir) = l.listed dir := rfl
      rw [if_neg (by simpa using hfiles), hlisted]
      cases hrun : removeListed (l.listed dir) {} d with
      | mk result e =>
        cases result with
        | error stop => exact .inl ⟨stop.1, stop.2, e, rfl, rfl⟩
        | ok summary =>
          refine .inr ⟨summary, e, rfl, ?_⟩
          cases hstore : Ledger.store ⟨dir, []⟩ e with
          | mk stored f =>
            cases stored with
            | error err => exact .inl ⟨err, f, rfl, by simp only [hstore]⟩
            | ok l' => exact .inr ⟨l', f, rfl, by simp only [hstore]⟩

/-- An empty ledger leaves nothing to clean. -/
theorem clean_of_load_empty {recorded : Path} {d : Disk}
    (h : Ledger.load dir d = .ok ⟨recorded, []⟩) :
    Ledger.clean dir d = (.error (.noLedger dir), d) := by
  unfold Ledger.clean
  rw [h]
  rfl

/-- Cleaning that goes well removes all that a ledger lists, and then stores the empty one. -/
theorem run_of_clean_ok {d f : Disk} {summary : CleanSummary}
    (h : Ledger.clean dir d = (.ok summary, f)) :
    ∃ l e l', Ledger.load dir d = .ok l ∧ l.files ≠ [] ∧
      removeListed (l.listed dir) {} d = (.ok summary, e) ∧
      Ledger.store ⟨dir, []⟩ e = (.ok l', f) := by
  rcases clean_course dir d with
    ⟨⟨err, hclean⟩, -⟩ | ⟨l, hload, hfiles, ⟨file, err, e, -, hclean⟩ | ⟨summary', e, hrun,
      ⟨err, f', -, hclean⟩ | ⟨l', f', hstore, hclean⟩⟩⟩ <;> rw [hclean] at h <;> cases h
  exact ⟨l, e, l', hload, hfiles, hrun, hstore⟩

/-- Cleaning stops where removing the listed paths does. -/
theorem clean_of_run_error {d e : Disk} {l : Ledger} {file : Path} {cause : FileError}
    (hload : Ledger.load dir d = .ok l)
    (hrun : removeListed (l.listed dir) {} d = (.error (file, cause), e)) :
    Ledger.clean dir d = (.error (.remove file cause), e) := by
  have hfiles : l.files ≠ [] := by
    intro hnone
    rw [listed, hnone] at hrun
    cases hrun
  unfold listed at hrun
  simp only [Ledger.clean, hload, hrun, List.isEmpty_iff, hfiles, if_false]

/-- Where the ledger was there is no directory after a removal. -/
theorem node?_ledgerPath_of_removed {d e : Disk} {files : List Path} (h : d.Removed e files)
    (hfile : d.isFile (ledgerPath dir) = true) :
    e.node? (d.place (ledgerPath dir)) ≠ some .directory := by
  intro hdirectory
  obtain ⟨content, hthere⟩ := Disk.node?_of_isFile hfile
  rw [h.node?_some hdirectory] at hthere
  cases hthere

end Clean

end Ledger

end DeviceSpec
