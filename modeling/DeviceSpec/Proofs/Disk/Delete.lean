import DeviceSpec.Proofs.Disk.Carry
import DeviceSpec.Proofs.Ledger.Removal

/-!
# Deleting paths

Someone deletes files and directories, with all that is in them.

* **one path** — what it leads to is taken away and nothing else (`node?_delete`);
* **what is left** — it has all directories above it left (`Disk.Pruned`), so a path that ends in
  names leads to its file as long as that is there (`Pruned.isFile_of_steps`);
* **side by side** — a disk that only lacks some files of another still lacks only these when the
  same paths are deleted on both (`Lacks.deleteAll`).
-/

namespace DeviceSpec

namespace Disk

/-- Delete what a path leads to, if it leads anywhere. -/
def delete (d : Disk) (p : Path) : Disk :=
  match d.removeAll p with
  | .ok e => e
  | .error _ => d

/-- Delete what some paths lead to, one after the other. -/
def deleteAll (d : Disk) (ps : List Path) : Disk := ps.foldl delete d

/-- A location is deleted with a path: it is what the path leads to, or lies below it. -/
def taken (d : Disk) (p : Path) (m : Location) : Bool :=
  match d.find p with
  | .ok (l, .directory) => l.isPrefixOf m && m != []
  | .ok (l, .file _) => m == l
  | .error _ => false

/-- Deleting a path takes away what it leads to and leaves all else. -/
theorem node?_delete (d : Disk) (p : Path) (m : Location) :
    (d.delete p).node? m = if d.taken p m then none else d.node? m := by
  unfold delete removeAll taken
  cases hfind : d.find p with
  | error err => simp
  | ok found =>
    obtain ⟨l, n⟩ := found
    cases n with
    | directory =>
      have hrest := lookup_filter_key (l := m) d.entries fun m => !l.isPrefixOf m
      by_cases hm : m = []
      · simp [node?, hm]
      · simp only [node?, hm, if_false, hrest]
        by_cases hl : l.isPrefixOf m = true <;> simp [hl, hm]
    | file content =>
      have hl : l ≠ [] := by
        rintro rfl
        cases node?_of_find hfind
      simp only [remove_of_find hfind, node?_erase hl, beq_iff_eq]

theorem node?_delete_some_iff {d : Disk} {p : Path} {m : Location} {n : Node} :
    (d.delete p).node? m = some n ↔ d.taken p m = false ∧ d.node? m = some n := by
  rw [node?_delete]
  cases d.taken p m <;> simp

/-- A directory that is deleted takes along all that is below it. -/
theorem taken_below {d : Disk} {p : Path} {l m : Location}
    (hdir : d.node? l = some .directory) (hl : l <+: m) (h : d.taken p l = true) :
    d.taken p m = true := by
  unfold taken at h ⊢
  cases hfind : d.find p with
  | error err => simp [hfind] at h
  | ok found =>
    obtain ⟨k, node⟩ := found
    cases node with
    | file content =>
      simp only [hfind, beq_iff_eq] at h
      rw [h, node?_of_find hfind] at hdir
      cases hdir
    | directory =>
      simp only [hfind, Bool.and_eq_true, List.isPrefixOf_iff_prefix, bne_iff_ne] at h ⊢
      refine ⟨h.1.trans hl, ?_⟩
      rintro rfl
      exact h.2 (List.prefix_nil.mp hl)

theorem workingDir_delete (d : Disk) (p : Path) : (d.delete p).workingDir = d.workingDir := by
  unfold delete removeAll
  cases hfind : d.find p with
  | error err => rfl
  | ok found =>
    obtain ⟨l, n⟩ := found
    cases n with
    | directory => rfl
    | file content =>
      rw [remove_of_find hfind]
      rfl

theorem within_delete (d : Disk) (p : Path) : (d.delete p).Within d :=
  ⟨(workingDir_delete d p).symm, fun _ _ hn => (node?_delete_some_iff.mp hn).2⟩

/-! ## What is left -/

/-- The second disk is what is left of the first: what is still there has the directories above it.
-/
structure Pruned (d e : Disk) : Prop where
  within : e.Within d
  above : ∀ l m n, e.node? m = some n → l <+: m → d.node? l = some .directory →
    e.node? l = some .directory

theorem Pruned.refl (d : Disk) : d.Pruned d := ⟨Within.refl d, fun _ _ _ _ _ h => h⟩

theorem Pruned.trans {d e f : Disk} (h : d.Pruned e) (h' : e.Pruned f) : d.Pruned f :=
  ⟨h'.within.trans h.within, fun l m n hm hl hdir =>
    h'.above l m n hm hl (h.above l m n (h'.within.node? m n hm) hl hdir)⟩

theorem pruned_delete (d : Disk) (p : Path) : d.Pruned (d.delete p) := by
  refine ⟨within_delete d p, fun l m n hm hl hdir => ?_⟩
  obtain ⟨hkept, -⟩ := node?_delete_some_iff.mp hm
  refine node?_delete_some_iff.mpr ⟨?_, hdir⟩
  rw [Bool.eq_false_iff] at hkept ⊢
  exact fun htaken => hkept (taken_below hdir hl htaken)

theorem pruned_deleteAll (d : Disk) (ps : List Path) : d.Pruned (d.deleteAll ps) := by
  induction ps generalizing d with
  | nil => exact Pruned.refl d
  | cons p ps ih => exact (pruned_delete d p).trans (ih (d.delete p))

/-- A path whose last steps are names still leads to its file as long as that is there and the steps
before them can be taken. -/
theorem Pruned.isFile_of_steps {d e : Disk} (h : d.Pruned e) {p : Path} (hp : d.isFile p = true)
    {base names : List String} {here : Location} (hsteps : p.steps = base ++ names)
    (hup : ".." ∉ names) (hstart : e.node? (e.origin p) = some .directory)
    (hbase : e.enterAll (e.origin p) base = .ok here) (hthere : e.node? (d.place p) ≠ none) :
    e.isFile p = true := by
  have hback := h.within.keepsDirs
  have horigin : d.origin p = e.origin p := hback.origin_eq p
  obtain ⟨content, hfind⟩ := find_of_isFile hp
  have hfile := node?_of_find hfind
  have hnode : e.node? (d.place p) = some (.file content) := by
    obtain ⟨n, hn⟩ := Option.ne_none_iff_exists'.mp hthere
    rw [hn, ← hfile, h.within.node? _ n hn]
  obtain ⟨haccepted, hend, -, front, last, there, hfront, hlast, henter, hshort, hplace, -⟩ :=
    find_file_iff.mp hfind
  rw [horigin] at henter
  have hdot : "." ∉ base ++ names := hsteps ▸ dot_not_mem_steps p
  rcases List.eq_nil_or_concat names with rfl | ⟨names, last', rfl⟩
  · -- all its steps would be taken, so it would lead to a directory
    rw [List.append_nil] at hsteps
    rw [← hsteps] at hbase
    have hplace' : here = e.place p := enterAll_ok (dot_not_mem_steps p) hbase
    have hdir : d.isDir p = true :=
      isDir_mono hback (isDir_iff.mpr ⟨haccepted, hstart, hplace' ▸ hbase⟩)
    rw [isFile_of_isDir hdir] at hp
    cases hp
  · rw [List.concat_eq_append] at hsteps hup hdot
    rw [hsteps, ← List.append_assoc] at hfront
    obtain ⟨rfl, hlast'⟩ := List.append_inj' hfront rfl
    rw [enterAll_append, enterAll_mono hback hbase] at henter
    have hnames : "." ∉ names ∧ ".." ∉ names := by
      simp only [List.mem_append, not_or] at hdot hup
      exact ⟨hdot.2.1, hup.1⟩
    obtain ⟨rfl, hshorts, habove⟩ := (enterAll_names_iff hnames.1 hnames.2).mp henter
    have henter' : e.enterAll here names = .ok (here ++ names) := by
      refine (enterAll_names_iff hnames.1 hnames.2).mpr ⟨rfl, hshorts, fun front hne hfront => ?_⟩
      refine h.above _ _ _ hnode ?_ (habove front hne hfront)
      rw [hplace, List.append_assoc]
      exact (List.prefix_append_right_inj here).mpr (hfront.trans (List.prefix_append names [last]))
    have hfind' : e.find p = .ok (d.place p, .file content) := by
      refine find_file_iff.mpr ⟨haccepted, hend, hstart, base ++ names, last, here ++ names, ?_,
        hlast, ?_, hshort, hplace, hnode⟩
      · rw [hsteps, ← hlast', List.append_assoc]
      · rw [enterAll_append, hbase]
        exact henter'
    exact isFile_of_find hfind'

/-! ## Side by side -/

/-- The second disk is the first without some files, which are among given locations. -/
structure Lacks (d e : Disk) (lost : Location → Prop) : Prop where
  keepsDirs : d.KeepsDirs e
  within : e.Within d
  same : ∀ m, ¬ lost m → e.node? m = d.node? m

namespace Lacks

variable {d e : Disk} {lost : Location → Prop}

/-- What is deleted on the smaller disk is deleted on the larger one. -/
theorem taken (h : d.Lacks e lost) {p : Path} {m : Location} (hm : e.taken p m = true) :
    d.taken p m = true := by
  unfold Disk.taken at hm ⊢
  cases hfind : e.find p with
  | error err => simp [hfind] at hm
  | ok found =>
    obtain ⟨l, n⟩ := found
    cases n with
    | directory =>
      obtain ⟨hdir, rfl⟩ := find_directory_iff.mp hfind
      have hfind' : d.find p = .ok (e.place p, .directory) := find_directory_iff.mpr
        ⟨isDir_mono h.within.keepsDirs hdir, h.keepsDirs.place_eq p⟩
      simpa [hfind, hfind'] using hm
    | file content =>
      have hfind' := h.within.find_file hfind
      simpa [hfind, hfind'] using hm

/-- What is deleted on the larger disk is deleted on the smaller one, or was not there. -/
theorem taken_or (h : d.Lacks e lost) {p : Path} {m : Location} (hm : d.taken p m = true) :
    e.taken p m = true ∨ e.node? m = none := by
  unfold Disk.taken at hm ⊢
  cases hfind : d.find p with
  | error err => simp [hfind] at hm
  | ok found =>
    obtain ⟨l, n⟩ := found
    cases n with
    | directory =>
      obtain ⟨hdir, rfl⟩ := find_directory_iff.mp hfind
      have hfind' : e.find p = .ok (d.place p, .directory) := find_directory_iff.mpr
        ⟨isDir_mono h.keepsDirs hdir, (h.keepsDirs.place_eq p).symm⟩
      exact .inl (by simpa [hfind, hfind'] using hm)
    | file content =>
      cases hnode : e.node? m with
      | none => exact .inr rfl
      | some n =>
        have hm' : m = l := by simpa [hfind] using hm
        have hfile : n = .file content := by
          have hthere := h.within.node? m n hnode
          rw [hm', node?_of_find hfind] at hthere
          exact (Option.some.inj hthere).symm
        have hfind' := find_file_mono h.keepsDirs hfind (hm' ▸ hfile ▸ hnode)
        exact .inl (by simpa [hfind, hfind'] using hm)

theorem delete (h : d.Lacks e lost) (p : Path) : (d.delete p).Lacks (e.delete p) lost := by
  have hworkingDir : (e.delete p).workingDir = (d.delete p).workingDir := by
    rw [workingDir_delete, workingDir_delete, h.keepsDirs.workingDir]
  refine ⟨⟨hworkingDir, fun m hm => ?_⟩, ⟨hworkingDir.symm, fun m n hm => ?_⟩, fun m hm => ?_⟩
  · obtain ⟨hkept, hdir⟩ := node?_delete_some_iff.mp hm
    refine node?_delete_some_iff.mpr ⟨?_, h.keepsDirs.directory m hdir⟩
    rw [Bool.eq_false_iff] at hkept ⊢
    exact fun htaken => hkept (h.taken htaken)
  · obtain ⟨hkept, hnode⟩ := node?_delete_some_iff.mp hm
    refine node?_delete_some_iff.mpr ⟨?_, h.within.node? m n hnode⟩
    rw [Bool.eq_false_iff] at hkept ⊢
    intro htaken
    rcases h.taken_or htaken with htaken' | hnone
    · exact hkept htaken'
    · rw [hnone] at hnode
      cases hnode
  · rw [node?_delete, node?_delete]
    by_cases htaken : d.taken p m = true
    · rw [if_pos htaken]
      rcases h.taken_or htaken with htaken' | hnone
      · rw [if_pos htaken']
      · rw [hnone, ite_self]
    · rw [if_neg htaken, if_neg fun htaken' => htaken (h.taken htaken'), h.same m hm]

theorem deleteAll (h : d.Lacks e lost) (ps : List Path) :
    (d.deleteAll ps).Lacks (e.deleteAll ps) lost := by
  induction ps generalizing d e with
  | nil => exact h
  | cons p ps ih => exact ih (h.delete p)

end Lacks

end Disk

end DeviceSpec
