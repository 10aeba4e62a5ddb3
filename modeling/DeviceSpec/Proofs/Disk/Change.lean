import DeviceSpec.Proofs.Disk.Follow

/-!
# What changes on a disk

The operations on files seen from outside: what stands where afterwards.

* **directories** — making directories puts directories where there was nothing and changes nothing
  else (`moreDirs_makeParents`), below a directory that is there only below it
  (`makeParents_below`);
* **writing** — after a list of writes every location holds the content written there last, and
  what was there before if there is none (`WroteAll`); a file that cannot be written is not there
  to be read either (`of_writeWithParents_error`), and where one is or was, one can be written
  (`writable_of_isFile`).
-/

namespace DeviceSpec

namespace Disk

/-! ## More directories -/

/-- The second disk has what is on the first, and possibly more directories. -/
structure MoreDirs (d e : Disk) : Prop where
  workingDir : e.workingDir = d.workingDir
  node? : ∀ l, e.node? l = d.node? l ∨ d.node? l = none ∧ e.node? l = some .directory

theorem MoreDirs.refl (d : Disk) : d.MoreDirs d := ⟨rfl, fun _ => .inl rfl⟩

theorem MoreDirs.trans {d e f : Disk} (h : d.MoreDirs e) (h' : e.MoreDirs f) : d.MoreDirs f := by
  refine ⟨h'.workingDir.trans h.workingDir, fun l => ?_⟩
  rcases h.node? l with hl | ⟨hnone, hdir⟩
  · rw [← hl]
    exact h'.node? l
  · rcases h'.node? l with hl' | ⟨hnone', -⟩
    · exact .inr ⟨hnone, hl'.trans hdir⟩
    · rw [hdir] at hnone'
      cases hnone'

theorem MoreDirs.keepsDirs {d e : Disk} (h : d.MoreDirs e) : d.KeepsDirs e := by
  refine ⟨h.workingDir, fun l hl => ?_⟩
  rcases h.node? l with hsame | ⟨hnone, -⟩
  · rw [hsame, hl]
  · rw [hl] at hnone
    cases hnone

theorem MoreDirs.node?_file {d e : Disk} (h : d.MoreDirs e) {l : Location} {content : ByteArray} :
    e.node? l = some (.file content) ↔ d.node? l = some (.file content) := by
  rcases h.node? l with hl | ⟨hnone, hdir⟩
  · rw [hl]
  · rw [hnone, hdir]
    simp

/-! ## Making directories -/

/-- A directory is made at the place of its path, whose last step is a name. -/
theorem makeDir_ok {d e : Disk} {p : Path} (h : d.makeDir p = .ok e) :
    d.node? (d.place p) = none ∧ e = d.put (d.place p) .directory ∧
      ∃ front last, p.steps = front ++ [last] ∧ last ≠ ".." := by
  unfold makeDir at h
  cases ht : d.target p with
  | error err => simp [ht] at h
  | ok t =>
    obtain ⟨-, -, -, hcases⟩ := target_ok ht
    have hplace := place_of_target ht
    simp only [ht, at?] at h
    rcases hcases with ⟨hname, -⟩ | ⟨front, last, hname, hup, hsteps, -⟩
    · simp [hname] at h
    · simp only [hname] at h
      by_cases hlong : longestName < last.utf8ByteSize
      · simp [hlong] at h
      · simp only [hlong, if_false] at h
        cases hnode : d.node? t.location with
        | some n => simp [hnode] at h
        | none =>
          simp only [hnode, Except.ok.injEq] at h
          rw [← hplace]
          exact ⟨hnode, h.symm, front, last, hsteps, hup⟩

theorem moreDirs_put {d : Disk} {l : Location} (h : d.node? l = none) :
    d.MoreDirs (d.put l .directory) := by
  have hl : l ≠ [] := by
    intro hnil
    simp [hnil, Disk.node?] at h
  refine ⟨rfl, fun m => ?_⟩
  rw [node?_put hl]
  by_cases hm : m = l
  · subst hm
    exact .inr ⟨h, by simp⟩
  · simp [hm]

theorem moreDirs_makeDir {d e : Disk} {p : Path} (h : d.makeDir p = .ok e) : d.MoreDirs e := by
  obtain ⟨hnone, rfl, -⟩ := makeDir_ok h
  exact moreDirs_put hnone

/-- Making directories, as a whole: what holds of a disk and itself and of a disk and one with a
further directory for a path above, and is carried along, holds of the disks before and after. -/
theorem makeDirsWithin_induct {motive : Disk → Disk → Prop} (refl : ∀ d, motive d d)
    (trans : ∀ {d e f}, motive d e → motive e f → motive d f) (above : Path → Prop)
    (step : ∀ {d e p}, above p → d.makeDir p = .ok e → motive d e)
    (parent : ∀ {p q}, above p → p.parent? = some q → above q) (n : Nat) {d : Disk} {p : Path}
    (hp : above p) : motive d (makeDirsWithin n d p).2 := by
  induction n generalizing d p with
  | zero => exact refl d
  | succ n ih =>
    unfold makeDirsWithin
    split
    · exact refl d
    · split
      · rename_i e hmake
        exact step hp hmake
      · split
        · exact refl d
        · rename_i q hq
          have hq := ih (d := d) (parent hp hq)
          split
          · rename_i hrest
            rwa [hrest] at hq
          · rename_i d' hrest
            rw [hrest] at hq
            split
            · rename_i e hmake
              exact trans hq (step hp hmake)
            · split <;> exact hq
      · split <;> exact refl d

theorem moreDirs_makeDirs (d : Disk) (p : Path) : d.MoreDirs (d.makeDirs p).2 :=
  makeDirsWithin_induct MoreDirs.refl MoreDirs.trans (fun _ => True)
    (fun _ => moreDirs_makeDir) (fun _ _ => trivial) _ trivial

theorem moreDirs_makeParents (d : Disk) (p : Path) : d.MoreDirs (d.makeParents p).2 := by
  unfold makeParents
  split
  · exact MoreDirs.refl d
  · split
    · exact MoreDirs.refl d
    · exact moreDirs_makeDirs d _

/-- On the way to something below a directory that is there, directories are only made below it. -/
theorem below_of_makeDir {d e : Disk} {dir p : Path} (hdir : dir.isAbsolute = true)
    (hthere : d.isDir dir = true) (hp : p.isAbsolute = true) {names : List String}
    (hup : ".." ∉ names) (hbegins : p.steps <+: dir.steps ++ names) (h : d.makeDir p = .ok e) :
    d.place dir <+: d.place p := by
  obtain ⟨hnone, -, front, last, hsteps, hlast⟩ := makeDir_ok h
  rw [place_of_isAbsolute hp] at hnone ⊢
  rw [place_of_isAbsolute hdir]
  rcases List.prefix_or_prefix_of_prefix hbegins (List.prefix_append dir.steps _) with hpre | hpre
  · -- the directory is only reached through directories, so none of them is made
    exfalso
    obtain ⟨rest, hrest⟩ := hpre
    obtain ⟨-, -, henter⟩ := isDir_iff.mp hthere
    have horigin : d.origin dir = [] := by simp [origin, hdir]
    rw [← hrest, enterAll_append, horigin] at henter
    cases hhere : d.enterAll [] p.steps with
    | error err => simp [hhere] at henter
    | ok here =>
      have hdot := dot_not_mem_steps p
      have hwalk := enterAll_ok hdot hhere
      have hlastDot : last ≠ "." := by
        rintro rfl
        exact hdot (by simp [hsteps])
      rw [hsteps, enterAll_concat_iff hlastDot hlast] at hhere
      obtain ⟨next, -, -, hnode, hnext⟩ := hhere
      rw [← hnext, hwalk, hnone] at hnode
      cases hnode
  · obtain ⟨more, hmore⟩ := hpre
    have hsub : more <+: names := by rwa [← hmore, List.prefix_append_right_inj] at hbegins
    rw [← hmore, List.foldl_append, foldl_walk fun hmem => hup (hsub.subset hmem)]
    exact List.prefix_append _ _

/-- In a directory that is there, making the directories above a name changes nothing outside. -/
theorem makeParents_below {d : Disk} {dir : Path} {name : String} (hdir : dir.isAbsolute = true)
    (hthere : d.isDir dir = true) (hrel : Path.isAbsolute ⟨name⟩ = false)
    (hup : ".." ∉ Path.steps ⟨name⟩) {l : Location} (hl : ¬ d.place dir <+: l) :
    (d.makeParents (dir.join name)).2.node? l = d.node? l := by
  let above (p : Path) : Prop := p.isAbsolute = true ∧ p.steps <+: dir.steps ++ Path.steps ⟨name⟩
  let motive (d e : Disk) : Prop :=
    d.isDir dir = true → e.isDir dir = true ∧
      (¬ dir.steps.foldl walk [] <+: l → e.node? l = d.node? l)
  have parent : ∀ {p q : Path}, above p → p.parent? = some q → above q := by
    rintro p q ⟨habs, hbegins⟩ hq
    obtain ⟨-, habs', hsteps⟩ := Path.steps_of_parent? habs hq
    exact ⟨habs', hsteps ▸ (List.dropLast_prefix _).trans hbegins⟩
  have step : ∀ {d e : Disk} {p : Path}, above p → d.makeDir p = .ok e → motive d e := by
    rintro d e p ⟨habs, hbegins⟩ hmake hthere
    refine ⟨isDir_mono (moreDirs_makeDir hmake).keepsDirs hthere, fun hl => ?_⟩
    have hbelow := below_of_makeDir hdir hthere habs hup hbegins hmake
    rw [place_of_isAbsolute hdir] at hbelow
    obtain ⟨hnone, rfl, -⟩ := makeDir_ok hmake
    rw [node?_put, if_neg]
    · rintro rfl
      exact hl hbelow
    · intro hnil
      simp [hnil, Disk.node?] at hnone
  have hmain : motive d (d.makeParents (dir.join name)).2 := by
    unfold makeParents
    split
    · exact fun h => ⟨h, fun _ => rfl⟩
    · rename_i q hq
      split
      · exact fun h => ⟨h, fun _ => rfl⟩
      · refine makeDirsWithin_induct (fun d h => ⟨h, fun _ => rfl⟩) ?_ above step parent _
          (parent ⟨Path.isAbsolute_join hdir name, ?_⟩ hq)
        · intro d e f hde hef h
          obtain ⟨he, hsame⟩ := hde h
          obtain ⟨hf, hsame'⟩ := hef he
          exact ⟨hf, fun hl => (hsame' hl).trans (hsame hl)⟩
        · exact Path.steps_join hrel ▸ List.prefix_refl _
  exact (hmain hthere).2 (place_of_isAbsolute hdir d ▸ hl)

/-! ## Directories that cannot be made -/

theorem makeDir_of_isDir {d : Disk} {p : Path} (h : d.isDir p = true) :
    d.makeDir p = .error .alreadyExists := by
  obtain ⟨t, ht, hat⟩ := isDir_iff_at?.mp h
  simp [makeDir, ht, hat]

/-- Directories that are there need not be made. -/
theorem makeDirs_of_isDir {d : Disk} {p : Path} (h : d.isDir p = true) :
    d.makeDirs p = (.ok (), d) := by
  unfold makeDirs makeDirsWithin
  rw [makeDir_of_isDir h]
  simp [h]

/-- If a path can be followed, the directories above it are there. -/
theorem makeParents_of_target {d : Disk} {p : Path} {t : Target} (hp : p.isAbsolute = true)
    (ht : d.target p = .ok t) : d.makeParents p = (.ok (), d) := by
  unfold makeParents
  split
  · rfl
  · rename_i q hq
    split
    · rfl
    · exact makeDirs_of_isDir (isDir_parent hp hq ht)

/-- An error that stands unless the directory is there means that it is not. -/
theorem isDir_of_unless_error {d e : Disk} {p : Path} {err err' : FileError}
    (h : (if d.isDir p then (Except.ok (), d) else (.error err', d)) = (.error err, e)) :
    e.isDir p = false := by
  split at h
  · cases h
  · rename_i hdir
    cases h
    exact Bool.not_eq_true _ |>.mp hdir

/-- A directory that could not be made is not there. -/
theorem isDir_of_makeDirsWithin_error {n : Nat} {d e : Disk} {p : Path} {err : FileError}
    (hp : p.isAbsolute = true) (hn : p.steps.length < n)
    (h : makeDirsWithin n d p = (.error err, e)) : e.isDir p = false := by
  induction n generalizing p e err with
  | zero => omega
  | succ n ih =>
    unfold makeDirsWithin at h
    rw [if_neg (by simpa using Path.text_ne_empty_of_isAbsolute hp)] at h
    split at h
    · cases h
    · rename_i hmake
      split at h
      · cases h
        rw [← Bool.not_eq_true]
        intro hdir
        rw [makeDir_of_isDir hdir] at hmake
        cases hmake
      · rename_i q hq
        obtain ⟨hne, hq', hsteps⟩ := Path.steps_of_parent? hp hq
        have hlength : q.steps.length < n := by
          have := List.length_pos_iff.mpr hne
          rw [hsteps, List.length_dropLast]
          omega
        split at h
        · -- the directory above is missing, so nothing below it is there
          rename_i err' e' hrest
          cases h
          rw [← Bool.not_eq_true]
          intro hdir
          obtain ⟨t, ht, -⟩ := isDir_iff_at?.mp hdir
          have habove := isDir_parent hp hq ht
          rw [ih hq' hlength hrest] at habove
          cases habove
        · split at h
          · cases h
          · exact isDir_of_unless_error h
    · exact isDir_of_unless_error h

/-- Below directories that could not be made there is no file. -/
theorem isFile_of_makeParents_error {d e : Disk} {p : Path} {err : FileError}
    (hp : p.isAbsolute = true) (h : d.makeParents p = (.error err, e)) : e.isFile p = false := by
  unfold makeParents at h
  split at h
  · cases h
  · rename_i q hq
    split at h
    · cases h
    · obtain ⟨-, hq', -⟩ := Path.steps_of_parent? hp hq
      have hdir : e.isDir q = false := by
        apply isDir_of_makeDirsWithin_error hq' _ h
        rw [Path.components_of_isAbsolute hq', List.length_cons, List.length_map]
        omega
      cases hfile : e.isFile p with
      | false => rfl
      | true =>
        obtain ⟨content, hfind⟩ := find_of_isFile hfile
        obtain ⟨t, -, ht, -⟩ := find_file hfind
        rw [isDir_parent hp hq ht] at hdir
        cases hdir

/-! ## Writing -/

/-- A path to a name can be written to as long as no directory stands in its place. -/
theorem write_of_target {d : Disk} {p : Path} {t : Target} {last : String} (content : ByteArray)
    (ht : d.target p = .ok t) (hname : t.name? = some last)
    (hshort : last.utf8ByteSize ≤ longestName) (hslash : t.endsInSlash = false)
    (hnode : d.node? (d.place p) ≠ some .directory) :
    d.write p content = .ok (d.put (d.place p) (.file content)) := by
  rw [← place_of_target ht] at hnode ⊢
  unfold write
  simp only [ht, hname, hslash, at?, Nat.not_lt.mpr hshort]
  cases hn : d.node? t.location with
  | none => simp
  | some n =>
    cases n with
    | directory => exact absurd hn hnode
    | file old => simp

/-- A content goes to the place of its path. -/
theorem write_ok {d e : Disk} {p : Path} {content : ByteArray} (h : d.write p content = .ok e) :
    e = d.put (d.place p) (.file content) ∧ d.node? (d.place p) ≠ some .directory ∧
      ∃ t last, d.target p = .ok t ∧ t.name? = some last ∧ last.utf8ByteSize ≤ longestName ∧
        t.endsInSlash = false := by
  cases ht : d.target p with
  | error err => simp [write, ht] at h
  | ok t =>
    cases hname : t.name? with
    | none => simp [write, ht, hname] at h
    | some last =>
      have hslash : t.endsInSlash = false := by
        cases hslash : t.endsInSlash with
        | false => rfl
        | true => simp [write, ht, hslash] at h
      have hshort : last.utf8ByteSize ≤ longestName := by
        refine Nat.le_of_not_lt fun hlong => ?_
        simp [write, ht, hname, hslash, at?, hlong] at h
      have hnode : d.node? (d.place p) ≠ some .directory := by
        intro hdir
        rw [← place_of_target ht] at hdir
        simp [write, ht, hname, hslash, at?, Nat.not_lt.mpr hshort, hdir] at h
      rw [write_of_target content ht hname hshort hslash hnode] at h
      exact ⟨(Except.ok.inj h).symm, hnode, t, last, rfl, hname, hshort, hslash⟩

/-- Writing changes one location. -/
theorem node?_of_write {d e : Disk} {p : Path} {content : ByteArray}
    (h : d.write p content = .ok e) (l : Location) :
    e.node? l = if l = d.place p then some (.file content) else d.node? l := by
  obtain ⟨rfl, -, t, last, ht, hname, -, -⟩ := write_ok h
  have hne : d.place p ≠ [] := by
    rw [← place_of_target ht, Target.location_of_name hname]
    exact List.concat_ne_nil _ _
  exact node?_put hne

/-- What the last of a list of writes to a location puts there. -/
def lastAt (d : Disk) (l : Location) (ws : List (Path × ByteArray)) : Option ByteArray :=
  (ws.filter (fun w => d.place w.1 = l)).getLast?.map (·.2)

/-- The second disk comes from the first by writing contents in order, with the directories they
need: the files can be found, and every location holds what was written there last. -/
structure WroteAll (d e : Disk) (ws : List (Path × ByteArray)) : Prop where
  keepsDirs : d.KeepsDirs e
  isFile : ∀ p content, (p, content) ∈ ws → e.isFile p = true
  written : ∀ l content, d.lastAt l ws = some content → e.node? l = some (.file content)
  unwritten : ∀ l, d.lastAt l ws = none →
    e.node? l = d.node? l ∨ d.node? l = none ∧ e.node? l = some .directory

theorem lastAt_append (d : Disk) (l : Location) (as bs : List (Path × ByteArray)) :
    d.lastAt l (as ++ bs) = (d.lastAt l bs).or (d.lastAt l as) := by
  rw [lastAt, List.filter_append, List.getLast?_append, Option.map_or]
  rfl

theorem lastAt_eq_none_iff {d : Disk} {l : Location} {ws : List (Path × ByteArray)} :
    d.lastAt l ws = none ↔ ∀ w ∈ ws, d.place w.1 ≠ l := by
  simp [lastAt]

theorem exists_mem_of_lastAt {d : Disk} {l : Location} {ws : List (Path × ByteArray)}
    (h : d.lastAt l ws ≠ none) : ∃ w ∈ ws, d.place w.1 = l := by
  apply Classical.byContradiction
  intro hnone
  exact h (lastAt_eq_none_iff.mpr fun w hw hplace => hnone ⟨w, hw, hplace⟩)

theorem lastAt_singleton (d : Disk) (l : Location) (p : Path) (content : ByteArray) :
    d.lastAt l [(p, content)] = if d.place p = l then some content else none := by
  by_cases h : d.place p = l <;> simp [lastAt, h]

theorem lastAt_congr {d e : Disk} (h : d.KeepsDirs e) (l : Location)
    (ws : List (Path × ByteArray)) :
    e.lastAt l ws = d.lastAt l ws := by
  simp only [lastAt, h.place_eq]

theorem MoreDirs.wroteAll {d e : Disk} (h : d.MoreDirs e) : d.WroteAll e [] :=
  ⟨h.keepsDirs, nofun, nofun, fun l _ => h.node? l⟩

/-- What was a file stays one: writing only changes contents. -/
theorem WroteAll.isFile_of_isFile {d e : Disk} {ws : List (Path × ByteArray)} (h : d.WroteAll e ws)
    {p : Path} (hp : d.isFile p = true) : e.isFile p = true := by
  obtain ⟨content, hnode⟩ := node?_of_isFile hp
  cases hlast : d.lastAt (d.place p) ws with
  | some content' => exact isFile_mono h.keepsDirs hp (h.written _ content' hlast)
  | none =>
    rcases h.unwritten _ hlast with hl | ⟨hnone, -⟩
    · exact isFile_mono h.keepsDirs hp (hl.trans hnode)
    · rw [hnode] at hnone
      cases hnone

theorem WroteAll.append {d e f : Disk} {as bs : List (Path × ByteArray)} (h : d.WroteAll e as)
    (h' : e.WroteAll f bs) : d.WroteAll f (as ++ bs) := by
  have hcongr := fun l => lastAt_congr h.keepsDirs l bs
  refine ⟨h.keepsDirs.trans h'.keepsDirs, ?_, ?_, ?_⟩
  · intro p content hw
    rcases List.mem_append.mp hw with hw | hw
    · exact h'.isFile_of_isFile (h.isFile p content hw)
    · exact h'.isFile p content hw
  · intro l content hlast
    rw [lastAt_append, ← hcongr] at hlast
    cases hb : e.lastAt l bs with
    | some content' =>
      rw [hb, Option.some_or] at hlast
      rw [← Option.some.inj hlast]
      exact h'.written l content' hb
    | none =>
      rw [hb, Option.none_or] at hlast
      have hnode := h.written l content hlast
      rcases h'.unwritten l hb with hl | ⟨hnone, -⟩
      · exact hl.trans hnode
      · rw [hnode] at hnone
        cases hnone
  · intro l hlast
    rw [lastAt_append, ← hcongr, Option.or_eq_none_iff] at hlast
    rcases h.unwritten l hlast.2 with hl | ⟨hnone, hdir⟩
    · rw [← hl]
      exact h'.unwritten l hlast.1
    · exact .inr ⟨hnone, h'.keepsDirs.directory l hdir⟩

theorem wroteAll_write {d e : Disk} {p : Path} {content : ByteArray}
    (h : d.write p content = .ok e) : d.WroteAll e [(p, content)] := by
  have hwrite := node?_of_write h
  obtain ⟨rfl, hnode, t, last, ht, hname, hshort, hslash⟩ := write_ok h
  have hkeeps : d.KeepsDirs (d.put (d.place p) (.file content)) := by
    refine ⟨rfl, fun l hl => ?_⟩
    rw [hwrite, if_neg]
    · exact hl
    · rintro rfl
      exact hnode hl
  refine ⟨hkeeps, ?_, ?_, ?_⟩
  · intro q content' hw
    obtain ⟨rfl, rfl⟩ := Prod.mk.inj (List.mem_singleton.mp hw)
    have hput := hwrite t.location
    rw [if_pos (place_of_target ht)] at hput
    exact isFile_of_find (find_of_target (target_mono hkeeps ht) hname hshort hput hslash)
  · intro l content' hlast
    rw [lastAt_singleton] at hlast
    split at hlast
    · rename_i hl
      rw [hwrite, if_pos hl.symm, Option.some.inj hlast]
    · cases hlast
  · intro l hlast
    rw [lastAt_singleton] at hlast
    split at hlast
    · cases hlast
    · rename_i hl
      rw [hwrite, if_neg (Ne.symm hl)]
      exact .inl rfl

/-- What is there after writes: what was written last, or a file that was there before. -/
theorem WroteAll.node?_file {d e : Disk} {ws : List (Path × ByteArray)} (h : d.WroteAll e ws)
    {l : Location} {content : ByteArray} :
    e.node? l = some (.file content) ↔
      d.lastAt l ws = some content ∨ d.lastAt l ws = none ∧ d.node? l = some (.file content) := by
  cases hlast : d.lastAt l ws with
  | some content' => simp [h.written l content' hlast]
  | none =>
    rcases h.unwritten l hlast with hl | ⟨hnone, hdir⟩
    · simp [hl]
    · simp [hnone, hdir]

/-- What was written last to the place of a written path is read from it. -/
theorem WroteAll.read {d e : Disk} {ws : List (Path × ByteArray)} (h : d.WroteAll e ws) {p : Path}
    {content content' : ByteArray} (hp : (p, content') ∈ ws)
    (hlast : d.lastAt (d.place p) ws = some content) : e.read p = .ok content := by
  obtain ⟨found, hfind⟩ := find_of_isFile (h.isFile p content' hp)
  have hnode := node?_of_find hfind
  rw [h.keepsDirs.place_eq, h.written _ _ hlast, Option.some.injEq, Node.file.injEq] at hnode
  exact read_of_find (hnode ▸ hfind)

theorem wroteAll_writeWithParents {d e : Disk} {p : Path} {content : ByteArray}
    (h : d.writeWithParents p content = (.ok (), e)) : d.WroteAll e [(p, content)] := by
  unfold writeWithParents at h
  split at h
  · cases h
  · rename_i d' hparents
    split at h
    · cases h
    · rename_i e' hwrite
      cases h
      have hmore : d.MoreDirs d' := by
        have := moreDirs_makeParents d p
        rwa [hparents] at this
      exact hmore.wroteAll.append (wroteAll_write hwrite)

/-- Writing below a directory that is there changes nothing outside. -/
theorem writeWithParents_outside {d : Disk} {dir : Path} {name : String} {content : ByteArray}
    (hdir : dir.isAbsolute = true) (hthere : d.isDir dir = true)
    (hrel : Path.isAbsolute ⟨name⟩ = false) (hup : ".." ∉ Path.steps ⟨name⟩) {l : Location}
    (hl : ¬ d.place dir <+: l) :
    (d.writeWithParents (dir.join name) content).2.node? l = d.node? l := by
  have hparents := makeParents_below hdir hthere hrel hup hl
  have hmore := moreDirs_makeParents d (dir.join name)
  unfold writeWithParents
  cases hmake : d.makeParents (dir.join name) with
  | mk result d' =>
    rw [hmake] at hparents hmore
    simp only at hparents hmore
    cases result with
    | error err => simpa only using hparents
    | ok u =>
      simp only
      cases hwrite : d'.write (dir.join name) content with
      | error err => simpa only using hparents
      | ok e =>
        simp only
        rw [node?_of_write hwrite, if_neg]
        · exact hparents
        · rintro rfl
          rw [place_join hrel hup, hmore.keepsDirs.place_eq] at hl
          exact hl (List.prefix_append _ _)

/-- A file that could not be written is not there, and nothing but directories was made. -/
theorem of_writeWithParents_error {d e : Disk} {p : Path} {content : ByteArray} {err : FileError}
    (hp : p.isAbsolute = true) (h : d.writeWithParents p content = (.error err, e)) :
    e.isFile p = false ∧ d.MoreDirs e := by
  have hmore := moreDirs_makeParents d p
  unfold writeWithParents at h
  split at h
  · rename_i d' hparents
    cases h
    rw [hparents] at hmore
    exact ⟨isFile_of_makeParents_error hp hparents, hmore⟩
  · rename_i d' hparents
    split at h
    · rename_i hwrite
      cases h
      rw [hparents] at hmore
      refine ⟨?_, hmore⟩
      cases hfile : e.isFile p with
      | false => rfl
      | true =>
        obtain ⟨old, hfind⟩ := find_of_isFile hfile
        obtain ⟨t, last, ht, hname, hshort, -, hnode, hslash⟩ := find_file hfind
        have hwrites := write_of_target content ht hname hshort hslash (by simp [hnode])
        rw [hwrite] at hwrites
        cases hwrites
    · cases h

/-- The path leads to a name in a directory, and no directory stands there: a file can be written
without making directories. -/
structure Writable (d : Disk) (p : Path) : Prop where
  target : ∃ t last, d.target p = .ok t ∧ t.name? = some last ∧
    last.utf8ByteSize ≤ longestName ∧ t.endsInSlash = false
  free : d.node? (d.place p) ≠ some .directory

section Writable

variable {d e : Disk} {p : Path}

/-- Where a file is or was, one can be written. -/
theorem writable_of_isFile (hfile : d.isFile p = true) (hkeeps : d.KeepsDirs e)
    (hfree : e.node? (d.place p) ≠ some .directory) : e.Writable p := by
  obtain ⟨old, hfind⟩ := find_of_isFile hfile
  obtain ⟨t, last, ht, hname, hshort, -, -, hslash⟩ := find_file hfind
  exact ⟨⟨t, last, target_mono hkeeps ht, hname, hshort, hslash⟩, hkeeps.place_eq p ▸ hfree⟩

theorem Writable.write (h : d.Writable p) (content : ByteArray) :
    d.write p content = .ok (d.put (d.place p) (.file content)) := by
  obtain ⟨⟨t, last, ht, hname, hshort, hslash⟩, hfree⟩ := h
  exact write_of_target content ht hname hshort hslash hfree

theorem writable_iff : d.Writable p ↔
    (match d.target p with
      | .ok t => t.name?.any (fun last => decide (last.utf8ByteSize ≤ longestName))
          && !t.endsInSlash
      | .error _ => false) = true ∧ d.node? (d.place p) ≠ some .directory := by
  constructor
  · rintro ⟨⟨t, last, ht, hname, hshort, hslash⟩, hfree⟩
    refine ⟨?_, hfree⟩
    simp [ht, hname, hshort, hslash]
  · rintro ⟨htarget, hfree⟩
    refine ⟨?_, hfree⟩
    split at htarget
    · rename_i t ht
      simp only [Bool.and_eq_true, Option.any_eq_true, decide_eq_true_eq,
        Bool.not_eq_true'] at htarget
      obtain ⟨⟨last, hname, hshort⟩, hslash⟩ := htarget
      exact ⟨t, last, ht, hname, hshort, hslash⟩
    · cases htarget

instance (d : Disk) (p : Path) : Decidable (d.Writable p) := decidable_of_iff _ writable_iff.symm

/-- The directories above are there already. -/
theorem Writable.makeParents (h : d.Writable p) (hp : p.isAbsolute = true) :
    d.makeParents p = (.ok (), d) := by
  obtain ⟨⟨t, -, ht, -⟩, -⟩ := h
  exact makeParents_of_target hp ht

theorem Writable.writeWithParents (h : d.Writable p) (hp : p.isAbsolute = true)
    (content : ByteArray) :
    d.writeWithParents p content = (.ok (), d.put (d.place p) (.file content)) := by
  unfold Disk.writeWithParents
  simp only [h.makeParents hp, h.write content]

end Writable

end Disk

end DeviceSpec
