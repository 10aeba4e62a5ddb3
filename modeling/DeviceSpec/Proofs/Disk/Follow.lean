import DeviceSpec.Disk.Access
import DeviceSpec.Proofs.Path.Steps

/-!
# Where a path leads

There are no links, so where a path leads can be read off its steps: a name goes down, two dots go
up. The directories on the way only decide whether it leads there at all.

* **place** — a path that can be followed leads to its place (`place_of_target`,
  `place_of_find`);
* **staying** — a path that can be followed is still followed to the same place when directories
  are kept (`target_mono`, `find_file_mono`);
* **files** — what leads to a file can be read off its text, its steps and the directories
  (`follow_ok_iff`, `find_ok_iff`, `find_file_iff`);
* **respelling** — two paths with the same steps lead to the same file, as far as the system
  accepts their texts (`find_file_respell`).
-/

namespace DeviceSpec

/-- Take a step from a location. -/
def walk (here : Location) (step : String) : Location :=
  if step = ".." then here.dropLast else here ++ [step]

/-- A text that the system accepts as a path. -/
structure Path.Accepted (p : Path) : Prop where
  noNul : '\x00' ∉ p.text.toList
  nonempty : p.text ≠ ""
  short : p.text.utf8ByteSize ≤ Disk.longestPath

/-- The segments of a path that are looked at. -/
def Path.seen (p : Path) : List String := p.segments.filter (fun s => !s.isEmpty)

namespace Disk

/-- Where a path starts. -/
def origin (d : Disk) (p : Path) : Location := if p.isAbsolute then [] else d.workingDir

/-- Where a path leads, if it can be followed. -/
def place (d : Disk) (p : Path) : Location := p.steps.foldl walk (d.origin p)

theorem place_of_isAbsolute {p : Path} (h : p.isAbsolute = true) (d : Disk) :
    d.place p = p.steps.foldl walk [] := by
  simp [place, origin, h]

/-- Names lead straight down. -/
theorem foldl_walk {names : List String} (h : ".." ∉ names) (here : Location) :
    names.foldl walk here = here ++ names := by
  induction names generalizing here with
  | nil => simp
  | cons s rest ih =>
    rw [List.mem_cons, not_or] at h
    rw [List.foldl_cons, ih h.2, walk, if_neg (Ne.symm h.1), List.append_assoc]
    rfl

/-- A name below a directory leads below the place of the directory. -/
theorem place_join {d : Disk} {dir : Path} {name : String} (hrel : Path.isAbsolute ⟨name⟩ = false)
    (hup : ".." ∉ Path.steps ⟨name⟩) :
    d.place (dir.join name) = d.place dir ++ Path.steps ⟨name⟩ := by
  have horigin : d.origin (dir.join name) = d.origin dir := by
    rw [origin, origin, Path.isAbsolute_join_eq hrel]
  rw [place, place, horigin, Path.steps_join hrel, List.foldl_append, foldl_walk hup]

/-! ## Stepping through directories -/

theorem enterAll_append (d : Disk) (here : Location) (a b : List String) :
    d.enterAll here (a ++ b) =
      match d.enterAll here a with
      | .error e => .error e
      | .ok l => d.enterAll l b := by
  induction a generalizing here with
  | nil => rfl
  | cons s rest ih =>
    simp only [List.cons_append, enterAll]
    cases d.enter here s with
    | error e => rfl
    | ok next => exact ih next

theorem enterAll_append_ok_iff {d : Disk} {here l : Location} {a b : List String} :
    d.enterAll here (a ++ b) = .ok l ↔
      ∃ mid, d.enterAll here a = .ok mid ∧ d.enterAll mid b = .ok l := by
  rw [enterAll_append]
  cases d.enterAll here a <;> simp

theorem enterAll_cons_ok_iff {d : Disk} {here l : Location} {s : String} {rest : List String} :
    d.enterAll here (s :: rest) = .ok l ↔
      ∃ next, d.enter here s = .ok next ∧ d.enterAll next rest = .ok l := by
  rw [enterAll]
  cases d.enter here s <;> simp

/-- Idle segments make no difference to where one ends up. -/
theorem enterAll_filter {d : Disk} {here : Location} {ss : List String} (h : "" ∉ ss) :
    d.enterAll here ss = d.enterAll here (ss.filter (fun s => !Path.isIdle s)) := by
  induction ss generalizing here with
  | nil => rfl
  | cons s rest ih =>
    rw [List.mem_cons, not_or] at h
    by_cases hdot : s = "."
    · subst hdot
      simpa [enterAll, enter, Path.isIdle] using ih h.2
    · have hidle : Path.isIdle s = false := by simp [Path.isIdle, hdot, Ne.symm h.1]
      simp only [enterAll, List.filter_cons, hidle, Bool.not_false, if_true]
      cases d.enter here s with
      | error e => rfl
      | ok next => exact ih h.2

/-- A name can be entered exactly when it is not too long and that of a directory. -/
theorem enter_name_iff {d : Disk} {here l : Location} {s : String} (hdot : s ≠ ".")
    (hup : s ≠ "..") :
    d.enter here s = .ok l ↔ s.utf8ByteSize ≤ longestName ∧
      d.node? (here ++ [s]) = some .directory ∧ l = here ++ [s] := by
  unfold enter
  rw [if_neg hdot, if_neg hup]
  by_cases hlong : longestName < s.utf8ByteSize
  · simp [hlong, Nat.not_le.mpr hlong]
  · rw [if_neg hlong]
    have hshort := Nat.le_of_not_lt hlong
    cases hnode : d.node? (here ++ [s]) with
    | none => simp
    | some n =>
      cases n with
      | file content => simp
      | directory => simp [hshort, eq_comm]

theorem enter_ok {d : Disk} {here next : Location} {s : String} (hdot : s ≠ ".")
    (h : d.enter here s = .ok next) : next = walk here s := by
  unfold walk
  by_cases hup : s = ".."
  · subst hup
    simpa [enter] using h.symm
  · rw [if_neg hup]
    exact ((enter_name_iff hdot hup).mp h).2.2

/-- Following steps leads where the steps say. -/
theorem enterAll_ok {d : Disk} {here l : Location} {ss : List String} (hdot : "." ∉ ss)
    (h : d.enterAll here ss = .ok l) : l = ss.foldl walk here := by
  induction ss generalizing here with
  | nil => exact (Except.ok.inj h).symm
  | cons s rest ih =>
    rw [List.mem_cons, not_or] at hdot
    obtain ⟨next, hs, hrest⟩ := enterAll_cons_ok_iff.mp h
    rw [List.foldl_cons, ← enter_ok (Ne.symm hdot.1) hs]
    exact ih hdot.2 hrest

/-- Following steps to a name follows those before it and enters the name. -/
theorem enterAll_concat_iff {d : Disk} {here l : Location} {front : List String} {last : String}
    (hdot : last ≠ ".") (hup : last ≠ "..") :
    d.enterAll here (front ++ [last]) = .ok l ↔ ∃ next, d.enterAll here front = .ok next ∧
      last.utf8ByteSize ≤ longestName ∧ d.node? (next ++ [last]) = some .directory ∧
      l = next ++ [last] := by
  rw [enterAll_append_ok_iff]
  simp only [enterAll_cons_ok_iff, enter_name_iff hdot hup]
  constructor
  · rintro ⟨next, hfront, _, ⟨hshort, hnode, rfl⟩, ⟨⟩⟩
    exact ⟨next, hfront, hshort, hnode, rfl⟩
  · rintro ⟨next, hfront, hshort, hnode, rfl⟩
    exact ⟨next, hfront, _, ⟨hshort, hnode, rfl⟩, rfl⟩

theorem dot_not_mem_steps (p : Path) : "." ∉ p.steps := by
  simp [Path.steps, Path.isIdle]

/-- The segments that are looked at are the steps, with single dots between them. -/
theorem filter_seen (p : Path) : p.seen.filter (fun s => !Path.isIdle s) = p.steps := by
  rw [Path.seen, List.filter_filter, Path.steps]
  apply List.filter_congr
  intro s _
  by_cases hs : s = "" <;> simp [Path.isIdle, hs]

theorem empty_not_mem_seen (p : Path) : "" ∉ p.seen := by
  simp [Path.seen]

/-! ## Targets -/

theorem Target.location_of_name {t : Target} {last : String} (h : t.name? = some last) :
    t.location = t.directory ++ [last] := by
  rw [Target.location, h, Option.toList_some]

/-- The target of a path whose text is accepted and that starts at a directory. -/
def follow (d : Disk) (p : Path) : Except FileError Target :=
  match p.seen.getLast? with
  | none => .ok ⟨d.origin p, none, p.endsInSlash⟩
  | some last =>
    if last = "." ∨ last = ".." then
      match d.enterAll (d.origin p) p.seen with
      | .error e => .error e
      | .ok here => .ok ⟨here, none, p.endsInSlash⟩
    else
      match d.enterAll (d.origin p) p.seen.dropLast with
      | .error e => .error e
      | .ok here => .ok ⟨here, some last, p.endsInSlash⟩

theorem target_eq_follow {d : Disk} {p : Path} (h : p.Accepted)
    (hstart : d.node? (d.origin p) = some .directory) : d.target p = d.follow p := by
  unfold target
  simp only
  rw [if_neg (by simpa using h.noNul), if_neg (by simpa using h.nonempty),
    if_neg (Nat.not_lt.mpr h.short), if_neg (by simpa [origin] using hstart)]
  rfl

/-- Whether a path is followed at all depends on its text, and then on where it starts. -/
theorem target_cases (d : Disk) (p : Path) :
    (∃ err, (∀ e : Disk, e.target p = .error err) ∧ (err = .notFound → p.text = "")) ∨
    (p.Accepted ∧ d.node? (d.origin p) ≠ some .directory ∧ d.target p = .error .notFound) ∨
    (p.Accepted ∧ d.node? (d.origin p) = some .directory ∧ d.target p = d.follow p) := by
  by_cases hnul : p.text.toList.contains '\x00' = true
  · refine .inl ⟨.nulInPath, fun e => ?_, fun h => by cases h⟩
    rw [target, if_pos hnul]
  by_cases hempty : p.text.isEmpty = true
  · refine .inl ⟨.notFound, fun e => ?_, fun _ => by simpa using hempty⟩
    rw [target, if_neg hnul, if_pos hempty]
  by_cases hlong : longestPath < p.text.utf8ByteSize
  · refine .inl ⟨.nameTooLong, fun e => ?_, fun h => by cases h⟩
    rw [target, if_neg hnul, if_neg hempty, if_pos hlong]
  have haccepted : p.Accepted :=
    ⟨by simpa using hnul, by simpa using hempty, Nat.le_of_not_lt hlong⟩
  by_cases hstart : d.node? (d.origin p) = some .directory
  · exact .inr (.inr ⟨haccepted, hstart, target_eq_follow haccepted hstart⟩)
  · refine .inr (.inl ⟨haccepted, hstart, ?_⟩)
    unfold target
    simp only
    rw [if_neg hnul, if_neg hempty, if_neg hlong, if_pos (by simpa [origin] using hstart)]

/-- Either all that is looked at leads through directories, and then there is no name at the end, or
all but a name at the end. -/
theorem follow_ok_iff {d : Disk} {p : Path} {t : Target} :
    d.follow p = .ok t ↔ t.endsInSlash = p.endsInSlash ∧
      ((t.name? = none ∧ (∀ last, p.seen.getLast? = some last → last = "." ∨ last = "..") ∧
          d.enterAll (d.origin p) p.seen = .ok t.directory) ∨
        ∃ front last, t.name? = some last ∧ last ≠ "." ∧ last ≠ ".." ∧ p.seen = front ++ [last] ∧
          d.enterAll (d.origin p) front = .ok t.directory) := by
  unfold follow
  constructor
  · intro h
    split at h
    · rename_i hlast
      cases h
      rw [List.getLast?_eq_none_iff.mp hlast]
      exact ⟨rfl, .inl ⟨rfl, nofun, rfl⟩⟩
    · rename_i last hlast
      obtain ⟨front, hfront⟩ := List.getLast?_eq_some_iff.mp hlast
      split at h
      · rename_i hdots
        split at h
        · cases h
        · rename_i here hhere
          cases h
          refine ⟨rfl, .inl ⟨rfl, fun last' hlast' => ?_, hhere⟩⟩
          rwa [← Option.some.inj (hlast.symm.trans hlast')]
      · rename_i hdots
        rw [not_or] at hdots
        split at h
        · cases h
        · rename_i here hhere
          cases h
          rw [hfront, List.dropLast_concat] at hhere
          exact ⟨rfl, .inr ⟨front, last, rfl, hdots.1, hdots.2, hfront, hhere⟩⟩
  · obtain ⟨here, name?, slash⟩ := t
    rintro ⟨rfl, ⟨rfl, hdots, henter⟩ | ⟨front, last, rfl, hdot, hup, hseen, henter⟩⟩
    · cases hlast : p.seen.getLast? with
      | none =>
        rw [List.getLast?_eq_none_iff.mp hlast] at henter
        rw [Except.ok.inj henter]
      | some last =>
        dsimp only
        rw [if_pos (hdots last hlast), henter]
    · rw [hseen, List.getLast?_concat, List.dropLast_concat]
      dsimp only
      rw [if_neg (not_or.mpr ⟨hdot, hup⟩), henter]

/-- What a path that can be followed looks like: its text is accepted, and its steps lead through
directories, either all of them or all but a name at the end. -/
theorem target_ok {d : Disk} {p : Path} {t : Target} (h : d.target p = .ok t) :
    p.Accepted ∧ d.node? (d.origin p) = some .directory ∧ t.endsInSlash = p.endsInSlash ∧
      ((t.name? = none ∧ d.enterAll (d.origin p) p.steps = .ok t.directory) ∨
        ∃ front last, t.name? = some last ∧ last ≠ ".." ∧ p.steps = front ++ [last] ∧
          d.enterAll (d.origin p) front = .ok t.directory) := by
  rcases target_cases d p with ⟨err, herr, -⟩ | ⟨-, -, hnone⟩ | ⟨haccepted, hstart, hfollow⟩
  · rw [herr] at h
    cases h
  · rw [hnone] at h
    cases h
  · rw [hfollow] at h
    obtain ⟨hslash, ⟨hname, -, henter⟩ | ⟨front, last, hname, hdot, hup, hseen, henter⟩⟩ :=
      follow_ok_iff.mp h
    · rw [enterAll_filter (empty_not_mem_seen p), filter_seen] at henter
      exact ⟨haccepted, hstart, hslash, .inl ⟨hname, henter⟩⟩
    · have hempty := empty_not_mem_seen p
      rw [hseen, List.mem_append, not_or] at hempty
      have hidle : Path.isIdle last = false := by
        have hne : last ≠ "" := fun he => hempty.2 (he ▸ List.mem_singleton_self _)
        simp [Path.isIdle, hdot, hne]
      refine ⟨haccepted, hstart, hslash, .inr ⟨front.filter (fun s => !Path.isIdle s), last, hname,
        hup, ?_, ?_⟩⟩
      · rw [← filter_seen, hseen, List.filter_append]
        simp [hidle]
      · rwa [← enterAll_filter hempty.1]

/-- The name that a path leads to is the last segment that is not empty. -/
theorem getLast?_of_target {d : Disk} {p : Path} {t : Target} {last : String}
    (h : d.target p = .ok t) (hname : t.name? = some last) :
    p.seen.getLast? = some last ∧ last ≠ "." := by
  obtain ⟨haccepted, hstart, -, -⟩ := target_ok h
  rw [target_eq_follow haccepted hstart] at h
  obtain ⟨-, ⟨hnone, -⟩ | ⟨front, last', hname', hdot, -, hseen, -⟩⟩ := follow_ok_iff.mp h
  · rw [hname] at hnone
    cases hnone
  · rw [hname, Option.some.injEq] at hname'
    rw [hname', hseen, List.getLast?_concat]
    exact ⟨rfl, hdot⟩

/-- A path whose text is accepted can be followed when its last segment is a name and the steps
before it lead through directories. -/
theorem target_of_steps {d : Disk} {p : Path} {front : List String} {last : String}
    {here : Location} (haccepted : p.Accepted)
    (hstart : d.node? (d.origin p) = some .directory) (hsteps : p.steps = front ++ [last])
    (hup : last ≠ "..") (hend : p.segments.getLast? = some last)
    (h : d.enterAll (d.origin p) front = .ok here) :
    d.target p = .ok ⟨here, some last, p.endsInSlash⟩ := by
  have hidle : Path.isIdle last = false := by
    have hmem : last ∈ p.steps := by simp [hsteps]
    simpa using (List.mem_filter.mp hmem).2
  have hdot : last ≠ "." := by
    rintro rfl
    cases hidle
  have hempty : last ≠ "" := by
    rintro rfl
    cases hidle
  obtain ⟨before, hsegs⟩ := List.getLast?_eq_some_iff.mp hend
  let seen := before.filter (fun s => !s.isEmpty)
  have hseen : p.seen = seen ++ [last] := by
    rw [Path.seen, hsegs, List.filter_append]
    simp [seen, hempty]
  have hfront : seen.filter (fun s => !Path.isIdle s) = front := by
    have hsteps' : p.steps = seen.filter (fun s => !Path.isIdle s) ++ [last] := by
      rw [← filter_seen, hseen, List.filter_append]
      simp [hidle]
    rw [hsteps] at hsteps'
    exact (List.append_inj_left' hsteps' rfl).symm
  have henter : d.enterAll (d.origin p) seen = .ok here := by
    rw [enterAll_filter (by simp [seen]), hfront]
    exact h
  rw [target_eq_follow haccepted hstart, follow_ok_iff]
  exact ⟨rfl, .inr ⟨seen, last, rfl, hdot, hup, hseen, henter⟩⟩

/-- A path that can be followed leads to its place. -/
theorem place_of_target {d : Disk} {p : Path} {t : Target} (h : d.target p = .ok t) :
    t.location = d.place p := by
  obtain ⟨-, -, -, hcases⟩ := target_ok h
  have hdot := dot_not_mem_steps p
  rcases hcases with ⟨hname, henter⟩ | ⟨front, last, hname, hup, hsteps, henter⟩
  · rw [Target.location, hname, place, ← enterAll_ok hdot henter]
    simp
  · have hfront : "." ∉ front := by
      intro hmem
      exact hdot (by rw [hsteps]; exact List.mem_append_left _ hmem)
    rw [Target.location_of_name hname, place, hsteps, List.foldl_append,
      ← enterAll_ok hfront henter]
    simp [walk, hup]

/-! ## What is found -/

/-- At a target stands the directory that the steps lead to, or what the name at the end names
there. -/
theorem at?_eq_some_iff {d : Disk} {t : Target} {n : Node} :
    d.at? t = .ok (some n) ↔ t.name? = none ∧ n = .directory ∨
      ∃ last, t.name? = some last ∧ last.utf8ByteSize ≤ longestName ∧
        d.node? t.location = some n := by
  unfold at?
  cases hname : t.name? with
  | none => simp [eq_comm]
  | some last =>
    by_cases hlong : longestName < last.utf8ByteSize
    · simp [hlong, Nat.not_le.mpr hlong]
    · simp [hlong, Nat.le_of_not_lt hlong]

/-- A path leads to what stands at its target. Only that of a directory may end in a slash. -/
theorem find_ok_iff {d : Disk} {p : Path} {l : Location} {n : Node} :
    d.find p = .ok (l, n) ↔ ∃ t, d.target p = .ok t ∧ t.location = l ∧ d.at? t = .ok (some n) ∧
      (n = .directory ∨ t.endsInSlash = false) := by
  unfold find
  cases ht : d.target p with
  | error e => simp
  | ok t =>
    simp only [Except.ok.injEq, exists_eq_left']
    cases hat : d.at? t with
    | error e => simp
    | ok found =>
      match found with
      | none => simp
      | some .directory => grind
      | some (.file content) => grind

/-! ## Files -/

theorem find_of_target {d : Disk} {p : Path} {t : Target} {last : String} {content : ByteArray}
    (ht : d.target p = .ok t) (hname : t.name? = some last)
    (hshort : last.utf8ByteSize ≤ longestName)
    (hnode : d.node? t.location = some (.file content)) (hslash : t.endsInSlash = false) :
    d.find p = .ok (t.location, .file content) :=
  find_ok_iff.mpr
    ⟨t, ht, rfl, at?_eq_some_iff.mpr (.inr ⟨last, hname, hshort, hnode⟩), .inr hslash⟩

/-- What a path that leads to a file looks like. -/
theorem find_file {d : Disk} {p : Path} {l : Location} {content : ByteArray}
    (h : d.find p = .ok (l, .file content)) :
    ∃ t last, d.target p = .ok t ∧ t.name? = some last ∧ last.utf8ByteSize ≤ longestName ∧
      t.location = l ∧ d.node? l = some (.file content) ∧ t.endsInSlash = false := by
  obtain ⟨t, ht, rfl, hat, hdir | hslash⟩ := find_ok_iff.mp h
  · cases hdir
  rcases at?_eq_some_iff.mp hat with ⟨-, hdir⟩ | ⟨last, hname, hshort, hnode⟩
  · cases hdir
  · exact ⟨t, last, ht, hname, hshort, rfl, hnode, hslash⟩

theorem place_of_find {d : Disk} {p : Path} {l : Location} {content : ByteArray}
    (h : d.find p = .ok (l, .file content)) : l = d.place p := by
  obtain ⟨t, last, ht, -, -, hl, -, -⟩ := find_file h
  rw [← hl, place_of_target ht]

theorem node?_of_find {d : Disk} {p : Path} {l : Location} {content : ByteArray}
    (h : d.find p = .ok (l, .file content)) : d.node? l = some (.file content) := by
  obtain ⟨t, last, -, -, -, -, hnode, -⟩ := find_file h
  exact hnode

theorem isFile_of_find {d : Disk} {p : Path} {l : Location} {content : ByteArray}
    (h : d.find p = .ok (l, .file content)) : d.isFile p = true := by
  rw [isFile, h]

theorem find_of_isFile {d : Disk} {p : Path} (h : d.isFile p = true) :
    ∃ content, d.find p = .ok (d.place p, .file content) := by
  unfold isFile at h
  split at h
  · rename_i l content hfind
    exact ⟨content, place_of_find hfind ▸ hfind⟩
  · cases h

theorem pathExists_of_isFile {d : Disk} {p : Path} (h : d.isFile p = true) :
    d.pathExists p = true := by
  obtain ⟨content, hfind⟩ := find_of_isFile h
  rw [pathExists, hfind]

theorem pathExists_iff {d : Disk} {p : Path} :
    d.pathExists p = true ↔ d.isDir p = true ∨ d.isFile p = true := by
  unfold pathExists isDir isFile
  cases d.find p with
  | error err => simp
  | ok found =>
    obtain ⟨l, n⟩ := found
    cases n <;> simp

/-- A directory is no file. -/
theorem isFile_of_isDir {d : Disk} {p : Path} (h : d.isDir p = true) : d.isFile p = false := by
  unfold isDir at h
  unfold isFile
  split at h
  · rename_i hfind
    rw [hfind]
  · cases h

theorem node?_of_isFile {d : Disk} {p : Path} (h : d.isFile p = true) :
    ∃ content, d.node? (d.place p) = some (.file content) := by
  obtain ⟨content, hfind⟩ := find_of_isFile h
  exact ⟨content, node?_of_find hfind⟩

theorem read_of_find {d : Disk} {p : Path} {l : Location} {content : ByteArray}
    (h : d.find p = .ok (l, .file content)) : d.read p = .ok content := by
  rw [read, h]

theorem find_of_read {d : Disk} {p : Path} {content : ByteArray} (h : d.read p = .ok content) :
    d.find p = .ok (d.place p, .file content) := by
  unfold read at h
  split at h
  · cases h
  · cases h
  · rename_i l found hfind
    cases h
    exact place_of_find hfind ▸ hfind

/-- A path that leads somewhere has a text that the system accepts. -/
theorem accepted_of_find {d : Disk} {p : Path} {found : Location × Node}
    (h : d.find p = .ok found) : p.Accepted := by
  obtain ⟨l, n⟩ := found
  obtain ⟨t, ht, -⟩ := find_ok_iff.mp h
  exact (target_ok ht).1

/-- A path that leads to a file ends in a name. -/
theorem isIdle_getLast?_of_find {d : Disk} {p : Path} {l : Location} {content : ByteArray}
    (h : d.find p = .ok (l, .file content)) {s : String} (hs : p.segments.getLast? = some s) :
    Path.isIdle s = false := by
  obtain ⟨t, last, ht, hname, -, -, -, hslash⟩ := find_file h
  obtain ⟨haccepted, -, hend, -⟩ := target_ok ht
  obtain ⟨hlast, hdot⟩ := getLast?_of_target ht hname
  have hne : s ≠ "" := by
    rintro rfl
    rw [hend, Path.endsInSlash_of_getLast? haccepted.nonempty hs] at hslash
    cases hslash
  obtain ⟨front, hfront⟩ := List.getLast?_eq_some_iff.mp hs
  have hsame : s = last := by
    rw [Path.seen, hfront] at hlast
    simpa [hne] using hlast
  rw [hsame] at hne ⊢
  simp [Path.isIdle, hne, hdot]

/-- A path leads to a file exactly when its text is accepted and ends in a name, and the steps
before that lead through directories to one that holds the file. -/
theorem find_file_iff {d : Disk} {p : Path} {l : Location} {content : ByteArray} :
    d.find p = .ok (l, .file content) ↔
      p.Accepted ∧ (∀ s, p.segments.getLast? = some s → Path.isIdle s = false) ∧
      d.node? (d.origin p) = some .directory ∧
      ∃ front last here, p.steps = front ++ [last] ∧ last ≠ ".." ∧
        d.enterAll (d.origin p) front = .ok here ∧ last.utf8ByteSize ≤ longestName ∧
        l = here ++ [last] ∧ d.node? l = some (.file content) := by
  constructor
  · intro h
    obtain ⟨t, last, ht, hname, hshort, hl, hnode, -⟩ := find_file h
    obtain ⟨haccepted, hstart, -, hcases⟩ := target_ok ht
    refine ⟨haccepted, fun s => isIdle_getLast?_of_find h, hstart, ?_⟩
    rcases hcases with ⟨hnone, -⟩ | ⟨front, last', hname', hup, hsteps, henter⟩
    · rw [hname] at hnone
      cases hnone
    · rw [hname, Option.some.injEq] at hname'
      subst hname'
      exact ⟨front, last, t.directory, hsteps, hup, henter, hshort,
        hl.symm.trans (Target.location_of_name hname), hnode⟩
  · rintro ⟨haccepted, hend, hstart, front, last, here, hsteps, hup, henter, hshort, rfl, hnode⟩
    have hlast : p.segments.getLast? = some last := by
      cases hlast : p.segments.getLast? with
      | none => exact absurd (List.getLast?_eq_none_iff.mp hlast) p.segments_ne_nil
      | some s =>
        -- the last segment counts, so it is the last step
        obtain ⟨before, hbefore⟩ := List.getLast?_eq_some_iff.mp hlast
        rw [Path.steps, hbefore, List.filter_append] at hsteps
        have hsame := List.append_inj_right' hsteps (by simp [hend s hlast])
        simpa [hend s hlast] using hsame
    have hslash : p.endsInSlash = false := by
      cases hs : p.endsInSlash with
      | false => rfl
      | true =>
        have hidle := hend "" (Path.getLast?_of_endsInSlash hs)
        simp [Path.isIdle] at hidle
    exact find_of_target (target_of_steps haccepted hstart hsteps hup hlast henter) rfl hshort hnode
      hslash

/-- Two spellings of a path from the root lead to the same file: the second only has to be a text
that the system accepts, and to end in a name. -/
theorem find_file_respell {d : Disk} {p q : Path} {l : Location} {content : ByteArray}
    (h : d.find p = .ok (l, .file content)) (hp : p.isAbsolute = true) (hq : q.isAbsolute = true)
    (hsteps : q.steps = p.steps) (haccepted : q.Accepted)
    (hend : ∀ s, q.segments.getLast? = some s → Path.isIdle s = false) :
    d.find q = .ok (l, .file content) := by
  obtain ⟨-, -, hstart, hrest⟩ := find_file_iff.mp h
  have horigin : d.origin q = d.origin p := by simp [origin, hp, hq]
  rw [← horigin] at hstart hrest
  rw [← hsteps] at hrest
  exact find_file_iff.mpr ⟨haccepted, hend, hstart, hrest⟩

/-! ## Directories -/

theorem isDir_iff_at? {d : Disk} {p : Path} :
    d.isDir p = true ↔ ∃ t, d.target p = .ok t ∧ d.at? t = .ok (some .directory) := by
  unfold isDir
  constructor
  · intro h
    split at h
    · rename_i hfind
      obtain ⟨t, ht, -, hat, -⟩ := find_ok_iff.mp hfind
      exact ⟨t, ht, hat⟩
    · cases h
  · rintro ⟨t, ht, hat⟩
    rw [find_ok_iff.mpr ⟨t, ht, rfl, hat, .inl rfl⟩]

/-- A path leads to a directory when all its steps lead through directories. -/
theorem isDir_iff {d : Disk} {p : Path} :
    d.isDir p = true ↔ p.Accepted ∧ d.node? (d.origin p) = some .directory ∧
      d.enterAll (d.origin p) p.steps = .ok (d.place p) := by
  constructor
  · intro h
    obtain ⟨t, ht, hat⟩ := isDir_iff_at?.mp h
    obtain ⟨haccepted, hstart, -, hcases⟩ := target_ok ht
    refine ⟨haccepted, hstart, ?_⟩
    rw [← place_of_target ht]
    rcases hcases with ⟨hname, henter⟩ | ⟨front, last, hname, hup, hsteps, henter⟩
    · rw [henter]
      simp [Target.location, hname]
    · -- the name at the end is that of a directory, so it can be entered too
      have hdot : last ≠ "." := by
        rintro rfl
        exact dot_not_mem_steps p (by simp [hsteps])
      rcases at?_eq_some_iff.mp hat with ⟨hnone, -⟩ | ⟨last', hname', hshort, hnode⟩
      · rw [hname] at hnone
        cases hnone
      · rw [hname, Option.some.injEq] at hname'
        subst hname'
        rw [Target.location_of_name hname] at hnode ⊢
        rw [hsteps, enterAll_concat_iff hdot hup]
        exact ⟨t.directory, henter, hshort, hnode, rfl⟩
  · rintro ⟨haccepted, hstart, henter⟩
    rw [← filter_seen, ← enterAll_filter (empty_not_mem_seen p)] at henter
    simp only [isDir_iff_at?, target_eq_follow haccepted hstart, follow_ok_iff]
    by_cases hdots : ∀ last, p.seen.getLast? = some last → last = "." ∨ last = ".."
    · exact ⟨⟨d.place p, none, p.endsInSlash⟩, ⟨rfl, .inl ⟨rfl, hdots, henter⟩⟩, rfl⟩
    · simp only [Classical.not_forall, not_or] at hdots
      obtain ⟨last, hlast, hdot, hup⟩ := hdots
      obtain ⟨front, hseen⟩ := List.getLast?_eq_some_iff.mp hlast
      rw [hseen, enterAll_concat_iff hdot hup] at henter
      obtain ⟨here, hfront, hshort, hnode, -⟩ := henter
      exact ⟨⟨here, some last, p.endsInSlash⟩,
        ⟨rfl, .inr ⟨front, last, rfl, hdot, hup, hseen, hfront⟩⟩,
        at?_eq_some_iff.mpr (.inr ⟨last, rfl, hshort, hnode⟩)⟩

theorem find_directory_iff {d : Disk} {p : Path} {l : Location} :
    d.find p = .ok (l, .directory) ↔ d.isDir p = true ∧ l = d.place p := by
  constructor
  · intro h
    obtain ⟨t, ht, rfl, hat, -⟩ := find_ok_iff.mp h
    exact ⟨isDir_iff_at?.mpr ⟨t, ht, hat⟩, place_of_target ht⟩
  · rintro ⟨hdir, rfl⟩
    obtain ⟨t, ht, hat⟩ := isDir_iff_at?.mp hdir
    exact find_ok_iff.mpr ⟨t, ht, place_of_target ht, hat, .inl rfl⟩

/-- Whatever a path that can be followed names, its parent is a directory. -/
theorem isDir_parent {d : Disk} {p q : Path} {t : Target} (hp : p.isAbsolute = true)
    (hq : p.parent? = some q) (ht : d.target p = .ok t) : d.isDir q = true := by
  obtain ⟨haccepted, hstart, -, hcases⟩ := target_ok ht
  obtain ⟨hne, habs, hsteps⟩ := Path.steps_of_parent? hp hq
  have htext := Path.sublist_of_parent? hp hq
  have horigin : d.origin q = d.origin p := by simp [origin, hp, habs]
  have henter : ∃ l, d.enterAll (d.origin p) p.steps.dropLast = .ok l := by
    rcases hcases with ⟨-, henter⟩ | ⟨front, last, -, -, hfront, henter⟩
    · rw [← List.dropLast_concat_getLast hne] at henter
      obtain ⟨l, hl, -⟩ := enterAll_append_ok_iff.mp henter
      exact ⟨l, hl⟩
    · exact ⟨t.directory, by rw [hfront, List.dropLast_concat, henter]⟩
  obtain ⟨l, henter⟩ := henter
  rw [← hsteps] at henter
  have hdot : "." ∉ q.steps := dot_not_mem_steps q
  rw [isDir_iff, horigin]
  refine ⟨⟨fun h => haccepted.noNul (htext.subset h), Path.text_ne_empty_of_isAbsolute habs,
    Nat.le_trans (Path.byteSize_le_of_sublist htext) haccepted.short⟩, hstart, ?_⟩
  rw [henter, place, horigin, ← enterAll_ok hdot henter]

/-! ## Keeping directories -/

/-- Every directory of the first disk is one of the second. -/
structure KeepsDirs (d e : Disk) : Prop where
  workingDir : e.workingDir = d.workingDir
  directory : ∀ l, d.node? l = some .directory → e.node? l = some .directory

theorem KeepsDirs.refl (d : Disk) : d.KeepsDirs d := ⟨rfl, fun _ h => h⟩

theorem KeepsDirs.trans {d e f : Disk} (h : d.KeepsDirs e) (h' : e.KeepsDirs f) : d.KeepsDirs f :=
  ⟨h'.workingDir.trans h.workingDir, fun l hl => h'.directory l (h.directory l hl)⟩

theorem KeepsDirs.origin_eq {d e : Disk} (h : d.KeepsDirs e) (p : Path) :
    e.origin p = d.origin p := by
  simp [origin, h.workingDir]

theorem KeepsDirs.place_eq {d e : Disk} (h : d.KeepsDirs e) (p : Path) :
    e.place p = d.place p := by
  rw [place, place, h.origin_eq]

theorem enter_mono {d e : Disk} (h : d.KeepsDirs e) {here l : Location} {s : String}
    (hs : d.enter here s = .ok l) : e.enter here s = .ok l := by
  by_cases hdot : s = "."
  · simpa [enter, hdot] using hs
  by_cases hup : s = ".."
  · simpa [enter, hup] using hs
  rw [enter_name_iff hdot hup] at hs ⊢
  obtain ⟨hshort, hnode, hl⟩ := hs
  exact ⟨hshort, h.directory _ hnode, hl⟩

theorem enterAll_mono {d e : Disk} (h : d.KeepsDirs e) {here l : Location} {ss : List String}
    (hs : d.enterAll here ss = .ok l) : e.enterAll here ss = .ok l := by
  induction ss generalizing here with
  | nil => exact hs
  | cons s rest ih =>
    obtain ⟨next, hnext, hrest⟩ := enterAll_cons_ok_iff.mp hs
    exact enterAll_cons_ok_iff.mpr ⟨next, enter_mono h hnext, ih hrest⟩

/-- A path that can be followed can still be followed when directories are kept. -/
theorem target_mono {d e : Disk} (h : d.KeepsDirs e) {p : Path} {t : Target}
    (ht : d.target p = .ok t) : e.target p = .ok t := by
  obtain ⟨haccepted, hstart, -, -⟩ := target_ok ht
  have hstart' := h.directory _ hstart
  rw [← h.origin_eq] at hstart'
  rw [target_eq_follow haccepted hstart, follow_ok_iff] at ht
  rw [target_eq_follow haccepted hstart', follow_ok_iff, h.origin_eq]
  obtain ⟨hslash, ⟨hname, hdots, henter⟩ | ⟨front, last, hname, hdot, hup, hseen, henter⟩⟩ := ht
  · exact ⟨hslash, .inl ⟨hname, hdots, enterAll_mono h henter⟩⟩
  · exact ⟨hslash, .inr ⟨front, last, hname, hdot, hup, hseen, enterAll_mono h henter⟩⟩

/-- A path that leads to a directory still does when directories are kept. -/
theorem isDir_mono {d e : Disk} (h : d.KeepsDirs e) {p : Path} (hp : d.isDir p = true) :
    e.isDir p = true := by
  rw [isDir_iff] at hp ⊢
  obtain ⟨haccepted, hstart, henter⟩ := hp
  rw [h.origin_eq, h.place_eq]
  exact ⟨haccepted, h.directory _ hstart, enterAll_mono h henter⟩

/-- A path that leads to a file leads to whatever file is there when directories are kept. -/
theorem find_file_mono {d e : Disk} (h : d.KeepsDirs e) {p : Path} {l : Location}
    {content content' : ByteArray} (hfind : d.find p = .ok (l, .file content))
    (hnode : e.node? l = some (.file content')) : e.find p = .ok (l, .file content') := by
  obtain ⟨t, last, ht, hname, hshort, rfl, -, hslash⟩ := find_file hfind
  exact find_of_target (target_mono h ht) hname hshort hnode hslash

/-- A path to a file still leads to one when directories are kept and there is one in its place. -/
theorem isFile_mono {d e : Disk} (h : d.KeepsDirs e) {p : Path} (hp : d.isFile p = true)
    {content : ByteArray} (hnode : e.node? (d.place p) = some (.file content)) :
    e.isFile p = true := by
  obtain ⟨old, hfind⟩ := find_of_isFile hp
  exact isFile_of_find (find_file_mono h hfind hnode)

end Disk

end DeviceSpec
