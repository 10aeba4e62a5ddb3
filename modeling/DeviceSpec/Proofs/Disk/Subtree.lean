import DeviceSpec.Proofs.Disk.Descend
import DeviceSpec.Proofs.Disk.Listing
import DeviceSpec.Proofs.Overlay.Order

/-!
# What stands below a location

A disk lists what stands below a location by the names that lead there. Put below the path of a
directory, these names make a path of their own, which need not lead to the same place: a name may
be a step of another kind, and the path may be too long.

* **subtrees** — what is listed is what stands there (`mem_subtree`);
* **paths** — the path of an entry goes through the directory (`steps_foldl_join`,
  `isDir_of_find_below`);
* **trees** — on a disk as a file system has them (`IsTree`), a file that stands below a location is
  found by its path exactly when the path is not too long (`IsTree.find_below_iff`).
-/

namespace DeviceSpec

/-! ## Subtrees -/

section
variable {d : Disk} {dir : Path} {l : Location} {below : List String} {n : Node}
  {content : ByteArray}

theorem Disk.mem_subtree : (below, n) ∈ d.subtree l ↔
    below = [] ∧ d.node? l = some n ∨ below ≠ [] ∧ (l ++ below, n) ∈ d.entries := by
  have hbelow : (below, n) ∈ (d.entries.filterMap fun e =>
      if l.isPrefixOf e.1 ∧ e.1 ≠ l then some (e.1.drop l.length, e.2) else none) ↔
        below ≠ [] ∧ (l ++ below, n) ∈ d.entries := by
    rw [List.mem_filterMap]
    constructor
    · rintro ⟨⟨m, n'⟩, hmem, hentry⟩
      simp only [Option.ite_none_right_eq_some, Option.some.injEq, Prod.mk.injEq,
        List.isPrefixOf_iff_prefix] at hentry
      obtain ⟨⟨⟨rest, rfl⟩, hne⟩, hrest, rfl⟩ := hentry
      rw [List.drop_left] at hrest
      subst hrest
      exact ⟨fun hnil => hne (by rw [hnil, List.append_nil]), hmem⟩
    · rintro ⟨hne, hmem⟩
      exact ⟨_, hmem, by simp [hne]⟩
  unfold Disk.subtree
  cases hnode : d.node? l with
  | none => simpa using hbelow
  | some n' =>
    simp only [List.mem_cons, hbelow, Prod.mk.injEq, Option.some.injEq]
    exact or_congr_left (and_congr_right fun _ => eq_comm)

/-- Something that stands below a location is in its subtree. -/
theorem Disk.mem_subtree_of_node? (h : d.node? (l ++ below) = some n) (hne : below ≠ []) :
    (below, n) ∈ d.subtree l := by
  unfold Disk.node? at h
  rw [if_neg (by simp [hne])] at h
  obtain ⟨before, after, hentries, -⟩ := List.lookup_eq_some_iff.mp h
  exact Disk.mem_subtree.mpr (.inr ⟨hne, by simp [hentries]⟩)

/-! ## Paths of entries -/

/-- A name without slashes leads down by one step, if it counts. -/
theorem steps_of_noSlash {name : String} (h : '/' ∉ name.toList) :
    Path.isAbsolute ⟨name⟩ = false ∧
      Path.steps ⟨name⟩ = [name].filter (fun s => !Path.isIdle s) := by
  constructor
  · cases habs : Path.isAbsolute ⟨name⟩ with
    | false => rfl
    | true =>
      obtain ⟨rest, hrest⟩ := Path.eq_of_isAbsolute habs
      have hname : name = "" ++ "/" ++ rest := congrArg Path.text hrest
      exact absurd (by simp [hname]) h
  · simp [Path.steps, Path.segments, Path.segmentsOf_of_no_slash h]

/-- The path of an entry below a directory goes through the directory. -/
theorem steps_foldl_join (dir : Path) (hplain : Disk.Plain below) :
    (below.foldl Path.join dir).isAbsolute = dir.isAbsolute ∧
      (below.foldl Path.join dir).steps =
        dir.steps ++ below.filter (fun s => !Path.isIdle s) := by
  induction below generalizing dir with
  | nil => simp
  | cons name rest ih =>
    obtain ⟨hrel, hsteps⟩ := steps_of_noSlash (hplain name List.mem_cons_self)
    obtain ⟨habs, hrest⟩ :=
      ih (dir.join name) fun s hs => hplain s (List.mem_cons_of_mem _ hs)
    rw [List.foldl_cons, habs, hrest, Path.isAbsolute_join_eq hrel, Path.steps_join hrel, hsteps,
      List.append_assoc, ← List.filter_append, List.singleton_append]
    exact ⟨rfl, rfl⟩

/-- Where the path of an entry below a directory leads to a file, the directory is one. -/
theorem isDir_of_find_below (hdir : dir.Accepted) (hplain : Disk.Plain below)
    {front : List String} {last : String}
    (hbelow : below.filter (fun s => !Path.isIdle s) = front ++ [last])
    (hfind : d.find (below.foldl Path.join dir) = .ok (l, .file content)) :
    d.isDir dir = true := by
  obtain ⟨habs, hsteps⟩ := steps_foldl_join dir hplain
  obtain ⟨-, -, hstart, front', last', here, hfront, -, henter, -⟩ :=
    Disk.find_file_iff.mp hfind
  rw [hsteps, hbelow, ← List.append_assoc] at hfront
  obtain ⟨rfl, -⟩ := List.append_inj' hfront rfl
  have horigin : d.origin (below.foldl Path.join dir) = d.origin dir := by
    rw [Disk.origin, Disk.origin, habs]
  rw [horigin] at hstart henter
  -- the steps of the directory come first
  exact Disk.isDir_iff.mpr ⟨hdir, hstart, (Disk.enterAll_steps_append_iff.mp henter).1⟩

end

/-! ## Trees -/

/-- A name that an entry of a directory can have. -/
structure IsEntryName (name : String) : Prop extends Path.IsName name where
  noNul : '\x00' ∉ name.toList
  short : name.utf8ByteSize ≤ Disk.longestName

instance (name : String) : Decidable (IsEntryName name) :=
  decidable_of_iff (('/' ∉ name.toList ∧ Path.isIdle name = false ∧ name ≠ "..") ∧
      '\x00' ∉ name.toList ∧ name.utf8ByteSize ≤ Disk.longestName)
    ⟨fun ⟨⟨hslash, hidle, hup⟩, hnul, hshort⟩ => ⟨⟨hslash, hidle, hup⟩, hnul, hshort⟩,
      fun ⟨⟨hslash, hidle, hup⟩, hnul, hshort⟩ => ⟨⟨hslash, hidle, hup⟩, hnul, hshort⟩⟩

/-- Each location stands once, in a directory, and is made of names that entries can have. -/
structure Disk.IsTree (d : Disk) : Prop where
  wellFormed : d.WellFormed
  rooted : d.Rooted
  names : ∀ entry ∈ d.entries, ∀ name ∈ entry.1, IsEntryName name

section
variable {d : Disk} {dir : Path} {l : Location} {below : List String} {n : Node}
  {content : ByteArray}

/-- Paths grow on the way down. -/
theorem byteSize_le_foldl_join (hnames : ∀ name ∈ below, IsEntryName name) (dir : Path) :
    dir.text.utf8ByteSize ≤ (below.foldl Path.join dir).text.utf8ByteSize := by
  induction below generalizing dir with
  | nil => exact Nat.le_refl _
  | cons name rest ih =>
    rw [List.forall_mem_cons] at hnames
    refine Nat.le_trans ?_ (ih hnames.2 (dir.join name))
    rw [Path.text_join hnames.1.isAbsolute]
    simp only [String.utf8ByteSize_append]
    omega

/-- The path of an entry is accepted if that of the directory is, unless it is too long. -/
theorem accepted_foldl_join (hdir : dir.Accepted) (hnames : ∀ name ∈ below, IsEntryName name)
    (hshort : (below.foldl Path.join dir).text.utf8ByteSize ≤ Disk.longestPath) :
    (below.foldl Path.join dir).Accepted := by
  induction below generalizing dir with
  | nil => exact hdir
  | cons name rest ih =>
    rw [List.forall_mem_cons] at hnames
    have hgrows := byteSize_le_foldl_join hnames.2 (dir.join name)
    exact ih (Path.accepted_join hdir hnames.1.isAbsolute hnames.1.noNul
      (Nat.le_trans hgrows hshort)) hnames.2 hshort

namespace Disk.IsTree

variable (hd : d.IsTree)

include hd

theorem names_below (hnode : d.node? (l ++ below) = some n) :
    ∀ name ∈ below, IsEntryName name := by
  intro name hname
  have hne : l ++ below ≠ [] := List.append_ne_nil_of_right_ne_nil l (List.ne_nil_of_mem hname)
  have hentry := (hd.wellFormed.node?_eq_some_iff hne).mp hnode
  exact hd.names _ hentry name (List.mem_append_right l hname)

/-- A disk that is a tree lists exactly what stands below a location. -/
theorem mem_subtree_iff : (below, n) ∈ d.subtree l ↔ d.node? (l ++ below) = some n := by
  rw [Disk.mem_subtree]
  by_cases hbelow : below = []
  · simp [hbelow]
  · rw [← hd.wellFormed.node?_eq_some_iff (List.append_ne_nil_of_right_ne_nil l hbelow)]
    simp [hbelow]

/-- Following steps from a directory ends in one. -/
theorem node?_of_enterAll {here : Location} {ss : List String}
    (hhere : d.node? here = some .directory) (henter : d.enterAll here ss = .ok l) :
    d.node? l = some .directory := by
  induction ss generalizing here with
  | nil => rwa [← Except.ok.inj henter]
  | cons s rest ih =>
    unfold Disk.enterAll at henter
    cases hnext : d.enter here s with
    | error e => simp [hnext] at henter
    | ok next =>
      rw [hnext] at henter
      refine ih ?_ henter
      by_cases hdot : s = "."
      · subst hdot
        rwa [← Except.ok.inj hnext]
      by_cases hup : s = ".."
      · subst hup
        rw [← Except.ok.inj hnext]
        rcases List.eq_nil_or_concat here with rfl | ⟨above, name, rfl⟩
        · exact hhere
        · rw [List.concat_eq_append] at hhere
          rw [List.concat_eq_append, List.dropLast_concat]
          exact hd.rooted.parent hhere
      obtain ⟨-, hnode, rfl⟩ := (Disk.enter_name_iff hdot hup).mp hnext
      exact hnode

/-- What a path leads to stands at the location that it leads to. -/
theorem node?_of_find (hfind : d.find dir = .ok (l, n)) : d.node? l = some n := by
  cases n with
  | file content => exact Disk.node?_of_find hfind
  | directory =>
    obtain ⟨hdir, rfl⟩ := Disk.find_directory_iff.mp hfind
    obtain ⟨-, hstart, henter⟩ := Disk.isDir_iff.mp hdir
    exact hd.node?_of_enterAll hstart henter

/-- What a path leads to is a directory if something stands below it. -/
theorem isDir_of_find (hfind : d.find dir = .ok (l, n)) (hne : below ≠ [])
    {m : Node} (hnode : d.node? (l ++ below) = some m) : d.isDir dir = true ∧ l = d.place dir := by
  have hdirectory := hd.rooted.above hne hnode
  rw [hd.node?_of_find hfind, Option.some.injEq] at hdirectory
  rw [hdirectory] at hfind
  exact Disk.find_directory_iff.mp hfind

/-- A file that stands below the place of a path is found by its own path exactly when that is not
too long. -/
theorem find_below_iff (hfind : d.find dir = .ok (l, n))
    (hnode : d.node? (l ++ below) = some (.file content)) :
    d.find (below.foldl Path.join dir) = .ok (l ++ below, .file content) ↔
      (below.foldl Path.join dir).text.utf8ByteSize ≤ Disk.longestPath := by
  refine ⟨fun h => (Disk.accepted_of_find h).short, fun hshort => ?_⟩
  have hnames := hd.names_below hnode
  rcases List.eq_nil_or_concat below with rfl | ⟨front, last, rfl⟩
  · -- the path itself leads to the file
    rw [List.append_nil] at hnode ⊢
    rw [hd.node?_of_find hfind, Option.some.injEq] at hnode
    rwa [hnode] at hfind
  · simp only [List.concat_eq_append] at hnode hshort hnames ⊢
    obtain ⟨hdir, rfl⟩ := hd.isDir_of_find hfind (by simp) hnode
    obtain ⟨haccepted, hstart, henter⟩ := Disk.isDir_iff.mp hdir
    obtain ⟨habs, hsteps⟩ := steps_foldl_join dir fun s hs => (hnames s hs).noSlash
    have hcounts : (front ++ [last]).filter (fun s => !Path.isIdle s) = front ++ [last] :=
      List.filter_eq_self.mpr fun s hs => by simp [(hnames s hs).notIdle]
    have horigin : d.origin ((front ++ [last]).foldl Path.join dir) = d.origin dir := by
      rw [Disk.origin, Disk.origin, habs]
    obtain ⟨hfront, hlast⟩ := List.forall_mem_append.mp hnames
    have hname := hlast last (List.mem_singleton_self last)
    rw [← List.append_assoc] at hnode
    -- the names before the last one are those of directories
    have hfrontEnter : d.enterAll (d.place dir) front = .ok (d.place dir ++ front) := by
      refine (Disk.enterAll_names_iff ?_ ?_).mpr ⟨rfl, fun s hs => (hfront s hs).short, ?_⟩
      · exact fun hmem => absurd (hfront "." hmem).notIdle (by decide)
      · exact fun hmem => (hfront ".." hmem).notUp rfl
      · rintro above - ⟨more, rfl⟩
        have hmore : d.node? (d.place dir ++ above ++ (more ++ [last])) = some (.file content) := by
          simpa using hnode
        exact hd.rooted.above (by simp) hmore
    refine Disk.find_file_iff.mpr ⟨accepted_foldl_join haccepted hnames hshort, ?_,
      horigin ▸ hstart, dir.steps ++ front, last, d.place dir ++ front, ?_, hname.notUp, ?_,
      hname.short, (List.append_assoc ..).symm, ?_⟩
    · intro s hs
      rw [List.foldl_append, List.foldl_cons, List.foldl_nil,
        Path.getLast?_segments_join hname.isAbsolute, hname.segments, List.getLast?_singleton,
        Option.some.injEq] at hs
      exact hs ▸ hname.notIdle
    · rw [hsteps, hcounts, List.append_assoc]
    · rw [horigin]
      exact Disk.enterAll_steps_append_iff.mpr ⟨henter, hfrontEnter⟩
    · rwa [← List.append_assoc]

end Disk.IsTree

end

end DeviceSpec
