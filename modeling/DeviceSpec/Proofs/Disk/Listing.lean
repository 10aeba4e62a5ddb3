import DeviceSpec.Proofs.Disk.Change
import DeviceSpec.Proofs.Ledger.Removal

/-!
# What a directory lists

A disk keeps its entries in no order of its own, and is asked for one location at a time. What makes
it a file system is that each location stands there once (`Disk.WellFormed`).

* **operations** — writing, making directories and removing keep a disk well-formed
  (`WellFormed.write`, `WellFormed.makeDirs`, `WellFormed.remove`, …), and so does cleaning
  (`WellFormed.clean`);
* **order** — what stands where does not depend on the order of the entries
  (`WellFormed.node?_of_perm`);
* **listing** — a directory lists the names that something stands under (`mem_of_list`), each once
  (`WellFormed.nodup_of_list`).
-/

namespace DeviceSpec

namespace Disk

/-- The names that lead to a location hold no slash. -/
def Plain (l : Location) : Prop := ∀ name ∈ l, '/' ∉ name.toList

instance (l : Location) : Decidable (Plain l) :=
  inferInstanceAs (Decidable (∀ name ∈ l, '/' ∉ name.toList))

/-- Every location stands once among the entries, in whatever order, and no name holds a slash. -/
structure WellFormed (d : Disk) : Prop where
  once : (d.entries.map Prod.fst).Nodup
  plain : ∀ entry ∈ d.entries, Plain entry.1
  workingDir : Plain d.workingDir

theorem lookup_eq_some_iff_mem {es : List (Location × Node)} (h : (es.map Prod.fst).Nodup)
    {l : Location} {n : Node} : es.lookup l = some n ↔ (l, n) ∈ es := by
  induction es with
  | nil => simp
  | cons e rest ih =>
    obtain ⟨k, m⟩ := e
    rw [List.map_cons, List.nodup_cons] at h
    by_cases hk : l = k
    · subst hk
      have hrest : (l, n) ∉ rest := fun hmem => h.1 (List.mem_map.mpr ⟨_, hmem, rfl⟩)
      simp [hrest, eq_comm]
    · have hne : (l == k) = false := by simpa using hk
      simp [List.lookup_cons, hne, hk, ih h.2]

namespace WellFormed

variable {d e : Disk} {l : Location} {n : Node}

theorem node?_eq_some_iff (hd : d.WellFormed) (hl : l ≠ []) :
    d.node? l = some n ↔ (l, n) ∈ d.entries := by
  rw [node?, if_neg hl, lookup_eq_some_iff_mem hd.once]

/-- The order of the entries makes no difference to what stands where. -/
theorem node?_of_perm (hd : d.WellFormed) (h : e.entries.Perm d.entries) (l : Location) :
    e.node? l = d.node? l := by
  by_cases hl : l = []
  · simp [node?, hl]
  · have he : (e.entries.map Prod.fst).Nodup := (h.map Prod.fst).nodup_iff.mpr hd.once
    refine Option.ext fun n => ?_
    rw [hd.node?_eq_some_iff hl, node?, if_neg hl, lookup_eq_some_iff_mem he, h.mem_iff]

theorem of_perm (hd : d.WellFormed) (h : e.entries.Perm d.entries)
    (hworking : e.workingDir = d.workingDir) : e.WellFormed :=
  ⟨(h.map Prod.fst).nodup_iff.mpr hd.once, fun entry hentry => hd.plain entry (h.mem_iff.mp hentry),
    hworking ▸ hd.workingDir⟩

/-! ## Operations -/

theorem plain_foldl_walk {names : List String} (hnames : Plain names) {here : Location}
    (hhere : Plain here) : Plain (names.foldl walk here) := by
  induction names generalizing here with
  | nil => exact hhere
  | cons s rest ih =>
    refine ih (fun t ht => hnames t (List.mem_cons_of_mem _ ht)) ?_
    unfold walk
    split
    · exact fun t ht => hhere t (List.dropLast_subset _ ht)
    · intro t ht
      rcases List.mem_append.mp ht with ht | ht
      · exact hhere t ht
      · rw [List.mem_singleton.mp ht]
        exact hnames s List.mem_cons_self

/-- A path leads to plain names. -/
theorem plain_place (hd : d.WellFormed) (p : Path) : Plain (d.place p) := by
  refine plain_foldl_walk (fun s hs => Path.slash_not_mem_segment ((List.mem_filter.mp hs).1)) ?_
  unfold origin
  split
  · exact nofun
  · exact hd.workingDir

theorem erase (hd : d.WellFormed) (l : Location) : (d.erase l).WellFormed :=
  ⟨hd.once.sublist (List.filter_sublist.map Prod.fst),
    fun entry hentry => hd.plain entry ((List.mem_filter.mp hentry).1), hd.workingDir⟩

theorem put (hd : d.WellFormed) (hl : Plain l) (n : Node) : (d.put l n).WellFormed := by
  have herase := hd.erase l
  refine ⟨?_, ?_, hd.workingDir⟩
  · -- what stood at the location was taken out before
    rw [Disk.put, List.map_cons, List.nodup_cons]
    refine ⟨fun hmem => ?_, herase.once⟩
    obtain ⟨entry, hentry, hsame⟩ := List.mem_map.mp hmem
    simp [hsame] at hentry
  · intro entry hentry
    rcases List.mem_cons.mp hentry with rfl | hentry
    · exact hl
    · exact herase.plain entry hentry

theorem remove {p : Path} (hd : d.WellFormed) (h : d.remove p = .ok e) : e.WellFormed := by
  obtain ⟨l, content, -, rfl⟩ := find_of_remove h
  exact hd.erase l

theorem write {p : Path} {content : ByteArray} (hd : d.WellFormed)
    (h : d.write p content = .ok e) : e.WellFormed := by
  obtain ⟨rfl, -, -⟩ := write_ok h
  exact hd.put (hd.plain_place p) _

theorem makeDir {p : Path} (hd : d.WellFormed) (h : d.makeDir p = .ok e) : e.WellFormed := by
  obtain ⟨-, rfl, -⟩ := makeDir_ok h
  exact hd.put (hd.plain_place p) _

theorem makeDirs (hd : d.WellFormed) (p : Path) : (d.makeDirs p).2.WellFormed :=
  makeDirsWithin_induct (motive := fun d e => d.WellFormed → e.WellFormed) (fun _ hd => hd)
    (fun h h' hd => h' (h hd)) (fun _ => True) (fun _ h hd => hd.makeDir h) (fun _ _ => trivial) _
    trivial hd

theorem writeWithParents (hd : d.WellFormed) (p : Path) (content : ByteArray) :
    (d.writeWithParents p content).2.WellFormed := by
  have hparents : (d.makeParents p).2.WellFormed := by
    unfold makeParents
    split
    · exact hd
    · split
      · exact hd
      · exact hd.makeDirs _
  unfold Disk.writeWithParents
  split
  · rename_i hmake
    rwa [hmake] at hparents
  · rename_i hmake
    rw [hmake] at hparents
    split
    · exact hparents
    · rename_i hwrite
      exact hparents.write hwrite

theorem removeListed (hd : d.WellFormed) (files : List Path) (summary : CleanSummary) :
    (DeviceSpec.removeListed files summary d).2.WellFormed := by
  induction files generalizing d summary with
  | nil => exact hd
  | cons file rest ih =>
    unfold DeviceSpec.removeListed Disk.removeIfThere
    split
    · exact ih hd _
    · cases hremove : d.remove file with
      | ok e => exact ih (hd.remove hremove) _
      | error err =>
        cases err with
        | notFound => exact ih hd _
        | _ => exact hd

theorem saveDocument (hd : d.WellFormed) (document : String) (p : Path) :
    (DeviceSpec.saveDocument document p d).2.WellFormed := by
  have hwrote := hd.writeWithParents p document.toUTF8
  unfold DeviceSpec.saveDocument
  split
  · exact hd
  · split <;> rename_i hwrite <;> rwa [hwrite] at hwrote

theorem store (hd : d.WellFormed) (l : Ledger) : (l.store d).2.WellFormed := by
  unfold Ledger.store
  split
  · exact hd
  · rename_i dir hdir
    have hsaved := hd.saveDocument (Ledger.encode ⟨dir, l.files⟩) (ledgerPath dir)
    simp only
    split <;> rename_i hsave <;> rwa [hsave] at hsaved

theorem clean (hd : d.WellFormed) (dir : Path) : (Ledger.clean dir d).2.WellFormed := by
  unfold Ledger.clean
  split
  · exact hd
  · rename_i l hload
    split
    · exact hd
    · have hremoved := hd.removeListed (l.files.map (rebase l.dir dir)) {}
      split
      · rename_i hrun
        rwa [hrun] at hremoved
      · rename_i hrun
        rw [hrun] at hremoved
        have hstored := hremoved.store ⟨dir, []⟩
        split <;> rename_i hstore <;> rwa [hstore] at hstored

end WellFormed

/-! ## Directories -/

/-- The name of an entry right below a location. -/
def childName? (l m : Location) : Option String :=
  if l.isPrefixOf m then
    match m.drop l.length with
    | [name] => some name
    | _ => none
  else none

theorem childName?_eq_some_iff {l m : Location} {name : String} :
    childName? l m = some name ↔ m = l ++ [name] := by
  unfold childName?
  constructor
  · intro h
    split at h
    · rename_i hbegins
      obtain ⟨rest, rfl⟩ := List.isPrefixOf_iff_prefix.mp hbegins
      rw [List.drop_left] at h
      split at h <;> simp_all
    · cases h
  · rintro rfl
    simp

/-- A directory lists the names of the entries right below it. -/
theorem list_of_isDir {d : Disk} {dir : Path} (h : d.isDir dir = true) :
    d.list dir = .ok (d.entries.filterMap fun e => childName? (d.place dir) e.1) := by
  unfold list subtree
  rw [find_directory_iff.mpr ⟨h, rfl⟩]
  generalize d.place dir = l
  have hbelow : ∀ es : List (Location × Node), List.filterMap
      (fun e => match e.1 with
        | [name] => some name
        | _ => none)
      (es.filterMap fun e =>
        if l.isPrefixOf e.1 ∧ e.1 ≠ l then some (e.1.drop l.length, e.2) else none) =
        es.filterMap fun e => childName? l e.1 := by
    intro es
    rw [List.filterMap_filterMap]
    refine congrArg (List.filterMap · es) (funext fun e => ?_)
    unfold childName?
    by_cases hself : e.1 = l
    · simp [hself]
    · by_cases hbegins : l.isPrefixOf e.1 = true <;> simp [hself, hbegins]
  simp only
  cases d.node? l with
  | none => exact congrArg Except.ok (hbelow d.entries)
  | some n => exact congrArg Except.ok (hbelow d.entries)

theorem list_ok {d : Disk} {dir : Path} {names : List String} (h : d.list dir = .ok names) :
    d.isDir dir = true ∧
      names = d.entries.filterMap (fun e => childName? (d.place dir) e.1) := by
  cases hdir : d.isDir dir with
  | true =>
    rw [list_of_isDir hdir] at h
    exact ⟨rfl, (Except.ok.inj h).symm⟩
  | false =>
    unfold list at h
    split at h
    · cases h
    · cases h
    · rename_i hfind
      rw [(find_directory_iff.mp hfind).1] at hdir
      cases hdir

theorem mem_of_list {d : Disk} {dir : Path} {names : List String} (h : d.list dir = .ok names)
    {name : String} : name ∈ names ↔ ∃ n, (d.place dir ++ [name], n) ∈ d.entries := by
  obtain ⟨-, rfl⟩ := list_ok h
  simp [List.mem_filterMap, childName?_eq_some_iff]

namespace WellFormed

variable {d : Disk} {dir : Path} {names : List String}

theorem nodup_of_list (hd : d.WellFormed) (h : d.list dir = .ok names) : names.Nodup := by
  obtain ⟨-, rfl⟩ := list_ok h
  have honce := List.pairwise_map.mp hd.once
  refine List.Pairwise.filterMap _ ?_ honce
  intro a b hne name hname name' hname' hsame
  rw [childName?_eq_some_iff] at hname hname'
  exact hne (by rw [hname, hname', hsame])

theorem noSlash_of_list (hd : d.WellFormed) (h : d.list dir = .ok names) {name : String}
    (hname : name ∈ names) : '/' ∉ name.toList := by
  obtain ⟨n, hmem⟩ := (mem_of_list h).mp hname
  exact hd.plain _ hmem name (by simp)

end WellFormed

end Disk

end DeviceSpec
