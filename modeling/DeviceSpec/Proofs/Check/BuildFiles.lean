import DeviceSpec.Proofs.Check.Declaration
import DeviceSpec.Proofs.Check.Verdict
import DeviceSpec.Proofs.Disk.Subtree
import Mathlib.Data.List.Forall2

/-!
# Build files of a tree

The modules of a HAL are looked for in the build files of its directory, however deep down. A
directory is opened by its path and so is a file, so both count only as long as their paths are not
too long for the system.

* **files** — the build files that are found are those that stand in a directory whose path is not
  too long (`mem_findBuildFiles_iff`), and what they declare is what the ones with a text do, if
  their own paths are not too long either (`exists_declaring_iff_declaredBelow`);
* **packages** — the modules that are looked for are the packages that end in the tag, in order
  (`Hal.map_vendorModules`);
* **findings** — each HAL is told exactly what is missing (`missing_modules_reported`).
-/

namespace DeviceSpec

/-- A build file stands at a path, or the names lead from there down to it. -/
def HoldsBuildFile (d : Disk) (dir : Path) (below : List String) (content : ByteArray) : Prop :=
  ∃ l n, d.find dir = .ok (l, n) ∧ d.node? (l ++ below) = some (.file content) ∧
    ∃ name ∈ buildFileNames, (l ++ below).getLast? = some name

/-- A build file with a text stands there that declares the module and can be opened by its
path. -/
def DeclaredBelow (d : Disk) (dir : Path) (module : String) : Prop :=
  ∃ below text, HoldsBuildFile d dir below text.toUTF8 ∧
    (below.foldl Path.join dir).text.utf8ByteSize ≤ Disk.longestPath ∧
    declares text module = true

/-- A build file stands there in a directory that can be opened by its path. -/
def BuildFileBelow (d : Disk) (dir : Path) : Prop :=
  ∃ below content, HoldsBuildFile d dir below content ∧
    (below.dropLast.foldl Path.join dir).text.utf8ByteSize ≤ Disk.longestPath

/-! ## Files -/

section
variable {d : Disk} (hd : d.IsTree) {dir file : Path} {below : List String} {content : ByteArray}

include hd

/-- The last name of what stands below a path is that of its location. -/
theorem lastName_eq {l : Location} {n : Node} (hfind : d.find dir = .ok (l, n))
    (hnode : d.node? (l ++ below) = some (.file content)) :
    (l ++ below).getLast? = some (lastName dir below) := by
  rcases List.eq_nil_or_concat below with rfl | ⟨front, last, rfl⟩
  · -- the path itself leads to the file, so it ends in its name
    rw [List.append_nil] at hnode ⊢
    rw [hd.node?_of_find hfind, Option.some.injEq] at hnode
    rw [hnode] at hfind
    obtain ⟨-, -, -, front, last, here, hsteps, hup, -, -, rfl, -⟩ := Disk.find_file_iff.mp hfind
    simp [lastName, Path.fileName?_of_steps hsteps hup]
  · simp [lastName]

theorem mem_findBuildFiles_iff : file ∈ findBuildFiles dir d ↔ ∃ below content,
    HoldsBuildFile d dir below content ∧
      (below.dropLast.foldl Path.join dir).text.utf8ByteSize ≤ Disk.longestPath ∧
      file = below.foldl Path.join dir := by
  rw [mem_findBuildFiles]
  simp only [hd.mem_subtree_iff, isReached, decide_eq_true_iff]
  constructor
  · rintro ⟨l, n, below, content, hfind, hnode, hname, hreached, rfl⟩
    exact ⟨below, content, ⟨l, n, hfind, hnode, _, hname, lastName_eq hd hfind hnode⟩, hreached,
      rfl⟩
  · rintro ⟨below, content, ⟨l, n, hfind, hnode, name, hname, hlast⟩, hreached, rfl⟩
    rw [lastName_eq hd hfind hnode, Option.some.injEq] at hlast
    exact ⟨l, n, below, content, hfind, hnode, hlast ▸ hname, hreached, rfl⟩

theorem findBuildFiles_eq_nil_iff : findBuildFiles dir d = [] ↔ ¬ BuildFileBelow d dir := by
  rw [List.eq_nil_iff_forall_not_mem]
  simp only [mem_findBuildFiles_iff hd, BuildFileBelow]
  constructor
  · rintro hnone ⟨below, content, hholds, hreached⟩
    exact hnone _ ⟨below, content, hholds, hreached, rfl⟩
  · rintro hnone file ⟨below, content, hholds, hreached, -⟩
    exact hnone ⟨below, content, hholds, hreached⟩

/-- A build file is read by its path exactly when that is not too long. -/
theorem HoldsBuildFile.read_iff (h : HoldsBuildFile d dir below content) {other : ByteArray} :
    d.read (below.foldl Path.join dir) = .ok other ↔
      (below.foldl Path.join dir).text.utf8ByteSize ≤ Disk.longestPath ∧ other = content := by
  obtain ⟨l, n, hfind, hnode, -⟩ := h
  have hfound := hd.find_below_iff hfind hnode
  constructor
  · intro hread
    have hshort := (Disk.accepted_of_find (Disk.find_of_read hread)).short
    rw [Disk.read_of_find (hfound.mpr hshort), Except.ok.injEq] at hread
    exact ⟨hshort, hread.symm⟩
  · rintro ⟨hshort, rfl⟩
    exact Disk.read_of_find (hfound.mpr hshort)

theorem exists_declaring_iff_declaredBelow {module : String} :
    (∃ file ∈ findBuildFiles dir d, declaresModule file module d = .ok true) ↔
      DeclaredBelow d dir module := by
  simp only [mem_findBuildFiles_iff hd, declaresModule_iff]
  constructor
  · rintro ⟨-, ⟨below, content, hholds, -, rfl⟩, text, hread, hdeclares⟩
    obtain ⟨hshort, rfl⟩ := (hholds.read_iff hd).mp hread
    exact ⟨below, text, hholds, hshort, hdeclares⟩
  · rintro ⟨below, text, hholds, hshort, hdeclares⟩
    refine ⟨_, ⟨below, text.toUTF8, hholds, ?_, rfl⟩, text, (hholds.read_iff hd).mpr ⟨hshort, rfl⟩,
      hdeclares⟩
    -- a directory has a shorter path than the file in it
    obtain ⟨l, n, hfind, hnode, name, hname, hlast⟩ := hholds
    rw [lastName_eq hd hfind hnode, Option.some.injEq] at hlast
    exact of_decide_eq_true (isReached_of_accepted (hlast ▸ hname) hshort)

end

/-! ## Packages -/

/-- The modules are the packages that end in the tag, without it, in order. -/
theorem Hal.map_vendorModules (h : Hal) :
    h.vendorModules.map (· ++ ":v") = h.buildPackages.filter (Text.hasTail ":v") := by
  unfold Hal.vendorModules
  induction h.buildPackages with
  | nil => rfl
  | cons package rest ih =>
    simp only [List.filterMap_cons, List.filter_cons]
    cases hsplit : splitTag package with
    | mk name tag =>
      by_cases htag : tag = some vendorTag
      · subst htag
        have hname := splitTag_vendorTag_iff.mp hsplit
        rw [if_pos (Text.hasTail_iff.mpr ⟨name, hname⟩), ← ih]
        simp [hname]
      · have htail : ¬ Text.hasTail ":v" package = true := by
          rw [Text.hasTail_iff]
          rintro ⟨other, hother⟩
          have h := splitTag_vendorTag_iff.mpr hother
          rw [hsplit] at h
          exact htag (Prod.mk.inj h).2
        rw [if_neg htail, ← ih]
        simp [htag]

/-! ## Findings -/

/-- What a HAL is told: nothing if none of its packages is tagged, one failure if it has no build
files, and else one for each tagged package that no build file declares. -/
inductive HalReport (env : Surroundings) (d : Disk) (h : Hal) : List Finding → Prop
  | nothing : h.buildPackages.filter (Text.hasTail ":v") = [] → HalReport env d h []
  | noBuildFiles : h.buildPackages.filter (Text.hasTail ":v") ≠ [] →
      ¬ BuildFileBelow d (env.dir.join h.name) → HalReport env d h [lacksBuildFiles env h]
  | undeclared {modules : List String} {undeclared : String → Bool} :
      modules.map (· ++ ":v") = h.buildPackages.filter (Text.hasTail ":v") → modules ≠ [] →
      BuildFileBelow d (env.dir.join h.name) →
      (∀ m, undeclared m = true ↔ ¬ DeclaredBelow d (env.dir.join h.name) m) →
      HalReport env d h ((modules.filter undeclared).map (lacksModule env h))

section
variable {d : Disk} (hd : d.IsTree) {env : Surroundings} {h : Hal} {findings : List Finding}

include hd

/-- What the rule finds is what the HAL is told, and nothing else is. -/
theorem halReport_iff : HalReport env d h findings ↔ findings = checkHalModules env d h := by
  have hpackages : h.vendorModules = [] ↔ h.buildPackages.filter (Text.hasTail ":v") = [] := by
    rw [← Hal.map_vendorModules, List.map_eq_nil_iff]
  have hfiles : findBuildFiles (env.dir.join h.name) d = [] ↔ _ := findBuildFiles_eq_nil_iff hd
  have hcases := checkHalModules_cases env d h
  simp only [exists_declaring_iff_declaredBelow hd, ne_eq, hfiles, hpackages,
    Classical.not_not] at hcases
  constructor
  · intro hreport
    cases hreport with
    | nothing hnone =>
      rcases hcases with ⟨-, hcheck⟩ | ⟨hsome, -⟩ | ⟨hsome, -⟩
      · exact hcheck.symm
      · exact absurd hnone hsome
      · exact absurd hnone hsome
    | noBuildFiles hsome hempty =>
      rcases hcases with ⟨hnone, -⟩ | ⟨-, -, hcheck⟩ | ⟨-, hholds, -⟩
      · exact absurd hnone hsome
      · exact hcheck.symm
      · exact absurd hholds hempty
    | @undeclared modules undeclared hmodules hne hholds hundeclared =>
      rcases hcases with ⟨hnone, -⟩ | ⟨-, hempty, -⟩ | ⟨-, -, other, hother, hcheck⟩
      · rw [← hmodules, List.map_eq_nil_iff] at hnone
        exact absurd hnone hne
      · exact absurd hholds hempty
      · -- the packages and the build files leave no choice
        have hsame : undeclared = other := by
          funext module
          rw [Bool.eq_iff_iff, hundeclared, hother]
        have hinj : Function.Injective (fun module : String => module ++ ":v") := by
          intro a b hab
          exact String.toList_inj.mp (by simpa using congrArg String.toList hab)
        rw [← Hal.map_vendorModules, List.map_inj_right hinj] at hmodules
        rw [hcheck, hsame, hmodules]
  · rintro rfl
    rcases hcases with ⟨hnone, hcheck⟩ | ⟨hsome, hempty, hcheck⟩ |
      ⟨hsome, hholds, undeclared, hundeclared, hcheck⟩
    · exact hcheck ▸ .nothing hnone
    · exact hcheck ▸ .noBuildFiles hsome hempty
    · exact hcheck ▸ .undeclared h.map_vendorModules (mt hpackages.mp hsome) hholds hundeclared

end

/-- The rule tells every HAL, in order, what it lacks, and there is only one thing to tell it. -/
theorem missing_modules_reported {d : Disk} (hd : d.IsTree) (s : Spec) (env : Surroundings) :
    (∃! told, List.Forall₂ (HalReport env d) s.hals told) ∧
      ∀ told, List.Forall₂ (HalReport env d) s.hals told →
        Rule.modules.check s env d = told.flatten := by
  have hreport : HalReport env d = fun h findings => checkHalModules env d h = findings := by
    funext h findings
    exact propext ((halReport_iff hd).trans eq_comm)
  have hiff : ∀ told, List.Forall₂ (HalReport env d) s.hals told ↔
      told = s.hals.map (checkHalModules env d) := by
    intro told
    rw [hreport, eq_comm]
    exact List.forall₂_map_left_iff.symm.trans (by rw [List.forall₂_eq_eq_eq])
  simp only [hiff]
  refine ⟨⟨_, rfl, fun _ h => h⟩, ?_⟩
  rintro _ rfl
  exact List.flatMap_def

/-- A blueprint of one module. -/
def blueprint : String := "cc_library \x7b\n  name: \"m\",\n\x7d\n"

/-- The directory of a HAL with the blueprint one level down. -/
def nestedTree : Disk where
  entries := [(["d"], .directory), (["d", "w"], .directory), (["d", "w", "x"], .directory),
    (["d", "w", "x", "Android.bp"], .file blueprint.toUTF8)]

/-- A description of that HAL. -/
def taggedPackages (packages : List String) : Spec where
  hals := [{ name := "w", packages := some { build := packages } }]

theorem isTree_nestedTree : nestedTree.IsTree where
  wellFormed := ⟨by decide, by decide, by decide⟩
  rooted := by decide
  names := by decide

theorem missing_modules_reported_nestedTree :
    nestedTree.IsTree ∧
      HalReport ⟨⟨"/d"⟩, none, true⟩ nestedTree
        { name := "w", packages := some { build := ["m:v", "o", "a:n:v"] } }
        [lacksModule ⟨⟨"/d"⟩, none, true⟩ { name := "w" } "a:n"] := by
  obtain ⟨⟨told, htold, -⟩, hcheck⟩ := missing_modules_reported isTree_nestedTree
    (taggedPackages ["m:v", "o", "a:n:v"]) ⟨⟨"/d"⟩, none, true⟩
  have hfound : Rule.modules.check (taggedPackages ["m:v", "o", "a:n:v"]) ⟨⟨"/d"⟩, none, true⟩
      nestedTree = [lacksModule ⟨⟨"/d"⟩, none, true⟩ { name := "w" } "a:n"] := by
    decide +kernel
  rw [hcheck told htold] at hfound
  cases htold with
  | cons hreport hrest =>
    cases hrest
    rw [List.flatten_cons, List.flatten_nil, List.append_nil] at hfound
    exact ⟨isTree_nestedTree, hfound ▸ hreport⟩

/-- The directory of devices, spelled with more slashes than it needs. -/
def slashedDir : Path := ⟨"d" ++ slashes 4090⟩

theorem byteSize_slashedDir : slashedDir.text.utf8ByteSize = 4091 := by
  have hd : "d".utf8ByteSize = 1 := by decide
  simp only [slashedDir, String.utf8ByteSize_append, byteSize_slashes, hd]

theorem find_slashedDir :
    nestedTree.find (slashedDir.join "w") = .ok (["d", "w"], .directory) := by
  have hw : Path.isAbsolute ⟨"w"⟩ = false := by decide
  have hsize : "w".utf8ByteSize = 1 := by decide
  have hrel : slashedDir.isAbsolute = false := by
    simp [slashedDir, Path.isAbsolute, Text.hasHead, List.isPrefixOf]
  have hsteps : slashedDir.steps = ["d"] := (steps_append_slashes 4090 "d").trans (by decide)
  have haccepted : slashedDir.Accepted := by
    refine ⟨?_, by simp [slashedDir], ?_⟩
    · simp only [slashedDir, String.toList_append, List.mem_append, not_or]
      exact ⟨by decide, nul_not_mem_slashes 4090⟩
    · rw [byteSize_slashedDir]
      decide
  have horigin : nestedTree.origin (slashedDir.join "w") = [] := by
    rw [Disk.origin, Path.isAbsolute_join_eq hw, hrel]
    rfl
  have hplace : nestedTree.place (slashedDir.join "w") = ["d", "w"] := by
    rw [Disk.place, horigin, Path.steps_join hw, hsteps]
    decide
  rw [Disk.find_directory_iff, hplace, Disk.isDir_iff, hplace, horigin, Path.steps_join hw, hsteps]
  refine ⟨⟨Path.accepted_join haccepted hw (by decide) ?_, rfl, rfl⟩, rfl⟩
  have hgap := Path.byteSize_gap_le slashedDir
  rw [Path.text_join hw]
  simp only [String.utf8ByteSize_append, byteSize_slashedDir, hsize, Disk.longestPath]
  omega

/-- Where only the directories have paths that are not too long, the blueprint is found and not
read. -/
theorem check_nestedTree {dir : Path}
    (hfind : nestedTree.find (dir.join "w") = .ok (["d", "w"], .directory))
    (hsize : dir.text.utf8ByteSize = 4091) :
    HoldsBuildFile nestedTree (dir.join "w") ["x", "Android.bp"] blueprint.toUTF8 ∧
      Rule.modules.check (taggedPackages ["m:v"]) ⟨dir, none, true⟩ nestedTree =
        [lacksModule ⟨dir, none, true⟩ { name := "w" } "m"] := by
  have hholds : HoldsBuildFile nestedTree (dir.join "w") ["x", "Android.bp"] blueprint.toUTF8 :=
    ⟨["d", "w"], .directory, hfind, by decide, "Android.bp", by decide, rfl⟩
  have hw : Path.isAbsolute ⟨"w"⟩ = false := by decide
  have hx : Path.isAbsolute ⟨"x"⟩ = false := by decide
  have hfile : Path.isAbsolute ⟨"Android.bp"⟩ = false := by decide
  have hsizes : "w".utf8ByteSize = 1 ∧ "x".utf8ByteSize = 1 ∧ "Android.bp".utf8ByteSize = 10 := by
    decide
  have hgap := Path.byteSize_gap_le dir
  have hgap' := Path.byteSize_gap_le (dir.join "w")
  have hbelow : BuildFileBelow nestedTree (dir.join "w") := by
    refine ⟨_, _, hholds, ?_⟩
    rw [List.dropLast_cons_cons, List.dropLast_singleton, List.foldl_cons, List.foldl_nil,
      Path.text_join hx, Path.text_join hw]
    simp only [String.utf8ByteSize_append, hsize, hsizes, Disk.longestPath]
    omega
  have hnone : ∀ m, ¬ DeclaredBelow nestedTree (dir.join "w") m := by
    rintro m ⟨below, text, ⟨l, n, hfind', hnode, -⟩, hshort, -⟩
    rw [hfind] at hfind'
    obtain ⟨rfl, rfl⟩ := Prod.mk.inj (Except.ok.inj hfind')
    -- the blueprint is the only file
    have hentry := (isTree_nestedTree.wellFormed.node?_eq_some_iff (by simp)).mp hnode
    obtain ⟨rfl, -⟩ : below = ["x", "Android.bp"] ∧ _ := by simpa [nestedTree] using hentry
    simp only [List.foldl_cons, List.foldl_nil, Path.text_join hfile, Path.text_join hx,
      Path.text_join hw, String.utf8ByteSize_append, hsize, hsizes, Disk.longestPath] at hshort
    omega
  have hreport : HalReport ⟨dir, none, true⟩ nestedTree
      { name := "w", packages := some { build := ["m:v"] } }
      ((["m"].filter fun _ => true).map (lacksModule ⟨dir, none, true⟩ { name := "w" })) :=
    .undeclared (by decide) (List.cons_ne_nil _ _) hbelow fun m => iff_of_true rfl (hnone m)
  refine ⟨hholds, ?_⟩
  have hcheck := (halReport_iff isTree_nestedTree).mp hreport
  exact (List.append_nil _).trans hcheck.symm

/-- A module is reported although a build file declares it, as the path of the file is too long. -/
theorem declared_out_of_reach :
    nestedTree.IsTree ∧
      HoldsBuildFile nestedTree (slashedDir.join "w") ["x", "Android.bp"] blueprint.toUTF8 ∧
      declares blueprint "m" = true ∧
      Rule.modules.check (taggedPackages ["m:v"]) ⟨slashedDir, none, true⟩ nestedTree =
        [lacksModule ⟨slashedDir, none, true⟩ { name := "w" } "m"] := by
  obtain ⟨hholds, hcheck⟩ := check_nestedTree find_slashedDir byteSize_slashedDir
  exact ⟨isTree_nestedTree, hholds, by decide +kernel, hcheck⟩

end DeviceSpec
