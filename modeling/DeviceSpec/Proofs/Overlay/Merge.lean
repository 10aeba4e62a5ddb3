import DeviceSpec.Proofs.Disk.Listing
import DeviceSpec.Proofs.Overlay.Order
import DeviceSpec.Proofs.Overlay.Upsert

/-!
# Merging overlays

* **fragments** — the overlays of a directory that hold a HAL, in the order of their names
  (`mem_fragments`, `pairwise_fragments`);
* **merging** — it puts their HALs in place in that order (`mergeOverlays_fragments`);
* **what does not matter** — the result depends on the fragments only (`fragments_congr`), so it is
  the same for every order of the entries of the disk and without the files that hold no HAL;
* **once more** — the HALs are in place after the first merge, so a second one changes nothing
  (`mergeOverlays_again`).
-/

namespace DeviceSpec

/-! ## Names of overlays -/

theorem isOverlayName_iff {name : String} :
    isOverlayName name = true ↔ ∃ x, x ≠ "" ∧ name = "ol.hal." ++ x ++ ".json" := by
  have hhead : overlayHead.toList.length = 7 := by decide +kernel
  have htail : overlayTail.toList.length = 5 := by decide +kernel
  have hchars : isOverlayName name = true ↔ 12 < name.toList.length ∧
      overlayHead.toList <+: name.toList ∧ overlayTail.toList <:+ name.toList := by
    simp only [isOverlayName, Text.hasHead, Text.hasTail, Bool.and_eq_true, decide_eq_true_eq,
      List.isPrefixOf_iff_prefix, List.isSuffixOf_iff_suffix, and_assoc, ← String.length_toList,
      hhead, htail]
  rw [hchars]
  constructor
  · rintro ⟨hlength, ⟨rest, hrest⟩, htails⟩
    -- the name is long enough for its tail to begin after its head
    rw [← hrest, List.length_append, hhead] at hlength
    rw [← hrest] at htails
    obtain ⟨x, hx⟩ := List.suffix_of_suffix_length_le htails (List.suffix_append _ _) (by omega)
    refine ⟨String.ofList x, ?_, ?_⟩
    · rintro hempty
      rw [← hx, String.ofList_eq_empty_iff.mp hempty, List.nil_append, htail] at hlength
      omega
    · rw [← String.toList_inj, ← hrest, ← hx]
      simp [overlayHead, overlayTail]
  · rintro ⟨x, hx, rfl⟩
    have hlength : 0 < x.toList.length :=
      List.length_pos_iff.mpr fun hnil => hx (String.toList_eq_nil_iff.mp hnil)
    refine ⟨?_, ⟨x.toList ++ overlayTail.toList, ?_⟩, ⟨overlayHead.toList ++ x.toList, ?_⟩⟩
    · simp only [String.toList_append, List.length_append]
      rw [show "ol.hal.".toList.length = 7 from hhead, show ".json".toList.length = 5 from htail]
      omega
    · simp [overlayHead, overlayTail]
    · simp [overlayHead, overlayTail]

/-- An overlay of a directory is named by a name of its own. -/
theorem isName_of_isOverlayName {name : String} (h : isOverlayName name = true)
    (hslash : '/' ∉ name.toList) : Path.IsName name := by
  refine ⟨hslash, ?_, ?_⟩
  · cases hidle : Path.isIdle name with
    | false => rfl
    | true =>
      rw [Path.isIdle, Bool.or_eq_true, beq_iff_eq, beq_iff_eq] at hidle
      rcases hidle with rfl | rfl <;> revert h <;> decide +kernel
  · rintro rfl
    revert h
    decide +kernel

/-- The names of the overlays of a directory, in order. -/
def overlayNames (dir : Path) (d : Disk) : List String :=
  match d.list dir with
  | .error _ => []
  | .ok names =>
    (names.filter fun n => isOverlayName n && d.isFile (dir.join n)).mergeSort
      fun a b => decide (a ≤ b)

section
variable {d e : Disk} {dir : Path} {name : String} {h : Hal}

theorem mem_overlayNames : name ∈ overlayNames dir d ↔
    (∃ names, d.list dir = .ok names ∧ name ∈ names) ∧ isOverlayName name = true ∧
      d.isFile (dir.join name) = true := by
  unfold overlayNames
  cases d.list dir with
  | error err => simp
  | ok names => simp

/-- The overlays of a directory lie under these names. -/
theorem findOverlays_eq (hd : d.WellFormed) (dir : Path) :
    findOverlays dir d = (overlayNames dir d).map dir.join := by
  unfold findOverlays overlayNames
  cases hlist : d.list dir with
  | error err => rfl
  | ok names =>
    have hnames : ∀ n ∈ names.filter (fun n => isOverlayName n && d.isFile (dir.join n)),
        Path.IsName n := by
      intro n hn
      rw [List.mem_filter, Bool.and_eq_true] at hn
      exact isName_of_isOverlayName hn.2.1 (hd.noSlash_of_list hlist hn.1)
    have hfound : ((names.filter isOverlayName).map dir.join).filter d.isFile =
        (names.filter fun n => isOverlayName n && d.isFile (dir.join n)).map dir.join := by
      rw [List.filter_map, List.filter_filter]
      simp only [Function.comp_apply, Bool.and_comm]
    simp only
    rw [hfound]
    refine (List.map_mergeSort fun a ha b hb => ?_).symm
    exact (Path.upTo_join (hnames a ha) (hnames b hb)).symm

theorem pairwise_overlayNames (hd : d.WellFormed) (dir : Path) :
    (overlayNames dir d).Pairwise (· < ·) := by
  unfold overlayNames
  cases hlist : d.list dir with
  | error err => exact List.Pairwise.nil
  | ok names =>
    simp only
    generalize hfound : names.filter (fun n => isOverlayName n && d.isFile (dir.join n)) = found
    have hsorted : (found.mergeSort fun a b => decide (a ≤ b)).Pairwise
        fun a b => decide (a ≤ b) = true :=
      List.pairwise_mergeSort (by simpa using fun a b c => String.le_trans)
        (by simpa using String.le_total) found
    have hnodup : (found.mergeSort fun a b => decide (a ≤ b)).Nodup := by
      rw [(List.mergeSort_perm _ _).nodup_iff, ← hfound]
      exact (hd.nodup_of_list hlist).filter _
    refine (hsorted.and hnodup).imp ?_
    rintro a b ⟨hle, hne⟩
    rw [decide_eq_true_eq] at hle
    exact String.not_le.mp fun hge => hne (String.le_antisymm hle hge)

end

/-! ## Fragments -/

/-- The file of a name in a directory is an overlay that holds a HAL. Only files can be read. -/
structure IsFragment (d : Disk) (dir : Path) (name : String) (h : Hal) : Prop where
  named : ∃ x, x ≠ "" ∧ name = "ol.hal." ++ x ++ ".json"
  listed : ∃ names, d.list dir = .ok names ∧ name ∈ names
  decodes : ∃ text, d.read (dir.join name) = .ok text.toUTF8 ∧ Hal.decode text = .ok h

/-- The overlays of a directory that hold a HAL, in order. -/
def fragments (dir : Path) (d : Disk) : List (String × Hal) :=
  (overlayNames dir d).filterMap fun n => (loadHal (dir.join n) d).toOption.map (n, ·)

section
variable {d e : Disk} {dir : Path} {name : String} {h : Hal} {p : Path}

theorem fromUTF8?_eq_some_iff {content : ByteArray} {text : String} :
    String.fromUTF8? content = some text ↔ content = text.toUTF8 := by
  constructor
  · intro h
    unfold String.fromUTF8? at h
    split at h
    · cases h
      rfl
    · cases h
  · rintro rfl
    exact Ledger.fromUTF8?_toUTF8 text

theorem readText_ok_iff {text : String} :
    d.readText p = .ok text ↔ d.read p = .ok text.toUTF8 := by
  unfold Disk.readText
  cases d.read p with
  | error err => simp
  | ok content =>
    simp only [Except.ok.injEq, ← fromUTF8?_eq_some_iff]
    cases String.fromUTF8? content <;> simp

theorem loadDocument_ok_iff {α : Type} {decode : String → Except Json.Error α} {v : α} :
    loadDocument decode p d = .ok v ↔
      ∃ text, d.read p = .ok text.toUTF8 ∧ decode text = .ok v := by
  simp only [← readText_ok_iff]
  unfold loadDocument
  cases d.readText p with
  | error err => cases err <;> simp
  | ok text =>
    simp only [Except.ok.injEq, exists_eq_left']
    cases decode text <;> simp

theorem loadHal_ok_iff :
    loadHal p d = .ok h ↔ ∃ text, d.read p = .ok text.toUTF8 ∧ Hal.decode text = .ok h :=
  loadDocument_ok_iff

/-- What is kept with what a look at it gave, when that went well. -/
theorem mem_filterMap_toOption {α β ε : Type} {look : α → Except ε β} {xs : List α} {x : α}
    {v : β} :
    (x, v) ∈ xs.filterMap (fun x => (look x).toOption.map (x, ·)) ↔ x ∈ xs ∧ look x = .ok v := by
  have hkept : ∀ y, (look y).toOption.map (y, ·) = some (x, v) ↔ y = x ∧ look y = .ok v := by
    intro y
    cases look y <;> simp [Except.toOption]
  simp only [List.mem_filterMap, hkept]
  constructor
  · rintro ⟨y, hy, rfl, hlook⟩
    exact ⟨hy, hlook⟩
  · rintro ⟨hx, hlook⟩
    exact ⟨x, hx, rfl, hlook⟩

theorem mem_fragments : (name, h) ∈ fragments dir d ↔ IsFragment d dir name h := by
  have hload : (name, h) ∈ fragments dir d ↔
      name ∈ overlayNames dir d ∧ loadHal (dir.join name) d = .ok h := mem_filterMap_toOption
  rw [hload, mem_overlayNames, isOverlayName_iff, loadHal_ok_iff]
  constructor
  · rintro ⟨⟨hlisted, hnamed, -⟩, hdecodes⟩
    exact ⟨hnamed, hlisted, hdecodes⟩
  · rintro ⟨hnamed, hlisted, text, hread, hdecode⟩
    exact ⟨⟨hlisted, hnamed, Disk.isFile_of_find (Disk.find_of_read hread)⟩, text, hread, hdecode⟩

theorem pairwise_fragments (hd : d.WellFormed) (dir : Path) :
    (fragments dir d).Pairwise (fun a b => a.1 < b.1) := by
  refine (pairwise_overlayNames hd dir).filterMap _ ?_
  intro a b hlt f hf g hg
  obtain ⟨h, -, rfl⟩ := Option.map_eq_some_iff.mp hf
  obtain ⟨h', -, rfl⟩ := Option.map_eq_some_iff.mp hg
  exact hlt

/-- The files that hold a HAL, each with it. -/
def held (d : Disk) (paths : List Path) : List (Path × Hal) :=
  paths.filterMap fun p => (loadHal p d).toOption.map (p, ·)

theorem mem_held {d : Disk} {paths : List Path} {p : Path} {h : Hal} :
    (p, h) ∈ held d paths ↔ p ∈ paths ∧ loadHal p d = .ok h := mem_filterMap_toOption

/-- Applying overlays puts the HALs that they hold in place. -/
theorem foldl_apply (d : Disk) (paths : List Path) (m : Merge) :
    (paths.foldl (Merge.apply d) m).hals = placeHals m.hals ((held d paths).map Prod.snd) ∧
      (paths.foldl (Merge.apply d) m).applied = m.applied ++ (held d paths).map Prod.fst := by
  induction paths generalizing m with
  | nil => simp [placeHals, held]
  | cons p rest ih =>
    rw [List.foldl_cons]
    obtain ⟨hhals, happlied⟩ := ih (Merge.apply d m p)
    rw [hhals, happlied]
    cases hload : loadHal p d with
    | error err => simp [Merge.apply, held, hload, Except.toOption]
    | ok h => simp [Merge.apply, held, hload, Except.toOption, placeHals]

theorem mergeOverlays_fragments (hd : d.WellFormed) (hals : List Hal) (dir : Path) :
    (mergeOverlays hals dir d).hals = placeHals hals ((fragments dir d).map Prod.snd) ∧
      (mergeOverlays hals dir d).applied = (fragments dir d).map (fun f => dir.join f.1) := by
  have hheld : held d (findOverlays dir d) =
      (fragments dir d).map fun f => (dir.join f.1, f.2) := by
    rw [findOverlays_eq hd, held, fragments, List.filterMap_map, List.map_filterMap]
    simp only [Option.map_map]
    rfl
  obtain ⟨hhals, happlied⟩ := foldl_apply d (findOverlays dir d) ⟨hals, [], []⟩
  rw [hheld, List.map_map] at hhals happlied
  exact ⟨hhals, happlied⟩

/-- Two disks with the same fragments in a directory have the same list of them. -/
theorem fragments_congr (hd : d.WellFormed) (he : e.WellFormed)
    (hsame : ∀ name h, IsFragment e dir name h ↔ IsFragment d dir name h) :
    fragments dir e = fragments dir d := by
  have hnodup : ∀ {d : Disk}, d.WellFormed → (fragments dir d).Nodup := fun hd =>
    (pairwise_fragments hd dir).imp fun hlt hequal => by simp [hequal] at hlt
  -- the same fragments, both in the order of their names, which are different
  refine List.Perm.eq_of_pairwise ?_ (pairwise_fragments he dir) (pairwise_fragments hd dir)
    ((List.perm_ext_iff_of_nodup (hnodup he) (hnodup hd)).mpr fun f => ?_)
  · intro a b _ _ hlt hgt
    exact absurd (String.lt_trans hlt hgt) (String.lt_irrefl _)
  · rw [mem_fragments, mem_fragments, hsame]

end

/-! ## What does not matter -/

/-- The same paths lead to directories and to files that hold a HAL, and these are the same. -/
structure SameHals (d e : Disk) : Prop where
  isDir : ∀ p, e.isDir p = true ↔ d.isDir p = true
  load : ∀ p h, loadHal p e = .ok h ↔ loadHal p d = .ok h

section
variable {d e : Disk} {dir p : Path} {name : String} {h : Hal}

/-- The listing of a well-formed disk adds nothing to what can be read under a name of its own. -/
theorem isFragment_iff (hd : d.WellFormed) :
    IsFragment d dir name h ↔ d.isDir dir = true ∧ isOverlayName name = true ∧
      '/' ∉ name.toList ∧ loadHal (dir.join name) d = .ok h := by
  constructor
  · rintro ⟨hnamed, ⟨names, hlist, hmem⟩, hdecodes⟩
    exact ⟨(Disk.list_ok hlist).1, isOverlayName_iff.mpr hnamed, hd.noSlash_of_list hlist hmem,
      loadHal_ok_iff.mpr hdecodes⟩
  · rintro ⟨hdir, hnamed, hslash, hload⟩
    have hname := isName_of_isOverlayName hnamed hslash
    -- a file that is read under a name of its own stands right below the directory
    obtain ⟨text, hread, hdecode⟩ := loadHal_ok_iff.mp hload
    have hplace : d.place (dir.join name) = d.place dir ++ [name] := by
      rw [Disk.place_join hname.isAbsolute (by simp [hname.steps, hname.notUp.symm]), hname.steps]
    have hnode := Disk.node?_of_find (Disk.find_of_read hread)
    rw [hplace, hd.node?_eq_some_iff (by simp)] at hnode
    have hlist := Disk.list_of_isDir hdir
    exact ⟨isOverlayName_iff.mp hnamed, ⟨_, hlist, (Disk.mem_of_list hlist).mpr ⟨_, hnode⟩⟩, text,
      hread, hdecode⟩

/-- What is merged only depends on the directories and the HALs that files hold. -/
theorem mergeOverlays_congr (hd : d.WellFormed) (he : e.WellFormed) (h : SameHals d e)
    (hals : List Hal) (dir : Path) :
    (mergeOverlays hals dir e).hals = (mergeOverlays hals dir d).hals ∧
      (mergeOverlays hals dir e).applied = (mergeOverlays hals dir d).applied := by
  have hsame : fragments dir e = fragments dir d := fragments_congr hd he fun name f => by
    rw [isFragment_iff hd, isFragment_iff he, h.isDir, h.load]
  obtain ⟨hhals, happlied⟩ := mergeOverlays_fragments hd hals dir
  obtain ⟨hhals', happlied'⟩ := mergeOverlays_fragments he hals dir
  rw [hhals, happlied, hhals', happlied', hsame]
  exact ⟨rfl, rfl⟩

/-- A HAL is still read when directories are kept and its file is the same. -/
theorem loadHal_mono (hkeeps : d.KeepsDirs e)
    (hnode : ∀ n, d.node? (d.place p) = some n → e.node? (d.place p) = some n)
    (hload : loadHal p d = .ok h) : loadHal p e = .ok h := by
  obtain ⟨text, hread, hdecode⟩ := loadHal_ok_iff.mp hload
  have hfind := Disk.find_of_read hread
  have hfind' := Disk.find_file_mono hkeeps hfind (hnode _ (Disk.node?_of_find hfind))
  exact loadHal_ok_iff.mpr ⟨text, Disk.read_of_find hfind', hdecode⟩

/-- The order of the entries makes no difference. -/
theorem sameHals_of_perm (hd : d.WellFormed) (hentries : e.entries.Perm d.entries)
    (hworking : e.workingDir = d.workingDir) : SameHals d e := by
  have hnode := hd.node?_of_perm hentries
  have hde : d.KeepsDirs e := ⟨hworking, fun l hl => by rw [hnode, hl]⟩
  have hed : e.KeepsDirs d := ⟨hworking.symm, fun l hl => by rw [← hnode, hl]⟩
  refine ⟨fun p => ⟨Disk.isDir_mono hed, Disk.isDir_mono hde⟩, fun p h => ⟨?_, ?_⟩⟩
  · exact loadHal_mono hed fun n hn => by rw [← hnode, hn]
  · exact loadHal_mono hde fun n hn => by rw [hnode, hn]

/-- A file that holds no HAL makes no difference. -/
theorem sameHals_of_remove (h : d.remove p = .ok e) (hp : ∀ f, loadHal p d ≠ .ok f) :
    SameHals d e := by
  have hremoved := Disk.removed_of_remove h
  refine ⟨fun q => ⟨Disk.isDir_mono hremoved.keepsDirs', Disk.isDir_mono hremoved.keepsDirs⟩,
    fun q f => ⟨loadHal_mono hremoved.keepsDirs' fun n => hremoved.node?_some, fun hload => ?_⟩⟩
  refine loadHal_mono hremoved.keepsDirs (fun n hn => ?_) hload
  rw [hremoved.kept, hn]
  -- a path to the same place would be read to the same HAL
  intro q' hq' hfile hplace
  rw [List.mem_singleton.mp hq'] at hfile hplace
  obtain ⟨text, hread, hdecode⟩ := loadHal_ok_iff.mp hload
  obtain ⟨content, hfind⟩ := Disk.find_of_isFile hfile
  have hcontent := (Disk.node?_of_find hfind).symm.trans
    (hplace ▸ Disk.node?_of_find (Disk.find_of_read hread))
  rw [Option.some.injEq, Node.file.injEq] at hcontent
  exact hp f (loadHal_ok_iff.mpr ⟨text, hcontent ▸ Disk.read_of_find hfind, hdecode⟩)

/-- Neither do many of them. -/
theorem sameHals_of_removes {files : List Path} (hd : d.WellFormed)
    (h : files.foldlM Disk.remove d = .ok e) (hfiles : ∀ p ∈ files, ∀ f, loadHal p d ≠ .ok f) :
    e.WellFormed ∧ SameHals d e := by
  induction files generalizing d with
  | nil =>
    cases h
    exact ⟨hd, fun _ => Iff.rfl, fun _ _ => Iff.rfl⟩
  | cons p rest ih =>
    rw [List.foldlM_cons] at h
    cases hremove : d.remove p with
    | error err => simp [hremove, bind, Except.bind] at h
    | ok d' =>
      rw [hremove] at h
      have hfirst := sameHals_of_remove hremove (hfiles p List.mem_cons_self)
      obtain ⟨he, hrest⟩ := ih (hd.remove hremove) h fun q hq f hload =>
        hfiles q (List.mem_cons_of_mem _ hq) f ((hfirst.load q f).mp hload)
      exact ⟨he, fun q => (hrest.isDir q).trans (hfirst.isDir q),
        fun q f => (hrest.load q f).trans (hfirst.load q f)⟩

end

/-! ## The merge -/

/-- What merging the overlays of a directory into a description comes to. -/
structure MergesOverlays (s : Spec) (dir : Path) (d : Disk) (fragments : List (String × Hal)) :
    Prop where
  /-- The fragments are the files of the directory that are named like overlays and hold a HAL. -/
  isFragment : ∀ name h, (name, h) ∈ fragments ↔ IsFragment d dir name h
  /-- They are applied in the order of the bytes of their names. -/
  ordered : fragments.Pairwise (fun a b => nameBytes a.1 < nameBytes b.1)
  applied : (mergeOverlays s.hals dir d).applied = fragments.map (fun f => dir.join f.1)
  /-- Their HALs are put in place. -/
  hals : Upserts s.hals (fragments.map Prod.snd) (s.withMerge (mergeOverlays s.hals dir d)).hals
  /-- The rest of the description stays. -/
  rest : { s.withMerge (mergeOverlays s.hals dir d) with hals := s.hals } = s
  /-- Different names stay different. -/
  distinct : (s.hals.map Hal.name).Nodup →
    ((s.withMerge (mergeOverlays s.hals dir d)).hals.map Hal.name).Nodup

/-- Merging the overlays of a directory puts the HALs of its fragments in place, in the order of
their names. It comes to the same for every order of the entries of the disk, and without any files
that hold no HAL. -/
theorem mergeOverlays_upserts {d : Disk} (hd : d.WellFormed) (s : Spec) (dir : Path) :
    (∃ fragments, MergesOverlays s dir d fragments) ∧
    (∀ e : Disk, e.entries.Perm d.entries → e.workingDir = d.workingDir →
      (mergeOverlays s.hals dir e).hals = (mergeOverlays s.hals dir d).hals ∧
      (mergeOverlays s.hals dir e).applied = (mergeOverlays s.hals dir d).applied) ∧
    (∀ (files : List Path) (e : Disk), (∀ p ∈ files, ∀ h, loadHal p d ≠ .ok h) →
      files.foldlM Disk.remove d = .ok e →
      (mergeOverlays s.hals dir e).hals = (mergeOverlays s.hals dir d).hals ∧
      (mergeOverlays s.hals dir e).applied = (mergeOverlays s.hals dir d).applied) := by
  refine ⟨⟨fragments dir d, ?_⟩, ?_, ?_⟩
  · obtain ⟨hhals, happlied⟩ := mergeOverlays_fragments hd s.hals dir
    refine ⟨fun name h => mem_fragments, ?_, happlied, ?_, rfl, ?_⟩
    · exact (pairwise_fragments hd dir).imp nameBytes_lt
    · rw [Spec.withMerge, hhals]
      exact upserts_placeHals _ _
    · rw [Spec.withMerge, hhals]
      exact nodup_placeHals _
  · intro e hentries hworking
    have he := hd.of_perm hentries hworking
    exact mergeOverlays_congr hd he (sameHals_of_perm hd hentries hworking) _ _
  · intro files e hfiles hremoves
    obtain ⟨he, hsame⟩ := sameHals_of_removes hd hremoves hfiles
    exact mergeOverlays_congr hd he hsame _ _

/-- A directory with an overlay for a HAL that is there, one for a new HAL and a broken one. -/
def overlaidDirectory : Disk :=
  let wifi := "\x7b\"name\": \"wifi\", \"firmwares\": [\"fw\"]\x7d"
  let audio := "\x7b\"name\": \"audio\"\x7d"
  { entries := [(["d", "ol.hal.wifi.json"], .file wifi.toUTF8), (["d"], .directory),
      (["d", "ol.hal.broken.json"], .file "\x7b".toUTF8),
      (["d", "ol.hal.audio.json"], .file audio.toUTF8)] }

/-- The first and the last are fragments, and removing the broken one makes no difference. -/
theorem mergeOverlays_upserts_overlaidDirectory :
    let s : Spec := { hals := [{ name := "wifi" }, { name := "gps" }] }
    overlaidDirectory.WellFormed ∧
      (∃ fragments, MergesOverlays s ⟨"/d"⟩ overlaidDirectory fragments ∧
        ("ol.hal.wifi.json", { name := "wifi", firmwares := ["fw"] }) ∈ fragments ∧
        ("ol.hal.audio.json", { name := "audio" }) ∈ fragments) ∧
      ∃ e, overlaidDirectory.remove ⟨"/d/ol.hal.broken.json"⟩ = .ok e ∧
        (mergeOverlays s.hals ⟨"/d"⟩ e).hals =
          (mergeOverlays s.hals ⟨"/d"⟩ overlaidDirectory).hals := by
  intro s
  have hd : overlaidDirectory.WellFormed := ⟨by decide +kernel, by decide +kernel, nofun⟩
  obtain ⟨⟨fragments, hmerges⟩, -, hremoves⟩ := mergeOverlays_upserts hd s ⟨"/d"⟩
  refine ⟨hd, ⟨fragments, hmerges, ?_, ?_⟩, ?_⟩
  · exact (hmerges.isFragment _ _).mpr <| (isFragment_iff hd).mpr
      ⟨by decide +kernel, by decide +kernel, by decide +kernel,
        Json.toOption_eq_some_iff.mp (by decide +kernel)⟩
  · exact (hmerges.isFragment _ _).mpr <| (isFragment_iff hd).mpr
      ⟨by decide +kernel, by decide +kernel, by decide +kernel,
        Json.toOption_eq_some_iff.mp (by decide +kernel)⟩
  · have hbroken : ∀ h, loadHal ⟨"/d/ol.hal.broken.json"⟩ overlaidDirectory ≠ .ok h := by
      have hnone : (loadHal ⟨"/d/ol.hal.broken.json"⟩ overlaidDirectory).toOption = none := by
        decide +kernel
      intro h hload
      rw [Json.toOption_eq_some_iff.mpr hload] at hnone
      cases hnone
    have hfile : overlaidDirectory.isFile ⟨"/d/ol.hal.broken.json"⟩ = true := by decide +kernel
    obtain ⟨content, hfind⟩ := Disk.find_of_isFile hfile
    have hremove := Disk.remove_of_find hfind
    refine ⟨_, hremove, (hremoves [⟨"/d/ol.hal.broken.json"⟩] _ ?_ ?_).1⟩
    · simpa using hbroken
    · simp [hremove]

/-! ## Once more -/

/-- Merging the overlays of a directory puts the HALs of those it applies in place. Merging once
more applies the same overlays and leaves the description as it was. -/
theorem mergeOverlays_again (s : Spec) (dir : Path) (d : Disk) :
    let first := mergeOverlays s.hals dir d
    let merged := s.withMerge first
    let second := mergeOverlays merged.hals dir d
    (second.applied = first.applied ∧ merged.withMerge second = merged) ∧
      ∃ fragments, first.applied.map (loadHal · d) = fragments.map Except.ok ∧
        Upserts s.hals fragments merged.hals := by
  intro first merged second
  -- both merges put the HALs of the same files in place
  have hmerge : ∀ hals,
      Upserts hals ((held d (findOverlays dir d)).map Prod.snd) (mergeOverlays hals dir d).hals ∧
        (mergeOverlays hals dir d).applied = (held d (findOverlays dir d)).map Prod.fst := by
    intro hals
    obtain ⟨hhals, happlied⟩ := foldl_apply d (findOverlays dir d) ⟨hals, [], []⟩
    rw [mergeOverlays, hhals]
    exact ⟨upserts_placeHals _ _, happlied⟩
  obtain ⟨hfirst, happlied⟩ := hmerge s.hals
  obtain ⟨hsecond, happlied'⟩ := hmerge merged.hals
  refine ⟨⟨happlied'.trans happlied.symm, ?_⟩, _, ?_, hfirst⟩
  · have hsame : second.hals = merged.hals := hfirst.again hsecond
    show { merged with hals := second.hals } = merged
    rw [hsame]
  · rw [happlied, List.map_map, List.map_map]
    exact List.map_congr_left fun f hf => (mem_held.mp hf).2

end DeviceSpec
