import DeviceSpec.Profile

/-!
# Templates forget their device

Pointing a template at a device sets what depends on the vendor and the device, and nothing else. A
description that was made for one device is therefore as good a template as the one it was made
from.

* **values** — what is set, and to what (`Spec.PointsAt`);
* **frame** — what two descriptions have in common that differ at most there (`Spec.SameTemplate`);
  the scripts are compared up to the first embedded one, which keeps its place when it is renamed
  (`eq_renameEmbedded_iff`);
* **the whole** — the description for a device is the only one that points at the device and has the
  rest in common with its template (`eq_retarget_iff`), so a device it was made for before leaves no
  trace (`retarget_forgets`).
-/

namespace DeviceSpec

attribute [ext] Product Board Kernel Ramdisk BootImage Spec

/-! ## Scripts -/

/-- Lists of scripts that differ at most in the name of the first embedded one. -/
inductive SameScripts : List InitScript → List InitScript → Prop
  | nil : SameScripts [] []
  | other {i : InitScript} {a b : List InitScript} :
    i.isEmbedded = false → SameScripts a b → SameScripts (i :: a) (i :: b)
  | embedded {i j : InitScript} {rest : List InitScript} :
    i.isEmbedded = true → j.isEmbedded = true → i = { j with name := i.name } →
      SameScripts (i :: rest) (j :: rest)

section
variable {a b c : List InitScript} {i : InitScript} {name : String}

theorem SameScripts.trans (h : SameScripts a b) (h' : SameScripts b c) : SameScripts a c := by
  induction h generalizing c with
  | nil => exact h'
  | other hi _ ih =>
    cases h' with
    | other _ h' => exact .other hi (ih h')
    | embedded hj _ _ => exact absurd (hi.symm.trans hj) (by decide)
  | embedded hi hj hsame =>
    cases h' with
    | other hj' _ => exact absurd (hj'.symm.trans hj) (by decide)
    | embedded _ hk hsame' => exact .embedded hi hk (by rw [hsame, hsame'])

/-- A script stays embedded under another name. -/
theorem InitScript.isEmbedded_rename (h : i.isEmbedded = true) (hname : name ≠ "") :
    { i with name := name }.isEmbedded = true := by
  simp only [InitScript.isEmbedded, Bool.and_eq_true] at h ⊢
  exact ⟨h.1, by simpa using hname⟩

/-- Renaming gives the only list that is the same otherwise and whose first embedded script has the
name. -/
theorem eq_renameEmbedded_iff (hname : name ≠ "") :
    a = renameEmbedded name b ↔
      SameScripts a b ∧ ∀ i, a.find? InitScript.isEmbedded = some i → i.name = name := by
  constructor
  · rintro rfl
    induction b with
    | nil => exact ⟨.nil, nofun⟩
    | cons j rest ih =>
      unfold renameEmbedded
      cases hj : j.isEmbedded with
      | false =>
        rw [if_neg (by decide), List.find?_cons_of_neg (by simp [hj])]
        exact ⟨.other hj ih.1, ih.2⟩
      | true =>
        have hrenamed := InitScript.isEmbedded_rename hj hname
        rw [if_pos rfl, List.find?_cons_of_pos hrenamed]
        refine ⟨.embedded hrenamed hj rfl, fun i hi => ?_⟩
        rw [← Option.some.inj hi]
  · rintro ⟨hsame, hfirst⟩
    induction hsame with
    | nil => rfl
    | other hi _ ih =>
      rw [List.find?_cons_of_neg (by simp [hi])] at hfirst
      rw [renameEmbedded, hi, if_neg (by decide), ← ih hfirst]
    | embedded hi hj hsame =>
      have hnamed := hfirst _ (List.find?_cons_of_pos hi)
      rw [renameEmbedded, if_pos hj, ← hnamed, ← hsame]

end

/-! ## Descriptions -/

/-- The description is that of a device. If a script is embedded, the first one carries the name of
the device. -/
structure Spec.PointsAt (s : Spec) (vendor device : String) : Prop where
  name : s.product.name = device
  codename : s.product.device = device
  brand : s.product.brand = device
  model : s.product.model = device
  manufacturer : s.product.manufacturer = vendor
  image : s.bootImage.kernel.image = "device/" ++ vendor ++ "/" ++ device ++ "-kernel/Image"
  deviceTree : s.bootImage.kernel.deviceTree =
    "device/" ++ vendor ++ "/" ++ device ++ "-kernel/" ++ device ++ ".dtb"
  policyDir : s.board.selinux.map SeLinux.policyDir =
    some ("device/" ++ vendor ++ "/" ++ device ++ "/sepolicy")
  script : ∀ i, s.bootImage.ramdisk.initScripts.find? InitScript.isEmbedded = some i →
    i.name = "init." ++ device ++ ".rc"

/-- The descriptions agree in all that does not depend on vendor and device. -/
structure Spec.SameTemplate (s t : Spec) : Prop where
  version : s.version = t.version
  inherits : s.product.inherits = t.product.inherits
  partitionTable : s.board.partitionTable = t.board.partitionTable
  target : s.board.target = t.board.target
  bootloader : s.board.bootloader = t.board.bootloader
  /-- A board without access control settings counts as one with an empty mode. -/
  mode : (s.board.selinux.map SeLinux.mode).getD "" = (t.board.selinux.map SeLinux.mode).getD ""
  features : s.board.features = t.board.features
  usbGadget : s.board.usbGadget = t.board.usbGadget
  args : s.bootImage.args = t.bootImage.args
  cmdline : s.bootImage.kernel.cmdline = t.bootImage.kernel.cmdline
  compressed : s.bootImage.kernel.compressed = t.bootImage.kernel.compressed
  fstab : s.bootImage.ramdisk.fstab = t.bootImage.ramdisk.fstab
  initScripts : SameScripts s.bootImage.ramdisk.initScripts t.bootImage.ramdisk.initScripts
  ueventScript : s.bootImage.ramdisk.ueventScript = t.bootImage.ramdisk.ueventScript
  framework : s.framework = t.framework
  hals : s.hals = t.hals
  rawLines : s.rawLines = t.rawLines

theorem Spec.SameTemplate.trans {s t u : Spec} (h : s.SameTemplate t) (h' : t.SameTemplate u) :
    s.SameTemplate u where
  version := h.version.trans h'.version
  inherits := h.inherits.trans h'.inherits
  partitionTable := h.partitionTable.trans h'.partitionTable
  target := h.target.trans h'.target
  bootloader := h.bootloader.trans h'.bootloader
  mode := h.mode.trans h'.mode
  features := h.features.trans h'.features
  usbGadget := h.usbGadget.trans h'.usbGadget
  args := h.args.trans h'.args
  cmdline := h.cmdline.trans h'.cmdline
  compressed := h.compressed.trans h'.compressed
  fstab := h.fstab.trans h'.fstab
  initScripts := h.initScripts.trans h'.initScripts
  ueventScript := h.ueventScript.trans h'.ueventScript
  framework := h.framework.trans h'.framework
  hals := h.hals.trans h'.hals
  rawLines := h.rawLines.trans h'.rawLines

section
variable {s t : Spec} {vendor device : String}

theorem scriptName_ne_empty (device : String) : "init." ++ device ++ ".rc" ≠ "" := by
  simp [String.append_eq_empty_iff]

/-- Access control settings with a policy directory are known with their mode. -/
theorem eq_of_map_policyDir {o : Option SeLinux} {dir mode : String}
    (hdir : o.map SeLinux.policyDir = some dir) (hmode : (o.map SeLinux.mode).getD "" = mode) :
    o = some ⟨mode, dir⟩ := by
  obtain ⟨x, rfl, rfl⟩ := Option.map_eq_some_iff.mp hdir
  rw [← hmode]
  rfl

/-- The description for a device is the only one that points at it and has the rest in common with
the template. -/
theorem eq_retarget_iff :
    t = s.retarget vendor device ↔ t.PointsAt vendor device ∧ t.SameTemplate s := by
  have hscripts := eq_renameEmbedded_iff (a := t.bootImage.ramdisk.initScripts)
    (b := s.bootImage.ramdisk.initScripts) (scriptName_ne_empty device)
  constructor
  · rintro rfl
    obtain ⟨hsame, hfirst⟩ := hscripts.mp rfl
    exact ⟨⟨rfl, rfl, rfl, rfl, rfl, rfl, rfl, rfl, hfirst⟩,
      ⟨rfl, rfl, rfl, rfl, rfl, rfl, rfl, rfl, rfl, rfl, rfl, rfl, hsame, rfl, rfl, rfl, rfl⟩⟩
  · rintro ⟨hpoints, hsame⟩
    have hproduct : t.product = (s.retarget vendor device).product :=
      Product.ext hpoints.name hpoints.codename hpoints.brand hpoints.model hpoints.manufacturer
        hsame.inherits
    have hboard : t.board = (s.retarget vendor device).board :=
      Board.ext hsame.partitionTable hsame.target hsame.bootloader
        (eq_of_map_policyDir hpoints.policyDir hsame.mode) hsame.features hsame.usbGadget
    have hkernel : t.bootImage.kernel = (s.retarget vendor device).bootImage.kernel :=
      Kernel.ext hsame.cmdline hpoints.image hsame.compressed hpoints.deviceTree
    have hramdisk : t.bootImage.ramdisk = (s.retarget vendor device).bootImage.ramdisk :=
      Ramdisk.ext hsame.fstab (hscripts.mpr ⟨hsame.initScripts, hpoints.script⟩) hsame.ueventScript
    exact Spec.ext hsame.version hproduct hboard (BootImage.ext hsame.args hkernel hramdisk)
      hsame.framework hsame.hals hsame.rawLines

end

/-- Pointing a template at a device forgets the device that it was pointed at before: it is the same
as pointing the template of that one at the new device. What is set are the parts that name vendor
and device; all the rest is that of the template, and no other description is like that. -/
theorem retarget_forgets (s : Spec) (vendor device vendor' device' : String) :
    (s.retarget vendor device).retarget vendor' device' = s.retarget vendor' device' ∧
    (s.retarget vendor device).PointsAt vendor device ∧
    (s.retarget vendor device).SameTemplate s ∧
    ∀ t : Spec, t.PointsAt vendor device → t.SameTemplate s → t = s.retarget vendor device := by
  obtain ⟨hpoints, hsame⟩ := eq_retarget_iff.mp (Eq.refl (s.retarget vendor device))
  refine ⟨?_, hpoints, hsame, fun t ht hts => eq_retarget_iff.mpr ⟨ht, hts⟩⟩
  obtain ⟨hpoints', hsame'⟩ :=
    eq_retarget_iff.mp (Eq.refl ((s.retarget vendor device).retarget vendor' device'))
  exact eq_retarget_iff.mpr ⟨hpoints', hsame'.trans hsame⟩

end DeviceSpec
