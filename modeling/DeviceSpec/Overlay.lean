import DeviceSpec.Document

/-!
# Overlays

An overlay is a file `ol.hal.<anything>.json` in the device directory that holds one HAL. It takes
the place of the HAL of its name, or is added at the end if there is none.

* `placeHal` puts one HAL in place.
* `mergeOverlays` puts the HALs of all overlays in place, in the order of their file names. One
  that cannot be read is passed over with a warning.
-/

namespace DeviceSpec

/-- What the names of overlays begin with. -/
def overlayHead : String := "ol.hal."

/-- What the names of overlays end with. -/
def overlayTail : String := ".json"

/-- The name is that of an overlay: there is something between its head and its tail. -/
def isOverlayName (name : String) : Bool :=
  decide (overlayHead.length + overlayTail.length < name.length)
    && Text.hasHead overlayHead name && Text.hasTail overlayTail name

/-- The overlays of a directory, in order. A directory that cannot be listed has none. -/
def findOverlays (dir : Path) (d : Disk) : List Path :=
  match d.list dir with
  | .error _ => []
  | .ok names =>
    let found := (names.filter isOverlayName).map dir.join
    (found.filter d.isFile).mergeSort Path.upTo

/-- Where a HAL was put. -/
inductive Placement where
  | replaced (index : Nat)
  | appended (index : Nat)
  deriving DecidableEq

/-- Put a HAL in the place of the first of its name, or at the end. -/
def placeHal (hals : List Hal) (h : Hal) : List Hal × Placement :=
  match hals.findIdx? (fun g => g.name == h.name) with
  | some i => (hals.set i h, .replaced i)
  | none => (hals ++ [h], .appended hals.length)

/-- A line that is printed, or written as a warning. -/
inductive Notice where
  | said (line : String)
  | warned (line : String)
  deriving DecidableEq

/-- What has come of a merge. -/
structure Merge where
  hals : List Hal
  /-- The overlays that were applied, in order. -/
  applied : List Path := []
  notices : List Notice := []

/-- Apply one overlay. -/
def Merge.apply (d : Disk) (m : Merge) (path : Path) : Merge :=
  let name := path.fileName?.getD ""
  match loadHal path d with
  | .error e =>
    { m with
      notices := m.notices
        ++ [.warned ("  [WARN] Skipping overlay " ++ name ++ ": " ++ e.message)] }
  | .ok h =>
    let (hals, placement) := placeHal m.hals h
    let effect := match placement with
      | .replaced _ => "replaces"
      | .appended _ => "adds"
    { hals := hals
      applied := m.applied ++ [path]
      notices := m.notices
        ++ [.said ("Loading overlay " ++ name ++ " (" ++ effect ++ " HAL '" ++ h.name ++ "')")] }

/-- Apply the overlays of a directory. -/
def mergeOverlays (hals : List Hal) (dir : Path) (d : Disk) : Merge :=
  (findOverlays dir d).foldl (Merge.apply d) ⟨hals, [], []⟩

/-- The description with the HALs of a merge. -/
def Spec.withMerge (s : Spec) (m : Merge) : Spec := { s with hals := m.hals }

end DeviceSpec
