import DeviceSpec.Proofs.Path.Steps
import DeviceSpec.Proofs.Render.Sources
import DeviceSpec.Proofs.Text.Blank

/-!
# Joined paths of a makefile

Where a file is copied from and where to is put together by joining paths two at a time. In which
order makes no difference, and neither do slashes where the paths meet.

* **seams** — joining drops the slashes where two paths meet and puts one between what is left
  (`withSlash`); that alone is associative (`withSlash_assoc`);
* **ends** — slashes at the outer end of two joined paths are those of the outer path
  (`dropEndSlashes_withSlash`, `dropSlashes_withSlash`), and which end they are dropped at first
  does not matter (`dropEndSlashes_dropSlashes`);
* **the whole** — so joining is associative and leaves one slash at each seam (`joinMake_laws`).
-/

namespace DeviceSpec

/-! ## Seams -/

/-- Two texts with a slash between them; an empty one is left out. -/
def withSlash (a b : String) : String :=
  if a.isEmpty then b else if b.isEmpty then a else a ++ "/" ++ b

theorem joinMake_eq (a b : String) :
    joinMake a b = withSlash (dropEndSlashes a) (dropSlashes b) := rfl

@[simp] theorem withSlash_empty_left (b : String) : withSlash "" b = b := rfl

@[simp] theorem withSlash_empty_right (a : String) : withSlash a "" = a := by
  unfold withSlash
  split
  · rename_i ha
    exact (String.isEmpty_iff.mp ha).symm
  · rfl

theorem withSlash_of_ne {a b : String} (ha : a ≠ "") (hb : b ≠ "") :
    withSlash a b = a ++ "/" ++ b := by
  simp [withSlash, ha, hb]

theorem withSlash_assoc (a b c : String) :
    withSlash (withSlash a b) c = withSlash a (withSlash b c) := by
  by_cases ha : a = ""
  · simp [ha]
  by_cases hb : b = ""
  · simp [hb]
  by_cases hc : c = ""
  · simp [hc]
  have hab : a ++ "/" ++ b ≠ "" := by simp [ha]
  have hbc : b ++ "/" ++ c ≠ "" := by simp [hb]
  rw [withSlash_of_ne ha hb, withSlash_of_ne hb hc, withSlash_of_ne hab hc, withSlash_of_ne ha hbc]
  simp only [String.append_assoc]

/-! ## Ends -/

section
variable {a b s : String}

@[simp] theorem dropEndSlashes_empty : dropEndSlashes "" = "" := by decide

@[simp] theorem dropSlashes_empty : dropSlashes "" = "" := by decide

/-- Nothing is left at either end if there is nothing but slashes. -/
theorem dropEndSlashes_eq_empty_iff : dropEndSlashes s = "" ↔ dropSlashes s = "" := by
  simp [dropEndSlashes, dropSlashes, ← String.toList_eq_nil_iff, Text.dropEndWhile_eq_nil_iff]

theorem dropEndSlashes_append (a b : String) : dropEndSlashes (a ++ b) =
    if dropEndSlashes b = "" then dropEndSlashes a else a ++ dropEndSlashes b := by
  have hempty : dropEndSlashes b = "" ↔ Text.dropEndWhile (· == '/') b.toList = [] :=
    String.ofList_eq_empty_iff
  simp only [hempty]
  rw [dropEndSlashes, String.toList_append, Text.dropEndWhile_append_eq]
  split
  · rfl
  · rw [String.ofList_append, String.ofList_toList, dropEndSlashes]

theorem dropSlashes_append (a b : String) : dropSlashes (a ++ b) =
    if dropSlashes a = "" then dropSlashes b else dropSlashes a ++ b := by
  have hempty : dropSlashes a = "" ↔ (a.toList.dropWhile (· == '/')).isEmpty = true :=
    String.ofList_eq_empty_iff.trans List.isEmpty_iff.symm
  simp only [hempty]
  rw [dropSlashes, String.toList_append, List.dropWhile_append]
  split
  · rfl
  · rw [String.ofList_append, String.ofList_toList, dropSlashes]

theorem dropEndSlashes_dropEndSlashes (s : String) :
    dropEndSlashes (dropEndSlashes s) = dropEndSlashes s := by
  simp only [dropEndSlashes, String.toList_ofList, Text.dropEndWhile_dropEndWhile]

theorem dropEndSlashes_dropSlashes (s : String) :
    dropEndSlashes (dropSlashes s) = dropSlashes (dropEndSlashes s) := by
  simp only [dropEndSlashes, dropSlashes, String.toList_ofList, Text.dropEndWhile_dropWhile]

/-- The slashes at the end of two texts with a slash between them are those of the second. -/
theorem dropEndSlashes_withSlash (ha : dropEndSlashes a = a) (hb : dropSlashes b = b) :
    dropEndSlashes (withSlash a b) = withSlash a (dropEndSlashes b) := by
  by_cases hempty : a = ""
  · simp [hempty]
  by_cases hnone : b = ""
  · simp [hnone, ha]
  have hkept : dropEndSlashes b ≠ "" := by rwa [Ne, dropEndSlashes_eq_empty_iff, hb]
  rw [withSlash_of_ne hempty hnone, dropEndSlashes_append, if_neg hkept,
    withSlash_of_ne hempty hkept]

/-- Those at the beginning are those of the first. -/
theorem dropSlashes_withSlash (ha : dropEndSlashes a = a) (hb : dropSlashes b = b) :
    dropSlashes (withSlash a b) = withSlash (dropSlashes a) b := by
  by_cases hempty : a = ""
  · simp [hempty, hb]
  by_cases hnone : b = ""
  · simp [hnone]
  have hkept : dropSlashes a ≠ "" := by rwa [Ne, ← dropEndSlashes_eq_empty_iff, ha]
  rw [withSlash_of_ne hempty hnone, String.append_assoc, dropSlashes_append, if_neg hkept,
    withSlash_of_ne hkept hnone, String.append_assoc]

/-- Characters that are all slashes. -/
theorem ofList_eq_slashes {cs : List Char} (h : ∀ c ∈ cs, (c == '/') = true) :
    String.ofList cs = slashes cs.length := by
  induction cs with
  | nil => rfl
  | cons c rest ih =>
    obtain ⟨hc, hrest⟩ := List.forall_mem_cons.mp h
    rw [List.length_cons, slashes, ← ih hrest, beq_iff_eq.mp hc, ← List.singleton_append,
      String.ofList_append]

/-- What is dropped at the end is slashes, and no slash is left there. -/
theorem eq_dropEndSlashes_append (s : String) :
    (∃ n, s = dropEndSlashes s ++ slashes n) ∧
      (Path.mk (dropEndSlashes s)).endsInSlash = false := by
  obtain ⟨w, hw, hs⟩ := Text.exists_dropEndWhile (· == '/') s.toList
  refine ⟨⟨w.length, ?_⟩, ?_⟩
  · rw [dropEndSlashes, ← ofList_eq_slashes hw, ← String.ofList_append, ← hs, String.ofList_toList]
  · rw [← Bool.not_eq_true]
    intro hend
    obtain ⟨front, hfront⟩ := Text.hasTail_iff.mp hend
    have hkept : dropEndSlashes (front ++ "/") = front ++ "/" := by
      rw [hfront]
      exact dropEndSlashes_dropEndSlashes s
    -- the slash at the end would have been dropped too
    rw [dropEndSlashes_append, if_pos (by decide)] at hkept
    have hchars : Text.dropEndWhile (· == '/') front.toList = front.toList ++ ['/'] := by
      simpa [dropEndSlashes] using congrArg String.toList hkept
    have hle := (Text.startsWith_dropEndWhile (· == '/') front.toList).length_le
    rw [hchars, List.length_append, List.length_singleton] at hle
    omega

/-- What is dropped at the beginning is slashes, and no slash is left there. -/
theorem eq_append_dropSlashes (s : String) :
    (∃ n, s = slashes n ++ dropSlashes s) ∧
      (Path.mk (dropSlashes s)).isAbsolute = false := by
  refine ⟨⟨(s.toList.takeWhile (· == '/')).length, ?_⟩, ?_⟩
  · have hall := List.all_eq_true.mp (List.all_takeWhile (p := (· == '/')) (l := s.toList))
    rw [dropSlashes, ← ofList_eq_slashes hall, ← String.ofList_append,
      List.takeWhile_append_dropWhile, String.ofList_toList]
  · rw [← Bool.not_eq_true]
    intro hhead
    obtain ⟨rest, hrest⟩ := Path.eq_of_isAbsolute hhead
    have htext : dropSlashes s = "/" ++ rest := congrArg Path.text hrest
    have hkept := dropSlashes_dropSlashes s
    rw [htext, dropSlashes_slash] at hkept
    have hchars : rest.toList.dropWhile (· == '/') = '/' :: rest.toList := by
      simpa [dropSlashes] using congrArg String.toList hkept
    have hle := (List.dropWhile_sublist (l := rest.toList) (· == '/')).length_le
    rw [hchars, List.length_cons] at hle
    omega

end

/-! ## The whole -/

/-- Joining is associative. Of two paths it keeps what is left without the slashes where they meet,
and puts one slash between, if there is something left of both. A file of the device directory is
found at the same path whether its name is joined to the variable or written behind it. -/
theorem joinMake_laws (a b c : String) (env : Surroundings) (name : String) :
    joinMake (joinMake a b) c = joinMake a (joinMake b c) ∧
    ((∃ n, a = dropEndSlashes a ++ slashes n) ∧
      (Path.mk (dropEndSlashes a)).endsInSlash = false) ∧
    ((∃ n, b = slashes n ++ dropSlashes b) ∧ (Path.mk (dropSlashes b)).isAbsolute = false) ∧
    (dropEndSlashes a ≠ "" → dropSlashes b ≠ "" →
      joinMake a b = dropEndSlashes a ++ "/" ++ dropSlashes b) ∧
    ∃ path, env.resolve (joinMake localPath name) = some path ∧
      env.resolve (localSource name) = some path := by
  refine ⟨?_, eq_dropEndSlashes_append a, eq_append_dropSlashes b, withSlash_of_ne,
    _, resolve_joinMake env name, resolve_localSource env name⟩
  -- the outer ends of the middle path are trimmed on both sides, in either order
  have hleft : dropEndSlashes (joinMake a b) =
      withSlash (dropEndSlashes a) (dropEndSlashes (dropSlashes b)) :=
    dropEndSlashes_withSlash (dropEndSlashes_dropEndSlashes a) (dropSlashes_dropSlashes b)
  have hright : dropSlashes (joinMake b c) =
      withSlash (dropSlashes (dropEndSlashes b)) (dropSlashes c) :=
    dropSlashes_withSlash (dropEndSlashes_dropEndSlashes b) (dropSlashes_dropSlashes c)
  calc joinMake (joinMake a b) c
      = withSlash (dropEndSlashes (joinMake a b)) (dropSlashes c) := joinMake_eq _ _
    _ = withSlash (dropEndSlashes a)
          (withSlash (dropEndSlashes (dropSlashes b)) (dropSlashes c)) := by
        rw [hleft, withSlash_assoc]
    _ = withSlash (dropEndSlashes a) (dropSlashes (joinMake b c)) := by
        rw [hright, dropEndSlashes_dropSlashes]
    _ = joinMake a (joinMake b c) := (joinMake_eq _ _).symm

/-- Slashes where the paths meet. -/
theorem joinMake_laws_slashes : dropEndSlashes "root//" ≠ "" ∧ dropSlashes "/init.rc" ≠ "" ∧
    joinMake "root//" "/init.rc" = "root" ++ "/" ++ "init.rc" := by
  have hdir : dropEndSlashes "root//" ≠ "" := by decide
  have hfile : dropSlashes "/init.rc" ≠ "" := by decide
  have hjoin := (joinMake_laws "root//" "/init.rc" "" ⟨⟨"/d"⟩, none, false⟩ "").2.2.2.1 hdir hfile
  exact ⟨hdir, hfile, hjoin.trans (by decide)⟩

end DeviceSpec
