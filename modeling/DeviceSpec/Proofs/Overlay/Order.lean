import DeviceSpec.Proofs.Path.Steps

/-!
# The order of the files of a directory

Paths are ordered by their components and names by their code points. For the files of one
directory that is the order of the bytes of their names.

* **bytes** — encoding keeps the order of names (`nameBytes_lt`), as a character that takes more
  bytes has a larger first byte and the others compare six bits at a time;
* **paths** — names in one directory are ordered like themselves (`upTo_join`).
-/

namespace DeviceSpec

/-! ## Bytes -/

/-- The bytes of a name. -/
def nameBytes (name : String) : List UInt8 := name.toUTF8.data.toList

/-- The first bytes come before the second, whatever follows them. -/
def BytesBefore (a b : List UInt8) : Prop := ∀ x y : List UInt8, a ++ x < b ++ y

/-- The byte that carries the last six bits of a number. -/
def tailByte (n : Nat) : UInt8 := UInt8.ofNat (n % 64 + 128)

theorem bytesBefore_of_head {m n : Nat} (hlt : m < n) (hn : n < 256) (a b : List UInt8) :
    BytesBefore (UInt8.ofNat m :: a) (UInt8.ofNat n :: b) := by
  intro x y
  refine List.cons_lt_cons_iff.mpr (.inl ?_)
  rw [UInt8.lt_iff_toNat_lt, UInt8.toNat_ofNat', UInt8.toNat_ofNat']
  omega

/-- Numbers compare by the bits before the last six, and by these when the others are equal. -/
theorem bytesBefore_concat {m n : Nat} {a b : List UInt8} (hlt : m < n)
    (hfront : m / 64 < n / 64 → BytesBefore a b) (hsame : m / 64 = n / 64 → a = b) :
    BytesBefore (a ++ [tailByte m]) (b ++ [tailByte n]) := by
  intro x y
  rw [List.append_assoc, List.append_assoc]
  rcases Nat.lt_or_ge (m / 64) (n / 64) with hdiv | hdiv
  · exact hfront hdiv _ _
  · have hequal : m / 64 = n / 64 := Nat.le_antisymm (Nat.div_le_div_right (Nat.le_of_lt hlt)) hdiv
    rw [hsame hequal]
    exact List.append_left_lt (bytesBefore_of_head (by omega) (by omega) [] [] x y)

theorem bytesBefore_encode {c d : Char} (h : c < d) :
    BytesBefore (String.utf8EncodeChar c) (String.utf8EncodeChar d) := by
  have hlt : c.val.toNat < d.val.toNat := h
  have hbound : d.val.toNat < 0x110000 := by
    have hvalid := d.valid
    simp only [UInt32.isValidChar, Nat.isValidChar] at hvalid
    show d.val.toNat < _
    omega
  unfold String.utf8EncodeChar
  generalize c.val.toNat = m at *
  generalize d.val.toNat = n at *
  have htwice : ∀ k, k / 4096 = k / 64 / 64 := fun k => by omega
  have hthrice : ∀ k, k / 262144 = k / 64 / 64 / 64 := fun k => by omega
  simp only [htwice, hthrice]
  -- a character that takes more bytes has the larger first byte
  repeat' split
  all_goals first | omega | exact bytesBefore_of_head (by omega) (by omega) _ _ | skip
  · exact bytesBefore_concat hlt (fun h => bytesBefore_of_head (by omega) (by omega) [] [])
      (fun h => by rw [h])
  · exact bytesBefore_concat hlt
      (fun h => bytesBefore_concat h (fun h => bytesBefore_of_head (by omega) (by omega) [] [])
        (fun h => by rw [h]))
      (fun h => by rw [h])
  · exact bytesBefore_concat hlt
      (fun h => bytesBefore_concat h
        (fun h => bytesBefore_concat h (fun h => bytesBefore_of_head (by omega) (by omega) [] [])
          (fun h => by rw [h]))
        (fun h => by rw [h]))
      (fun h => by rw [h])

theorem flatMap_encode_lt {a b : List Char} (h : a < b) :
    a.flatMap String.utf8EncodeChar < b.flatMap String.utf8EncodeChar := by
  -- the first characters that differ decide, and so do their bytes
  induction a generalizing b with
  | nil =>
    cases b with
    | nil => cases h
    | cons d ds =>
      obtain ⟨byte, bytes, hd⟩ := List.exists_cons_of_ne_nil (String.utf8EncodeChar_ne_nil (c := d))
      rw [List.flatMap_nil, List.flatMap_cons, hd]
      exact List.nil_lt_cons _ _
  | cons c cs ih =>
    cases b with
    | nil => cases h
    | cons d ds =>
      rw [List.flatMap_cons, List.flatMap_cons]
      rcases List.cons_lt_cons_iff.mp h with hlt | ⟨rfl, hrest⟩
      · exact bytesBefore_encode hlt _ _
      · exact List.append_left_lt (ih hrest)

/-- The order of names by their code points is that by their bytes. -/
theorem nameBytes_lt {a b : String} (h : a < b) : nameBytes a < nameBytes b := by
  have hbytes : ∀ s : String, nameBytes s = s.toList.flatMap String.utf8EncodeChar := by
    intro s
    rw [nameBytes, String.toUTF8_eq_toByteArray, ← String.utf8Encode_toList, List.utf8Encode,
      List.toList_data_toByteArray]
  rw [hbytes, hbytes]
  exact flatMap_encode_lt (String.lt_iff.mp h)

/-! ## Paths -/

namespace Path

theorem componentBefore_self (c : Component) : componentBefore c c = false := by
  cases c <;> simp [componentBefore]

theorem componentsUpTo_append (front a b : List Component) :
    componentsUpTo (front ++ a) (front ++ b) = componentsUpTo a b := by
  induction front with
  | nil => rfl
  | cons c rest ih => simp [componentsUpTo, componentBefore_self, ih]

/-- A text without slashes that is a name of its own. -/
structure IsName (name : String) : Prop where
  noSlash : '/' ∉ name.toList
  notIdle : isIdle name = false
  notUp : name ≠ ".."

theorem IsName.segments {name : String} (h : IsName name) : segments ⟨name⟩ = [name] := by
  simp [Path.segments, segmentsOf_of_no_slash h.noSlash]

theorem IsName.steps {name : String} (h : IsName name) : steps ⟨name⟩ = [name] := by
  simp [Path.steps, h.segments, h.notIdle]

theorem IsName.isAbsolute {name : String} (h : IsName name) : isAbsolute ⟨name⟩ = false := by
  cases hslash : Path.isAbsolute ⟨name⟩ with
  | false => rfl
  | true =>
    obtain ⟨rest, hrest⟩ := eq_of_isAbsolute hslash
    have hname : name = "" ++ "/" ++ rest := congrArg Path.text hrest
    exact absurd (by simp [hname]) h.noSlash

/-- What leads a path to a name in a directory is the same for all names. -/
theorem exists_head_join (dir : Path) :
    ∃ head, ∀ name, IsName name → (dir.join name).split.1 = head := by
  obtain ⟨front, hjoin, -⟩ := exists_segments_join dir
  have hsegments : ∀ name, IsName name → (dir.join name).segments = front ++ [name] := by
    intro name h
    rw [hjoin name h.isAbsolute, h.segments]
  unfold split
  cases front with
  | nil =>
    -- the name is the first segment, and is neither empty nor a dot
    refine ⟨none, fun name h => ?_⟩
    have hidle := h.notIdle
    rw [hsegments name h]
    split <;> simp_all [isIdle]
  | cons s more =>
    by_cases hempty : s = ""
    · subst hempty
      refine ⟨some .root, fun name h => ?_⟩
      rw [hsegments name h]
      cases more <;> rfl
    · by_cases hdot : s = "."
      · subst hdot
        refine ⟨some .here, fun name h => ?_⟩
        rw [hsegments name h]
        rfl
      · refine ⟨none, fun name h => ?_⟩
        rw [hsegments name h]
        split <;> simp_all

theorem exists_components_join (dir : Path) :
    ∃ front, ∀ name, IsName name → (dir.join name).components = front ++ [.name name] := by
  obtain ⟨head, hhead⟩ := exists_head_join dir
  refine ⟨head.toList ++ dir.steps.map component, fun name h => ?_⟩
  rw [components_eq, hhead name h, steps_join h.isAbsolute, h.steps, List.map_append,
    List.append_assoc]
  simp [component, h.notUp]

/-- Names in one directory are ordered like themselves. -/
theorem upTo_join {dir : Path} {a b : String} (ha : IsName a) (hb : IsName b) :
    upTo (dir.join a) (dir.join b) = decide (a ≤ b) := by
  obtain ⟨front, hfront⟩ := exists_components_join dir
  rw [upTo, hfront a ha, hfront b hb, componentsUpTo_append]
  have hle : a ≤ b ↔ a < b ∨ a = b := List.le_iff_lt_or_eq.trans (or_congr_right String.toList_inj)
  simp [componentsUpTo, componentBefore, hle]

end Path

end DeviceSpec
