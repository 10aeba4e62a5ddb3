import DeviceSpec.Ledger
import DeviceSpec.Proofs.Json.Changed

/-!
# What descriptions, HALs and ledgers say

The formats of all records, from the innermost outwards: one entry per field of a table, the parts
of which are independent and make up the record.

* **flags** — a flag that may be spelled as a text (`flagFormat`);
* **records** — one format per record, up to that of a whole description (`Spec.layout`).
-/

namespace DeviceSpec

open Json

/-! ## Flags that may be texts, and paths -/

section
variable {depth : Nat} {cs rest after : List Char} {v : Value}

theorem other_of_bind {α : Type} {m : Except Error α} {tail : α → List Char} {l : Loose}
    (h : (m >>= fun x => .ok (Loose.other, tail x)) = .ok (l, rest)) : l = .other := by
  obtain ⟨x, -, hx⟩ := ok_of_bind h
  cases hx
  rfl

/-- What is remembered of a value is its flag or its text. -/
theorem cases_of_loose {l : Loose} (h : loose depth cs = .ok (l, rest)) :
    l = .other ∨ (∃ b, l = .flag b ∧ Spells (.flag b) cs rest) ∨
      ∃ body s, l = .text s ∧ spelled? body = some s ∧ Spells (.text body) cs rest := by
  cases depth with
  | zero => cases h
  | succ depth =>
    unfold loose at h
    split at h <;> rename_i hcs
    · cases h
    · exact .inl (other_of_bind h)
    · obtain ⟨next, hword, hnext⟩ := ok_of_bind h
      cases hnext
      obtain rfl := eq_of_word hword
      exact .inr (.inl ⟨true, rfl, .on (gap_of_skipGap hcs)⟩)
    · obtain ⟨next, hword, hnext⟩ := ok_of_bind h
      cases hnext
      obtain rfl := eq_of_word hword
      exact .inr (.inl ⟨false, rfl, .off (gap_of_skipGap hcs)⟩)
    · obtain ⟨⟨s, next⟩, hstring, hnext⟩ := ok_of_bind h
      cases hnext
      obtain ⟨body, hbody, rfl⟩ := body_of_string hstring
      exact .inr (.inr ⟨body, s, rfl, ((string_body hbody rest).mp hstring).1,
        .text (gap_of_skipGap hcs) hbody⟩)
    · split at h
      · cases h
      · exact .inl (other_of_bind h)
    · split at h
      · cases h
      · exact .inl (other_of_bind h)
    · exact .inl (other_of_bind h)
    · split at h
      · exact .inl (other_of_bind h)
      · cases h

theorem loose_flag {b : Bool} (h : Spells (.flag b) cs rest) :
    loose (depth + 1) cs = .ok (.flag b, rest) := by
  cases h with
  | on h =>
    rw [loose, h.skipGap_eq rfl]
    rfl
  | off h =>
    rw [loose, h.skipGap_eq rfl]
    rfl

theorem loose_text {body : List Char} {s : String} (hs : spelled? body = some s)
    (h : Spells (.text body) cs rest) : loose (depth + 1) cs = .ok (.text s, rest) := by
  cases h with
  | text h hbody =>
    rw [loose, h.skipGap_eq rfl]
    show (string (body ++ '"' :: rest) >>= _) = _
    rw [(string_body hbody rest).mpr ⟨hs, rfl⟩, ok_bind]

/-- A flag that may be spelled as a text. -/
def flagFormat : Format flagOrText where
  Says v b := v = .flag b ∨
    ∃ body s, v = .text body ∧ spelled? body = some s ∧ spelledFlag (.text s) = .ok b
  height := 1
  blank? := some (.flag false, false)
  reads := by
    intro depth v cs rest after b hdepth h
    obtain ⟨depth, rfl⟩ := Nat.exists_eq_add_one.mpr hdepth
    show (loose (depth + 1) cs >>= _) = _ ↔ _
    constructor
    · intro hread
      obtain ⟨⟨l, tail⟩, hloose, hread⟩ := ok_of_bind hread
      obtain ⟨b', hflag, hread⟩ := ok_of_bind hread
      cases hread
      rcases cases_of_loose hloose with rfl | ⟨b', rfl, hb⟩ | ⟨body, s, rfl, hs, htext⟩
      · cases hflag
      · cases hflag
        obtain ⟨rfl, rfl⟩ := h.eq_of_flag hb
        exact ⟨.inl rfl, rfl⟩
      · obtain ⟨rfl, rfl⟩ := h.eq_of_text htext
        exact ⟨.inr ⟨body, s, rfl, hs, hflag⟩, rfl⟩
    · rintro ⟨rfl | ⟨body, s, rfl, hs, hflag⟩, rfl⟩
      · rw [loose_flag h]
        rfl
      · rw [loose_text hs h, ok_bind]
        show (spelledFlag (.text s) >>= _) = _
        rw [hflag, ok_bind]
  covers := by
    intro depth cs rest b h
    obtain ⟨⟨l, tail⟩, hloose, hread⟩ := ok_of_bind h
    obtain ⟨b', hflag, hread⟩ := ok_of_bind hread
    cases hread
    rcases cases_of_loose hloose with rfl | ⟨b', -, hb⟩ | ⟨body, s, -, -, htext⟩
    · cases hflag
    · exact ⟨_, hb⟩
    · exact ⟨_, htext⟩
  blank_says := by
    rintro v b ⟨⟩
    exact .inl rfl

/-- A path. -/
def pathFormat : Format pathCodec where
  Says v p := (Format.textNamed "path string").Says v p.text
  height := 0
  blank? := none
  reads := by
    intro depth v cs rest after p hdepth h
    show ((textNamed "path string").read depth cs >>= _) = _ ↔ _
    have htext : ∀ {s}, (textNamed "path string").read depth cs = .ok (s, after) ↔ _ :=
      (Format.textNamed "path string").reads hdepth h
    constructor
    · intro hread
      obtain ⟨⟨s, tail⟩, hs, hp⟩ := ok_of_bind hread
      cases hp
      exact htext.mp hs
    · intro hsaid
      rw [htext.mpr hsaid, ok_bind]
  covers := by
    intro depth cs rest p h
    obtain ⟨⟨s, tail⟩, hs, hp⟩ := ok_of_bind h
    cases hp
    exact (Format.textNamed "path string").covers hs
  blank_says := nofun

end

/-- A list of texts. -/
def textsFormat : Format (listOf text) := .listOf .text

/-! ## The board -/

def Partition.layout : Format Partition.record.codec :=
  .record (.of .text <| .of .text <| .of .text .done) {}

def PartitionTable.layout : Format PartitionTable.record.codec :=
  .record (.of .text <| .of .text <| .of Partition.layout.listOf .done) {}

def Cpu.layout : Format Cpu.record.codec :=
  .record (.of .text <| .of .text <| .of .text .done) {}

def Arch.layout : Format Arch.record.codec :=
  .record (.of .text <| .of .text <| .of Cpu.layout .done) {}

def Target.layout : Format Target.record.codec :=
  .record (.of Arch.layout.listOf <| .of .flag <| .of .flag <| .of .text <| .of .text .done) {}

def Bootloader.layout : Format Bootloader.record.codec :=
  .record (.of .flag <| .of .text .done) {}

def SeLinux.layout : Format SeLinux.record.codec :=
  .record (.of .text <| .of .text .done) {}

def UsbGadget.layout : Format UsbGadget.record.codec :=
  .record (.of .text <| .of .text <| .of .text <| .of .text .done) {}

def Board.layout : Format Board.record.codec :=
  .record (.of PartitionTable.layout <| .of Target.layout <| .of Bootloader.layout.nullable <|
    .of SeLinux.layout.nullable <| .of textsFormat <| .of UsbGadget.layout.nullable .done) {}

/-! ## Init scripts -/

def InitAction.layout : Format InitAction.record.codec :=
  .record (.of .text <| .of textsFormat .done) {}

def InitService.layout : Format InitService.record.codec :=
  .record (.of .text <| .of .text <| .of .text <| .of textsFormat .done) {}

def InitScript.layout : Format InitScript.record.codec :=
  .record (.of flagFormat <| .of .text <| .of .text <| .of textsFormat <|
    .of InitAction.layout.listOf <| .of InitService.layout.listOf .done) {}

/-! ## The boot image -/

def LoadAddress.layout : Format LoadAddress.record.codec :=
  .record (.of .text <| .of .text <| .of .text .done) {}

def ImageArgs.layout : Format ImageArgs.record.codec :=
  .record (.of LoadAddress.layout.nullable .done) {}

def Kernel.layout : Format Kernel.record.codec :=
  .record (.of .text <| .of .text <| .of .text <| .of .text .done) {}

def Mount.layout : Format Mount.record.codec :=
  .record (.of .text <| .of .text <| .of .text <| .of .text <| .of .text .done) {}

def Fstab.layout : Format Fstab.record.codec :=
  .record (.of .text <| .of Mount.layout.listOf .done) {}

def UeventRule.layout : Format UeventRule.record.codec :=
  .record (.of .text <| .of .text <| .of .text <| .of .text <| .ofOld .text .done) {}

def UeventScript.layout : Format UeventScript.record.codec :=
  .record (.of .text <| .of .text <| .of UeventRule.layout.listOf .done) {}

def Ramdisk.layout : Format Ramdisk.record.codec :=
  .record (.of Fstab.layout <| .of InitScript.layout.listOf <| .of UeventScript.layout .done) {}

def BootImage.layout : Format BootImage.record.codec :=
  .record (.of ImageArgs.layout.nullable <| .of Kernel.layout <| .of Ramdisk.layout .done) {}

/-! ## HALs -/

def CopyPackage.layout : Format CopyPackage.record.codec :=
  .record (.of .text <| .of .text <| .of .text .done) {}

def Packages.layout : Format Packages.record.codec :=
  .record (.of textsFormat <| .of CopyPackage.layout.listOf .done) {}

def RuntimeConfig.layout : Format RuntimeConfig.record.codec :=
  .record (.of .text <| .of .text .done) {}

def Transport.layout : Format Transport.record.codec :=
  .record (.of .text <| .of .text .done) {}

def Implementation.layout : Format Implementation.record.codec := .record (.of .text .done) {}

def Interface.layout : Format Interface.record.codec :=
  .record (.of .text <| .of .text .done) {}

def ManifestEntry.layout : Format ManifestEntry.record.codec :=
  .record (.of .text <| .of .text <| .of Transport.layout <| .of Implementation.layout.nullable <|
    .of .text <| .of Interface.layout .done) {}

def Policy.layout : Format Policy.record.codec :=
  .record (.of textsFormat <| .of textsFormat <| .of textsFormat <| .of textsFormat .done) {}

def Hal.layout : Format Hal.record.codec :=
  .record (.of .text <| .of ManifestEntry.layout.listOf <| .of textsFormat <| .of textsFormat <|
    .of Packages.layout.nullable <| .of textsFormat <| .of textsFormat <| .of textsFormat <|
    .of InitScript.layout.listOf <| .of RuntimeConfig.layout.listOf <| .of textsFormat <|
    .of UeventRule.layout.listOf <| .of Policy.layout.nullable .done) {}

/-! ## Descriptions -/

def Version.layout : Format Version.record.codec :=
  .record (.of .text <| .of .text .done) {}

def Product.layout : Format Product.record.codec :=
  .record (.of .text <| .of .text <| .of .text <| .of .text <| .ofOld .text <|
    .of textsFormat .done) {}

def Framework.layout : Format Framework.record.codec :=
  .record (.of textsFormat <| .of textsFormat .done) {}

def RawLines.layout : Format RawLines.record.codec := .record (.of textsFormat .done) {}

def Spec.layout : Format Spec.record.codec :=
  .record (.of Version.layout <| .of Product.layout <| .of Board.layout <| .of BootImage.layout <|
    .of Framework.layout.nullable <| .of Hal.layout.listOf <| .of RawLines.layout.nullable .done) {}

/-! ## Ledgers -/

def Ledger.layout : Format Ledger.record.codec :=
  .record (.of pathFormat <| .of pathFormat.listOf .done) {}

theorem Spec.height_layout : Spec.layout.height ≤ depthLimit := by decide

theorem Hal.height_layout : Hal.layout.height ≤ depthLimit := by decide

theorem Ledger.height_layout : Ledger.layout.height ≤ depthLimit := by decide

end DeviceSpec
