import DeviceSpec.Proofs.Ledger.Keep

/-!
# Documents come back as they were

Every part of a description is a record whose table restores it, one step per field; so is a
ledger. What is encoded is therefore decoded to the value it was made from, and a document in
another spelling is brought to the one that encoding writes.

* **parts** — the codec of every record is lawful, from the innermost outwards (`lawful_codec` of
  each type), as long as the containers inside it may still be opened;
* **documents** — descriptions, HALs and ledgers come back, and what was decoded from any document
  is encoded to one that decodes and encodes to the same (`documents_round_trip`).
-/

namespace DeviceSpec

open Json

section
variable {n : Nat}

theorem lawful_texts : (listOf text).Lawful (n + 1) := lawful_listOf lawful_text

/-! ## The board -/

theorem Partition.lawful_codec : Partition.record.codec.Lawful (n + 1) :=
  lawful_record (by decide) fun _ =>
    .required lawful_text <| .required lawful_text <| .required lawful_text .done

theorem PartitionTable.lawful_codec : PartitionTable.record.codec.Lawful (n + 3) :=
  lawful_record (by decide) fun _ =>
    .text rfl <| .required lawful_text <| .required (lawful_listOf Partition.lawful_codec) .done

theorem Cpu.lawful_codec : Cpu.record.codec.Lawful (n + 1) :=
  lawful_record (by decide) fun _ =>
    .required lawful_text <| .required lawful_text <| .text rfl .done

theorem Arch.lawful_codec : Arch.record.codec.Lawful (n + 2) :=
  lawful_record (by decide) fun _ =>
    .required lawful_text <| .required lawful_text <| .required Cpu.lawful_codec .done

theorem Target.lawful_codec : Target.record.codec.Lawful (n + 4) :=
  lawful_record (by decide) fun _ =>
    .required (lawful_listOf Arch.lawful_codec) <| .required lawful_flag <|
    .required lawful_flag <| .required lawful_text <| .text rfl .done

theorem Bootloader.lawful_codec : Bootloader.record.codec.Lawful (n + 1) :=
  lawful_record (by decide) fun _ => .flag lawful_flag rfl <| .text rfl .done

theorem SeLinux.lawful_codec : SeLinux.record.codec.Lawful (n + 1) :=
  lawful_record (by decide) fun _ => .required lawful_text <| .required lawful_text .done

theorem UsbGadget.lawful_codec : UsbGadget.record.codec.Lawful (n + 1) :=
  lawful_record (by decide) fun _ =>
    .required lawful_text <| .required lawful_text <| .required lawful_text <|
    .required lawful_text .done

theorem Board.lawful_codec : Board.record.codec.Lawful (n + 5) :=
  lawful_record (by decide) fun _ =>
    .required PartitionTable.lawful_codec <| .required Target.lawful_codec <|
    .option Bootloader.lawful_codec rfl <| .option SeLinux.lawful_codec rfl <|
    .list lawful_text rfl <| .option UsbGadget.lawful_codec rfl .done

/-! ## Init scripts -/

/-- A flag is written as a flag, never in the older spelling. -/
theorem lawful_flagOrText : flagOrText.Lawful (n + 1) := by
  refine ⟨fun b depth indent gap rest hdepth hgap => ?_, (lawful_flag (n := n)).opens⟩
  obtain ⟨depth, rfl⟩ := Nat.exists_eq_add_one.mpr (Nat.lt_of_lt_of_le n.succ_pos hdepth)
  have hread : loose (depth + 1) (gap ++ (flagOrText.write indent b ++ rest)) =
      .ok (.flag b, rest) := by
    rw [loose, skipGap_append hgap]
    cases b <;> rfl
  show (loose (depth + 1) _ >>= _) = _
  rw [hread]
  rfl

theorem InitAction.lawful_codec : InitAction.record.codec.Lawful (n + 2) :=
  lawful_record (by decide) fun _ => .required lawful_text <| .required lawful_texts .done

theorem InitService.lawful_codec : InitService.record.codec.Lawful (n + 2) :=
  lawful_record (by decide) fun _ =>
    .required lawful_text <| .required lawful_text <| .text rfl <| .list lawful_text rfl .done

theorem InitScript.lawful_codec : InitScript.record.codec.Lawful (n + 4) :=
  lawful_record (by decide) fun _ =>
    .flag lawful_flagOrText rfl <| .text rfl <| .text rfl <| .list lawful_text rfl <|
    .list InitAction.lawful_codec rfl <| .list InitService.lawful_codec rfl .done

/-! ## The boot image -/

theorem LoadAddress.lawful_codec : LoadAddress.record.codec.Lawful (n + 1) :=
  lawful_record (by decide) fun _ => .text rfl <| .text rfl <| .text rfl .done

theorem ImageArgs.lawful_codec : ImageArgs.record.codec.Lawful (n + 2) :=
  lawful_record (by decide) fun _ => .option LoadAddress.lawful_codec rfl .done

theorem Kernel.lawful_codec : Kernel.record.codec.Lawful (n + 1) :=
  lawful_record (by decide) fun _ =>
    .required lawful_text <| .required lawful_text <| .text rfl <| .text rfl .done

theorem Mount.lawful_codec : Mount.record.codec.Lawful (n + 1) :=
  lawful_record (by decide) fun _ =>
    .required lawful_text <| .required lawful_text <| .required lawful_text <|
    .required lawful_text <| .required lawful_text .done

theorem Fstab.lawful_codec : Fstab.record.codec.Lawful (n + 3) :=
  lawful_record (by decide) fun _ => .text rfl <| .required (lawful_listOf Mount.lawful_codec) .done

theorem UeventRule.lawful_codec : UeventRule.record.codec.Lawful (n + 1) :=
  lawful_record (by decide) fun _ =>
    .required lawful_text <| .text rfl <| .required lawful_text <| .required lawful_text <|
    .orKey <| .required lawful_text .done

/-- The rules of a script are written even when there are none. -/
theorem UeventScript.lawful_codec : UeventScript.record.codec.Lawful (n + 3) :=
  lawful_record (by decide) fun _ =>
    .text rfl <| .text rfl <| .of (lawful_listOf UeventRule.lawful_codec) nofun .done

theorem Ramdisk.lawful_codec : Ramdisk.record.codec.Lawful (n + 6) :=
  lawful_record (by decide) fun _ =>
    .required Fstab.lawful_codec <| .required (lawful_listOf InitScript.lawful_codec) <|
    .required UeventScript.lawful_codec .done

theorem BootImage.lawful_codec : BootImage.record.codec.Lawful (n + 7) :=
  lawful_record (by decide) fun _ =>
    .option ImageArgs.lawful_codec rfl <| .required Kernel.lawful_codec <|
    .required Ramdisk.lawful_codec .done

/-! ## HALs -/

theorem CopyPackage.lawful_codec : CopyPackage.record.codec.Lawful (n + 1) :=
  lawful_record (by decide) fun _ => .required lawful_text <| .text rfl <| .text rfl .done

theorem Packages.lawful_codec : Packages.record.codec.Lawful (n + 3) :=
  lawful_record (by decide) fun _ =>
    .list lawful_text rfl <| .list CopyPackage.lawful_codec rfl .done

theorem RuntimeConfig.lawful_codec : RuntimeConfig.record.codec.Lawful (n + 1) :=
  lawful_record (by decide) fun _ => .required lawful_text <| .text rfl .done

theorem Transport.lawful_codec : Transport.record.codec.Lawful (n + 1) :=
  lawful_record (by decide) fun _ => .text rfl <| .required lawful_text .done

theorem Implementation.lawful_codec : Implementation.record.codec.Lawful (n + 1) :=
  lawful_record (by decide) fun _ => .required lawful_text .done

theorem Interface.lawful_codec : Interface.record.codec.Lawful (n + 1) :=
  lawful_record (by decide) fun _ => .required lawful_text <| .required lawful_text .done

theorem ManifestEntry.lawful_codec : ManifestEntry.record.codec.Lawful (n + 2) :=
  lawful_record (by decide) fun _ =>
    .required lawful_text <| .required lawful_text <| .required Transport.lawful_codec <|
    .option Implementation.lawful_codec rfl <| .required lawful_text <|
    .required Interface.lawful_codec .done

theorem Policy.lawful_codec : Policy.record.codec.Lawful (n + 2) :=
  lawful_record (by decide) fun _ =>
    .list lawful_text rfl <| .list lawful_text rfl <| .list lawful_text rfl <|
    .list lawful_text rfl .done

theorem Hal.lawful_codec : Hal.record.codec.Lawful (n + 6) :=
  lawful_record (by decide) fun _ =>
    .required lawful_text <| .list ManifestEntry.lawful_codec rfl <| .list lawful_text rfl <|
    .list lawful_text rfl <| .option Packages.lawful_codec rfl <| .list lawful_text rfl <|
    .list lawful_text rfl <| .list lawful_text rfl <| .list InitScript.lawful_codec rfl <|
    .list RuntimeConfig.lawful_codec rfl <| .list lawful_text rfl <|
    .list UeventRule.lawful_codec rfl <| .option Policy.lawful_codec rfl .done

/-! ## Descriptions -/

theorem Version.lawful_codec : Version.record.codec.Lawful (n + 1) :=
  lawful_record (by decide) fun _ => .required lawful_text <| .required lawful_text .done

theorem Product.lawful_codec : Product.record.codec.Lawful (n + 2) :=
  lawful_record (by decide) fun _ =>
    .required lawful_text <| .required lawful_text <| .required lawful_text <|
    .required lawful_text <| .orKey <| .required lawful_text <| .list lawful_text rfl .done

theorem Framework.lawful_codec : Framework.record.codec.Lawful (n + 2) :=
  lawful_record (by decide) fun _ => .list lawful_text rfl <| .list lawful_text rfl .done

theorem RawLines.lawful_codec : RawLines.record.codec.Lawful (n + 2) :=
  lawful_record (by decide) fun _ => .required lawful_texts .done

theorem Spec.lawful_codec : Spec.record.codec.Lawful (n + 8) :=
  lawful_record (by decide) fun _ =>
    .required Version.lawful_codec <| .required Product.lawful_codec <|
    .required Board.lawful_codec <| .required BootImage.lawful_codec <|
    .option Framework.lawful_codec rfl <| .required (lawful_listOf Hal.lawful_codec) <|
    .option RawLines.lawful_codec rfl .done

end

/-! ## Documents -/

/-- A description is read back from its document. -/
theorem Spec.decode_encode (s : Spec) : Spec.decode s.encode = .ok s :=
  Json.decode_encode ((Spec.lawful_codec (n := 0)).readsBack s) (by decide)

/-- Every description, HAL and ledger is decoded from what is encoded for it. So what is decoded
from any document, in whatever spelling, is encoded to one that decodes to the same and that is
written the same again. -/
theorem documents_round_trip :
    (∀ s : Spec, Spec.decode s.encode = .ok s) ∧
    (∀ h : Hal, Hal.decode (Hal.record.codec.encode h) = .ok h) ∧
    (∀ l : Ledger, Ledger.decode l.encode = .ok l) ∧
    (∀ document s, Spec.decode document = .ok s →
      Spec.decode s.encode = Spec.decode document ∧
        (Spec.decode s.encode).map Spec.encode = .ok s.encode) ∧
    (∀ document h, Hal.decode document = .ok h →
      Hal.decode (Hal.record.codec.encode h) = Hal.decode document ∧
        (Hal.decode (Hal.record.codec.encode h)).map Hal.record.codec.encode =
          .ok (Hal.record.codec.encode h)) ∧
    (∀ document l, Ledger.decode document = .ok l →
      Ledger.decode l.encode = Ledger.decode document ∧
        (Ledger.decode l.encode).map Ledger.encode = .ok l.encode) := by
  have hspec : ∀ s : Spec, Spec.decode s.encode = .ok s := fun s =>
    decode_encode ((Spec.lawful_codec (n := 0)).readsBack s) (by decide)
  have hhal : ∀ h : Hal, Hal.decode (Hal.record.codec.encode h) = .ok h := fun h =>
    decode_encode ((Hal.lawful_codec (n := 0)).readsBack h) (by decide)
  refine ⟨hspec, hhal, Ledger.decode_encode, ?_, ?_, ?_⟩
  · intro document s hdecode
    rw [hspec, hdecode]
    exact ⟨rfl, rfl⟩
  · intro document h hdecode
    rw [hhal, hdecode]
    exact ⟨rfl, rfl⟩
  · intro document l hdecode
    rw [Ledger.decode_encode, hdecode]
    exact ⟨rfl, rfl⟩

/-- A HAL in an older spelling, with an escaped letter and a member that is not known. -/
def olderDocument : String :=
  "\x7b\"init.rc\": [\x7b\"serviceRc\": \" true \"\x7d],"
    ++ " \"unknown\": null, \"name\": \"\\u0077ifi\"\x7d"

/-- What it says. -/
def olderHal : Hal := { name := "wifi", initScripts := [{ isService := true }] }

theorem decode_olderDocument : Hal.decode olderDocument = .ok olderHal :=
  Json.toOption_eq_some_iff.mp (by decide +kernel)

/-- The older spelling is read, and is gone from what is written. -/
theorem documents_round_trip_olderHal :
    Hal.decode olderDocument = .ok olderHal ∧
      Hal.decode (Hal.record.codec.encode olderHal) = Hal.decode olderDocument ∧
      (Hal.decode (Hal.record.codec.encode olderHal)).map Hal.record.codec.encode =
        .ok (Hal.record.codec.encode olderHal) :=
  have hhal := documents_round_trip.2.2.2.2.1
  ⟨decode_olderDocument, hhal olderDocument olderHal decode_olderDocument⟩

end DeviceSpec
