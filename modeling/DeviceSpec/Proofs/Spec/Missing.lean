import DeviceSpec.Document
import DeviceSpec.Proofs.Json.Compact
import DeviceSpec.Proofs.Spec.Format

/-!
# Members that are taken away

A description is read from a document. When one member is taken out of an object in it, the field
is given its blank, if it has one, and otherwise the document is refused.

* **members** — a member that is taken away at its place (`Dropped`, `Lacking`), and what the
  object says without it;
* **documents** — the description with that field blank, or an error (`member_removed`).
-/

namespace DeviceSpec

open Json

/-- A member is taken out of an object. Its field may be missing, and is then `d`. -/
inductive Dropped : ∀ ⦃β : Type⦄ ⦃c : Codec β⦄, Format c → Value → Value → (β → β) → Prop
  | intro {σ : Type} {r : Record σ} {T : Table r.fields} {hT : T.Orderly r.start} {s : Slot σ}
      {key : List Char} {v blank : Value} {d : s.Content} {before after : List (List Char × Value)}
      (hs : s ∈ T.slots) (hkey : s.names key = true) (hreq : s.field.isRequired = false)
      (hblank : s.format.blank? = some (blank, d)) :
      Dropped (.record T hT) (.object (before ++ (key, v) :: after)) (.object (before ++ after))
        (s.part.set d)

/-- A member is taken out of an object that may not be without it. -/
inductive Lacking : ∀ ⦃β : Type⦄ ⦃c : Codec β⦄, Format c → Value → Value → (β → β) → Prop
  | intro {σ : Type} {r : Record σ} {T : Table r.fields} {hT : T.Orderly r.start} {s : Slot σ}
      {key : List Char} {v : Value} {before after : List (List Char × Value)}
      (hs : s ∈ T.slots) (hkey : s.names key = true) (hreq : s.field.isRequired = true) :
      Lacking (.record T hT) (.object (before ++ (key, v) :: after)) (.object (before ++ after)) id

section
variable {α : Type} {c : Codec α} {F : Format c} {v v' : Value} {g : α → α} {x y : α}

/-- Without the member, the object says that the field is blank. -/
theorem Dropped.means (h : Dropped F v v' g) (hsaid : F.Says v x) : F.Says v' (g x) := by
  cases h with
  | @intro r T hT s key v blank d before after hs hkey hreq hblank =>
    rcases hsaid with ⟨_, ⟨⟩, hsay⟩ | ⟨_, ⟨⟩, -⟩
    rw [membersSay_member_iff hT hs hkey] at hsay
    obtain ⟨hspell, hbefore, hafter, -, hall⟩ := hsay
    refine .inl ⟨_, rfl, hspell, fun t ht => ?_⟩
    rcases hT.eq_or_other ht hs with rfl | hts
    · obtain ⟨_, hstart⟩ := hT.blanks t ht hreq
      rw [hblank] at hstart
      cases hstart
      rw [Slot.values_append, hbefore, hafter]
      exact ⟨hreq, hT.get_set t ht _ x⟩
    · exact (Slot.accepts_congr (hts.stays _ x)).mpr (hall t ht hts)

/-- Without the member, the object says nothing. -/
theorem Lacking.not_means (h : Lacking F v v' g) (hsaid : F.Says v x) : ¬ F.Says v' y := by
  cases h with
  | @intro r T hT s key v before after hs hkey hreq =>
    rcases hsaid with ⟨_, ⟨⟩, hsay⟩ | ⟨_, ⟨⟩, -⟩
    obtain ⟨-, hbefore, hafter, -⟩ := (membersSay_member_iff hT hs hkey).mp hsay
    rintro (⟨_, ⟨⟩, -, hall⟩ | ⟨_, ⟨⟩, -⟩)
    have haccepts := hall s hs
    rw [Slot.values_append, hbefore, hafter] at haccepts
    rw [haccepts.1] at hreq
    cases hreq

end

theorem readSpec_eq_ok_iff {document : String} {s : Spec} :
    readSpec document = .ok s ↔ Spec.decode document = .ok s := by
  unfold readSpec
  cases Spec.decode document with
  | error e => exact ⟨nofun, nofun⟩
  | ok t => simp

/-- Every document that is read has a tree. Without a member of an object in it, the description
is read with that field at its blank if it may be missing, and else the document is refused. -/
theorem member_removed :
    (∀ document s, readSpec document = .ok s → ∃ v : Value, v.Document document) ∧
    ∀ document s (v v' : Value) document', readSpec document = .ok s → v.Document document →
      v'.Document document' →
      (∀ g, Changed Dropped Spec.layout v v' g → readSpec document' = .ok (g s)) ∧
      (∀ g, Changed Lacking Spec.layout v v' g →
        ∃ e, readSpec document' = .error (.parse ⟨"<memory>"⟩ e)) := by
  refine ⟨fun document s hread => Spec.layout.exists_document (readSpec_eq_ok_iff.mp hread), ?_⟩
  intro document s v v' document' hread hv hv'
  have hsaid := (Spec.layout.decode_iff Spec.height_layout hv).mp (readSpec_eq_ok_iff.mp hread)
  refine ⟨fun g h => ?_, fun g h => ?_⟩
  · exact readSpec_eq_ok_iff.mpr ((Spec.layout.decode_iff Spec.height_layout hv').mpr
      (h.means Dropped.means hsaid))
  · unfold readSpec
    cases hdecode : Spec.decode document' with
    | error e => exact ⟨e, rfl⟩
    | ok t =>
      exact absurd ((Spec.layout.decode_iff Spec.height_layout hv').mp hdecode)
        (h.not_means Lacking.not_means hsaid)

/-- The product, the board and the boot image of a description that says as little as it can. -/
def sampleParts : List Value :=
  let blank : Value := .text []
  [.list [blank, blank, blank, blank, blank],
    .list [.list [blank, blank, .list []], .list [.list [], .flag false, .flag false, blank]],
    .list [.null, .list [blank, blank], .list [.list [blank, .list []], .list [], .list []]]]

/-- The description with its versions and its framework settings in objects. -/
def sampleTree (versions settings : List (List Char × Value)) : Value :=
  .list ((.object versions :: sampleParts) ++ .object settings :: [.list []])

/-- The member for the version of the schema. -/
def schemaMember : List Char × Value := (['s', 'c', 'h', 'e', 'm', 'a'], .text [])

/-- The member for the version of the system. -/
def androidMember : List Char × Value := (['a', 'n', 'd', 'r', 'o', 'i', 'd'], .text ['O'])

/-- The member for the properties of the framework. -/
def propertiesMember : List Char × Value :=
  (['p', 'r', 'o', 'p', 'e', 'r', 't', 'i', 'e', 's'], .list [.text ['p']])

/-- The text of a sample. -/
def sampleDocument (versions settings : List (List Char × Value)) : String :=
  String.ofList (sampleTree versions settings).compact

/-- What it says. -/
def sampleSpec (properties : List String) : Spec where
  version := { android := "O" }
  framework := some { properties := properties }

theorem dropped_properties (versions : List (List Char × Value)) :
    ∃ g, Changed Dropped Spec.layout (sampleTree versions ([] ++ propertiesMember :: []))
        (sampleTree versions ([] ++ [])) g ∧ g (sampleSpec ["p"]) = sampleSpec [] :=
  ⟨_, .element rfl <| .option
    (.here <| .intro (@List.mem_of_getElem? _ _ 1 _ rfl) rfl rfl rfl) nofun nofun, rfl⟩

theorem lacking_android (settings : List (List Char × Value)) :
    ∃ g, Changed Lacking Spec.layout (sampleTree ([schemaMember] ++ androidMember :: []) settings)
      (sampleTree ([schemaMember] ++ []) settings) g := by
  have hfirst : ∀ versions, sampleTree versions settings =
      .list ([] ++ .object versions :: (sampleParts ++ [.object settings, .list []])) :=
    fun _ => rfl
  have hlacking : Lacking Version.layout (.object ([schemaMember] ++ androidMember :: []))
      (.object ([schemaMember] ++ [])) id :=
    .intro (@List.mem_of_getElem? _ _ 1 _ rfl) rfl rfl
  rw [hfirst, hfirst]
  exact ⟨_, .element rfl (.here hlacking)⟩

/-- Without its properties the description is read with none, and without the version of the system
it is refused. -/
theorem member_removed_sample :
    readSpec (sampleDocument [schemaMember, androidMember] [propertiesMember]) =
        .ok (sampleSpec ["p"]) ∧
      readSpec (sampleDocument [schemaMember, androidMember] []) = .ok (sampleSpec []) ∧
      ∃ e, readSpec (sampleDocument [schemaMember] [propertiesMember]) =
        .error (.parse ⟨"<memory>"⟩ e) := by
  have hread : readSpec (sampleDocument [schemaMember, androidMember] [propertiesMember]) =
      .ok (sampleSpec ["p"]) :=
    readSpec_eq_ok_iff.mpr (Json.toOption_eq_some_iff.mp (by decide +kernel))
  obtain ⟨f, hdropped, hf⟩ := dropped_properties [schemaMember, androidMember]
  obtain ⟨g, hlacking⟩ := lacking_android [propertiesMember]
  refine ⟨hread, ?_, ?_⟩
  · rw [← hf]
    exact (member_removed.2 _ _ _ _ _ hread (document_compact (by decide))
      (document_compact (by decide))).1 f hdropped
  · exact (member_removed.2 _ _ _ _ _ hread (document_compact (by decide))
      (document_compact (by decide))).2 g hlacking

end DeviceSpec
