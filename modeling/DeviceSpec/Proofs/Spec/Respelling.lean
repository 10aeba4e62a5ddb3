import DeviceSpec.Proofs.Json.Compact
import DeviceSpec.Proofs.Spec.Format
import Mathlib.Data.List.Perm.Basic
import Mathlib.Logic.Relation

/-!
# Spellings that make no difference

The members of an object may come in another order, among others that are not known and under an
older key; a flag may be written out; an object may be a list of its fields. No reader can tell.

* **spellings** — one exchange of spellings at the place where it is made (`Respelled`), which
  leaves what the tree stands for (`Respelled.means`);
* **documents** — any number of exchanges, anywhere in the document of a description, a HAL or a
  ledger, leave what is decoded (`respelled_documents`).
-/

namespace DeviceSpec.Json

/-! ## What an object says however it is spelled -/

section
variable {σ : Type} {start w : σ}

/-- A tree for a field that is missing. -/
def Slot.blankTree (s : Slot σ) : Value := (s.format.blank?.map Prod.fst).getD .null

/-- The element that stands for the members of an object in a list: the value of the field's
member, or a blank. -/
def Slot.element (s : Slot σ) (members : List (List Char × Value)) : Value :=
  (s.values members).headD s.blankTree

theorem Slot.accepts_perm {s : Slot σ} {vs vs' : List Value} (h : vs.Perm vs') :
    s.Accepts start w vs → s.Accepts start w vs' := by
  match vs with
  | [] =>
    rw [h.nil_eq]
    exact id
  | [v] =>
    rw [List.singleton_perm.mp h]
    exact id
  | _ :: _ :: _ => exact False.elim

/-- The list of its fields says what the object does. -/
theorem itemsSay_elements {slots : List (Slot σ)} {members : List (List Char × Value)}
    (hblank : ∀ s ∈ slots, s.field.isRequired = false →
      ∃ v, s.format.blank? = some (v, s.part.get start))
    (h : ∀ s ∈ slots, s.Accepts start w (s.values members)) :
    ItemsSay start w slots (slots.map fun s => s.element members) := by
  induction slots with
  | nil => rfl
  | cons s slots ih =>
    rw [List.forall_mem_cons] at hblank h
    refine ⟨?_, ih hblank.2 h.2⟩
    show s.format.Says (s.element members) (s.part.get w)
    have hsay := h.1
    unfold Slot.element
    generalize s.values members = vs at hsay
    match vs with
    | [] =>
      obtain ⟨hreq, hget⟩ := hsay
      obtain ⟨v, hv⟩ := hblank.1 hreq
      rw [List.headD_nil, Slot.blankTree, hv, hget]
      exact s.format.blank_says hv
    | [v] => exact hsay
    | _ :: _ :: _ => exact hsay.elim

variable {r : Record σ} {T : Table r.fields} {before after : List (List Char × Value)}
  {key : List Char} {v : Value}

theorem membersSay_perm {members members' : List (List Char × Value)}
    (h : members.Perm members') (hsay : T.MembersSay start members w) :
    T.MembersSay start members' w :=
  ⟨fun m hm => hsay.1 m (h.mem_iff.mpr hm), fun s hs =>
    Slot.accepts_perm ((h.filter _).map _) (hsay.2 s hs)⟩

/-- A member that is none of the record's says nothing. -/
theorem membersSay_unknown {k : String} (hkey : spelled? key = some k)
    (hunknown : ∀ f ∈ r.fields, f.isKey k = false) (h : T.MembersSay start (before ++ after) w) :
    T.MembersSay start (before ++ (key, v) :: after) w := by
  obtain ⟨hspell, hall⟩ := h
  refine ⟨?_, fun s hs => ?_⟩
  · simp only [List.forall_mem_append, List.forall_mem_cons, hkey, Option.isSome_some,
      true_and] at hspell ⊢
    exact hspell
  · have hfield : s.field ∈ r.fields := T.fields_eq ▸ List.mem_map_of_mem hs
    have hnames : s.names key = false := by simp [Slot.names, hkey, hunknown _ hfield]
    have haccepts := hall s hs
    rw [Slot.values_append] at haccepts ⊢
    rw [Slot.values_cons_of_not_names hnames]
    exact haccepts

end

end DeviceSpec.Json

namespace DeviceSpec

open Json

/-! ## Exchanges -/

/-- One spelling is exchanged for another; the value stays. -/
inductive Respelled : ∀ ⦃β : Type⦄ ⦃c : Codec β⦄, Format c → Value → Value → (β → β) → Prop
  /-- The members come in another order. -/
  | permuted {σ : Type} {r : Record σ} {T : Table r.fields} {hT : T.Orderly r.start}
      {members members' : List (List Char × Value)} (h : members.Perm members') :
      Respelled (.record T hT) (.object members) (.object members') id
  /-- There is one more member, whose key is none of the record's. -/
  | inserted {σ : Type} {r : Record σ} {T : Table r.fields} {hT : T.Orderly r.start}
      {key : List Char} {k : String} {v : Value} {before after : List (List Char × Value)}
      (hkey : spelled? key = some k) (hunknown : ∀ f ∈ r.fields, f.isKey k = false) :
      Respelled (.record T hT) (.object (before ++ after))
        (.object (before ++ (key, v) :: after)) id
  /-- A member has another key of its field. -/
  | renamed {σ : Type} {r : Record σ} {T : Table r.fields} {hT : T.Orderly r.start} {s : Slot σ}
      {key key' : List Char} {v : Value} {before after : List (List Char × Value)}
      (hs : s ∈ T.slots) (hkey : s.names key = true) (hkey' : s.names key' = true) :
      Respelled (.record T hT) (.object (before ++ (key, v) :: after))
        (.object (before ++ (key', v) :: after)) id
  /-- A flag is written out, with blanks around it. Nothing but blanks stands for an unset flag. -/
  | writtenOut {b : Bool} {body : List Char} {s : String} (hbody : spelled? body = some s)
      (hs : Text.trim s = if b then "true" else "false") :
      Respelled flagFormat (.flag b) (.text body) id
  | leftBlank {body : List Char} {s : String} (hbody : spelled? body = some s)
      (hs : Text.trim s = "") : Respelled flagFormat (.flag false) (.text body) id
  /-- The object becomes the list of its fields. -/
  | listed {σ : Type} {r : Record σ} {T : Table r.fields} {hT : T.Orderly r.start}
      {members : List (List Char × Value)} :
      Respelled (.record T hT) (.object members)
        (.list (T.slots.map fun s => s.element members)) id

/-- One exchange somewhere in the tree. -/
def Respells {α : Type} {c : Codec α} (F : Format c) (v v' : Value) : Prop :=
  ∃ g, Changed Respelled F v v' g

theorem Respelled.means {β : Type} {c : Codec β} {F : Format c} {v v' : Value} {g : β → β} {x : β}
    (h : Respelled F v v' g) (hsaid : F.Says v x) : F.Says v' (g x) := by
  cases h with
  | permuted h =>
    rcases hsaid with ⟨_, ⟨⟩, hsay⟩ | ⟨_, ⟨⟩, -⟩
    exact .inl ⟨_, rfl, membersSay_perm h hsay⟩
  | inserted hkey hunknown =>
    rcases hsaid with ⟨_, ⟨⟩, hsay⟩ | ⟨_, ⟨⟩, -⟩
    exact .inl ⟨_, rfl, membersSay_unknown hkey hunknown hsay⟩
  | @renamed _ r T hT s key key' v before after hs hkey hkey' =>
    rcases hsaid with ⟨_, ⟨⟩, hsay⟩ | ⟨_, ⟨⟩, -⟩
    refine .inl ⟨_, rfl, ?_⟩
    rw [membersSay_member_iff hT hs hkey] at hsay
    exact (membersSay_member_iff hT hs hkey').mpr hsay
  | @writtenOut b _ _ hbody hs =>
    rcases hsaid with ⟨⟨⟩⟩ | ⟨_, _, ⟨⟩, -⟩
    refine .inr ⟨_, _, rfl, hbody, ?_⟩
    cases b <;> simp [spelledFlag, hs]
  | leftBlank hbody hs =>
    rcases hsaid with ⟨⟨⟩⟩ | ⟨_, _, ⟨⟩, -⟩
    refine .inr ⟨_, _, rfl, hbody, ?_⟩
    simp [spelledFlag, hs]
  | @listed _ r T hT members =>
    rcases hsaid with ⟨_, ⟨⟩, -, hall⟩ | ⟨_, ⟨⟩, -⟩
    exact .inr ⟨_, rfl, itemsSay_elements hT.blanks hall⟩

theorem Respelled.eq_id {β : Type} {c : Codec β} {F : Format c} {v v' : Value} {g : β → β}
    (h : Respelled F v v' g) : g = id := by
  cases h <;> rfl

/-! ## Documents -/

section
variable {α : Type} {c : Codec α} {F : Format c} {document document' : String} {v v' : Value}
  {x : α}

theorem Respells.means (h : Respells F v v') (hsaid : F.Says v x) : F.Says v' x := by
  obtain ⟨g, hg⟩ := h
  have hid : g = id := hg.eq_id Respelled.eq_id
  have hchanged := hg.means Respelled.means hsaid
  rw [hid] at hchanged
  exact hchanged

/-- Exchanges of spellings leave what is decoded. -/
theorem decode_respelled (hheight : F.height ≤ depthLimit) (hdecode : c.decode document = .ok x)
    (hv : v.Document document) (h : Relation.ReflTransGen (Respells F) v v')
    (hv' : v'.Document document') : c.decode document' = .ok x := by
  have hsaid := (F.decode_iff hheight hv).mp hdecode
  refine (F.decode_iff hheight hv').mpr ?_
  clear hv'
  induction h with
  | refl => exact hsaid
  | tail _ h ih => exact h.means ih

end

/-- A document that is decoded has a tree, and any document whose tree comes from it by exchanges
of spellings is decoded to the same. -/
theorem respelled_documents :
    (∀ document s, Spec.decode document = .ok s → (∃ v : Value, v.Document document) ∧
      ∀ (v v' : Value) document', v.Document document →
        Relation.ReflTransGen (Respells Spec.layout) v v' → v'.Document document' →
        Spec.decode document' = .ok s) ∧
    (∀ document h, Hal.decode document = .ok h → (∃ v : Value, v.Document document) ∧
      ∀ (v v' : Value) document', v.Document document →
        Relation.ReflTransGen (Respells Hal.layout) v v' → v'.Document document' →
        Hal.decode document' = .ok h) ∧
    (∀ document l, Ledger.decode document = .ok l → (∃ v : Value, v.Document document) ∧
      ∀ (v v' : Value) document', v.Document document →
        Relation.ReflTransGen (Respells Ledger.layout) v v' → v'.Document document' →
        Ledger.decode document' = .ok l) :=
  ⟨fun _ _ hdecode => ⟨Spec.layout.exists_document hdecode, fun _ _ _ hv h hv' =>
      decode_respelled Spec.height_layout hdecode hv h hv'⟩,
    fun _ _ hdecode => ⟨Hal.layout.exists_document hdecode, fun _ _ _ hv h hv' =>
      decode_respelled Hal.height_layout hdecode hv h hv'⟩,
    fun _ _ hdecode => ⟨Ledger.layout.exists_document hdecode, fun _ _ _ hv h hv' =>
      decode_respelled Ledger.height_layout hdecode hv h hv'⟩⟩

/-- The scripts of a HAL: one that belongs to the vendor image or not. -/
def scriptTree (isService : Value) : Value :=
  let key := ['s', 'e', 'r', 'v', 'i', 'c', 'e', 'R', 'c']
  .list ([] ++ .object ([] ++ (key, isService) :: []) :: [])

/-- A HAL with such a script. -/
def plainTree : Value :=
  .object ([(['n', 'a', 'm', 'e'], .text ['w'])] ++
    (['i', 'n', 'i', 't', '.', 'r', 'c'], scriptTree (.flag true)) :: [])

/-- The same with the flag written out. -/
def writtenOutTree : Value :=
  .object ([(['n', 'a', 'm', 'e'], .text ['w'])] ++
    (['i', 'n', 'i', 't', '.', 'r', 'c'], scriptTree (.text [' ', 't', 'r', 'u', 'e'])) :: [])

/-- The same with the members in the other order. -/
def swappedTree : Value :=
  .object [(['i', 'n', 'i', 't', '.', 'r', 'c'], scriptTree (.text [' ', 't', 'r', 'u', 'e'])),
    (['n', 'a', 'm', 'e'], .text ['w'])]

theorem respells_swappedTree :
    Relation.ReflTransGen (Respells Hal.layout) plainTree swappedTree := by
  have hflag : Respells Hal.layout plainTree writtenOutTree :=
    ⟨_, .member (@List.mem_of_getElem? _ _ 8 _ rfl) rfl <| .item <|
      .member (@List.mem_of_getElem? _ _ 0 _ rfl) rfl <| .here <|
      .writtenOut (s := " true") rfl (by decide)⟩
  have hswap : Respells Hal.layout writtenOutTree swappedTree :=
    ⟨_, .here (.permuted (.swap ..))⟩
  exact (Relation.ReflTransGen.single hflag).tail hswap

/-- What the HAL says. -/
def scriptHal : Hal := { name := "w", initScripts := [{ isService := true }] }

/-- The HAL is read alike in both spellings. -/
theorem respelled_documents_swappedTree :
    Hal.decode (String.ofList plainTree.compact) = .ok scriptHal ∧
      Hal.decode (String.ofList swappedTree.compact) = .ok scriptHal := by
  have hdecode : Hal.decode (String.ofList plainTree.compact) = .ok scriptHal :=
    Json.toOption_eq_some_iff.mp (by decide +kernel)
  exact ⟨hdecode, (respelled_documents.2.1 _ _ hdecode).2 plainTree swappedTree _
    (document_compact (by decide)) respells_swappedTree (document_compact (by decide))⟩

/-- A description as short as it can be, with a USB gadget whose maker stands under the key. -/
def gadgetDocument (key : String) : String :=
  "[[\"\",\"\"],[\"\",\"\",\"\",\"\",\"\"],[[\"\",\"\",[]],[[],false,false,\"\"],null,null,[],"
    ++ "\x7b\"serialnumber\":\"\",\"" ++ key ++ "\":\"\",\"product\":\"\","
    ++ "\"controller\":\"\"\x7d],[null,[\"\",\"\"],[[\"\",[]],[],[]]],null,[]]"

/-- What it says. -/
def gadgetSpec : Spec := { board := { usbGadget := some {} } }

/-- The older key is not one of every record that has the newer one, and not every key of a
document is a text. -/
theorem respelling_refused :
    (Spec.decode (gadgetDocument "manufacturer") = .ok gadgetSpec ∧
      Spec.decode (gadgetDocument "manufacture") ≠ .ok gadgetSpec) ∧
    (Hal.decode "\x7b\"name\":\"w\"\x7d" = .ok { name := "w" } ∧
      Hal.decode "\x7b\"\\ud800\":null,\"name\":\"w\"\x7d" ≠ .ok { name := "w" }) :=
  ⟨⟨Json.toOption_eq_some_iff.mp (by decide +kernel),
      mt Json.toOption_eq_some_iff.mpr (by decide +kernel)⟩,
    Json.toOption_eq_some_iff.mp (by decide +kernel),
    mt Json.toOption_eq_some_iff.mpr (by decide +kernel)⟩

end DeviceSpec
