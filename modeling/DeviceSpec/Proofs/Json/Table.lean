import DeviceSpec.Proofs.Json.Format
import DeviceSpec.Proofs.Json.Restore
import Mathlib.Data.List.Pairwise

/-!
# What records say

A record is read from an object or from a list. Either way each field is given at most one value of
the document, and the record is the one value whose parts are what these say, the missing parts
being as they were at the start.

* **tables** — the fields of a record with the formats of their values (`Table`), of which the parts
  are independent and make up the record (`Table.Orderly`);
* **streaming** — a member is read for its field wherever it stands (`members_known_iff`), an
  element for the field whose turn it is (`elements_item_iff`), so that all of them give each field
  its value (`members_iff`, `elements_iff`);
* **records** — the format of a record (`Format.record`).
-/

namespace DeviceSpec.Json

section
variable {σ α : Type}

/-! ## Tables -/

/-- The keys a field is read under. -/
def Field.keys (f : Field σ) : List String := f.key :: f.oldKey.toList

theorem Field.isKey_iff {f : Field σ} {key : String} : f.isKey key = true ↔ key ∈ f.keys := by
  rw [Field.keys, List.mem_cons, Option.mem_toList, eq_comm (a := key)]
  simp [Field.isKey]

/-- A field of a record with its part and the format of its values. -/
structure Slot (σ : Type) where
  {Content : Type}
  {codec : Codec Content}
  /-- The format of the values. -/
  format : Format codec
  /-- Where the values go. -/
  part : Part σ Content
  /-- The field. -/
  field : Field σ
  /-- The field is read by the codec and stored in the part. -/
  reads : ∀ depth cs,
    field.read depth cs = (codec.read depth cs >>= fun x => .ok (part.set x.1, x.2))

/-- The fields of a table with their parts and formats. -/
structure Table (fs : List (Field σ)) where
  /-- The fields with what belongs to them, in order. -/
  slots : List (Slot σ)
  /-- They are the fields of the table. -/
  fields_eq : slots.map Slot.field = fs

/-- A table without fields. -/
def Table.done : Table (σ := σ) [] := ⟨[], rfl⟩

/-- One more field before the others. -/
def Table.of {key : String} {isRequired : Bool} {omits : α → Bool} {c : Codec α} {part : Part σ α}
    {fs : List (Field σ)} (F : Format c) (rest : Table fs) :
    Table (Field.of key isRequired omits c part :: fs) where
  slots := ⟨F, part, Field.of key isRequired omits c part, fun _ _ => rfl⟩ :: rest.slots
  fields_eq := congrArg _ rest.fields_eq

/-- One more field, with an older key. -/
def Table.ofOld {key old : String} {isRequired : Bool} {omits : α → Bool} {c : Codec α}
    {part : Part σ α} {fs : List (Field σ)} (F : Format c) (rest : Table fs) :
    Table ((Field.of key isRequired omits c part).orKey old :: fs) where
  slots :=
    ⟨F, part, (Field.of key isRequired omits c part).orKey old, fun _ _ => rfl⟩ :: rest.slots
  fields_eq := congrArg _ rest.fields_eq

/-- Neither part is changed with the other. -/
def Slot.Apart (s t : Slot σ) : Prop :=
  (∀ x w, s.part.get (t.part.set x w) = s.part.get w) ∧
    (∀ x w, t.part.get (s.part.set x w) = t.part.get w)

/-- The fields have keys of their own, and their parts are independent of each other and make up
the record, which has the blanks of the fields that may be missing at its start. -/
structure Table.Orderly {fs : List (Field σ)} (T : Table fs) (start : σ) : Prop where
  keys : fs.Pairwise fun f g => ∀ k ∈ f.keys, k ∉ g.keys := by decide
  apart : T.slots.Pairwise Slot.Apart := by simp [Table.of, Table.ofOld, Table.done, Slot.Apart]
  get_set : ∀ s ∈ T.slots, ∀ x w, s.part.get (s.part.set x w) = x := by
    simp [Table.of, Table.ofOld, Table.done]
  ext : ∀ v w, (∀ s ∈ T.slots, s.part.get v = s.part.get w) → v = w := by
    rintro ⟨⟩ ⟨⟩
    simp +contextual [Table.of, Table.ofOld, Table.done]
  blanks : ∀ s ∈ T.slots, s.field.isRequired = false →
      ∃ v, s.format.blank? = some (v, s.part.get start) := by
    simp [Table.of, Table.ofOld, Table.done, Field.of, Field.orKey]
      <;> repeat' first | exact ⟨_, rfl⟩ | constructor

/-- The field is another one: its part stays as it is, and it has other keys. -/
structure Slot.Other (s t : Slot σ) : Prop where
  stays : ∀ x w, s.part.get (t.part.set x w) = s.part.get w
  isKey_eq : ∀ {key}, t.field.isKey key = true → s.field.isKey key = false

theorem Slot.Other.key_ne {s t : Slot σ} (h : s.Other t) : s.field.key ≠ t.field.key := by
  intro heq
  have hkey := h.isKey_eq t.field.isKey_key
  rw [← heq, s.field.isKey_key] at hkey
  cases hkey

theorem Table.Orderly.others {fs : List (Field σ)} {T : Table fs} {start : σ}
    (h : T.Orderly start) : T.slots.Pairwise fun s t => s.Other t ∧ t.Other s := by
  have hkeys : T.slots.Pairwise fun s t => ∀ k ∈ s.field.keys, k ∉ t.field.keys := by
    have hfields := h.keys
    rw [← T.fields_eq, List.pairwise_map] at hfields
    exact hfields
  refine (h.apart.and hkeys).imp fun {s t} h =>
    ⟨⟨h.1.1, fun {k} ht => ?_⟩, ⟨h.1.2, fun {k} hs => ?_⟩⟩
  · exact Bool.eq_false_iff.mpr fun hs => h.2 k (Field.isKey_iff.mp hs) (Field.isKey_iff.mp ht)
  · exact Bool.eq_false_iff.mpr fun ht => h.2 k (Field.isKey_iff.mp hs) (Field.isKey_iff.mp ht)

theorem Table.Orderly.others_append {fs : List (Field σ)} {T : Table fs} {start : σ}
    (h : T.Orderly start) {read left : List (Slot σ)} {s : Slot σ}
    (hslots : T.slots = read ++ s :: left) :
    (∀ t ∈ read, t.Other s) ∧ ∀ t ∈ left, t.Other s := by
  have hothers := h.others
  rw [hslots, List.pairwise_append, List.pairwise_cons] at hothers
  exact ⟨fun t ht => (hothers.2.2 t ht s List.mem_cons_self).1,
    fun t ht => (hothers.2.1.1 t ht).2⟩

theorem Table.Orderly.eq_or_other {fs : List (Field σ)} {T : Table fs} {start : σ}
    (h : T.Orderly start) {s t : Slot σ} (hs : s ∈ T.slots) (ht : t ∈ T.slots) :
    s = t ∨ s.Other t := by
  let Both (s t : Slot σ) : Prop := (s = t ∨ s.Other t) ∧ (t = s ∨ t.Other s)
  have hsymm : Std.Symm Both := ⟨fun _ _ h => ⟨h.2, h.1⟩⟩
  have hpairs : T.slots.Pairwise Both := h.others.imp fun h => ⟨.inr h.1, .inr h.2⟩
  exact (List.Pairwise.forall_of_forall (fun _ _ => ⟨.inl rfl, .inl rfl⟩) hpairs hs ht).1

/-! ## What members and elements say -/

/-- The key of a document is one of the field. -/
def Slot.names (s : Slot σ) (key : List Char) : Bool := (spelled? key).any s.field.isKey

/-- The values that an object has for the field. -/
def Slot.values (s : Slot σ) (members : List (List Char × Value)) : List Value :=
  (members.filter fun m => s.names m.1).map Prod.snd

/-- The record has in the part what the values say of it: there is one, or none and the part is
what it was at the start. -/
def Slot.Accepts (s : Slot σ) (start w : σ) : List Value → Prop
  | [] => s.field.isRequired = false ∧ s.part.get w = s.part.get start
  | [v] => s.format.Says v (s.part.get w)
  | _ => False

/-- The members of an object say that the record is `w`. Every key is a text. -/
def Table.MembersSay {fs : List (Field σ)} (T : Table fs) (start : σ)
    (members : List (List Char × Value)) (w : σ) : Prop :=
  (∀ m ∈ members, (spelled? m.1).isSome = true) ∧
    ∀ s ∈ T.slots, s.Accepts start w (s.values members)

/-- The elements of a list say of the record what it has in the given fields. Elements at the end
may be missing. -/
def ItemsSay (start w : σ) : List (Slot σ) → List Value → Prop
  | [], items => items = []
  | s :: slots, items => s.Accepts start w items.head?.toList ∧ ItemsSay start w slots items.tail

/-- The tree stands for the record. -/
def Table.Says {fs : List (Field σ)} (T : Table fs) (start : σ) (v : Value) (w : σ) : Prop :=
  (∃ members, v = .object members ∧ T.MembersSay start members w) ∨
    ∃ items, v = .list items ∧ ItemsSay start w T.slots items

theorem Slot.values_cons_of_names {s : Slot σ} {key : List Char} (h : s.names key = true)
    (v : Value) (members : List (List Char × Value)) :
    s.values ((key, v) :: members) = v :: s.values members := by
  simp [Slot.values, List.filter_cons_of_pos, h]

theorem Slot.values_cons_of_not_names {s : Slot σ} {key : List Char} (h : s.names key = false)
    (v : Value) (members : List (List Char × Value)) :
    s.values ((key, v) :: members) = s.values members := by
  simp [Slot.values, List.filter_cons_of_neg, h]

theorem Slot.read_iff {s : Slot σ} {depth : Nat} {v : Value} {cs rest after : List Char}
    {store : σ → σ} (hdepth : s.format.height ≤ depth) (h : Spells v cs rest) :
    s.field.read depth cs = .ok (store, after) ↔
      ∃ x, s.format.Says v x ∧ store = s.part.set x ∧ after = rest := by
  rw [s.reads, bind_eq_ok_iff]
  constructor
  · rintro ⟨⟨x, tail⟩, hx, ⟨⟩⟩
    obtain ⟨hsaid, rfl⟩ := (s.format.reads hdepth h).mp hx
    exact ⟨x, hsaid, rfl, rfl⟩
  · rintro ⟨x, hsaid, rfl, rfl⟩
    exact ⟨(x, after), (s.format.reads hdepth h).mpr ⟨hsaid, rfl⟩, rfl⟩

/-! ## Streaming -/

/-- Reading the rest of an object, with the fields in `seen` read and stored in `v`, can give the
part of `w`: the field is read now, or it has been read or need not be. -/
def Slot.Resumes (s : Slot σ) (seen : List String) (v w : σ) : List Value → Prop
  | [] => (s.field.isRequired = true → s.field.key ∈ seen) ∧ s.part.get w = s.part.get v
  | [u] => s.field.key ∉ seen ∧ s.format.Says u (s.part.get w)
  | _ => False

theorem Slot.resumes_nil_iff {s : Slot σ} {start w : σ} {vs : List Value} :
    s.Resumes [] start w vs ↔ s.Accepts start w vs := by
  match vs with
  | [] => simp [Slot.Resumes, Slot.Accepts]
  | [v] => simp [Slot.Resumes, Slot.Accepts]
  | _ :: _ :: _ => exact Iff.rfl

/-- A field with a value has no other, and has not been read. -/
theorem Slot.resumes_cons_iff {s : Slot σ} {seen : List String} {v w : σ} {u : Value}
    {vs : List Value} : s.Resumes seen v w (u :: vs) ↔
      vs = [] ∧ s.field.key ∉ seen ∧ s.format.Says u (s.part.get w) := by
  cases vs <;> simp [Slot.Resumes]

/-- A field that has been read has no value left. -/
theorem Slot.resumes_read_iff {s : Slot σ} {seen : List String} {v w : σ} {vs : List Value}
    (h : s.field.key ∈ seen) :
    s.Resumes seen v w vs ↔ vs = [] ∧ s.part.get w = s.part.get v := by
  cases vs with
  | nil => simp [Slot.Resumes, h]
  | cons u vs => simp [Slot.resumes_cons_iff, h]

/-- Reading one field is of no account for another. -/
theorem Slot.Other.resumes_iff {s t : Slot σ} (h : s.Other t) {seen : List String} {v w : σ}
    {x : t.Content} {vs : List Value} :
    s.Resumes (t.field.key :: seen) (t.part.set x v) w vs ↔ s.Resumes seen v w vs := by
  match vs with
  | [] => simp only [Slot.Resumes, List.mem_cons, h.key_ne, false_or, h.stays]
  | [v] => simp only [Slot.Resumes, List.mem_cons, h.key_ne, false_or]
  | _ :: _ :: _ => exact Iff.rfl

section
variable {r : Record σ} {T : Table r.fields} {start v w : σ} {seen : List String}
  {depth : Nat} {first : Bool} {cs here after rest next : List Char}

/-- One member is read, and then the others. -/
theorem Table.Orderly.resumes_cons_iff (h : T.Orderly start) {t : Slot σ} (ht : t ∈ T.slots)
    {key : List Char} {k : String} (hkey : spelled? key = some k) (hk : t.field.isKey k = true)
    (hseen : t.field.key ∉ seen) {u : Value} {members : List (List Char × Value)} :
    (∀ s ∈ T.slots, s.Resumes seen v w (s.values ((key, u) :: members))) ↔
      ∃ x, t.format.Says u x ∧
        ∀ s ∈ T.slots, s.Resumes (t.field.key :: seen) (t.part.set x v) w (s.values members) := by
  have hnames : t.names key = true := by simp [Slot.names, hkey, hk]
  have hother : ∀ {s : Slot σ}, s.Other t → s.values ((key, u) :: members) = s.values members :=
    fun hs => Slot.values_cons_of_not_names (by simp [Slot.names, hkey, hs.isKey_eq hk]) _ _
  constructor
  · intro hall
    have hread := hall t ht
    rw [Slot.values_cons_of_names hnames, Slot.resumes_cons_iff] at hread
    obtain ⟨hnil, -, hsaid⟩ := hread
    refine ⟨t.part.get w, hsaid, fun s hs => ?_⟩
    rcases h.eq_or_other hs ht with rfl | hst
    · rw [Slot.resumes_read_iff List.mem_cons_self]
      exact ⟨hnil, (h.get_set s hs _ _).symm⟩
    · rw [hst.resumes_iff, ← hother hst]
      exact hall s hs
  · rintro ⟨x, hsaid, hall⟩ s hs
    rcases h.eq_or_other hs ht with rfl | hst
    · have hread := hall s hs
      rw [Slot.resumes_read_iff List.mem_cons_self, h.get_set s hs] at hread
      rw [Slot.values_cons_of_names hnames, Slot.resumes_cons_iff]
      exact ⟨hread.1, hseen, hread.2 ▸ hsaid⟩
    · rw [hother hst, ← hst.resumes_iff (x := x)]
      exact hall s hs

theorem nextKey_close (h : Gap cs ('}' :: rest)) : nextKey first cs = .ok (none, rest) := by
  rw [nextKey, h.skipGap_eq rfl]
  rfl

theorem nextKey_member {key : List Char} (hcomma : Comma first cs here)
    (hkey : Gap here ('"' :: (key ++ '"' :: after))) :
    nextKey first cs = nextKey.key (key ++ '"' :: after) := by
  cases first with
  | true =>
    obtain rfl : cs = here := hcomma
    exact nextKey_first (hkey.skipGap_eq rfl)
  | false => exact nextKey_comma (Gap.skipGap_eq hcomma rfl) (hkey.skipGap_eq rfl)

theorem key_iff {key : List Char} (hbody : Body key) {k : Option String} :
    nextKey.key (key ++ '"' :: after) = .ok (k, next) ↔
      ∃ text, spelled? key = some text ∧ k = some text ∧ next = after := by
  rw [nextKey.key, bind_eq_ok_iff]
  constructor
  · rintro ⟨⟨text, tail⟩, hstring, ⟨⟩⟩
    obtain ⟨htext, rfl⟩ := (string_body hbody after).mp hstring
    exact ⟨text, htext, rfl, rfl⟩
  · rintro ⟨text, htext, rfl, rfl⟩
    exact ⟨(text, next), (string_body hbody next).mpr ⟨htext, rfl⟩, rfl⟩

theorem Table.find?_fields (T : Table r.fields) (p : Field σ → Bool) :
    r.fields.find? p = (T.slots.find? fun s => p s.field).map Slot.field :=
  (congrArg (List.find? p) T.fields_eq).symm.trans List.find?_map

/-- At the end of an object every field has been read or need not be. -/
theorem members_close_iff (h : T.Orderly start) (hclose : Gap cs ('}' :: rest)) {fuel : Nat} :
    r.members depth (fuel + 1) first seen v cs = .ok (w, after) ↔
      after = rest ∧ ∀ s ∈ T.slots, s.Resumes seen v w [] := by
  rw [Record.members, nextKey_close hclose, ok_bind]
  dsimp only
  rw [T.find?_fields]
  cases hfind : T.slots.find? fun s => s.field.isRequired && !seen.contains s.field.key with
  | none =>
    have hrequired : ∀ s ∈ T.slots, s.field.isRequired = true → s.field.key ∈ seen := by
      simpa using hfind
    constructor
    · rintro ⟨⟩
      exact ⟨rfl, fun s hs => ⟨hrequired s hs, rfl⟩⟩
    · rintro ⟨rfl, hall⟩
      rw [h.ext w v fun s hs => (hall s hs).2]
      rfl
  | some s =>
    obtain ⟨hreq, hseen⟩ : s.field.isRequired = true ∧ s.field.key ∉ seen := by
      simpa using List.find?_some hfind
    constructor
    · rintro ⟨⟩
    · rintro ⟨-, hall⟩
      exact absurd ((hall s (List.mem_of_find?_eq_some hfind)).1 hreq) hseen

section
variable {key tail value : List Char} {u : Value} {k : String} {fuel : Nat}
  (hcomma : Comma first cs here) (hkey : Gap here ('"' :: (key ++ '"' :: tail)))
  (hbody : Body key) (hcolon : Gap tail (':' :: value)) (hv : Spells u value next)

include hcomma hkey hbody

/-- The key of a member is a text. -/
theorem isSome_of_member
    (hread : r.members depth (fuel + 1) first seen v cs = .ok (w, after)) :
    (spelled? key).isSome = true := by
  obtain ⟨⟨k, _⟩, hk, -⟩ := ok_of_bind hread
  rw [nextKey_member hcomma hkey] at hk
  obtain ⟨text, htext, -⟩ := (key_iff hbody).mp hk
  rw [htext]
  rfl

theorem nextKey_spelled (hspelled : spelled? key = some k) :
    nextKey first cs = .ok (some k, tail) := by
  rw [nextKey_member hcomma hkey]
  exact (key_iff hbody).mpr ⟨k, hspelled, rfl, rfl⟩

include hcolon hv

/-- A member that is none of the record's is passed over. -/
theorem members_unknown (hspelled : spelled? key = some k)
    (hfind : (T.slots.find? fun s => s.field.isKey k) = none) :
    r.members depth (fuel + 1) first seen v cs = r.members depth fuel false seen v next := by
  rw [Record.members, nextKey_spelled hcomma hkey hbody hspelled, ok_bind]
  dsimp only
  rw [T.find?_fields, hfind]
  show (colon tail >>= _) = _
  rw [colon_gap hcolon, ok_bind]
  show (skipValue value >>= _) = _
  rw [skipValue_of_spells hv, ok_bind]

/-- A member of a field is read if none was before, and then the others. -/
theorem members_known_iff (hspelled : spelled? key = some k) {t : Slot σ}
    (hfind : (T.slots.find? fun s => s.field.isKey k) = some t)
    (hdepth : t.format.height ≤ depth) :
    r.members depth (fuel + 1) first seen v cs = .ok (w, after) ↔
      t.field.key ∉ seen ∧ ∃ x, t.format.Says u x ∧
        r.members depth fuel false (t.field.key :: seen) (t.part.set x v) next =
          .ok (w, after) := by
  rw [Record.members, nextKey_spelled hcomma hkey hbody hspelled, ok_bind]
  dsimp only
  rw [T.find?_fields, hfind]
  simp only [Option.map_some, List.contains_eq_mem, decide_eq_true_eq]
  by_cases hseen : t.field.key ∈ seen
  · rw [if_pos hseen]
    constructor
    · rintro ⟨⟩
    · rintro ⟨hnot, -⟩
      exact absurd hseen hnot
  · rw [if_neg hseen]
    show (colon tail >>= _) = _ ↔ _
    rw [colon_gap hcolon, ok_bind]
    constructor
    · intro hread
      obtain ⟨⟨store, last⟩, hfield, hrest⟩ := ok_of_bind hread
      obtain ⟨x, hsaid, rfl, rfl⟩ := (Slot.read_iff hdepth hv).mp hfield
      exact ⟨hseen, x, hsaid, hrest⟩
    · rintro ⟨-, x, hsaid, hrest⟩
      rw [(Slot.read_iff hdepth hv).mpr ⟨x, hsaid, rfl, rfl⟩, ok_bind]
      exact hrest

end

theorem members_iff (h : T.Orderly start) (hdepth : ∀ s ∈ T.slots, s.format.height ≤ depth)
    {members : List (List Char × Value)} (hmembers : Members first members cs rest) {fuel : Nat}
    (hfuel : cs.length < fuel) :
    r.members depth fuel first seen v cs = .ok (w, after) ↔
      after = rest ∧ (∀ m ∈ members, (spelled? m.1).isSome = true) ∧
        ∀ s ∈ T.slots, s.Resumes seen v w (s.values members) := by
  induction members generalizing first cs fuel seen v with
  | nil =>
    obtain ⟨fuel, rfl⟩ := Nat.exists_eq_succ_of_ne_zero (Nat.ne_of_gt (Nat.zero_lt_of_lt hfuel))
    cases hmembers with
    | close hclose =>
      rw [members_close_iff h hclose]
      exact and_congr_right fun _ => (and_iff_right (List.forall_mem_nil _)).symm
  | cons m members ih =>
    obtain ⟨fuel, rfl⟩ := Nat.exists_eq_succ_of_ne_zero (Nat.ne_of_gt (Nat.zero_lt_of_lt hfuel))
    cases hmembers with
    | @member _ key u _ _ here tail value next _ hcomma hkey hbody hcolon hv hmembers =>
      have hhere := hcomma.length_le
      have htail := hkey.length_le
      have hvalue := hcolon.length_le
      have hnext := hv.length_lt
      simp only [List.length_cons, List.length_append] at htail hvalue
      rw [List.forall_mem_cons]
      cases hspelled : spelled? key with
      | none =>
        constructor
        · intro hread
          have hsome := isSome_of_member hcomma hkey hbody hread
          rw [hspelled] at hsome
          cases hsome
        · rintro ⟨-, ⟨⟨⟩, -⟩, -⟩
      | some k =>
        cases hfind : T.slots.find? fun s => s.field.isKey k with
        | none =>
          have hnames : ∀ s ∈ T.slots, s.names key = false := by
            simpa [Slot.names, hspelled] using hfind
          rw [members_unknown hcomma hkey hbody hcolon hv hspelled hfind, ih hmembers (by omega)]
          simp +contextual [Slot.values_cons_of_not_names, hnames]
        | some t =>
          have ht := List.mem_of_find?_eq_some hfind
          have hk := List.find?_some (p := fun s : Slot σ => s.field.isKey k) hfind
          rw [members_known_iff hcomma hkey hbody hcolon hv hspelled hfind (hdepth t ht)]
          constructor
          · rintro ⟨hseen, x, hsaid, hrest⟩
            obtain ⟨rfl, hspell, hall⟩ := (ih hmembers (by omega)).mp hrest
            exact ⟨rfl, ⟨rfl, hspell⟩,
              (h.resumes_cons_iff ht hspelled hk hseen).mpr ⟨x, hsaid, hall⟩⟩
          · rintro ⟨rfl, ⟨-, hspell⟩, hall⟩
            have hread := hall t ht
            rw [Slot.values_cons_of_names (by simp [Slot.names, hspelled, hk]),
              Slot.resumes_cons_iff] at hread
            have hseen := hread.2.1
            obtain ⟨x, hsaid, hrest⟩ := (h.resumes_cons_iff ht hspelled hk hseen).mp hall
            exact ⟨hseen, x, hsaid, (ih hmembers (by omega)).mpr ⟨rfl, hspell, hrest⟩⟩

theorem gap_of_closeRecord (h : closeRecord cs = .ok rest) : Gap cs (']' :: rest) := by
  unfold closeRecord at h
  split at h
  · cases h
  · rename_i hcs
    cases h
    exact gap_of_skipGap hcs
  · split at h <;> cases h
  · cases h

theorem closeRecord_iff {items : List Value} (hitems : Items first items cs rest) :
    closeRecord cs = .ok after ↔ items = [] ∧ after = rest := by
  cases hitems with
  | close h =>
    rw [closeRecord, h.skipGap_eq rfl]
    constructor
    · rintro ⟨⟩
      exact ⟨rfl, rfl⟩
    · rintro ⟨-, rfl⟩
      rfl
  | item hcomma hv hitems =>
    refine ⟨fun h => ?_, nofun⟩
    have hbracket := (gap_of_closeRecord h).skipGap_eq rfl
    cases first with
    | true =>
      obtain rfl : cs = _ := hcomma
      exact absurd (by decide) (Value.notMem_of_opens (hv.opens_of_skipGap hbracket))
    | false =>
      rw [Gap.skipGap_eq hcomma rfl] at hbracket
      cases hbracket

theorem itemsSay_congr {slots : List (Slot σ)} (h : ∀ s ∈ slots, s.part.get v = s.part.get start)
    {items : List Value} : ItemsSay v w slots items ↔ ItemsSay start w slots items := by
  induction slots generalizing items with
  | nil => exact Iff.rfl
  | cons s slots ih =>
    rw [List.forall_mem_cons] at h
    rw [ItemsSay, ItemsSay, ih h.2]
    match items with
    | [] => simp only [List.head?_nil, Option.toList_none, Slot.Accepts, h.1]
    | _ :: _ => exact Iff.rfl

/-- At the end of a list a field is passed over that may be missing. -/
theorem elements_close_iff (hclose : Gap cs (']' :: rest)) {f : Field σ} {fs : List (Field σ)}
    {index : Nat} :
    r.elements depth (f :: fs) index first v cs = .ok (w, after) ↔
      f.isRequired = false ∧
        r.elements depth fs (index + 1) first v (']' :: rest) = .ok (w, after) := by
  rw [Record.elements, nextItem_close hclose, ok_bind]
  simp only [Bool.false_eq_true, if_false]
  by_cases hreq : f.isRequired = true
  · rw [if_pos hreq, hreq]
    exact ⟨nofun, nofun⟩
  · rw [if_neg hreq, and_iff_right (Bool.eq_false_iff.mpr hreq)]

/-- An element is read for its field, and then the others. -/
theorem elements_item_iff {s : Slot σ} (hdepth : s.format.height ≤ depth)
    (hcomma : Comma first cs here) {u : Value} (hv : Spells u here next) {fs : List (Field σ)}
    {index : Nat} :
    r.elements depth (s.field :: fs) index first v cs = .ok (w, after) ↔
      ∃ x, s.format.Says u x ∧
        r.elements depth fs (index + 1) false (s.part.set x v) next = .ok (w, after) := by
  rw [Record.elements, nextItem_item hcomma hv, ok_bind]
  simp only [if_true]
  constructor
  · intro hread
    obtain ⟨⟨store, tail⟩, hfield, hrest⟩ := ok_of_bind hread
    obtain ⟨x, hsaid, rfl, rfl⟩ := (Slot.read_iff hdepth hv.skipGap).mp hfield
    exact ⟨x, hsaid, hrest⟩
  · rintro ⟨x, hsaid, hrest⟩
    rw [(Slot.read_iff hdepth hv.skipGap).mpr ⟨x, hsaid, rfl, rfl⟩, ok_bind]
    exact hrest

theorem elements_iff (h : T.Orderly start) (hdepth : ∀ s ∈ T.slots, s.format.height ≤ depth)
    {read left : List (Slot σ)} (hslots : T.slots = read ++ left) {items : List Value}
    (hitems : Items first items cs rest) {index : Nat} :
    r.elements depth (left.map Slot.field) index first v cs = .ok (w, after) ↔
      after = rest ∧ (∀ s ∈ read, s.part.get w = s.part.get v) ∧ ItemsSay v w left items := by
  induction left generalizing first cs items index read v with
  | nil =>
    rw [List.append_nil] at hslots
    rw [List.map_nil, Record.elements, bind_eq_ok_iff]
    constructor
    · rintro ⟨tail, hclose, ⟨⟩⟩
      obtain ⟨rfl, rfl⟩ := (closeRecord_iff hitems).mp hclose
      exact ⟨rfl, fun _ _ => rfl, rfl⟩
    · rintro ⟨rfl, hread, rfl⟩
      rw [h.ext w v (hslots ▸ hread)]
      exact ⟨after, (closeRecord_iff hitems).mpr ⟨rfl, rfl⟩, rfl⟩
  | cons s left ih =>
    have hs : s ∈ T.slots := by simp [hslots]
    have hleft : T.slots = (read ++ [s]) ++ left := by simp [hslots]
    rw [List.map_cons]
    cases hitems with
    | close hclose =>
      rw [elements_close_iff hclose, ih hleft (.close (.refl _)), List.forall_mem_append,
        List.forall_mem_singleton]
      show _ ↔ after = rest ∧ _ ∧
        (s.field.isRequired = false ∧ s.part.get w = s.part.get v) ∧ ItemsSay v w left []
      tauto
    | @item _ u items _ here next _ hcomma hv hitems =>
      obtain ⟨hbefore, hafter⟩ := h.others_append hslots
      have hstays : ∀ x, ItemsSay (s.part.set x v) w left items ↔ ItemsSay v w left items :=
        fun x => itemsSay_congr fun t ht => (hafter t ht).stays x v
      rw [elements_item_iff (hdepth s hs) hcomma hv]
      show _ ↔ after = rest ∧ _ ∧ s.format.Says u (s.part.get w) ∧ ItemsSay v w left items
      constructor
      · rintro ⟨x, hsaid, hread⟩
        obtain ⟨rfl, hget, hitems⟩ := (ih hleft hitems).mp hread
        rw [List.forall_mem_append, List.forall_mem_singleton, h.get_set s hs] at hget
        exact ⟨rfl, fun t ht => (hget.1 t ht).trans ((hbefore t ht).stays x v), hget.2 ▸ hsaid,
          (hstays x).mp hitems⟩
      · rintro ⟨rfl, hget, hsaid, hsay⟩
        refine ⟨_, hsaid, (ih hleft hitems).mpr ⟨rfl, ?_, (hstays _).mpr hsay⟩⟩
        rw [List.forall_mem_append, List.forall_mem_singleton]
        exact ⟨fun t ht => (hget t ht).trans ((hbefore t ht).stays _ v).symm,
          (h.get_set s hs _ v).symm⟩

/-! ## What was read -/

theorem cases_of_nextKey {k : Option String} (h : nextKey first cs = .ok (k, after)) :
    (k = none ∧ Gap cs ('}' :: after)) ∨ ∃ text here key, k = some text ∧ Comma first cs here ∧
      Gap here ('"' :: (key ++ '"' :: after)) ∧ Body key := by
  have hkey : ∀ {here tail}, Comma first cs here → Gap here ('"' :: tail) →
      nextKey.key tail = .ok (k, after) → ∃ text here key, k = some text ∧ Comma first cs here ∧
        Gap here ('"' :: (key ++ '"' :: after)) ∧ Body key := by
    intro here tail hcomma hgap hread
    obtain ⟨⟨text, next⟩, hstring, hnext⟩ := ok_of_bind hread
    cases hnext
    obtain ⟨key, hbody, rfl⟩ := body_of_string hstring
    exact ⟨text, here, key, rfl, hcomma, hgap, hbody⟩
  unfold nextKey at h
  split at h
  · cases h
  · rename_i hcs
    cases h
    exact .inl ⟨rfl, gap_of_skipGap hcs⟩
  · rename_i hcs
    split at h <;> rename_i hfirst
    · subst hfirst
      split at h
      · rename_i hc
        subst hc
        exact .inr (hkey (show Comma true cs cs from rfl) (gap_of_skipGap hcs) h)
      · cases h
    · obtain rfl : first = false := by simpa using hfirst
      split at h
      · rename_i hc
        subst hc
        split at h
        · cases h
        · rename_i hhere
          exact .inr (hkey (show Comma false cs _ from gap_of_skipGap hcs) (gap_of_skipGap hhere) h)
        · cases h
        · cases h
      · cases h

theorem Slot.covers {s : Slot σ} {store : σ → σ} (h : s.field.read depth cs = .ok (store, rest)) :
    ∃ v, Spells v cs rest := by
  rw [s.reads] at h
  obtain ⟨⟨x, tail⟩, hx, hstore⟩ := ok_of_bind h
  cases hstore
  exact s.format.covers hx

theorem members_of_members (T : Table r.fields) {fuel : Nat}
    (h : r.members depth fuel first seen v cs = .ok (w, rest)) :
    ∃ members, Members first members cs rest := by
  induction fuel generalizing first seen v cs with
  | zero => cases h
  | succ fuel ih =>
    obtain ⟨⟨k, tail⟩, hkey, hmore⟩ := ok_of_bind h
    rcases cases_of_nextKey hkey with ⟨rfl, hclose⟩ | ⟨k, here, key, rfl, hcomma, hgap, hbody⟩
    · dsimp only at hmore
      split at hmore
      · cases hmore
      · cases hmore
        exact ⟨[], .close hclose⟩
    · dsimp only at hmore
      split at hmore
      · obtain ⟨value, hcolon, hmore⟩ := ok_of_bind hmore
        obtain ⟨next, hskip, hmore⟩ := ok_of_bind hmore
        obtain ⟨members, hmembers⟩ := ih hmore
        obtain ⟨u, hu⟩ := spells_of_skipValue hskip hmembers.ends
        exact ⟨(key, u) :: members, .member hcomma hgap hbody (gap_of_colon hcolon) hu hmembers⟩
      · rename_i f hfind
        split at hmore
        · cases hmore
        · obtain ⟨value, hcolon, hmore⟩ := ok_of_bind hmore
          obtain ⟨⟨store, next⟩, hfield, hmore⟩ := ok_of_bind hmore
          obtain ⟨members, hmembers⟩ := ih hmore
          rw [T.find?_fields, Option.map_eq_some_iff] at hfind
          obtain ⟨s, -, rfl⟩ := hfind
          obtain ⟨u, hu⟩ := Slot.covers hfield
          exact ⟨(key, u) :: members, .member hcomma hgap hbody (gap_of_colon hcolon) hu hmembers⟩

theorem items_of_elements {left : List (Slot σ)} {index : Nat}
    (h : r.elements depth (left.map Slot.field) index first v cs = .ok (w, rest)) :
    ∃ items, Items first items cs rest := by
  induction left generalizing first index v cs with
  | nil =>
    obtain ⟨tail, hclose, hw⟩ := ok_of_bind h
    cases hw
    exact ⟨[], .close (gap_of_closeRecord hclose)⟩
  | cons s left ih =>
    obtain ⟨⟨more, tail⟩, hnext, hmore⟩ := ok_of_bind h
    rcases cases_of_nextItem hnext with ⟨last, rfl, rfl, hclose⟩ | ⟨here, rfl, hcomma, hgap⟩
    · dsimp only at hmore
      rw [if_neg (by decide)] at hmore
      split at hmore
      · cases hmore
      · obtain ⟨items, hitems⟩ := ih hmore
        exact ⟨items, hitems.of_gap hclose⟩
    · obtain ⟨⟨store, next⟩, hfield, hmore⟩ := ok_of_bind hmore
      obtain ⟨items, hitems⟩ := ih hmore
      obtain ⟨u, hu⟩ := Slot.covers hfield
      exact ⟨u :: items, .item hcomma (hu.of_gap hgap) hitems⟩

/-! ## Records -/

/-- At most so many containers stand inside each other in a field. -/
def Table.height {fs : List (Field σ)} (T : Table fs) : Nat :=
  T.slots.foldr (fun s n => max s.format.height n) 0

theorem Table.le_height {fs : List (Field σ)} (T : Table fs) {s : Slot σ} (hs : s ∈ T.slots) :
    s.format.height ≤ T.height := by
  unfold Table.height
  generalize T.slots = slots at hs
  induction slots with
  | nil => cases hs
  | cons t slots ih =>
    rcases List.mem_cons.mp hs with rfl | hs
    · exact Nat.le_max_left ..
    · exact Nat.le_trans (ih hs) (Nat.le_max_right ..)

/-- A record written by its keys is read as the members it says. -/
theorem Table.members_iff_membersSay (T : Table r.fields) (h : T.Orderly r.start)
    (hslots : ∀ s ∈ T.slots, s.format.height ≤ depth) {members : List (List Char × Value)}
    (hmembers : Members true members cs rest) :
    r.members depth (cs.length + 1) true [] r.start cs = .ok (w, after) ↔
      T.MembersSay r.start members w ∧ after = rest := by
  rw [members_iff h hslots hmembers (Nat.lt_succ_self _), Table.MembersSay, and_comm]
  simp only [Slot.resumes_nil_iff]

/-- A record written as a list is read as the items it says, field after field. -/
theorem Table.elements_iff_itemsSay (T : Table r.fields) (h : T.Orderly r.start)
    (hslots : ∀ s ∈ T.slots, s.format.height ≤ depth) {items : List Value}
    (hitems : Items true items cs rest) :
    r.elements depth r.fields 0 true r.start cs = .ok (w, after) ↔
      ItemsSay r.start w T.slots items ∧ after = rest := by
  have hsplit : T.slots = [] ++ T.slots := rfl
  have hread : r.elements depth (T.slots.map Slot.field) 0 true r.start cs =
      .ok (w, after) ↔ _ := elements_iff h hslots hsplit hitems
  rw [T.fields_eq] at hread
  rw [hread]
  exact ⟨fun hsay => ⟨hsay.2.2, hsay.1⟩, fun hsay => ⟨hsay.2, nofun, hsay.1⟩⟩

/-- A record. -/
def Format.record (T : Table r.fields) (h : T.Orderly r.start) : Format r.codec where
  Says := T.Says r.start
  height := T.height + 1
  blank? := none
  reads := by
    intro depth v cs rest after w hdepth hv
    have hslots : ∀ s ∈ T.slots, s.format.height ≤ depth - 1 := fun s hs => by
      have hle := T.le_height hs
      omega
    unfold Record.codec
    dsimp only
    constructor
    · intro hread
      split at hread
      · rename_i tail hcs
        obtain ⟨members, rfl, hmembers⟩ := hv.object_of_skipGap hcs
        obtain ⟨hsay, rfl⟩ := (T.members_iff_membersSay h hslots hmembers).mp hread
        exact ⟨.inl ⟨members, rfl, hsay⟩, rfl⟩
      · rename_i tail hcs
        obtain ⟨items, rfl, hitems⟩ := hv.list_of_skipGap hcs
        obtain ⟨hsay, rfl⟩ := (T.elements_iff_itemsSay h hslots hitems).mp hread
        exact ⟨.inr ⟨items, rfl, hsay⟩, rfl⟩
      · cases hread
    · rintro ⟨⟨members, rfl, hsay⟩ | ⟨items, rfl, hsay⟩, rfl⟩
      · cases hv with
        | object hv hmembers =>
          rw [hv.skipGap_eq rfl]
          exact (T.members_iff_membersSay h hslots hmembers).mpr ⟨hsay, rfl⟩
      · cases hv with
        | list hv hitems =>
          rw [hv.skipGap_eq rfl]
          exact (T.elements_iff_itemsSay h hslots hitems).mpr ⟨hsay, rfl⟩
  covers := by
    intro depth cs rest w hread
    unfold Record.codec at hread
    dsimp only at hread
    split at hread
    · rename_i hcs
      obtain ⟨members, hmembers⟩ := members_of_members T hread
      exact ⟨.object members, .object (gap_of_skipGap hcs) hmembers⟩
    · rename_i tail hcs
      have helements : r.elements (depth - 1) (T.slots.map Slot.field) 0 true r.start tail =
          .ok (w, rest) := by
        rw [T.fields_eq]
        exact hread
      obtain ⟨items, hitems⟩ := items_of_elements helements
      exact ⟨.list items, .list (gap_of_skipGap hcs) hitems⟩
    · cases hread
  blank_says := nofun

end

end

end DeviceSpec.Json
