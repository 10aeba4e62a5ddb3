import DeviceSpec.Proofs.Json.Table

/-!
# A change to one part of a tree

A value stands inside others in a document. When it is replaced by one that says something else,
the whole document says the same as before except for that part.

* **places** — `Changed R F v v' g`: somewhere in `v`, a part in its own format is replaced as `R`
  allows, which gives `v'`; `g` is what becomes of the value that `v` stands for;
* **meaning** — if `R` tells what becomes of the part, `g` tells it of the whole (`Changed.means`),
  and when the part says nothing any more, neither does the whole (`Changed.not_means`).
-/

namespace DeviceSpec.Json

/-- Replace a part by another that is made from it. -/
def Part.update {σ α : Type} (part : Part σ α) (g : α → α) (w : σ) : σ :=
  part.set (g (part.get w)) w

/-- Somewhere in the tree a part is changed as `R` allows, and with it the value. -/
inductive Changed
    (R : ∀ ⦃β : Type⦄ ⦃c : Codec β⦄, Format c → Value → Value → (β → β) → Prop) :
    ∀ {α : Type} {c : Codec α}, Format c → Value → Value → (α → α) → Prop
  | here {α : Type} {c : Codec α} {F : Format c} {v v' : Value} {g : α → α} (h : R F v v' g) :
      Changed R F v v' g
  | item {α : Type} {c : Codec α} {F : Format c} {v v' : Value} {g : α → α}
      {before after : List Value} (h : Changed R F v v' g) :
      Changed R F.listOf (.list (before ++ v :: after)) (.list (before ++ v' :: after))
        (fun xs => xs.modify before.length g)
  | option {α : Type} {c : Codec α} {F : Format c} {v v' : Value} {g : α → α}
      (h : Changed R F v v' g) (hv : v ≠ .null) (hv' : v' ≠ .null) :
      Changed R F.nullable v v' (Option.map g)
  | member {σ : Type} {r : Record σ} {T : Table r.fields} {hT : T.Orderly r.start} {s : Slot σ}
      {key : List Char} {v v' : Value} {g : s.Content → s.Content}
      {before after : List (List Char × Value)} (hs : s ∈ T.slots) (hkey : s.names key = true)
      (h : Changed R s.format v v' g) :
      Changed R (.record T hT) (.object (before ++ (key, v) :: after))
        (.object (before ++ (key, v') :: after)) (s.part.update g)
  | element {σ : Type} {r : Record σ} {T : Table r.fields} {hT : T.Orderly r.start} {s : Slot σ}
      {v v' : Value} {g : s.Content → s.Content} {before after : List Value}
      (hs : T.slots[before.length]? = some s) (h : Changed R s.format v v' g) :
      Changed R (.record T hT) (.list (before ++ v :: after)) (.list (before ++ v' :: after))
        (s.part.update g)

/-! ## Lists -/

section
variable {α : Type} {Says : Value → α → Prop} {before after : List Value} {v v' : Value}
  {g : α → α} {xs : List α}

theorem forall₂_modify (hg : ∀ x, Says v x → Says v' (g x))
    (h : List.Forall₂ Says (before ++ v :: after) xs) :
    List.Forall₂ Says (before ++ v' :: after) (xs.modify before.length g) := by
  induction before generalizing xs with
  | nil =>
    cases h with
    | cons hv hafter => exact .cons (hg _ hv) hafter
  | cons u before ih =>
    cases h with
    | cons hu hrest => exact .cons hu (ih hrest)

theorem exists_of_forall₂ (h : List.Forall₂ Says (before ++ v :: after) xs) : ∃ x, Says v x := by
  induction before generalizing xs with
  | nil =>
    cases h with
    | cons hv hafter => exact ⟨_, hv⟩
  | cons u before ih =>
    cases h with
    | cons hu hrest => exact ih hrest

end

/-! ## Records -/

section
variable {σ : Type} {start w w' : σ}

theorem Slot.values_append (s : Slot σ) (ms ms' : List (List Char × Value)) :
    s.values (ms ++ ms') = s.values ms ++ s.values ms' := by
  simp [Slot.values]

/-- What the values of a field say does not depend on the other parts. -/
theorem Slot.accepts_congr {s : Slot σ} (h : s.part.get w' = s.part.get w) {vs : List Value} :
    s.Accepts start w' vs ↔ s.Accepts start w vs := by
  match vs with
  | [] => simp only [Slot.Accepts, h]
  | [v] => simp only [Slot.Accepts, h]
  | _ :: _ :: _ => exact Iff.rfl

theorem itemsSay_congr_right {slots : List (Slot σ)}
    (h : ∀ s ∈ slots, s.part.get w' = s.part.get w) {items : List Value} :
    ItemsSay start w' slots items ↔ ItemsSay start w slots items := by
  induction slots generalizing items with
  | nil => exact Iff.rfl
  | cons s slots ih =>
    rw [List.forall_mem_cons] at h
    rw [ItemsSay, ItemsSay, ih h.2, Slot.accepts_congr h.1]

theorem exists_append_of_getElem? {α : Type*} {l : List α} {n : Nat} {a : α}
    (h : l[n]? = some a) : ∃ before after, l = before ++ a :: after ∧ n = before.length := by
  obtain ⟨hlt, rfl⟩ := List.getElem?_eq_some_iff.mp h
  refine ⟨l.take n, l.drop (n + 1), ?_, by rw [List.length_take_of_le (Nat.le_of_lt hlt)]⟩
  rw [← List.drop_eq_getElem_cons hlt, List.take_append_drop]

theorem itemsSay_append {read left : List (Slot σ)} {s : Slot σ} {before after : List Value}
    {v : Value} (hlength : before.length = read.length) :
    ItemsSay start w (read ++ s :: left) (before ++ v :: after) ↔
      ItemsSay start w read before ∧ s.format.Says v (s.part.get w) ∧
        ItemsSay start w left after := by
  induction read generalizing before with
  | nil =>
    cases before with
    | nil => exact ⟨fun h => ⟨rfl, h⟩, And.right⟩
    | cons _ _ => cases hlength
  | cons t read ih =>
    cases before with
    | nil => cases hlength
    | cons u before =>
      have hrest := ih (Nat.succ.inj hlength)
      exact (and_congr_right fun _ => hrest).trans and_assoc.symm

/-- The only member of a field says what its part is. -/
theorem Slot.accepts_member {s : Slot σ} {key : List Char} (hkey : s.names key = true)
    {before after : List (List Char × Value)} {v : Value} :
    s.Accepts start w (s.values (before ++ (key, v) :: after)) ↔
      s.values before = [] ∧ s.values after = [] ∧ s.format.Says v (s.part.get w) := by
  rw [Slot.values_append, Slot.values_cons_of_names hkey]
  match s.values before, s.values after with
  | [], [] => simp [Slot.Accepts]
  | [], _ :: _ => simp [Slot.Accepts]
  | [_], _ => simp [Slot.Accepts]
  | _ :: _ :: _, _ => simp [Slot.Accepts]

section
variable {r : Record σ} {T : Table r.fields} {s t : Slot σ} {key : List Char} {v v' : Value}
  {before after : List (List Char × Value)}

theorem Slot.names_iff :
    s.names key = true ↔ ∃ k, spelled? key = some k ∧ s.field.isKey k = true := by
  cases h : spelled? key <;> simp [Slot.names, h]

/-- A member of one field is none of another. -/
theorem Slot.Other.values_eq (h : t.Other s) (hkey : s.names key = true) :
    t.values (before ++ (key, v) :: after) = t.values (before ++ after) := by
  obtain ⟨k, hspelled, hk⟩ := Slot.names_iff.mp hkey
  have hnames : t.names key = false := by simp [Slot.names, hspelled, h.isKey_eq hk]
  rw [Slot.values_append, Slot.values_cons_of_not_names hnames, Slot.values_append]

/-- What an object says of a field that one of its members is for, and of the others. -/
theorem membersSay_member_iff (h : T.Orderly r.start) (hs : s ∈ T.slots)
    (hkey : s.names key = true) : T.MembersSay r.start (before ++ (key, v) :: after) w ↔
      (∀ m ∈ before ++ after, (spelled? m.1).isSome = true) ∧ s.values before = [] ∧
        s.values after = [] ∧ s.format.Says v (s.part.get w) ∧
        ∀ t ∈ T.slots, t.Other s → t.Accepts r.start w (t.values (before ++ after)) := by
  obtain ⟨k, hspelled, -⟩ := Slot.names_iff.mp hkey
  have hspell : (∀ m ∈ before ++ (key, v) :: after, (spelled? m.1).isSome = true) ↔
      ∀ m ∈ before ++ after, (spelled? m.1).isSome = true := by
    simp only [List.forall_mem_append, List.forall_mem_cons, hspelled, Option.isSome_some, true_and]
  rw [Table.MembersSay, hspell]
  constructor
  · rintro ⟨hspell, hall⟩
    obtain ⟨hbefore, hafter, hsaid⟩ := (Slot.accepts_member hkey).mp (hall s hs)
    exact ⟨hspell, hbefore, hafter, hsaid, fun t ht hts => hts.values_eq hkey ▸ hall t ht⟩
  · rintro ⟨hspell, hbefore, hafter, hsaid, hall⟩
    refine ⟨hspell, fun t ht => ?_⟩
    rcases h.eq_or_other ht hs with rfl | hts
    · exact (Slot.accepts_member hkey).mpr ⟨hbefore, hafter, hsaid⟩
    · rw [hts.values_eq hkey]
      exact hall t ht hts

/-- Replacing a part by itself changes nothing. -/
theorem Table.Orderly.update_id (h : T.Orderly r.start) (hs : s ∈ T.slots) :
    s.part.update id = id := by
  funext w
  refine h.ext _ _ fun t ht => ?_
  rcases h.eq_or_other ht hs with rfl | hts
  · exact h.get_set t ht _ w
  · exact hts.stays _ w

end

end

/-! ## What becomes of the whole -/

section
variable {R : ∀ ⦃β : Type⦄ ⦃c : Codec β⦄, Format c → Value → Value → (β → β) → Prop} {α : Type}
  {c : Codec α} {F : Format c} {v v' : Value} {g : α → α}

/-- If `R` tells what becomes of a part, the change tells what becomes of the whole. -/
theorem Changed.means
    (hR : ∀ {β : Type} {c : Codec β} {F : Format c} {v v' : Value} {g : β → β} {x : β},
      R F v v' g → F.Says v x → F.Says v' (g x))
    (h : Changed R F v v' g) : ∀ {x}, F.Says v x → F.Says v' (g x) := by
  -- a change inside a part is a change of the part
  induction h with
  | here h => exact hR h
  | item h ih =>
    rintro xs ⟨vs, ⟨⟩, hxs⟩
    exact ⟨_, rfl, forall₂_modify (fun _ => ih) hxs⟩
  | option h hv hv' ih =>
    rintro x (⟨rfl, -⟩ | ⟨-, y, rfl, hsaid⟩)
    · exact absurd rfl hv
    · exact .inr ⟨hv', _, rfl, ih hsaid⟩
  | @member σ r T hT s key v v' g before after hs hkey h ih =>
    rintro w (⟨members, ⟨⟩, hsay⟩ | ⟨items, ⟨⟩, -⟩)
    refine .inl ⟨_, rfl, ?_⟩
    rw [membersSay_member_iff hT hs hkey] at hsay ⊢
    obtain ⟨hspell, hbefore, hafter, hsaid, hall⟩ := hsay
    refine ⟨hspell, hbefore, hafter, ?_, fun t ht hts => ?_⟩
    · rw [Part.update, hT.get_set s hs]
      exact ih hsaid
    · exact (Slot.accepts_congr (hts.stays _ w)).mpr (hall t ht hts)
  | @element σ r T hT s v v' g before after hs h ih =>
    rintro w (⟨members, ⟨⟩, -⟩ | ⟨items, ⟨⟩, hsay⟩)
    refine .inr ⟨_, rfl, ?_⟩
    obtain ⟨read, left, hslots, hlength⟩ := exists_append_of_getElem? hs
    obtain ⟨hread, hleft⟩ := hT.others_append hslots
    rw [hslots, itemsSay_append hlength] at hsay ⊢
    obtain ⟨hbefore, hsaid, hafter⟩ := hsay
    refine ⟨?_, ?_, ?_⟩
    · exact (itemsSay_congr_right fun t ht => (hread t ht).stays _ w).mpr hbefore
    · rw [Part.update, hT.get_set s (List.mem_of_getElem? hs)]
      exact ih hsaid
    · exact (itemsSay_congr_right fun t ht => (hleft t ht).stays _ w).mpr hafter

/-- If the part stays, so does the whole. -/
theorem Changed.eq_id
    (hR : ∀ {β : Type} {c : Codec β} {F : Format c} {v v' : Value} {g : β → β},
      R F v v' g → g = id)
    (h : Changed R F v v' g) : g = id := by
  induction h with
  | here h => exact hR h
  | item _ ih =>
    rw [ih]
    exact funext fun xs => List.modify_id _ xs
  | option _ _ _ ih => rw [ih, Option.map_id]
  | @member σ r T hT s key v v' g before after hs hkey h ih => rw [ih, hT.update_id hs]
  | @element σ r T hT s v v' g before after hs h ih =>
    rw [ih, hT.update_id (List.mem_of_getElem? hs)]

/-- If the part stands for nothing any more, neither does the whole. -/
theorem Changed.not_means
    (hR : ∀ {β : Type} {c : Codec β} {F : Format c} {v v' : Value} {g : β → β} {x y : β},
      R F v v' g → F.Says v x → ¬ F.Says v' y)
    (h : Changed R F v v' g) : ∀ {x y}, F.Says v x → ¬ F.Says v' y := by
  induction h with
  | here h => exact hR h
  | item h ih =>
    rintro xs ys ⟨_, ⟨⟩, hxs⟩ ⟨_, ⟨⟩, hys⟩
    obtain ⟨x, hx⟩ := exists_of_forall₂ hxs
    obtain ⟨y, hy⟩ := exists_of_forall₂ hys
    exact ih hx hy
  | option h hv hv' ih =>
    rintro x y (⟨rfl, -⟩ | ⟨-, x, rfl, hx⟩) (⟨rfl, -⟩ | ⟨-, y, rfl, hy⟩)
    · exact hv rfl
    · exact hv rfl
    · exact hv' rfl
    · exact ih hx hy
  | member hs hkey h ih =>
    rintro w w' (⟨_, ⟨⟩, hsay⟩ | ⟨_, ⟨⟩, -⟩) (⟨_, ⟨⟩, hsay'⟩ | ⟨_, ⟨⟩, -⟩)
    exact ih ((Slot.accepts_member hkey).mp (hsay.2 _ hs)).2.2
      ((Slot.accepts_member hkey).mp (hsay'.2 _ hs)).2.2
  | element hs h ih =>
    rintro w w' (⟨_, ⟨⟩, -⟩ | ⟨_, ⟨⟩, hsay⟩) (⟨_, ⟨⟩, -⟩ | ⟨_, ⟨⟩, hsay'⟩)
    obtain ⟨read, left, hslots, hlength⟩ := exists_append_of_getElem? hs
    rw [hslots, itemsSay_append hlength] at hsay hsay'
    exact ih hsay.2.1 hsay'.2.1

end

end DeviceSpec.Json
