import DeviceSpec.Proofs.Json.ReadBack

/-!
# Records come back field by field

What a record writes for a value is read back when every field either stores its own part of the
value or is left out because that part is at its default. One derivation per record says so, with
one step per field of its table.

* **restoring** — storing what is written in the fields, one after the other, gives the value back
  (`Restores`); a step for each form of field (`Restores.required`, `Restores.text`, …);
* **keys** — a table that tells its fields apart finds each by its own key (`find?_isKey`);
* **records** — such a record is read back (`lawful_record`), so records can stand in lists, in
  fields of other records and in documents of their own.
-/

namespace DeviceSpec.Json

theorem Codec.Lawful.mono {α : Type} {c : Codec α} {m n : Nat} (h : c.Lawful m) (hmn : m ≤ n) :
    c.Lawful n :=
  ⟨fun v depth indent gap rest hdepth =>
    h.readsBack v depth indent gap rest (Nat.le_trans hmn hdepth), h.opens⟩

theorem lawful_text {n : Nat} : text.Lawful n := (lawful_textNamed _).mono (Nat.zero_le n)

theorem lawful_flag {n : Nat} : flag.Lawful n := by
  refine ⟨fun b depth indent gap rest _ hgap => ?_, fun _ b => ?_⟩
  · unfold flag
    simp only
    rw [skipGap_append hgap]
    cases b <;> rfl
  · cases b
    · exact ⟨'f', _, rfl, rfl, by decide⟩
    · exact ⟨'t', _, rfl, rfl, by decide⟩

theorem toOption_eq_some_iff {ε α : Type} {result : Except ε α} {v : α} :
    result.toOption = some v ↔ result = .ok v := by
  cases result <;> simp [Except.toOption]

section

variable {σ α : Type} {n : Nat} {v w : σ} {fs : List (Field σ)} {key : String}

/-! ## Fields -/

/-- The field is written for the value, and reading it back stores as `store` does, when at least
`n` more containers may be opened. -/
structure Field.Stores (f : Field σ) (n : Nat) (v : σ) (store : σ → σ) : Prop where
  written : ∀ indent, (f.write indent v).isSome = true
  reads : ∀ depth indent gap rest t, n ≤ depth → Blank gap → f.write indent v = some t →
    f.read depth (gap ++ (t ++ rest)) = .ok (store, rest)

/-- Storing what is written for `v` in the given fields, one after the other and beginning with
`w`, gives `v` back. Fields that may be missing may be left out. -/
inductive Restores (n : Nat) (v : σ) : List (Field σ) → σ → Prop
  | done : Restores n v [] v
  | stored {f : Field σ} {fs : List (Field σ)} {w : σ} {store : σ → σ} (h : f.Stores n v store)
      (rest : Restores n v fs (store w)) : Restores n v (f :: fs) w
  | omitted {f : Field σ} {fs : List (Field σ)} {w : σ} (h : ∀ indent, f.write indent v = none)
      (hrequired : f.isRequired = false) (rest : Restores n v fs w) : Restores n v (f :: fs) w

/-- A field stores its part when its codec reads back; when it is left out, storing the part must
change nothing. -/
theorem Restores.of {isRequired : Bool} {omits : α → Bool} {c : Codec α} {part : Part σ α}
    (hc : c.Lawful n)
    (hstays : omits (part.get v) = true → isRequired = false ∧ part.set (part.get v) w = w)
    (rest : Restores n v fs (part.set (part.get v) w)) :
    Restores n v (.of key isRequired omits c part :: fs) w := by
  by_cases hwritten : omits (part.get v) = true
  · -- the part is left out, and is what it is at the start of reading
    obtain ⟨hrequired, hsame⟩ := hstays hwritten
    rw [hsame] at rest
    exact .omitted (fun indent => if_pos hwritten) hrequired rest
  · have hstores : (Field.of key isRequired omits c part).Stores n v (part.set (part.get v)) := by
      refine ⟨fun indent => by simp [Field.of, hwritten], ?_⟩
      intro depth indent gap rest t hdepth hgap ht
      have htext : c.write indent (part.get v) = t := by simpa [Field.of, hwritten] using ht
      show (c.read depth (gap ++ (t ++ rest)) >>= _) = _
      rw [← htext, hc.readsBack _ depth indent gap rest hdepth hgap, ok_bind]
    exact .stored hstores rest

theorem Restores.required {c : Codec α} {part : Part σ α} (hc : c.Lawful n)
    (rest : Restores n v fs (part.set (part.get v) w)) :
    Restores n v (.required key c part :: fs) w :=
  .of hc nofun rest

theorem Restores.text {part : Part σ String} (hw : part.set "" w = w)
    (rest : Restores n v fs (part.set (part.get v) w)) :
    Restores n v (.text key part :: fs) w :=
  .of lawful_text (fun h => ⟨rfl, by rw [String.isEmpty_iff.mp h, hw]⟩) rest

theorem Restores.list {c : Codec α} {part : Part σ (List α)} (hc : c.Lawful n)
    (hw : part.set [] w = w) (rest : Restores (n + 1) v fs (part.set (part.get v) w)) :
    Restores (n + 1) v (.list key c part :: fs) w :=
  .of (lawful_listOf hc) (fun h => ⟨rfl, by rw [List.isEmpty_iff.mp h, hw]⟩) rest

theorem Restores.flag {c : Codec Bool} {part : Part σ Bool} (hc : c.Lawful n)
    (hw : part.set false w = w) (rest : Restores n v fs (part.set (part.get v) w)) :
    Restores n v (.flag key c part :: fs) w :=
  .of hc (fun h => ⟨rfl, by rw [(Bool.not_eq_true' _).mp h, hw]⟩) rest

/-- Another key to read a field under makes no difference to how it is written. -/
theorem Restores.orKey {f : Field σ} {old : String} (h : Restores n v (f :: fs) w) :
    Restores n v (f.orKey old :: fs) w := by
  cases h with
  | stored hf rest => exact .stored ⟨hf.written, hf.reads⟩ rest
  | omitted hnone hrequired rest => exact .omitted hnone hrequired rest

end

/-! ## Records -/

section

variable {σ : Type} {n : Nat} {r : Record σ}

/-- The member that a field writes for a value, if it writes one. -/
def Field.written? (indent : Nat) (v : σ) (f : Field σ) : Option (List Char) :=
  (f.write indent v).map fun t => writtenString f.key ++ ':' :: ' ' :: t

theorem Field.isKey_key (f : Field σ) : f.isKey f.key = true := by
  simp [Field.isKey]

/-- A table that tells its fields apart finds each by its own key. -/
theorem find?_isKey {fs : List (Field σ)} (hkeys : fs.Pairwise fun f g => f.isKey g.key = false)
    {f : Field σ} (hf : f ∈ fs) : fs.find? (fun g => g.isKey f.key) = some f := by
  induction fs with
  | nil => cases hf
  | cons g fs ih =>
    rw [List.pairwise_cons] at hkeys
    rcases List.mem_cons.mp hf with rfl | hf
    · rw [List.find?_cons, f.isKey_key]
    · rw [List.find?_cons, hkeys.1 f hf]
      exact ih hkeys.2 hf

/-- What a record writes in its fields are members that read back and store the value. -/
theorem Restores.members {v w : σ} {fs : List (Field σ)} (h : Restores n v fs w)
    (indent depth : Nat) (hdepth : n ≤ depth) : ∃ ms : List (Member σ),
      fs.filterMap (Field.written? indent v) = ms.map Member.written ∧
      (ms.map Member.field).Sublist fs ∧
      (∀ f ∈ fs, f.isRequired = true → f ∈ ms.map Member.field) ∧
      (∀ m ∈ ms, ∀ gap rest, Blank gap →
        m.field.read depth (gap ++ (m.text ++ rest)) = .ok (m.store, rest)) ∧
      ms.foldl (fun w m => m.store w) w = v := by
  -- the members are the fields that store, in the order of the table
  induction h with
  | done => exact ⟨[], rfl, .slnil, nofun, nofun, rfl⟩
  | @stored f fs w store hf rest ih =>
    obtain ⟨ms, hwritten, hsub, hrequired, hreads, hstore⟩ := ih
    obtain ⟨t, ht⟩ := Option.isSome_iff_exists.mp (hf.written indent)
    refine ⟨⟨f, t, store⟩ :: ms, ?_, hsub.cons_cons f, ?_, ?_, hstore⟩
    · have hmember : f.written? indent v = some (Member.written ⟨f, t, store⟩) := by
        rw [Field.written?, ht]
        rfl
      rw [List.filterMap_cons_some hmember, hwritten, List.map_cons]
    · intro g hg hreq
      rcases List.mem_cons.mp hg with rfl | hg
      · exact List.mem_cons_self
      · exact List.mem_cons_of_mem _ (hrequired g hg hreq)
    · intro m hm gap rest hgap
      rcases List.mem_cons.mp hm with rfl | hm
      · exact hf.reads depth indent gap rest t hdepth hgap ht
      · exact hreads m hm gap rest hgap
  | @omitted f fs w hnone hopt rest ih =>
    obtain ⟨ms, hwritten, hsub, hrequired, hreads, hstore⟩ := ih
    refine ⟨ms, ?_, hsub.cons f, ?_, hreads, hstore⟩
    · have hmember : f.written? indent v = none := by rw [Field.written?, hnone, Option.map_none]
      rw [List.filterMap_cons_none hmember, hwritten]
    · intro g hg hreq
      rcases List.mem_cons.mp hg with rfl | hg
      · rw [hopt] at hreq
        cases hreq
      · exact hrequired g hg hreq

theorem write_record (indent : Nat) (v : σ) :
    ∃ tail, r.codec.write indent v = '\x7b' :: tail := by
  have hblock : ∀ parts, ∃ tail, writtenBlock '\x7b' '\x7d' indent parts = '\x7b' :: tail := by
    intro parts
    cases parts <;> exact ⟨_, rfl⟩
  exact hblock _

/-- A record is read back when its table tells the fields apart and the fields restore every
value. -/
theorem lawful_record (hkeys : r.fields.Pairwise fun f g => f.isKey g.key = false)
    (h : ∀ v, Restores n v r.fields r.start) : r.codec.Lawful (n + 1) := by
  refine ⟨fun v depth indent gap rest hdepth hgap => ?_, fun indent v => ?_⟩
  · obtain ⟨ms, hwritten, hsub, hrequired, hreads, hstore⟩ :=
      (h v).members (indent + 2) (depth - 1) (by omega)
    have hmem : ∀ m ∈ ms, m.field ∈ r.fields := fun m hm => hsub.mem (List.mem_map_of_mem hm)
    -- two members of one key would be fields that the table does not tell apart
    have hnodup : (ms.map (·.field.key)).Nodup := by
      have hpairs := hkeys.sublist hsub
      rw [List.pairwise_map] at hpairs
      rw [List.Nodup, List.pairwise_map]
      refine hpairs.imp fun {m m'} hkey heq => ?_
      rw [← heq, Field.isKey_key] at hkey
      cases hkey
    have hread := read_record indent ms
      (fun m hm => ⟨find?_isKey hkeys (hmem m hm), hreads m hm⟩) hnodup
      (fun f hf hreq => by
        obtain ⟨m, hm, rfl⟩ := List.mem_map.mp (hrequired f hf hreq)
        exact List.mem_map_of_mem hm) hgap rest
    rw [← hwritten, hstore] at hread
    exact hread
  · obtain ⟨tail, htail⟩ := write_record (r := r) indent v
    exact ⟨_, tail, htail, rfl, by decide⟩

/-- A record that may be `null` is read back: neither form begins like the other. -/
theorem lawful_nullable (hr : r.codec.Lawful n) : (nullable r.codec).Lawful n := by
  refine ⟨fun v depth indent gap rest hdepth hgap => ?_, fun indent v => ?_⟩
  · unfold nullable
    simp only
    rw [skipGap_append hgap]
    cases v with
    | none => rfl
    | some x =>
      obtain ⟨tail, htail⟩ := write_record (r := r) indent x
      have hread := hr.readsBack x depth indent [] rest hdepth nofun
      simp only [htail, List.nil_append, List.cons_append] at hread ⊢
      rw [skipGap_cons (by rfl)]
      show (r.codec.read depth _ >>= _) = _
      rw [hread, ok_bind]
  · cases v with
    | none => exact ⟨'n', _, rfl, rfl, by decide⟩
    | some x => exact hr.opens indent x

theorem Restores.option {τ : Type} {v w : τ} {fs : List (Field τ)} {key : String}
    {part : Part τ (Option σ)} (hr : r.codec.Lawful n) (hw : part.set none w = w)
    (rest : Restores n v fs (part.set (part.get v) w)) :
    Restores n v (.option key r.codec part :: fs) w :=
  .of (lawful_nullable hr) (fun h => ⟨rfl, by rw [Option.isNone_iff_eq_none.mp h, hw]⟩) rest

end

end DeviceSpec.Json
