import DeviceSpec.Json.Codec

/-!
# Reading what was written

A value that a codec writes is read back as it was, whatever blanks stand before it and whatever
follows it.

* **strings** — every character comes back, escaped or not (`string_written`);
* **lists** — a list comes back when its elements do (`lawful_listOf`);
* **records** — the members of an object store their values one after the other
  (`members_written`, `read_record`);
* **documents** — what is read with anything after it is read from a document of its own
  (`decode_encode`).
-/

namespace DeviceSpec.Json

/-- Nothing but blanks. -/
def Blank (gap : List Char) : Prop := ∀ c ∈ gap, isGap c = true

/-- The value is read back from what is written for it, at all indentations, in any surroundings,
when at least `n` more containers may be opened. -/
def Codec.ReadsBack {α : Type} (c : Codec α) (n : Nat) (v : α) : Prop :=
  ∀ depth indent gap rest, n ≤ depth → Blank gap →
    c.read depth (gap ++ (c.write indent v ++ rest)) = .ok (v, rest)

/-- All values are read back, and what is written for one is told from the end of a list. -/
structure Codec.Lawful {α : Type} (c : Codec α) (n : Nat) : Prop where
  readsBack : ∀ v, c.ReadsBack n v
  opens : ∀ indent v, ∃ ch tail, c.write indent v = ch :: tail ∧ isGap ch = false ∧ ch ≠ ']'

@[simp] theorem ok_bind {ε α β : Type} (a : α) (f : α → Except ε β) :
    (Except.ok a >>= f) = f a := rfl

/-! ## Blanks -/

theorem skipGap_append {gap : List Char} (h : Blank gap) (cs : List Char) :
    skipGap (gap ++ cs) = skipGap cs := by
  induction gap with
  | nil => rfl
  | cons c gap ih =>
    have hc : isGap c = true := h c List.mem_cons_self
    have hgap : Blank gap := fun d hd => h d (List.mem_cons_of_mem c hd)
    simpa [skipGap, hc] using ih hgap

theorem skipGap_cons {c : Char} (h : isGap c = false) (cs : List Char) :
    skipGap (c :: cs) = c :: cs := by
  simp [skipGap, h]

/-- What counts is found after blanks. -/
theorem skipGap_blank {gap : List Char} {c : Char} (h : Blank gap) (hc : isGap c = false)
    (cs : List Char) : skipGap (gap ++ c :: cs) = c :: cs := by
  rw [skipGap_append h, skipGap_cons hc]

/-- The start of a line. -/
def lineStart (indent : Nat) : List Char := '\n' :: List.replicate indent ' '

theorem blank_lineStart (indent : Nat) : Blank (lineStart indent) := by
  intro c hc
  rcases List.mem_cons.mp hc with rfl | hc
  · rfl
  · rw [List.eq_of_mem_replicate hc]
    rfl

/-! ## Strings -/

/-- The two digits of a control character are read back. -/
theorem hexEscape_control {n : Nat} (h : n < 0x20) (rest : List Char) :
    hexEscape ('0' :: '0' :: Nat.digitChar (n / 16) :: Nat.digitChar (n % 16) :: rest) =
      .ok (n, rest) := by
  have hsize : ∀ n < 0x20, (String.ofList
      ['0', '0', Nat.digitChar (n / 16), Nat.digitChar (n % 16)]).utf8ByteSize = 4 := by decide
  have hhigh : ∀ n < 0x20, hexDigit? (Nat.digitChar (n / 16)) = some (n / 16) := by decide
  have hlow : ∀ n < 0x20, hexDigit? (Nat.digitChar (n % 16)) = some (n % 16) := by decide
  have hzero : hexDigit? '0' = some 0 := by decide
  have htake : ('0' :: '0' :: Nat.digitChar (n / 16) :: Nat.digitChar (n % 16) :: rest).take 4 =
      ['0', '0', Nat.digitChar (n / 16), Nat.digitChar (n % 16)] := rfl
  unfold hexEscape
  rw [htake, hsize n h, if_neg (by omega)]
  simp only [hhigh n h, hlow n h, hzero, Except.ok.injEq, Prod.mk.injEq, and_true]
  omega

theorem escape_control {c : Char} (h : c.toNat < 0x20) (rest : List Char) :
    escape ('u' :: '0' :: '0' :: Nat.digitChar (c.toNat / 16) ::
      Nat.digitChar (c.toNat % 16) :: rest)
      = .ok (c, rest) := by
  have hlow : isLowSurrogate c.toNat = false := by
    simp only [isLowSurrogate, Bool.and_eq_false_iff, decide_eq_false_iff_not]
    omega
  have hhigh : isHighSurrogate c.toNat = false := by
    simp only [isHighSurrogate, Bool.and_eq_false_iff, decide_eq_false_iff_not]
    omega
  simp [escape, hexEscape_control h, hlow, hhigh]

/-- A character that stands for itself takes one step. -/
theorem stringBody_cons {c : Char} (hquote : c ≠ '"') (hslash : c ≠ '\\') (hc : ¬ c.toNat < 0x20)
    (fuel : Nat) (cs : List Char) :
    stringBody (fuel + 1) (c :: cs) =
      (stringBody fuel cs >>= fun x => .ok (c :: x.1, x.2)) := by
  conv => lhs; unfold stringBody
  split
  · rename_i h
    cases h
  · rename_i h
    exact absurd (List.cons.inj h).1 hquote
  · rename_i h
    exact absurd (List.cons.inj h).1 hslash
  · rename_i h
    obtain ⟨rfl, rfl⟩ := List.cons.inj h
    rw [if_neg hc]

/-- A written character is read back in one step. -/
theorem stringBody_writtenChar (fuel : Nat) (c : Char) (cs : List Char) :
    stringBody (fuel + 1) (writtenChar c ++ cs) =
      (stringBody fuel cs >>= fun x => .ok (c :: x.1, x.2)) := by
  unfold writtenChar
  split
  -- the characters that are escaped with a letter
  iterate 7 · rfl
  · split
    · rename_i hc
      simp only [List.cons_append, List.nil_append, stringBody, escape_control hc, ok_bind]
    · rename_i hquote hslash _ _ _ _ _ hc
      exact stringBody_cons hquote hslash hc fuel cs

theorem stringBody_written (s : List Char) (rest : List Char) {fuel : Nat} (h : s.length < fuel) :
    stringBody fuel (s.flatMap writtenChar ++ '"' :: rest) = .ok (s, rest) := by
  -- every character takes one unit of fuel, however many are written for it
  induction s generalizing fuel with
  | nil =>
    obtain ⟨fuel, rfl⟩ := Nat.exists_eq_succ_of_ne_zero (Nat.ne_of_gt h)
    rfl
  | cons c s ih =>
    obtain ⟨fuel, rfl⟩ := Nat.exists_eq_succ_of_ne_zero (Nat.ne_of_gt (Nat.zero_lt_of_lt h))
    rw [List.length_cons] at h
    rw [List.flatMap_cons, List.append_assoc, stringBody_writtenChar, ih (by omega), ok_bind]

theorem length_le_written (s : List Char) : s.length ≤ (s.flatMap writtenChar).length := by
  induction s with
  | nil => exact Nat.le_refl _
  | cons c s ih =>
    have hc : 0 < (writtenChar c).length := by
      unfold writtenChar
      split <;> try exact Nat.succ_pos _
      split <;> exact Nat.succ_pos _
    rw [List.flatMap_cons, List.length_cons, List.length_append]
    omega

/-- A string is read back, up to its closing quotation mark. -/
theorem string_written (s : String) (rest : List Char) :
    string (s.toList.flatMap writtenChar ++ '"' :: rest) = .ok (s, rest) := by
  have hlength := length_le_written s.toList
  unfold string
  rw [stringBody_written, ok_bind]
  · simp only [String.ofList_toList]
  · rw [List.length_append]
    omega

theorem writtenString_append (s : String) (rest : List Char) :
    writtenString s ++ rest = '"' :: (s.toList.flatMap writtenChar ++ '"' :: rest) := by
  simp [writtenString]

/-- A string that is written is found after blanks. -/
theorem skipGap_written {gap : List Char} (h : Blank gap) (s : String) (rest : List Char) :
    skipGap (gap ++ (writtenString s ++ rest)) =
      '"' :: (s.toList.flatMap writtenChar ++ '"' :: rest) := by
  rw [writtenString_append, skipGap_blank h rfl]

theorem lawful_textNamed (kind : String) : (textNamed kind).Lawful 0 := by
  refine ⟨fun s depth indent gap rest _ hgap => ?_, fun _ s => ⟨'"', _, rfl, rfl, by decide⟩⟩
  unfold textNamed
  simp only
  rw [skipGap_written hgap]
  exact string_written s rest

/-! ## Lists -/

/-- What follows the first part of a block: the further parts and the closing bracket. -/
def blockTail (closing : Char) (indent : Nat) (parts : List (List Char)) : List Char :=
  parts.flatMap (fun p => ',' :: (lineStart (indent + 2) ++ p)) ++ (lineStart indent ++ [closing])

theorem blockTail_cons (closing : Char) (indent : Nat) (part : List Char)
    (parts : List (List Char)) (rest : List Char) :
    blockTail closing indent (part :: parts) ++ rest =
      ',' :: (lineStart (indent + 2) ++ (part ++ (blockTail closing indent parts ++ rest))) := by
  simp [blockTail]

theorem writtenBlock_cons (opening closing : Char) (indent : Nat) (part : List Char)
    (parts : List (List Char)) (rest : List Char) :
    writtenBlock opening closing indent (part :: parts) ++ rest =
      opening ::
        (lineStart (indent + 2) ++ (part ++ (blockTail closing indent parts ++ rest))) := by
  simp [writtenBlock, blockTail, lineStart]

/-- The end of a block. -/
theorem skipGap_blockTail_nil {closing : Char} (h : isGap closing = false) (indent : Nat)
    (rest : List Char) : skipGap (blockTail closing indent [] ++ rest) = closing :: rest := by
  have htail : blockTail closing indent [] ++ rest = lineStart indent ++ closing :: rest := by
    simp [blockTail]
  rw [htail, skipGap_blank (blank_lineStart indent) h]

theorem length_lt_blockTail (closing : Char) (indent : Nat) (parts : List (List Char)) :
    parts.length < (blockTail closing indent parts).length := by
  induction parts with
  | nil => simp [blockTail]
  | cons part parts ih =>
    have hcons := blockTail_cons closing indent part parts []
    rw [List.append_nil, List.append_nil] at hcons
    rw [hcons]
    simp only [List.length_cons, List.length_append]
    omega

/-- The first element of a list is something that does not close it. -/
theorem nextItem_first {cs tail : List Char} {ch : Char} (hcs : skipGap cs = ch :: tail)
    (hclose : ch ≠ ']') : nextItem true cs = .ok (true, ch :: tail) := by
  rw [nextItem, hcs]
  split
  · rename_i heq
    cases heq
  · rename_i heq
    exact absurd (List.cons.inj heq).1 hclose
  · rename_i heq
    rw [← heq]
    rfl

/-- Another element follows: a comma, and something that does not close the list. -/
theorem nextItem_comma {cs rest tail : List Char} {ch : Char} (hcs : skipGap cs = ',' :: rest)
    (hrest : skipGap rest = ch :: tail) (hclose : ch ≠ ']') :
    nextItem false cs = .ok (true, ch :: tail) := by
  simp only [nextItem, hcs, ↓Char.isValue, Char.reduceEq, imp_self, Bool.false_eq_true,
    ↓reduceIte, hrest]
  -- after the comma the list must not be closed
  split
  · rename_i heq
    cases heq
  · rename_i heq
    exact absurd (List.cons.inj heq).1 hclose
  · rfl

theorem items_next {α : Type} {item : List Char → Except Error (α × List Char)} {first : Bool}
    {cs cs' rest : List Char} {x : α} (hnext : nextItem first cs = .ok (true, cs'))
    (hx : item cs' = .ok (x, rest)) (fuel : Nat) :
    items item (fuel + 1) first cs =
      (items item fuel false rest >>= fun y => .ok (x :: y.1, y.2)) := by
  rw [items, hnext, ok_bind]
  simp only [if_true, hx, ok_bind]

/-- The elements of a list after the first are read back, up to the closing bracket. -/
theorem items_written {α : Type} {c : Codec α} {n : Nat} (hc : c.Lawful n) (depth indent : Nat)
    (hdepth : n ≤ depth) (xs : List α) (rest : List Char) {fuel : Nat} (h : xs.length < fuel) :
    items (c.read depth) fuel false
        (blockTail ']' indent (xs.map (c.write (indent + 2))) ++ rest) = .ok (xs, rest) := by
  induction xs generalizing fuel with
  | nil =>
    obtain ⟨fuel, rfl⟩ := Nat.exists_eq_succ_of_ne_zero (Nat.ne_of_gt h)
    simp [items, nextItem, skipGap_blockTail_nil (by rfl : isGap ']' = false)]
  | cons x xs ih =>
    obtain ⟨fuel, rfl⟩ := Nat.exists_eq_succ_of_ne_zero (Nat.ne_of_gt (Nat.zero_lt_of_lt h))
    rw [List.length_cons] at h
    obtain ⟨ch, tail, hwrite, hgap, hclose⟩ := hc.opens (indent + 2) x
    have hread := hc.readsBack x depth (indent + 2) []
      (blockTail ']' indent (xs.map (c.write (indent + 2))) ++ rest) hdepth nofun
    rw [List.nil_append, hwrite, List.cons_append] at hread
    rw [List.map_cons, blockTail_cons, hwrite, List.cons_append,
      items_next (nextItem_comma (skipGap_cons rfl _) (skipGap_blank (blank_lineStart _) hgap _)
        hclose) hread, ih (by omega), ok_bind]

theorem read_listOf {α : Type} (c : Codec α) (depth : Nat) {gap : List Char} (hgap : Blank gap)
    (cs : List Char) :
    (listOf c).read depth (gap ++ '[' :: cs) = list (c.read (depth - 1)) cs := by
  unfold listOf
  simp only
  rw [skipGap_blank hgap rfl]
  rfl

/-- Lists are read back when their elements are. -/
theorem lawful_listOf {α : Type} {c : Codec α} {n : Nat} (hc : c.Lawful n) :
    (listOf c).Lawful (n + 1) := by
  refine ⟨fun xs depth indent gap rest hdepth hgap => ?_, fun indent xs => ?_⟩
  · have hwrite : (listOf c).write indent xs =
      writtenBlock '[' ']' indent (xs.map (c.write (indent + 2))) := rfl
    cases xs with
    | nil =>
      rw [hwrite]
      exact read_listOf c depth hgap (']' :: rest)
    | cons x xs =>
      -- no comma stands before the first element, so it is not one of the others
      obtain ⟨ch, tail, hx, hgap', hclose⟩ := hc.opens (indent + 2) x
      have hfirst := hc.readsBack x (depth - 1) (indent + 2) []
        (blockTail ']' indent (xs.map (c.write (indent + 2))) ++ rest) (by omega) nofun
      have hlength := length_lt_blockTail ']' indent (xs.map (c.write (indent + 2)))
      rw [List.nil_append, hx, List.cons_append] at hfirst
      rw [hwrite, List.map_cons, writtenBlock_cons, read_listOf c depth hgap, hx, List.cons_append]
      unfold list
      rw [items_next (nextItem_first (skipGap_blank (blank_lineStart _) hgap' _) hclose) hfirst,
        items_written hc (depth - 1) indent (by omega) xs rest, ok_bind]
      rw [List.length_map] at hlength
      simp only [List.length_append, List.length_cons]
      omega
  · cases xs with
    | nil => exact ⟨'[', _, rfl, rfl, by decide⟩
    | cons x xs => exact ⟨'[', _, rfl, rfl, by decide⟩

/-! ## Records -/

/-- A member of an object as it is written: its field, the text of the value, and what reading the
value stores. -/
structure Member (σ : Type) where
  field : Field σ
  text : List Char
  store : σ → σ

/-- The text of a member. -/
def Member.written {σ : Type} (m : Member σ) : List Char :=
  writtenString m.field.key ++ ':' :: ' ' :: m.text

/-- The record knows the member's field by its key, and the value is read back. -/
structure Member.ReadsBack {σ : Type} (m : Member σ) (r : Record σ) (depth : Nat) : Prop where
  found : r.fields.find? (fun f => f.isKey m.field.key) = some m.field
  reads : ∀ gap rest, Blank gap →
    m.field.read depth (gap ++ (m.text ++ rest)) = .ok (m.store, rest)

/-- The first member of an object begins with its key. -/
theorem nextKey_first {cs tail : List Char} (hcs : skipGap cs = '"' :: tail) :
    nextKey true cs = nextKey.key tail := by
  rw [nextKey, hcs]
  rfl

/-- Another member follows: a comma and a key. -/
theorem nextKey_comma {cs rest tail : List Char} (hcs : skipGap cs = ',' :: rest)
    (hrest : skipGap rest = '"' :: tail) : nextKey false cs = nextKey.key tail := by
  simp [nextKey, hcs, hrest]

theorem key_written (key : String) (rest : List Char) :
    nextKey.key (key.toList.flatMap writtenChar ++ '"' :: rest) = .ok (some key, rest) := by
  rw [nextKey.key, string_written]
  rfl

section Members

variable {σ : Type} {r : Record σ} {depth : Nat}

/-- One member: its value is stored and its key is seen. -/
theorem members_next {m : Member σ} (hm : m.ReadsBack r depth) {first : Bool} {cs rest : List Char}
    (hnext : nextKey first cs = .ok (some m.field.key, ':' :: ' ' :: (m.text ++ rest)))
    {seen : List String} (hseen : m.field.key ∉ seen) (fuel : Nat) (v : σ) :
    r.members depth (fuel + 1) first seen v cs =
      r.members depth fuel false (m.field.key :: seen) (m.store v) rest := by
  have hblank : Blank [' '] := by
    intro c hc
    rw [List.mem_singleton.mp hc]
    rfl
  have hcolon : colon (':' :: ' ' :: (m.text ++ rest)) = .ok ([' '] ++ (m.text ++ rest)) := rfl
  rw [Record.members, hnext, ok_bind]
  simp only [hm.found, hcolon, ok_bind, hm.reads [' '] rest hblank]
  rw [if_neg (by simpa using hseen)]

/-- The members of an object after the first are read back, up to the closing brace. -/
theorem members_written (indent : Nat) {ms : List (Member σ)}
    (hms : ∀ m ∈ ms, m.ReadsBack r depth) {seen : List String}
    (hkeys : (ms.map (·.field.key)).Nodup) (hseen : ∀ m ∈ ms, m.field.key ∉ seen)
    (hall : ∀ f ∈ r.fields, f.isRequired = true →
      f.key ∈ seen ∨ f.key ∈ ms.map (·.field.key))
    (v : σ) (rest : List Char) {fuel : Nat} (h : ms.length < fuel) :
    r.members depth fuel false seen v (blockTail '\x7d' indent (ms.map Member.written) ++ rest) =
      .ok (ms.foldl (fun w m => m.store w) v, rest) := by
  -- a key is either seen already or still to come, so none is seen twice and none is missing
  induction ms generalizing fuel seen v with
  | nil =>
    obtain ⟨fuel, rfl⟩ := Nat.exists_eq_succ_of_ne_zero (Nat.ne_of_gt h)
    have hnext : nextKey false (blockTail '\x7d' indent [] ++ rest) = .ok (none, rest) := by
      unfold nextKey
      rw [skipGap_blockTail_nil (by rfl)]
      rfl
    have hnone : r.fields.find? (fun f => f.isRequired && !seen.contains f.key) = none := by
      rw [List.find?_eq_none]
      intro f hf
      by_cases hreq : f.isRequired = true
      · have := hall f hf hreq
        simp at this
        simp [this]
      · simp [hreq]
    rw [List.map_nil, Record.members, hnext, ok_bind]
    simp only [hnone]
    rfl
  | cons m ms ih =>
    obtain ⟨fuel, rfl⟩ := Nat.exists_eq_succ_of_ne_zero (Nat.ne_of_gt (Nat.zero_lt_of_lt h))
    rw [List.length_cons] at h
    rw [List.map_cons, List.nodup_cons] at hkeys
    have hnext := (nextKey_comma (skipGap_cons rfl _)
      (skipGap_written (blank_lineStart (indent + 2)) m.field.key _)).trans (key_written _
        (':' :: ' ' :: (m.text ++ (blockTail '\x7d' indent (ms.map Member.written) ++ rest))))
    rw [List.map_cons, blockTail_cons, Member.written, List.append_assoc, List.cons_append,
      List.cons_append, members_next (hms m List.mem_cons_self) hnext (hseen m List.mem_cons_self)]
    refine ih (fun n hn => hms n (List.mem_cons_of_mem _ hn)) hkeys.2 ?_ ?_ _ (by omega)
    · intro n hn hmem
      rcases List.mem_cons.mp hmem with heq | hmem
      · exact hkeys.1 (heq ▸ List.mem_map_of_mem hn)
      · exact hseen n (List.mem_cons_of_mem _ hn) hmem
    · intro f hf hreq
      rcases hall f hf hreq with hmem | hmem
      · exact .inl (List.mem_cons_of_mem _ hmem)
      · rcases List.mem_cons.mp hmem with heq | hmem
        · exact .inl (heq ▸ List.mem_cons_self)
        · exact .inr hmem

/-- A record is read back from its members: each stores its value, one after the other. -/
theorem read_record (indent : Nat) (ms : List (Member σ))
    (hms : ∀ m ∈ ms, m.ReadsBack r (depth - 1)) (hkeys : (ms.map (·.field.key)).Nodup)
    (hall : ∀ f ∈ r.fields, f.isRequired = true → f.key ∈ ms.map (·.field.key))
    {gap : List Char} (hgap : Blank gap) (rest : List Char) :
    r.codec.read depth
        (gap ++ (writtenBlock '\x7b' '\x7d' indent (ms.map Member.written) ++ rest)) =
      .ok (ms.foldl (fun w m => m.store w) r.start, rest) := by
  have hread : ∀ cs, r.codec.read depth (gap ++ '\x7b' :: cs) =
      r.members (depth - 1) (cs.length + 1) true [] r.start cs := by
    intro cs
    unfold Record.codec
    simp only
    rw [skipGap_blank hgap rfl]
    rfl
  cases ms with
  | nil =>
    have hnone : r.fields.find? (fun f => f.isRequired && !([] : List String).contains f.key) =
        none := by
      rw [List.find?_eq_none]
      intro f hf
      by_cases hreq : f.isRequired = true
      · exact absurd (hall f hf hreq) List.not_mem_nil
      · simp [hreq]
    have hnext : nextKey true ('\x7d' :: rest) = .ok (none, rest) := rfl
    refine (hread ('\x7d' :: rest)).trans ?_
    rw [Record.members, hnext, ok_bind]
    simp only [hnone]
    rfl
  | cons m ms =>
    rw [List.map_cons, List.nodup_cons] at hkeys
    have hnext := (nextKey_first
      (skipGap_written (blank_lineStart (indent + 2)) m.field.key _)).trans (key_written _
        (':' :: ' ' :: (m.text ++ (blockTail '\x7d' indent (ms.map Member.written) ++ rest))))
    have hlength := length_lt_blockTail '\x7d' indent (ms.map Member.written)
    rw [List.length_map] at hlength
    rw [List.map_cons, writtenBlock_cons, hread, Member.written, List.append_assoc,
      List.cons_append, List.cons_append,
      members_next (hms m List.mem_cons_self) hnext List.not_mem_nil]
    refine members_written indent (fun n hn => hms n (List.mem_cons_of_mem _ hn)) hkeys.2 ?_ ?_ _
      rest ?_
    · intro n hn hmem
      rw [List.mem_singleton] at hmem
      exact hkeys.1 (hmem ▸ List.mem_map_of_mem hn)
    · intro f hf hreq
      rcases List.mem_cons.mp (hall f hf hreq) with heq | hmem
      · exact .inl (heq ▸ List.mem_cons_self)
      · exact .inr hmem
    · simp only [List.length_append, List.length_cons]
      omega

end Members

/-! ## Documents -/

/-- A value that is read back with anything after it is what its document decodes to. -/
theorem decode_encode {α : Type} {c : Codec α} {n : Nat} {v : α} (h : c.ReadsBack n v)
    (hn : n ≤ depthLimit) : c.decode (c.encode v) = .ok v := by
  have hread := h depthLimit 0 [] ['\n'] hn nofun
  rw [List.nil_append] at hread
  unfold Codec.decode Codec.encode
  rw [String.toList_ofList, hread, ok_bind]
  rfl

end DeviceSpec.Json
