import DeviceSpec.Proofs.Json.ReadBack

/-!
# Documents as trees

A document is the text of a value: `null`, a flag, a number, a string, a list or an object. The
tree of a document keeps numbers and strings as they are spelled, and forgets the blanks.

* **grammar** — `Spells v cs rest`: the document `cs` begins with a text of the value `v`, and
  `rest` follows it. Blanks may stand before every piece;
* **ends** — where a value of a container ends, so does a number (`Items.ends`, `Members.ends`).
-/

namespace DeviceSpec.Json

/-! ## The grammar -/

/-- A value of a document. Numbers, strings and keys are kept as they are spelled; of strings and
keys that is what stands between the quotation marks. -/
inductive Value where
  | null
  | flag (b : Bool)
  | number (digits : List Char)
  | text (body : List Char)
  | list (items : List Value)
  | object (members : List (List Char × Value))

/-- The characters that may stand after a backslash, `u` aside. -/
def shortEscapes : List Char := ['"', '\\', '/', 'b', 'f', 'n', 'r', 't']

/-- What may stand between the quotation marks of a string. -/
inductive Body : List Char → Prop
  | done : Body []
  | plain {c : Char} {cs : List Char} (hquote : c ≠ '"') (hslash : c ≠ '\\')
      (hcontrol : ¬ c.toNat < 0x20) (rest : Body cs) : Body (c :: cs)
  | short {c : Char} {cs : List Char} (hc : c ∈ shortEscapes) (rest : Body cs) :
      Body ('\\' :: c :: cs)
  | unicode {a b c d : Char} {cs : List Char} {k l m n : Nat} (ha : hexDigit? a = some k)
      (hb : hexDigit? b = some l) (hc : hexDigit? c = some m) (hd : hexDigit? d = some n)
      (rest : Body cs) : Body ('\\' :: 'u' :: a :: b :: c :: d :: cs)

/-- One digit or more. -/
def Digits (cs : List Char) : Prop := cs ≠ [] ∧ ∀ c ∈ cs, c.isDigit = true

/-- The fraction of a number, if it has one. -/
def Fraction (cs : List Char) : Prop := cs = [] ∨ ∃ digits, Digits digits ∧ cs = '.' :: digits

/-- The exponent of a number, if it has one. -/
def Exponent (cs : List Char) : Prop :=
  cs = [] ∨ ∃ letter sign digits, letter ∈ ['e', 'E'] ∧ sign ∈ [[], ['+'], ['-']] ∧
    Digits digits ∧ cs = letter :: (sign ++ digits)

/-- A number without its sign: no zero stands before its other digits. -/
def Magnitude (cs : List Char) : Prop :=
  ∃ whole fraction exponent, Digits whole ∧ (whole.head? = some '0' → whole = ['0']) ∧
    Fraction fraction ∧ Exponent exponent ∧ cs = whole ++ (fraction ++ exponent)

/-- A number. -/
def Numeral (cs : List Char) : Prop := Magnitude cs ∨ ∃ size, Magnitude size ∧ cs = '-' :: size

/-- Blanks, and then `rest`. -/
def Gap (cs rest : List Char) : Prop := ∃ gap, Blank gap ∧ cs = gap ++ rest

/-- A number ends here: nothing follows, or a blank, a comma or a closing bracket. -/
def Ends (rest : List Char) : Prop :=
  ∀ c ∈ rest.head?, isGap c = true ∨ c = ',' ∨ c = ']' ∨ c = '}'

/-- What stands before a part of a container: a comma, unless it is the first. -/
def Comma (first : Bool) (cs rest : List Char) : Prop :=
  if first then cs = rest else Gap cs (',' :: rest)

mutual
/-- The document begins with the value, and `rest` follows it. -/
inductive Spells : Value → List Char → List Char → Prop
  | null {cs rest : List Char} (h : Gap cs ('n' :: 'u' :: 'l' :: 'l' :: rest)) :
      Spells .null cs rest
  | on {cs rest : List Char} (h : Gap cs ('t' :: 'r' :: 'u' :: 'e' :: rest)) :
      Spells (.flag true) cs rest
  | off {cs rest : List Char} (h : Gap cs ('f' :: 'a' :: 'l' :: 's' :: 'e' :: rest)) :
      Spells (.flag false) cs rest
  | number {digits cs rest : List Char} (h : Gap cs (digits ++ rest)) (hnumeral : Numeral digits)
      (hends : Ends rest) : Spells (.number digits) cs rest
  | text {body cs rest : List Char} (h : Gap cs ('"' :: (body ++ '"' :: rest)))
      (hbody : Body body) : Spells (.text body) cs rest
  | list {items : List Value} {cs inside rest : List Char} (h : Gap cs ('[' :: inside))
      (hitems : Items true items inside rest) : Spells (.list items) cs rest
  | object {members : List (List Char × Value)} {cs inside rest : List Char}
      (h : Gap cs ('{' :: inside)) (hmembers : Members true members inside rest) :
      Spells (.object members) cs rest

/-- The document begins with the elements of a list and its closing bracket. -/
inductive Items : Bool → List Value → List Char → List Char → Prop
  | close {first : Bool} {cs rest : List Char} (h : Gap cs (']' :: rest)) : Items first [] cs rest
  | item {first : Bool} {v : Value} {items : List Value} {cs here next rest : List Char}
      (hcomma : Comma first cs here) (hv : Spells v here next)
      (hitems : Items false items next rest) : Items first (v :: items) cs rest

/-- The document begins with the members of an object and its closing brace. -/
inductive Members : Bool → List (List Char × Value) → List Char → List Char → Prop
  | close {first : Bool} {cs rest : List Char} (h : Gap cs ('}' :: rest)) :
      Members first [] cs rest
  | member {first : Bool} {key : List Char} {v : Value} {members : List (List Char × Value)}
      {cs here after value next rest : List Char} (hcomma : Comma first cs here)
      (hkey : Gap here ('"' :: (key ++ '"' :: after))) (hbody : Body key)
      (hcolon : Gap after (':' :: value)) (hv : Spells v value next)
      (hmembers : Members false members next rest) : Members first ((key, v) :: members) cs rest
end

/-- The document is a text of the value, with blanks around it. -/
def Value.Document (v : Value) (document : String) : Prop :=
  ∃ rest, Spells v document.toList rest ∧ Blank rest

/-! ## Blanks -/

section
variable {cs rest : List Char} {c : Char}

theorem Gap.refl (cs : List Char) : Gap cs cs := ⟨[], nofun, rfl⟩

theorem Gap.skipGap_eq (h : Gap cs (c :: rest)) (hc : isGap c = false) :
    skipGap cs = c :: rest := by
  obtain ⟨gap, hgap, rfl⟩ := h
  exact skipGap_blank hgap hc rest

theorem Gap.skipGap (h : Gap cs (c :: rest)) (hc : isGap c = false) :
    Gap (skipGap cs) (c :: rest) := by
  rw [h.skipGap_eq hc]
  exact .refl _

theorem gap_skipGap (cs : List Char) : Gap cs (skipGap cs) :=
  ⟨cs.takeWhile isGap, List.all_eq_true.mp List.all_takeWhile, List.takeWhile_append_dropWhile.symm⟩

theorem Gap.trans {mid : List Char} (h : Gap cs mid) (h' : Gap mid rest) : Gap cs rest := by
  obtain ⟨gap, hgap, rfl⟩ := h
  obtain ⟨gap', hgap', rfl⟩ := h'
  exact ⟨gap ++ gap', List.forall_mem_append.mpr ⟨hgap, hgap'⟩, (List.append_assoc ..).symm⟩

theorem gap_of_skipGap (h : skipGap cs = rest) : Gap cs rest := h ▸ gap_skipGap cs

theorem Gap.length_le (h : Gap cs rest) : rest.length ≤ cs.length := by
  obtain ⟨gap, -, rfl⟩ := h
  simp

/-- What begins with a blank or a comma or a closing bracket ends a number. -/
theorem ends_of_gap (h : Gap cs (c :: rest)) (hc : c = ',' ∨ c = ']' ∨ c = '}') : Ends cs := by
  obtain ⟨gap, hgap, rfl⟩ := h
  cases gap with
  | nil =>
    intro d hd
    obtain rfl : c = d := by simpa using hd
    exact .inr hc
  | cons d gap =>
    intro e he
    obtain rfl : d = e := by simpa using he
    exact .inl (hgap d List.mem_cons_self)

theorem ends_of_blank (h : Blank rest) : Ends rest :=
  fun c hc => .inl (h c (List.mem_of_mem_head? hc))

theorem Comma.ends (h : Comma false cs rest) : Ends cs := ends_of_gap h (.inl rfl)

theorem Comma.length_le {first : Bool} (h : Comma first cs rest) : rest.length ≤ cs.length := by
  cases first with
  | true => exact Nat.le_of_eq (congrArg List.length h.symm)
  | false => exact Nat.le_trans (Nat.le_succ _) (Gap.length_le h)

theorem Items.ends {items : List Value} (h : Items false items cs rest) : Ends cs := by
  cases h with
  | close h => exact ends_of_gap h (.inr (.inl rfl))
  | item hcomma => exact Comma.ends hcomma

theorem Members.ends {members : List (List Char × Value)} (h : Members false members cs rest) :
    Ends cs := by
  cases h with
  | close h => exact ends_of_gap h (.inr (.inr rfl))
  | member hcomma => exact Comma.ends hcomma

end

/-! ## How a value begins -/

/-- A value may begin with the character. -/
def Value.opens : Value → Char → Bool
  | .null, c => c == 'n'
  | .flag b, c => c == if b then 't' else 'f'
  | .number _, c => c == '-' || c.isDigit
  | .text _, c => c == '"'
  | .list _, c => c == '['
  | .object _, c => c == '{'

theorem Value.notMem_of_opens {v : Value} {c : Char} (h : v.opens c = true) :
    c ∉ [' ', '\n', '\t', '\r', ',', ':', ']', '}'] := by
  intro hc
  simp only [List.mem_cons, List.not_mem_nil, or_false] at hc
  rcases hc with rfl | rfl | rfl | rfl | rfl | rfl | rfl | rfl <;>
    rcases v with _ | (_ | _) | _ | _ | _ | _ <;> cases h

theorem Value.isGap_of_opens {v : Value} {c : Char} (h : v.opens c = true) : isGap c = false := by
  have hc := notMem_of_opens h
  simp only [List.mem_cons, not_or] at hc
  simp [isGap, hc]

theorem Value.null_of_opens {v : Value} (h : v.opens 'n' = true) : v = .null := by
  rcases v with _ | (_ | _) | _ | _ | _ | _ <;> first | rfl | cases h

theorem Value.on_of_opens {v : Value} (h : v.opens 't' = true) : v = .flag true := by
  rcases v with _ | (_ | _) | _ | _ | _ | _ <;> first | rfl | cases h

theorem Value.off_of_opens {v : Value} (h : v.opens 'f' = true) : v = .flag false := by
  rcases v with _ | (_ | _) | _ | _ | _ | _ <;> first | rfl | cases h

theorem Value.text_of_opens {v : Value} (h : v.opens '"' = true) : ∃ body, v = .text body := by
  rcases v with _ | (_ | _) | _ | _ | _ | _ <;> first | exact ⟨_, rfl⟩ | cases h

theorem Value.list_of_opens {v : Value} (h : v.opens '[' = true) : ∃ items, v = .list items := by
  rcases v with _ | (_ | _) | _ | _ | _ | _ <;> first | exact ⟨_, rfl⟩ | cases h

theorem Value.object_of_opens {v : Value} (h : v.opens '{' = true) :
    ∃ members, v = .object members := by
  rcases v with _ | (_ | _) | _ | _ | _ | _ <;> first | exact ⟨_, rfl⟩ | cases h

theorem numeral_opens {digits : List Char} (h : Numeral digits) :
    ∃ c tail, digits = c :: tail ∧ (Value.number digits).opens c = true := by
  rcases h with ⟨whole, fraction, exponent, hwhole, -, -, -, rfl⟩ | ⟨size, -, rfl⟩
  · obtain ⟨c, tail, rfl⟩ := List.exists_cons_of_ne_nil hwhole.1
    have hc := hwhole.2 c List.mem_cons_self
    exact ⟨c, _, rfl, by simp [Value.opens, hc]⟩
  · exact ⟨'-', size, rfl, rfl⟩

theorem Spells.opens {v : Value} {cs rest : List Char} (h : Spells v cs rest) :
    ∃ c tail, Gap cs (c :: tail) ∧ v.opens c = true := by
  cases h with
  | null h | on h | off h | text h | list h | object h => exact ⟨_, _, h, beq_self_eq_true _⟩
  | number h hnumeral =>
    obtain ⟨c, tail, rfl, hc⟩ := numeral_opens hnumeral
    exact ⟨c, _, h, hc⟩

theorem Spells.opens_of_skipGap {v : Value} {c : Char} {cs tail rest : List Char}
    (h : Spells v cs rest) (hcs : DeviceSpec.Json.skipGap cs = c :: tail) : v.opens c = true := by
  obtain ⟨d, after, hgap, hd⟩ := h.opens
  rw [hgap.skipGap_eq (Value.isGap_of_opens hd)] at hcs
  exact (List.cons.inj hcs).1 ▸ hd

section
variable {v : Value} {cs tail rest : List Char}

/-! The character that a value begins with tells what the value is and where its parts stand. -/

theorem Spells.null_of_skipGap (h : Spells v cs rest)
    (hcs : DeviceSpec.Json.skipGap cs = 'n' :: tail) :
    v = .null ∧ tail = 'u' :: 'l' :: 'l' :: rest := by
  obtain rfl := Value.null_of_opens (h.opens_of_skipGap hcs)
  cases h with
  | null h =>
    rw [h.skipGap_eq rfl] at hcs
    exact ⟨rfl, (List.cons.inj hcs).2.symm⟩

theorem Spells.on_of_skipGap (h : Spells v cs rest)
    (hcs : DeviceSpec.Json.skipGap cs = 't' :: tail) :
    v = .flag true ∧ tail = 'r' :: 'u' :: 'e' :: rest := by
  obtain rfl := Value.on_of_opens (h.opens_of_skipGap hcs)
  cases h with
  | on h =>
    rw [h.skipGap_eq rfl] at hcs
    exact ⟨rfl, (List.cons.inj hcs).2.symm⟩

theorem Spells.off_of_skipGap (h : Spells v cs rest)
    (hcs : DeviceSpec.Json.skipGap cs = 'f' :: tail) :
    v = .flag false ∧ tail = 'a' :: 'l' :: 's' :: 'e' :: rest := by
  obtain rfl := Value.off_of_opens (h.opens_of_skipGap hcs)
  cases h with
  | off h =>
    rw [h.skipGap_eq rfl] at hcs
    exact ⟨rfl, (List.cons.inj hcs).2.symm⟩

theorem Spells.text_of_skipGap (h : Spells v cs rest)
    (hcs : DeviceSpec.Json.skipGap cs = '"' :: tail) :
    ∃ body, v = .text body ∧ tail = body ++ '"' :: rest ∧ Body body := by
  obtain ⟨body, rfl⟩ := Value.text_of_opens (h.opens_of_skipGap hcs)
  cases h with
  | text h hbody =>
    rw [h.skipGap_eq rfl] at hcs
    exact ⟨body, rfl, (List.cons.inj hcs).2.symm, hbody⟩

theorem Spells.list_of_skipGap (h : Spells v cs rest)
    (hcs : DeviceSpec.Json.skipGap cs = '[' :: tail) :
    ∃ items, v = .list items ∧ Items true items tail rest := by
  obtain ⟨items, rfl⟩ := Value.list_of_opens (h.opens_of_skipGap hcs)
  cases h with
  | list h hitems =>
    rw [h.skipGap_eq rfl] at hcs
    exact ⟨items, rfl, (List.cons.inj hcs).2 ▸ hitems⟩

theorem Spells.object_of_skipGap (h : Spells v cs rest)
    (hcs : DeviceSpec.Json.skipGap cs = '{' :: tail) :
    ∃ members, v = .object members ∧ Members true members tail rest := by
  obtain ⟨members, rfl⟩ := Value.object_of_opens (h.opens_of_skipGap hcs)
  cases h with
  | object h hmembers =>
    rw [h.skipGap_eq rfl] at hcs
    exact ⟨members, rfl, (List.cons.inj hcs).2 ▸ hmembers⟩

end

/-- Blanks may stand before a value. -/
theorem Spells.of_gap {v : Value} {cs here rest : List Char} (hgap : Gap cs here)
    (h : Spells v here rest) : Spells v cs rest := by
  cases h with
  | null h => exact .null (hgap.trans h)
  | on h => exact .on (hgap.trans h)
  | off h => exact .off (hgap.trans h)
  | number h hnumeral hends => exact .number (hgap.trans h) hnumeral hends
  | text h hbody => exact .text (hgap.trans h) hbody
  | list h hitems => exact .list (hgap.trans h) hitems
  | object h hmembers => exact .object (hgap.trans h) hmembers

/-- So may blanks be left out. -/
theorem Spells.skipGap {v : Value} {cs rest : List Char} (h : Spells v cs rest) :
    Spells v (skipGap cs) rest := by
  cases h with
  | null h => exact .null (h.skipGap rfl)
  | on h => exact .on (h.skipGap rfl)
  | off h => exact .off (h.skipGap rfl)
  | number h hnumeral hends =>
    obtain ⟨c, tail, rfl, hc⟩ := numeral_opens hnumeral
    exact .number (h.skipGap (Value.isGap_of_opens hc)) hnumeral hends
  | text h hbody => exact .text (h.skipGap rfl) hbody
  | list h hitems => exact .list (h.skipGap rfl) hitems
  | object h hmembers => exact .object (h.skipGap rfl) hmembers

theorem Items.of_gap {items : List Value} {first : Bool} {cs here rest : List Char}
    (hgap : Gap cs here) (h : Items first items here rest) : Items first items cs rest := by
  cases h with
  | close h => exact .close (hgap.trans h)
  | item hcomma hv hitems =>
    cases first with
    | true =>
      obtain rfl : here = _ := hcomma
      exact Items.item (show Comma true cs cs from rfl) (hv.of_gap hgap) hitems
    | false => exact Items.item (show Comma false cs _ from hgap.trans hcomma) hv hitems

/-! ## How long a value is -/

mutual
/-- A value takes at least one character. -/
theorem Spells.length_lt {v : Value} {cs rest : List Char} :
    Spells v cs rest → rest.length < cs.length
  | .null h | .on h | .off h => by
    have hgap := h.length_le
    simp only [List.length_cons] at hgap
    omega
  | .number h hnumeral _ => by
    have hgap := h.length_le
    obtain ⟨c, tail, rfl, -⟩ := numeral_opens hnumeral
    simp only [List.cons_append, List.length_cons, List.length_append] at hgap
    omega
  | .text h _ => by
    have hgap := h.length_le
    simp only [List.length_cons, List.length_append] at hgap
    omega
  | .list h hitems => by
    have hgap := h.length_le
    have hlength := hitems.length_lt
    rw [List.length_cons] at hgap
    omega
  | .object h hmembers => by
    have hgap := h.length_le
    have hlength := hmembers.length_lt
    rw [List.length_cons] at hgap
    omega

/-- So do the elements of a list with its bracket. -/
theorem Items.length_lt {first : Bool} {items : List Value} {cs rest : List Char} :
    Items first items cs rest → rest.length < cs.length
  | .close h => by
    have hgap := h.length_le
    rw [List.length_cons] at hgap
    omega
  | .item hcomma hv hitems => by
    have hhere := hcomma.length_le
    have hlength := hv.length_lt
    have htail := hitems.length_lt
    omega

/-- So do the members of an object with its brace. -/
theorem Members.length_lt {first : Bool} {members : List (List Char × Value)}
    {cs rest : List Char} : Members first members cs rest → rest.length < cs.length
  | .close h => by
    have hgap := h.length_le
    rw [List.length_cons] at hgap
    omega
  | .member hcomma hkey _ hcolon hv hmembers => by
    have hhere := hcomma.length_le
    have hafter := hkey.length_le
    have hvalue := hcolon.length_le
    have hlength := hv.length_lt
    have htail := hmembers.length_lt
    simp only [List.length_cons, List.length_append] at hafter hvalue
    omega
end

/-! ## Words -/

theorem eq_of_word {w cs rest : List Char} (h : word w cs = .ok rest) : cs = w ++ rest := by
  induction w generalizing cs with
  | nil => exact Except.ok.inj h
  | cons c w ih =>
    cases cs with
    | nil => cases h
    | cons d cs =>
      rw [word] at h
      split at h
      · rename_i heq
        rw [heq, ih h, List.cons_append]
      · cases h

end DeviceSpec.Json
