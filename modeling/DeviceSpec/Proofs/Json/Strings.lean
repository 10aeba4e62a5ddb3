import DeviceSpec.Proofs.Json.Tree

/-!
# Strings

The scanners take exactly the strings of the grammar off a document.

* **passing over** — a string is passed over up to its closing quotation mark, and what is passed
  over as a string is one (`skipString_body`, `body_of_skipString`);
* **reading** — what a string says does not depend on what follows it (`spelled?`, `string_body`),
  and what is read as a string is one (`body_of_string`).
-/

namespace DeviceSpec.Json

/-- A step that succeeds. -/
theorem ok_of_bind {ε α β : Type} {x : Except ε α} {f : α → Except ε β} {b : β}
    (h : (x >>= f) = .ok b) : ∃ a, x = .ok a ∧ f a = .ok b := by
  cases x with
  | error e => cases h
  | ok a => exact ⟨a, rfl, h⟩

theorem bind_eq_ok_iff {ε α β : Type} {x : Except ε α} {f : α → Except ε β} {b : β} :
    (x >>= f) = .ok b ↔ ∃ a, x = .ok a ∧ f a = .ok b := by
  refine ⟨ok_of_bind, ?_⟩
  rintro ⟨a, rfl, h⟩
  exact h

/-! ## Escapes -/

theorem length_le_utf8ByteSize (cs : List Char) : cs.length ≤ (String.ofList cs).utf8ByteSize := by
  induction cs with
  | nil => exact Nat.zero_le _
  | cons c cs ih =>
    have hc := c.utf8Size_pos
    rw [← List.singleton_append, String.ofList_append, String.utf8ByteSize_append,
      ← String.singleton_eq_ofList, String.utf8ByteSize_singleton, List.length_append,
      List.length_singleton]
    omega

section
variable {a b c d : Char} {k l m n : Nat} {cs rest : List Char}

theorem hexEscape_digits (ha : hexDigit? a = some k) (hb : hexDigit? b = some l)
    (hc : hexDigit? c = some m) (hd : hexDigit? d = some n) :
    hexEscape (a :: b :: c :: d :: rest) = .ok (((k * 16 + l) * 16 + m) * 16 + n, rest) := by
  have hsize := length_le_utf8ByteSize [a, b, c, d]
  have htake : (a :: b :: c :: d :: rest).take 4 = [a, b, c, d] := rfl
  unfold hexEscape
  rw [htake, if_neg (by simpa using hsize)]
  simp only [ha, hb, hc, hd]

theorem digits_of_hexEscape (h : hexEscape cs = .ok (n, rest)) :
    ∃ a b c d, cs = a :: b :: c :: d :: rest ∧ ∀ body, Body body →
      Body ('\\' :: 'u' :: a :: b :: c :: d :: body) := by
  unfold hexEscape at h
  split at h
  · cases h
  · split at h
    · split at h
      · rename_i ha hb hc hd
        cases h
        exact ⟨_, _, _, _, rfl, fun body => .unicode ha hb hc hd⟩
      · cases h
    · cases h

theorem mem_shortEscapes_iff : c ∈ shortEscapes ↔ (shortEscape? c).isSome = true := by
  unfold shortEscape?
  split <;> simp_all [shortEscapes]

theorem ne_u_of_mem_shortEscapes (h : c ∈ shortEscapes) : c ≠ 'u' := by
  rintro rfl
  revert h
  decide

/-- A letter after a backslash. -/
theorem escape_short (hc : c ∈ shortEscapes) :
    ∃ d, shortEscape? c = some d ∧ ∀ cs, escape (c :: cs) = .ok (d, cs) := by
  obtain ⟨d, hd⟩ := Option.isSome_iff_exists.mp (mem_shortEscapes_iff.mp hc)
  refine ⟨d, hd, fun cs => ?_⟩
  rw [escape, hd]
  exact fun heq => ne_u_of_mem_shortEscapes hc heq

end

/-! ## Passing over -/

/-- A string is passed over up to its closing quotation mark. -/
theorem skipStringBody_body {body : List Char} (h : Body body) (rest : List Char) {fuel : Nat}
    (hfuel : body.length < fuel) : skipStringBody fuel (body ++ '"' :: rest) = .ok rest := by
  -- each step of the scanner takes at least one character
  induction h generalizing fuel with
  | done =>
    obtain ⟨fuel, rfl⟩ := Nat.exists_eq_succ_of_ne_zero (Nat.ne_of_gt hfuel)
    rfl
  | @plain c cs hquote hslash hcontrol _ ih =>
    obtain ⟨fuel, rfl⟩ := Nat.exists_eq_succ_of_ne_zero (Nat.ne_of_gt (Nat.zero_lt_of_lt hfuel))
    rw [List.length_cons] at hfuel
    rw [List.cons_append, skipStringBody]
    · rw [if_neg hcontrol, ih (by omega)]
    · exact fun heq => hquote heq
    · exact fun heq => hslash heq
  | @short c cs hc _ ih =>
    obtain ⟨fuel, rfl⟩ := Nat.exists_eq_succ_of_ne_zero (Nat.ne_of_gt (Nat.zero_lt_of_lt hfuel))
    simp only [List.length_cons] at hfuel
    have hskip : skipEscape (c :: (cs ++ '"' :: rest)) = .ok (cs ++ '"' :: rest) := by
      rw [skipEscape, if_pos (mem_shortEscapes_iff.mp hc)]
      exact fun heq => ne_u_of_mem_shortEscapes hc heq
    rw [List.cons_append, List.cons_append, skipStringBody, hskip, ok_bind, ih (by omega)]
  | @unicode a b c d cs k l m n ha hb hc hd _ ih =>
    obtain ⟨fuel, rfl⟩ := Nat.exists_eq_succ_of_ne_zero (Nat.ne_of_gt (Nat.zero_lt_of_lt hfuel))
    simp only [List.length_cons] at hfuel
    simp only [List.cons_append, skipStringBody, skipEscape, hexEscape_digits ha hb hc hd, ok_bind]
    exact ih (by omega)

theorem skipString_body {body : List Char} (h : Body body) (rest : List Char) :
    skipString (body ++ '"' :: rest) = .ok rest :=
  skipStringBody_body h rest (by rw [List.length_append]; omega)

theorem body_of_skipStringBody {fuel : Nat} {cs rest : List Char}
    (h : skipStringBody fuel cs = .ok rest) : ∃ body, Body body ∧ cs = body ++ '"' :: rest := by
  induction fuel generalizing cs with
  | zero => cases h
  | succ fuel ih =>
    unfold skipStringBody at h
    split at h
    · cases h
    · cases h
      exact ⟨[], .done, rfl⟩
    · rename_i after
      obtain ⟨next, hskip, h⟩ := ok_of_bind h
      obtain ⟨body, hbody, rfl⟩ := ih h
      unfold skipEscape at hskip
      split at hskip
      · cases hskip
      · obtain ⟨⟨n, tail⟩, hhex, htail⟩ := ok_of_bind hskip
        cases htail
        obtain ⟨a, b, c, d, rfl, hfull⟩ := digits_of_hexEscape hhex
        exact ⟨_, hfull body hbody, rfl⟩
      · split at hskip
        · rename_i hc
          cases hskip
          exact ⟨_, .short (mem_shortEscapes_iff.mpr hc) hbody, rfl⟩
        · cases hskip
    · split at h
      · cases h
      · rename_i hquote hslash hcontrol
        obtain ⟨body, hbody, rfl⟩ := ih h
        exact ⟨_, .plain hquote hslash hcontrol hbody, rfl⟩

/-- What is passed over as a string is one. -/
theorem body_of_skipString {cs rest : List Char} (h : skipString cs = .ok rest) :
    ∃ body, Body body ∧ cs = body ++ '"' :: rest :=
  body_of_skipStringBody h

/-! ## Reading -/

/-- A result, and what is left of the document after it. -/
def leaving {ε α β : Type} (result : Except ε α) (rest : β) : Except ε (α × β) :=
  result.map (·, rest)

theorem leaving_bind {ε α β : Type} (result : Except ε (List α)) (rest : β) (c : α) :
    (leaving result rest >>= fun x => Except.ok (c :: x.1, x.2)) =
      leaving (result.map (c :: ·)) rest := by
  cases result <;> rfl

/-- The second half of a pair is read alike whatever follows the string. -/
theorem lowSurrogate_body {cs : List Char} (h : Body cs) (high : Nat) :
    (∃ e, ∀ rest, lowSurrogate high (cs ++ '"' :: rest) = .error e) ∨
      ∃ c tail, Body tail ∧ tail.length ≤ cs.length ∧
        ∀ rest, lowSurrogate high (cs ++ '"' :: rest) = .ok (c, tail ++ '"' :: rest) := by
  cases h with
  | done => exact .inl ⟨_, fun rest => rfl⟩
  | @plain c cs hquote hslash hcontrol hrest =>
    refine .inl ⟨.unfinishedPair, fun rest => ?_⟩
    rw [List.cons_append, lowSurrogate]
    · exact nofun
    · exact fun heq => hslash (List.cons.inj heq).1
    · exact fun _ heq => hslash (List.cons.inj heq).1
  | @short c cs hc hrest =>
    refine .inl ⟨.unfinishedPair, fun rest => ?_⟩
    rw [List.cons_append, List.cons_append, lowSurrogate]
    · exact nofun
    · exact nofun
    · exact fun _ heq => ne_u_of_mem_shortEscapes hc (List.cons.inj (List.cons.inj heq).2).1
  | @unicode a b c d cs k l m n ha hb hc hd hrest =>
    obtain ⟨low, hdigits⟩ : ∃ low, ∀ rest, hexEscape (a :: b :: c :: d :: rest) = .ok (low, rest) :=
      ⟨_, fun rest => hexEscape_digits ha hb hc hd⟩
    have hread : ∀ rest, lowSurrogate high ('\\' :: 'u' :: a :: b :: c :: d :: cs ++ '"' :: rest) =
        if isLowSurrogate low then
          .ok (Char.ofNat ((high - 0xD800) * 0x400 + (low - 0xDC00) + 0x10000), cs ++ '"' :: rest)
        else .error .loneSurrogate := by
      intro rest
      simp only [List.cons_append, lowSurrogate, hdigits, ok_bind]
    by_cases hlow : isLowSurrogate low = true
    · exact .inr ⟨_, cs, hrest, by simp only [List.length_cons]; omega, fun rest => by
        rw [hread, if_pos hlow]⟩
    · exact .inl ⟨_, fun rest => by rw [hread, if_neg hlow]⟩

/-- So is what follows a backslash. -/
theorem escape_body {cs : List Char} (h : Body ('\\' :: cs)) :
    (∃ e, ∀ rest, escape (cs ++ '"' :: rest) = .error e) ∨
      ∃ c tail, Body tail ∧ tail.length < cs.length ∧
        ∀ rest, escape (cs ++ '"' :: rest) = .ok (c, tail ++ '"' :: rest) := by
  cases h with
  | plain _ hslash => exact absurd rfl hslash
  | @short c cs hc hrest =>
    obtain ⟨d, -, hescape⟩ := escape_short hc
    exact .inr ⟨d, cs, hrest, by simp, fun rest => hescape _⟩
  | @unicode a b c d cs k l m n ha hb hc hd hrest =>
    have hescape : ∀ rest, escape ('u' :: a :: b :: c :: d :: cs ++ '"' :: rest) =
        if isLowSurrogate (((k * 16 + l) * 16 + m) * 16 + n) then .error .loneSurrogate
        else if isHighSurrogate (((k * 16 + l) * 16 + m) * 16 + n) then
          lowSurrogate (((k * 16 + l) * 16 + m) * 16 + n) (cs ++ '"' :: rest)
        else .ok (Char.ofNat (((k * 16 + l) * 16 + m) * 16 + n), cs ++ '"' :: rest) := by
      intro rest
      simp only [List.cons_append, escape, hexEscape_digits ha hb hc hd, ok_bind]
    by_cases hlow : isLowSurrogate (((k * 16 + l) * 16 + m) * 16 + n) = true
    · exact .inl ⟨_, fun rest => by rw [hescape, if_pos hlow]⟩
    by_cases hhigh : isHighSurrogate (((k * 16 + l) * 16 + m) * 16 + n) = true
    · simp only [hescape, if_neg hlow, if_pos hhigh]
      rcases lowSurrogate_body hrest (((k * 16 + l) * 16 + m) * 16 + n) with herror | hpair
      · exact .inl herror
      · obtain ⟨ch, tail, htail, hlength, hpair⟩ := hpair
        exact .inr ⟨ch, tail, htail, by simp only [List.length_cons]; omega, hpair⟩
    · exact .inr ⟨_, cs, hrest, by simp only [List.length_cons]; omega, fun rest => by
        rw [hescape, if_neg hlow, if_neg hhigh]⟩

/-- What the characters of a string say does not depend on what follows the string. -/
theorem stringBody_body {body : List Char} (h : Body body) :
    ∃ result : Except Error (List Char), ∀ fuel rest, body.length < fuel →
      stringBody fuel (body ++ '"' :: rest) = leaving result rest := by
  -- two escapes are read at once when they are halves of a character
  induction hsize : body.length using Nat.strongRecOn generalizing body with
  | ind size ih =>
  subst hsize
  have hescaped : ∀ cs, Body ('\\' :: cs) → body = '\\' :: cs →
      ∃ result : Except Error (List Char), ∀ fuel rest, body.length < fuel →
        stringBody fuel (body ++ '"' :: rest) = leaving result rest := by
    rintro cs hbody rfl
    rcases escape_body hbody with ⟨e, herror⟩ | ⟨c, tail, htail, hlength, hescape⟩
    · refine ⟨.error e, fun fuel rest hfuel => ?_⟩
      obtain ⟨fuel, rfl⟩ := Nat.exists_eq_succ_of_ne_zero (Nat.ne_of_gt (Nat.zero_lt_of_lt hfuel))
      rw [List.cons_append, stringBody, herror]
      rfl
    · obtain ⟨result, hresult⟩ := ih tail.length (by simp only [List.length_cons]; omega) htail rfl
      refine ⟨result.map (c :: ·), fun fuel rest hfuel => ?_⟩
      obtain ⟨fuel, rfl⟩ := Nat.exists_eq_succ_of_ne_zero (Nat.ne_of_gt (Nat.zero_lt_of_lt hfuel))
      rw [List.length_cons] at hfuel
      rw [List.cons_append, stringBody, hescape, ok_bind]
      dsimp only
      rw [hresult fuel rest (by omega), leaving_bind]
  cases h with
  | done =>
    refine ⟨.ok [], fun fuel rest hfuel => ?_⟩
    obtain ⟨fuel, rfl⟩ := Nat.exists_eq_succ_of_ne_zero (Nat.ne_of_gt hfuel)
    rfl
  | @plain c cs hquote hslash hcontrol hrest =>
    obtain ⟨result, hresult⟩ := ih cs.length (by simp) hrest rfl
    refine ⟨result.map (c :: ·), fun fuel rest hfuel => ?_⟩
    obtain ⟨fuel, rfl⟩ := Nat.exists_eq_succ_of_ne_zero (Nat.ne_of_gt (Nat.zero_lt_of_lt hfuel))
    rw [List.length_cons] at hfuel
    rw [List.cons_append, stringBody_cons hquote hslash hcontrol, hresult fuel rest (by omega),
      leaving_bind]
  | short hc hrest => exact hescaped _ (.short hc hrest) rfl
  | unicode ha hb hc hd hrest => exact hescaped _ (.unicode ha hb hc hd hrest) rfl

/-- What a string says, if it says a text: half a character alone is none. -/
def spelled? (body : List Char) : Option String :=
  ((string (body ++ ['"'])).map Prod.fst).toOption

/-- A string is read up to its closing quotation mark. -/
theorem string_body {body : List Char} (h : Body body) (rest : List Char) {s : String}
    {after : List Char} :
    string (body ++ '"' :: rest) = .ok (s, after) ↔ spelled? body = some s ∧ after = rest := by
  obtain ⟨result, hresult⟩ := stringBody_body h
  have hread : ∀ rest, string (body ++ '"' :: rest) =
      (leaving result rest >>= fun x => .ok (String.ofList x.1, x.2)) := by
    intro rest
    have hbody := hresult ((body ++ '"' :: rest).length + 1) rest
      (by rw [List.length_append]; omega)
    rw [string, hbody]
  rw [spelled?, hread, hread]
  cases result with
  | error e => exact ⟨nofun, nofun⟩
  | ok cs =>
    constructor
    · rintro ⟨⟩
      exact ⟨rfl, rfl⟩
    · rintro ⟨⟨⟩, rfl⟩
      rfl

/-- What is read after a backslash is an escape, or two that make up a character. -/
theorem body_of_escape {cs rest : List Char} {c : Char} (h : escape cs = .ok (c, rest)) :
    ∃ taken, cs = taken ++ rest ∧ ∀ body, Body body → Body ('\\' :: (taken ++ body)) := by
  unfold escape at h
  split at h
  · cases h
  · obtain ⟨⟨n, next⟩, hhex, hnext⟩ := ok_of_bind h
    obtain ⟨a, b, c, d, rfl, hfull⟩ := digits_of_hexEscape hhex
    clear h
    dsimp only at hnext
    split at hnext
    · cases hnext
    split at hnext
    · unfold lowSurrogate at hnext
      split at hnext
      · cases hnext
      · cases hnext
      · obtain ⟨⟨low, after⟩, hhex', hafter⟩ := ok_of_bind hnext
        obtain ⟨a', b', c', d', rfl, hfull'⟩ := digits_of_hexEscape hhex'
        clear hnext
        dsimp only at hafter
        split at hafter
        · obtain ⟨-, rfl⟩ := Prod.mk.inj (Except.ok.inj hafter)
          exact ⟨['u', a, b, c, d, '\\', 'u', a', b', c', d'], by simp,
            fun body hbody => hfull _ (hfull' body hbody)⟩
        · cases hafter
      · cases hnext
    · cases hnext
      exact ⟨['u', a, b, c, d], rfl, hfull⟩
  · rename_i ch tail _
    split at h
    · rename_i d hd
      cases h
      have hc : ch ∈ shortEscapes := mem_shortEscapes_iff.mpr (hd ▸ rfl)
      exact ⟨[ch], rfl, fun body hbody => .short hc hbody⟩
    · cases h

theorem body_of_stringBody {fuel : Nat} {cs rest s : List Char}
    (h : stringBody fuel cs = .ok (s, rest)) : ∃ body, Body body ∧ cs = body ++ '"' :: rest := by
  induction fuel generalizing cs s with
  | zero => cases h
  | succ fuel ih =>
    unfold stringBody at h
    split at h
    · cases h
    · cases h
      exact ⟨[], .done, rfl⟩
    · obtain ⟨⟨c, next⟩, hescape, h⟩ := ok_of_bind h
      obtain ⟨⟨t, tail⟩, hrest, h⟩ := ok_of_bind h
      cases h
      obtain ⟨taken, rfl, hfull⟩ := body_of_escape hescape
      obtain ⟨body, hbody, rfl⟩ := ih hrest
      exact ⟨_, hfull body hbody, by simp⟩
    · split at h
      · cases h
      · rename_i hquote hslash hcontrol
        obtain ⟨⟨t, tail⟩, hrest, h⟩ := ok_of_bind h
        cases h
        obtain ⟨body, hbody, rfl⟩ := ih hrest
        exact ⟨_, .plain hquote hslash hcontrol hbody, rfl⟩

/-- What is read as a string is one. -/
theorem body_of_string {cs rest : List Char} {s : String} (h : string cs = .ok (s, rest)) :
    ∃ body, Body body ∧ cs = body ++ '"' :: rest := by
  obtain ⟨⟨t, tail⟩, hbody, h⟩ := ok_of_bind h
  cases h
  exact body_of_stringBody hbody

end DeviceSpec.Json
