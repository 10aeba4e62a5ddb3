import DeviceSpec.Proofs.Json.Strings
import Mathlib.Data.List.DropRight
import Mathlib.Data.List.TakeDrop

/-!
# Values that are passed over

A value whose key is not known is passed over, and with it no more and no less than the text of
one value.

* **numbers** — a number is passed over up to its end, and what is passed over is a number
  (`skipNumber_append`, `magnitude_of_skipNumber`);
* **values** — every value can be passed over, and whatever is passed over is a value
  (`skipValue_of_spells`, `spells_of_skipValue`).
-/

namespace DeviceSpec.Json

/-! ## Numbers -/

section
variable {cs rest : List Char}

/-- No digit follows. -/
def NoDigit (rest : List Char) : Prop := ∀ c ∈ rest.head?, c.isDigit = false

theorem noDigit_cons {c : Char} (hc : c.isDigit = false) : NoDigit (c :: rest) := by
  intro d hd
  obtain rfl : c = d := by simpa using hd
  exact hc

theorem Ends.notMem {c : Char} (h : Ends (c :: rest)) : c ∉ ['.', 'e', 'E'] := by
  intro hmem
  have hends := h c rfl
  simp only [List.mem_cons, List.not_mem_nil, or_false] at hmem
  revert hends
  rcases hmem with rfl | rfl | rfl <;> decide

theorem Ends.noDigit (h : Ends rest) : NoDigit rest := by
  intro c hc
  rcases h c hc with hgap | rfl | rfl | rfl
  · simp only [isGap, Bool.or_eq_true, beq_iff_eq] at hgap
    rcases hgap with ((rfl | rfl) | rfl) | rfl <;> rfl
  all_goals rfl

theorem spanDigits_append {digits : List Char} (hdigits : ∀ c ∈ digits, c.isDigit = true)
    (hrest : NoDigit rest) : spanDigits (digits ++ rest) = (digits, rest) := by
  rw [spanDigits, List.span_eq_takeWhile_dropWhile, List.takeWhile_append_of_pos hdigits,
    List.dropWhile_append_of_pos hdigits]
  cases rest with
  | nil => simp
  | cons c rest => simp [hrest c rfl]

theorem eq_of_spanDigits {digits : List Char} (h : spanDigits cs = (digits, rest)) :
    (∀ c ∈ digits, c.isDigit = true) ∧ cs = digits ++ rest := by
  rw [spanDigits, List.span_eq_takeWhile_dropWhile] at h
  cases h
  exact ⟨List.all_eq_true.mp List.all_takeWhile, List.takeWhile_append_dropWhile.symm⟩

theorem skipDigits_append {digits : List Char} (hdigits : Digits digits) (hrest : NoDigit rest) :
    skipDigits (digits ++ rest) = .ok rest := by
  rw [skipDigits, spanDigits_append hdigits.2 hrest]
  split
  · rename_i heq
    exact absurd (Prod.mk.inj heq).1 hdigits.1
  · rename_i heq
    rw [(Prod.mk.inj heq).2]

theorem digits_of_skipDigits (h : skipDigits cs = .ok rest) :
    ∃ digits, Digits digits ∧ cs = digits ++ rest := by
  unfold skipDigits at h
  split at h
  · cases h
  · rename_i digits after hne hspan
    cases h
    obtain ⟨hdigits, hcs⟩ := eq_of_spanDigits hspan
    exact ⟨digits, ⟨hne, hdigits⟩, hcs⟩

theorem exponent_noDigit {exponent : List Char} (h : Exponent exponent) (hends : Ends rest) :
    NoDigit (exponent ++ rest) := by
  rcases h with rfl | ⟨letter, sign, digits, hletter, -, -, rfl⟩
  · exact hends.noDigit
  · simp only [List.mem_cons, List.not_mem_nil, or_false] at hletter
    rcases hletter with rfl | rfl <;> exact noDigit_cons rfl

/-- An exponent is passed over up to the end of the number. -/
theorem skipExponent_append {exponent : List Char} (h : Exponent exponent) (hends : Ends rest) :
    skipExponent (exponent ++ rest) = .ok rest := by
  rcases h with rfl | ⟨letter, sign, digits, hletter, hsign, hdigits, rfl⟩
  · rw [List.nil_append, skipExponent]
    · rintro tail rfl
      exact hends.notMem (by decide)
    · rintro tail rfl
      exact hends.notMem (by decide)
  · have hsigned : skipExponent.skipSigned (sign ++ (digits ++ rest)) = .ok rest := by
      have hskip := skipDigits_append hdigits hends.noDigit
      simp only [List.mem_cons, List.not_mem_nil, or_false] at hsign
      rcases hsign with rfl | rfl | rfl
      · obtain ⟨c, tail, rfl⟩ := List.exists_cons_of_ne_nil hdigits.1
        have hc := hdigits.2 c List.mem_cons_self
        rw [List.nil_append, List.cons_append, skipExponent.skipSigned, ← List.cons_append, hskip]
        · rintro - ⟨⟩
          cases hc
        · rintro - ⟨⟩
          cases hc
      · exact hskip
      · exact hskip
    simp only [List.mem_cons, List.not_mem_nil, or_false] at hletter
    rw [List.cons_append, List.append_assoc]
    rcases hletter with rfl | rfl <;> exact hsigned

theorem exponent_of_skipExponent (h : skipExponent cs = .ok rest) :
    ∃ exponent, Exponent exponent ∧ cs = exponent ++ rest := by
  have hsigned : ∀ {cs}, skipExponent.skipSigned cs = .ok rest → ∃ sign digits,
      sign ∈ [[], ['+'], ['-']] ∧ Digits digits ∧ cs = sign ++ (digits ++ rest) := by
    intro cs h
    unfold skipExponent.skipSigned at h
    split at h
    all_goals
      obtain ⟨digits, hdigits, rfl⟩ := digits_of_skipDigits h
    · exact ⟨['+'], digits, by simp, hdigits, rfl⟩
    · exact ⟨['-'], digits, by simp, hdigits, rfl⟩
    · exact ⟨[], digits, by simp, hdigits, rfl⟩
  unfold skipExponent at h
  split at h
  · obtain ⟨sign, digits, hsign, hdigits, rfl⟩ := hsigned h
    exact ⟨_, .inr ⟨'e', sign, digits, by simp, hsign, hdigits, rfl⟩, by simp⟩
  · obtain ⟨sign, digits, hsign, hdigits, rfl⟩ := hsigned h
    exact ⟨_, .inr ⟨'E', sign, digits, by simp, hsign, hdigits, rfl⟩, by simp⟩
  · cases h
    exact ⟨[], .inl rfl, rfl⟩

/-- A number without a fraction is passed over by its exponent. -/
theorem skipNumber_whole {whole tail : List Char} (hwhole : Digits whole)
    (hzero : whole.head? = some '0' → whole = ['0']) (htail : NoDigit tail)
    (hpoint : ∀ rest, tail ≠ '.' :: rest) : skipNumber (whole ++ tail) = skipExponent tail := by
  rw [skipNumber, spanDigits_append hwhole.2 htail]
  split
  · rename_i heq
    exact absurd (Prod.mk.inj heq).1 hwhole.1
  · rename_i heq
    obtain ⟨rfl, -⟩ := Prod.mk.inj heq
    cases hzero rfl
  · rename_i heq
    exact absurd (Prod.mk.inj heq).2 (hpoint _)
  · rename_i heq
    rw [(Prod.mk.inj heq).2]

/-- A number with a fraction is passed over by the fraction and the exponent. -/
theorem skipNumber_point {whole tail : List Char} (hwhole : Digits whole)
    (hzero : whole.head? = some '0' → whole = ['0']) :
    skipNumber (whole ++ '.' :: tail) = (skipDigits tail >>= skipExponent) := by
  rw [skipNumber, spanDigits_append hwhole.2 (noDigit_cons rfl)]
  split
  · rename_i heq
    exact absurd (Prod.mk.inj heq).1 hwhole.1
  · rename_i heq
    obtain ⟨rfl, -⟩ := Prod.mk.inj heq
    cases hzero rfl
  · rename_i heq
    obtain ⟨-, heq⟩ := Prod.mk.inj heq
    rw [(List.cons.inj heq).2]
  · rename_i hpoint heq
    obtain ⟨-, rfl⟩ := Prod.mk.inj heq
    exact (hpoint _ rfl).elim

/-- A number is passed over up to its end. -/
theorem skipNumber_append {size : List Char} (h : Magnitude size) (hends : Ends rest) :
    skipNumber (size ++ rest) = .ok rest := by
  obtain ⟨whole, fraction, exponent, hwhole, hzero, hfraction, hexponent, rfl⟩ := h
  have hskip := skipExponent_append hexponent hends
  have hexp := exponent_noDigit hexponent hends
  rw [List.append_assoc, List.append_assoc]
  rcases hfraction with rfl | ⟨digits, hdigits, rfl⟩
  · rw [List.nil_append, skipNumber_whole hwhole hzero hexp, hskip]
    -- neither an exponent nor the end of a number begins with a point
    intro tail heq
    rcases hexponent with rfl | ⟨letter, sign, digits, hletter, -, -, rfl⟩
    · rw [List.nil_append] at heq
      subst heq
      exact hends.notMem (by decide)
    · obtain ⟨rfl, -⟩ := List.cons.inj heq
      revert hletter
      decide
  · rw [List.cons_append, skipNumber_point hwhole hzero, skipDigits_append hdigits hexp, ok_bind,
      hskip]

/-- What is passed over as a number is one. -/
theorem magnitude_of_skipNumber (h : skipNumber cs = .ok rest) :
    ∃ size, Magnitude size ∧ cs = size ++ rest := by
  have hlone : ∀ {whole : List Char}, (∀ c tail, whole = '0' :: c :: tail → False) →
      whole.head? = some '0' → whole = ['0'] := by
    rintro whole hzero hhead
    obtain ⟨tail, rfl⟩ := List.head?_eq_some_iff.mp hhead
    cases tail with
    | nil => rfl
    | cons c tail => exact (hzero c tail rfl).elim
  unfold skipNumber at h
  split at h
  · cases h
  · cases h
  · rename_i whole after hnil hzero hspan
    obtain ⟨next, hfraction, hnext⟩ := ok_of_bind h
    obtain ⟨digits, hdigits, rfl⟩ := digits_of_skipDigits hfraction
    obtain ⟨exponent, hexponent, rfl⟩ := exponent_of_skipExponent hnext
    obtain ⟨hwhole, rfl⟩ := eq_of_spanDigits hspan
    exact ⟨whole ++ ('.' :: digits ++ exponent), ⟨whole, '.' :: digits, exponent, ⟨hnil, hwhole⟩,
      hlone hzero, .inr ⟨digits, hdigits, rfl⟩, hexponent, rfl⟩, by simp⟩
  · rename_i whole after hnil hzero hpoint hspan
    obtain ⟨exponent, hexponent, rfl⟩ := exponent_of_skipExponent h
    obtain ⟨hwhole, rfl⟩ := eq_of_spanDigits hspan
    exact ⟨whole ++ ([] ++ exponent), ⟨whole, [], exponent, ⟨hnil, hwhole⟩, hlone hzero, .inl rfl,
      hexponent, rfl⟩, by simp⟩

end

/-! ## Values -/

section
variable {v : Value} {cs here after rest : List Char} {first : Bool}

theorem skipGap_skipGap (cs : List Char) : skipGap (skipGap cs) = skipGap cs :=
  List.dropWhile_idempotent ..

theorem skipNested_skipGap (fuel : Nat) (cs : List Char) :
    skipNested fuel (skipGap cs) = skipNested fuel cs := by
  cases fuel with
  | zero => rfl
  | succ fuel => rw [skipNested, skipNested, skipGap_skipGap]

/-- One element is passed over, and then the others. -/
theorem skipItems_item (hcomma : Comma first cs here) (hv : Spells v here rest) (fuel n : Nat) :
    skipItems (skipNested fuel) (n + 1) first cs =
      (skipNested fuel here >>= skipItems (skipNested fuel) n false) := by
  obtain ⟨c, tail, hgap, hopens⟩ := hv.opens
  cases first with
  | true =>
    obtain rfl : cs = here := hcomma
    rw [skipItems, ← skipNested_skipGap, hgap.skipGap_eq (Value.isGap_of_opens hopens)]
    split
    · rename_i heq
      cases heq
    · rename_i heq
      obtain ⟨rfl, -⟩ := List.cons.inj heq
      exact absurd (by decide) (Value.notMem_of_opens hopens)
    · rename_i heq
      rw [heq]
      rfl
  | false =>
    rw [skipItems, Gap.skipGap_eq hcomma rfl]
    rfl

theorem colon_gap (h : Gap cs (':' :: rest)) : colon cs = .ok rest := by
  rw [colon, h.skipGap_eq rfl]
  rfl

theorem gap_of_colon (h : colon cs = .ok rest) : Gap cs (':' :: rest) := by
  unfold colon at h
  split at h
  · cases h
  · rename_i hcs
    cases h
    exact gap_of_skipGap hcs
  · cases h

/-- One member is passed over, and then the others. -/
theorem skipMembers_member {key value : List Char} (hcomma : Comma first cs here)
    (hkey : Gap here ('"' :: (key ++ '"' :: after))) (hbody : Body key)
    (hcolon : Gap after (':' :: value)) (fuel n : Nat) :
    skipMembers (skipNested fuel) (n + 1) first cs =
      (skipNested fuel value >>= skipMembers (skipNested fuel) n false) := by
  have hmember : skipMembers.member (skipNested fuel) ('"' :: (key ++ '"' :: after)) =
      skipNested fuel value := by
    rw [skipMembers.member, skipString_body hbody, ok_bind, colon_gap hcolon, ok_bind]
  cases first with
  | true =>
    obtain rfl : cs = here := hcomma
    rw [skipMembers, hkey.skipGap_eq rfl, ← hmember]
    rfl
  | false =>
    rw [skipMembers, Gap.skipGap_eq hcomma rfl, ← hmember, ← hkey.skipGap_eq rfl]
    rfl

theorem skipNested_numeral {digits : List Char} (h : Gap cs (digits ++ rest))
    (hnumeral : Numeral digits) (hends : Ends rest) (fuel : Nat) :
    skipNested (fuel + 1) cs = .ok rest := by
  rcases hnumeral with hsize | ⟨size, hsize, rfl⟩
  · have hskip := skipNumber_append hsize hends
    obtain ⟨whole, fraction, exponent, hwhole, -, -, -, rfl⟩ := hsize
    obtain ⟨c, tail, rfl⟩ := List.exists_cons_of_ne_nil hwhole.1
    have hc := hwhole.2 c List.mem_cons_self
    -- a digit is none of the other characters that a value may begin with
    simp only [List.cons_append] at h hskip
    have hopens : (Value.number []).opens c = true := by simp [Value.opens, hc]
    rw [skipNested, h.skipGap_eq (Value.isGap_of_opens hopens)]
    split
    case h_9 =>
      rename_i heq
      rw [← (List.cons.inj heq).1, ← (List.cons.inj heq).2, if_pos hc, hskip]
    case h_1 heq => cases heq
    all_goals
      rename_i heq
      obtain ⟨rfl, -⟩ := List.cons.inj heq
      cases hc
  · rw [skipNested, h.skipGap_eq rfl]
    exact skipNumber_append hsize hends

mutual
/-- A value is passed over. -/
theorem skipNested_spells {v : Value} {cs rest : List Char} :
    Spells v cs rest → ∀ {fuel}, cs.length < fuel → skipNested fuel cs = .ok rest
  | .null h, fuel + 1, _ => by
    rw [skipNested, h.skipGap_eq rfl]
    rfl
  | .on h, fuel + 1, _ => by
    rw [skipNested, h.skipGap_eq rfl]
    rfl
  | .off h, fuel + 1, _ => by
    rw [skipNested, h.skipGap_eq rfl]
    rfl
  | .number h hnumeral hends, fuel + 1, _ => skipNested_numeral h hnumeral hends fuel
  | .text h hbody, fuel + 1, _ => by
    rw [skipNested, h.skipGap_eq rfl]
    exact skipString_body hbody _
  | .list h hitems, fuel + 1, hfuel => by
    have hlength := h.length_le
    rw [List.length_cons] at hlength
    rw [skipNested, h.skipGap_eq rfl]
    exact skipItems_items hitems (by omega) (by omega)
  | .object h hmembers, fuel + 1, hfuel => by
    have hlength := h.length_le
    rw [List.length_cons] at hlength
    rw [skipNested, h.skipGap_eq rfl]
    exact skipMembers_members hmembers (by omega) (by omega)

/-- The elements of a list are passed over. -/
theorem skipItems_items {first : Bool} {items : List Value} {cs rest : List Char} :
    Items first items cs rest → ∀ {fuel n}, cs.length < fuel → cs.length < n →
      skipItems (skipNested fuel) n first cs = .ok rest
  | .close h, fuel, n + 1, _, _ => by
    rw [skipItems, h.skipGap_eq rfl]
    rfl
  | .item hcomma hv hitems, fuel, n + 1, hfuel, hn => by
    have hhere := hcomma.length_le
    have hnext := hv.length_lt
    rw [skipItems_item hcomma hv, skipNested_spells hv (by omega), ok_bind]
    exact skipItems_items hitems (by omega) (by omega)

/-- The members of an object are passed over. -/
theorem skipMembers_members {first : Bool} {members : List (List Char × Value)}
    {cs rest : List Char} : Members first members cs rest → ∀ {fuel n}, cs.length < fuel →
      cs.length < n → skipMembers (skipNested fuel) n first cs = .ok rest
  | .close h, fuel, n + 1, _, _ => by
    rw [skipMembers, h.skipGap_eq rfl]
    rfl
  | .member hcomma hkey hbody hcolon hv hmembers, fuel, n + 1, hfuel, hn => by
    have hhere := hcomma.length_le
    have hafter := hkey.length_le
    have hvalue := hcolon.length_le
    have hnext := hv.length_lt
    simp only [List.length_cons, List.length_append] at hafter hvalue
    rw [skipMembers_member hcomma hkey hbody hcolon, skipNested_spells hv (by omega), ok_bind]
    exact skipMembers_members hmembers (by omega) (by omega)
end

/-- Every value can be passed over. -/
theorem skipValue_of_spells (h : Spells v cs rest) : skipValue cs = .ok rest :=
  skipNested_spells h (Nat.lt_succ_self _)

/-! ### What was passed over -/

/-- Wherever a value is passed over and a number ends, there was a value. -/
def Covers (skip : List Char → Except Error (List Char)) : Prop :=
  ∀ {cs rest}, skip cs = .ok rest → Ends rest → ∃ v, Spells v cs rest

theorem items_of_skipItems {skip : List Char → Except Error (List Char)} (hskip : Covers skip)
    {n : Nat} (h : skipItems skip n first cs = .ok rest) :
    ∃ items, Items first items cs rest := by
  induction n generalizing first cs with
  | zero => cases h
  | succ n ih =>
    unfold skipItems at h
    split at h
    · cases h
    · rename_i hcs
      cases h
      exact ⟨[], .close (gap_of_skipGap hcs)⟩
    · rename_i hcs
      split at h
      · rename_i hfirst
        subst hfirst
        obtain ⟨next, hvalue, hrest⟩ := ok_of_bind h
        obtain ⟨items, hitems⟩ := ih hrest
        obtain ⟨v, hv⟩ := hskip hvalue hitems.ends
        exact ⟨v :: items, .item (show Comma true cs cs from rfl)
          (hv.of_gap (gap_of_skipGap hcs)) hitems⟩
      · rename_i hfirst
        obtain rfl : first = false := by simpa using hfirst
        split at h
        · rename_i hc
          subst hc
          obtain ⟨next, hvalue, hrest⟩ := ok_of_bind h
          obtain ⟨items, hitems⟩ := ih hrest
          obtain ⟨v, hv⟩ := hskip hvalue hitems.ends
          exact ⟨v :: items, .item (show Comma false cs _ from gap_of_skipGap hcs) hv hitems⟩
        · cases h

theorem member_of_skipMember {skip : List Char → Except Error (List Char)}
    (h : skipMembers.member skip cs = .ok rest) : ∃ key after value,
      cs = '"' :: (key ++ '"' :: after) ∧ Body key ∧ Gap after (':' :: value) ∧
        skip value = .ok rest := by
  unfold skipMembers.member at h
  split at h
  · cases h
  · obtain ⟨after, hkey, hafter⟩ := ok_of_bind h
    obtain ⟨value, hcolon, hvalue⟩ := ok_of_bind hafter
    obtain ⟨key, hbody, rfl⟩ := body_of_skipString hkey
    exact ⟨key, after, value, rfl, hbody, gap_of_colon hcolon, hvalue⟩
  · cases h

theorem members_of_skipMembers {skip : List Char → Except Error (List Char)}
    (hskip : Covers skip) {n : Nat} (h : skipMembers skip n first cs = .ok rest) :
    ∃ members, Members first members cs rest := by
  induction n generalizing first cs with
  | zero => cases h
  | succ n ih =>
    have hmember : ∀ {here next}, Comma first cs here →
        skipMembers.member skip (skipGap here) = .ok next →
        skipMembers skip n false next = .ok rest → ∃ members, Members first members cs rest := by
      intro here next hcomma hmember hrest
      obtain ⟨key, after, value, hkey, hbody, hcolon, hvalue⟩ := member_of_skipMember hmember
      obtain ⟨members, hmembers⟩ := ih hrest
      obtain ⟨v, hv⟩ := hskip hvalue hmembers.ends
      exact ⟨(key, v) :: members,
        .member hcomma (gap_of_skipGap hkey) hbody hcolon hv hmembers⟩
    unfold skipMembers at h
    split at h
    · cases h
    · rename_i hcs
      cases h
      exact ⟨[], .close (gap_of_skipGap hcs)⟩
    · rename_i hcs
      split at h
      · rename_i hfirst
        subst hfirst
        obtain ⟨next, hnext, hrest⟩ := ok_of_bind h
        exact hmember (show Comma true cs cs from rfl) (hcs ▸ hnext) hrest
      · rename_i hfirst
        obtain rfl : first = false := by simpa using hfirst
        split at h
        · rename_i hc
          subst hc
          obtain ⟨next, hnext, hrest⟩ := ok_of_bind h
          exact hmember (show Comma false cs _ from gap_of_skipGap hcs) hnext hrest
        · cases h

theorem covers_skipNested (fuel : Nat) : Covers (skipNested fuel) := by
  induction fuel with
  | zero => exact nofun
  | succ fuel ih =>
    intro cs rest h hends
    unfold skipNested at h
    split at h <;> rename_i hcs
    · cases h
    · obtain rfl := eq_of_word h
      exact ⟨.null, .null (gap_of_skipGap hcs)⟩
    · obtain rfl := eq_of_word h
      exact ⟨.flag true, .on (gap_of_skipGap hcs)⟩
    · obtain rfl := eq_of_word h
      exact ⟨.flag false, .off (gap_of_skipGap hcs)⟩
    · obtain ⟨body, hbody, rfl⟩ := body_of_skipString h
      exact ⟨.text body, .text (gap_of_skipGap hcs) hbody⟩
    · obtain ⟨items, hitems⟩ := items_of_skipItems ih h
      exact ⟨.list items, .list (gap_of_skipGap hcs) hitems⟩
    · obtain ⟨members, hmembers⟩ := members_of_skipMembers ih h
      exact ⟨.object members, .object (gap_of_skipGap hcs) hmembers⟩
    · obtain ⟨size, hsize, rfl⟩ := magnitude_of_skipNumber h
      exact ⟨.number ('-' :: size),
        .number (gap_of_skipGap hcs) (.inr ⟨size, hsize, rfl⟩) hends⟩
    · split at h
      · obtain ⟨size, hsize, heq⟩ := magnitude_of_skipNumber h
        exact ⟨.number size, .number (gap_of_skipGap (hcs.trans heq)) (.inl hsize) hends⟩
      · cases h

/-- What is passed over is a value, if it ends where a number may end. -/
theorem spells_of_skipValue (h : skipValue cs = .ok rest) (hends : Ends rest) :
    ∃ v, Spells v cs rest :=
  covers_skipNested _ h hends

/-! ### One tree for a document -/

theorem Spells.eq_of_flag {b : Bool} (h : Spells v cs rest) (h' : Spells (.flag b) cs after) :
    v = .flag b ∧ after = rest := by
  cases h' with
  | on h' =>
    obtain ⟨rfl, htail⟩ := h.on_of_skipGap (h'.skipGap_eq rfl)
    cases htail
    exact ⟨rfl, rfl⟩
  | off h' =>
    obtain ⟨rfl, htail⟩ := h.off_of_skipGap (h'.skipGap_eq rfl)
    cases htail
    exact ⟨rfl, rfl⟩

theorem Spells.eq_of_text {body : List Char} (h : Spells v cs rest)
    (h' : Spells (.text body) cs after) : v = .text body ∧ after = rest := by
  cases h' with
  | text h' hbody' =>
    obtain ⟨body', rfl, htail, hbody⟩ := h.text_of_skipGap (h'.skipGap_eq rfl)
    -- the string is passed over in one way only
    have hskip := skipString_body hbody' after
    rw [htail, skipString_body hbody rest] at hskip
    cases hskip
    exact ⟨congrArg _ (List.append_cancel_right htail).symm, rfl⟩

end

end DeviceSpec.Json
