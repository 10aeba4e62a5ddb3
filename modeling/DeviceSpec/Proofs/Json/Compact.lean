import DeviceSpec.Proofs.Json.Pass

/-!
# A document for every tree

A tree whose strings and numbers are spelled well is that of a document: the one that holds no
blanks (`document_compact`). So trees can be given first, and documents made from them.
-/

namespace DeviceSpec.Json

/-! ## Trees that are spelled well -/

/-- The characters may stand between quotation marks. -/
def isBody (body : List Char) : Bool :=
  match skipString (body ++ ['"']) with
  | .ok [] => true
  | _ => false

/-- The characters are a number without its sign. -/
def isMagnitude (size : List Char) : Bool :=
  match skipNumber size with
  | .ok [] => true
  | _ => false

mutual
/-- The strings and numbers of the tree are spelled well. -/
def Value.isSpelled : Value → Bool
  | .null | .flag _ => true
  | .number ('-' :: size) => isMagnitude size
  | .number size => isMagnitude size
  | .text body => isBody body
  | .list items => areSpelled items
  | .object members => membersSpelled members

/-- So are those of the elements. -/
def areSpelled : List Value → Bool
  | [] => true
  | v :: items => v.isSpelled && areSpelled items

/-- So are those of the members. -/
def membersSpelled : List (List Char × Value) → Bool
  | [] => true
  | (key, v) :: members => isBody key && v.isSpelled && membersSpelled members
end

theorem body_of_isBody {body : List Char} (h : isBody body = true) : Body body := by
  unfold isBody at h
  split at h
  · rename_i hskip
    obtain ⟨body', hbody, heq⟩ := body_of_skipString hskip
    exact List.append_cancel_right heq ▸ hbody
  · cases h

theorem magnitude_of_isMagnitude {size : List Char} (h : isMagnitude size = true) :
    Magnitude size := by
  unfold isMagnitude at h
  split at h
  · rename_i hskip
    obtain ⟨size', hsize, rfl⟩ := magnitude_of_skipNumber hskip
    rwa [List.append_nil]
  · cases h

theorem numeral_of_isSpelled {digits : List Char} (h : (Value.number digits).isSpelled = true) :
    Numeral digits := by
  unfold Value.isSpelled at h
  split at h
  any_goals contradiction
  · rename_i heq
    cases heq
    exact .inr ⟨_, magnitude_of_isMagnitude h, rfl⟩
  · rename_i heq
    cases heq
    exact .inl (magnitude_of_isMagnitude h)

/-! ## Documents without blanks -/

mutual
/-- A text of the value without blanks. -/
def Value.compact : Value → List Char
  | .null => ['n', 'u', 'l', 'l']
  | .flag true => ['t', 'r', 'u', 'e']
  | .flag false => ['f', 'a', 'l', 's', 'e']
  | .number digits => digits
  | .text body => '"' :: (body ++ ['"'])
  | .list items => '[' :: compactItems true items
  | .object members => '{' :: compactMembers true members

/-- The elements of a list and its bracket. -/
def compactItems : Bool → List Value → List Char
  | _, [] => [']']
  | true, v :: items => v.compact ++ compactItems false items
  | false, v :: items => ',' :: (v.compact ++ compactItems false items)

/-- The members of an object and its brace. -/
def compactMembers : Bool → List (List Char × Value) → List Char
  | _, [] => ['}']
  | true, (key, v) :: members =>
    '"' :: (key ++ '"' :: ':' :: (v.compact ++ compactMembers false members))
  | false, (key, v) :: members =>
    ',' :: '"' :: (key ++ '"' :: ':' :: (v.compact ++ compactMembers false members))
end

mutual
/-- The text is one of the value. -/
theorem spells_compact (rest : List Char) (hends : Ends rest) :
    ∀ v : Value, v.isSpelled = true → Spells v (v.compact ++ rest) rest
  | .null, _ => .null (.refl _)
  | .flag true, _ => .on (.refl _)
  | .flag false, _ => .off (.refl _)
  | .number _, h => .number (.refl _) (numeral_of_isSpelled h) hends
  | .text body, h => by
    rw [Value.isSpelled] at h
    refine .text ?_ (body_of_isBody h)
    rw [Value.compact, List.cons_append, List.append_assoc, List.singleton_append]
    exact .refl _
  | .list items, h => by
    rw [Value.isSpelled] at h
    exact .list (.refl _) (items_compact rest true items h)
  | .object members, h => by
    rw [Value.isSpelled] at h
    exact .object (.refl _) (members_compact rest true members h)

theorem items_compact (rest : List Char) : ∀ (first : Bool) (items : List Value),
    areSpelled items = true → Items first items (compactItems first items ++ rest) rest
  | first, [], _ => .close (by cases first <;> exact .refl _)
  | first, v :: items, h => by
    rw [areSpelled, Bool.and_eq_true] at h
    have hrest := items_compact rest false items h.2
    have hv := spells_compact _ hrest.ends v h.1
    rw [← List.append_assoc] at hv
    cases first with
    | true => exact Items.item (show Comma true _ _ from rfl) hv hrest
    | false => exact Items.item (show Comma false _ _ from .refl _) hv hrest

theorem members_compact (rest : List Char) :
    ∀ (first : Bool) (members : List (List Char × Value)), membersSpelled members = true →
      Members first members (compactMembers first members ++ rest) rest
  | first, [], _ => .close (by cases first <;> exact .refl _)
  | first, (key, v) :: members, h => by
    rw [membersSpelled, Bool.and_eq_true, Bool.and_eq_true] at h
    have hrest := members_compact rest false members h.2
    have hv := spells_compact _ hrest.ends v h.1.2
    have hkey := body_of_isBody h.1.1
    have htext : '"' :: (key ++ '"' :: ':' :: (v.compact ++ compactMembers false members)) ++ rest =
        '"' :: (key ++ '"' :: ':' :: (v.compact ++ (compactMembers false members ++ rest))) := by
      simp
    cases first with
    | true =>
      rw [compactMembers, htext]
      exact .member (show Comma true _ _ from rfl) (.refl _) hkey (.refl _) hv hrest
    | false =>
      rw [compactMembers, List.cons_append, htext]
      exact .member (show Comma false _ _ from .refl _) (.refl _) hkey (.refl _) hv hrest
end

/-- A tree that is spelled well has a document. -/
theorem document_compact {v : Value} (h : v.isSpelled = true) :
    v.Document (String.ofList v.compact) := by
  refine ⟨[], ?_, nofun⟩
  have hspells := spells_compact [] (ends_of_blank nofun) v h
  rwa [List.append_nil, ← String.toList_ofList (l := v.compact)] at hspells

end DeviceSpec.Json
