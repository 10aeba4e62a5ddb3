import DeviceSpec.Path

/-!
# The steps of a path

The segments of a path that matter for where it leads are its *steps*: the names and the double
dots, without empty segments and single dots.

* **joining** — a name below a directory has the steps of the directory, then its own
  (`steps_join`);
* **comparing** — two paths from the root are the same exactly when their steps are
  (`same_iff_steps`);
* **above** — the parent of a path has all its steps but the last (`steps_of_parent?`);
* **below** — what `below?` leaves of a path are the steps that follow those of the base
  (`segments_of_below?`), and it never grows the text of a name that was joined to that base
  (`sublist_of_below?_join`);
* **slashes** — more of them make a path longer, and lead to the same place (`steps_slashes`,
  `steps_append_slashes`).
-/

namespace DeviceSpec.Path

/-- The segments of a path that are names or double dots. -/
def steps (p : Path) : List String := p.segments.filter (fun s => !isIdle s)

/-! ## Segments -/

theorem segmentsOf_ne_nil (cs : List Char) : segmentsOf cs ≠ [] := by
  cases cs with
  | nil => simp [segmentsOf]
  | cons c rest =>
    unfold segmentsOf
    split
    · simp
    · split <;> simp

theorem segmentsOf_append_slash (a b : List Char) :
    segmentsOf (a ++ '/' :: b) = segmentsOf a ++ segmentsOf b := by
  induction a with
  | nil => simp [segmentsOf]
  | cons c rest ih =>
    by_cases hc : c = '/'
    · simp [segmentsOf, hc, ih]
    · simp only [List.cons_append, segmentsOf, hc, if_false, ih]
      cases h : segmentsOf rest with
      | nil => exact absurd h (segmentsOf_ne_nil rest)
      | cons s ss => simp

theorem slash_not_mem_segmentsOf {cs s : List Char} (h : s ∈ segmentsOf cs) : '/' ∉ s := by
  induction cs generalizing s with
  | nil =>
    simp only [segmentsOf, List.mem_singleton] at h
    simp [h]
  | cons c rest ih =>
    unfold segmentsOf at h
    by_cases hc : c = '/'
    · rw [if_pos hc] at h
      rcases List.mem_cons.mp h with rfl | h
      · simp
      · exact ih h
    · rw [if_neg hc] at h
      cases hs : segmentsOf rest with
      | nil => exact absurd hs (segmentsOf_ne_nil rest)
      | cons t ts =>
        rw [hs] at h ih
        rcases List.mem_cons.mp h with rfl | h
        · have ht : '/' ∉ t := ih List.mem_cons_self
          simp [ht, Ne.symm hc]
        · exact ih (List.mem_cons_of_mem _ h)

/-- Every other character than a slash stands in a segment. -/
theorem exists_mem_segmentsOf {cs : List Char} {c : Char} (hc : c ∈ cs) (hslash : c ≠ '/') :
    ∃ s ∈ segmentsOf cs, c ∈ s := by
  induction cs with
  | nil => cases hc
  | cons b rest ih =>
    unfold segmentsOf
    split
    · rename_i hb
      rcases List.mem_cons.mp hc with rfl | hrest
      · exact absurd hb hslash
      · obtain ⟨s, hs, hmem⟩ := ih hrest
        exact ⟨s, List.mem_cons_of_mem _ hs, hmem⟩
    · cases hseg : segmentsOf rest with
      | nil => exact absurd hseg (segmentsOf_ne_nil rest)
      | cons t ts =>
        rcases List.mem_cons.mp hc with rfl | hrest
        · exact ⟨c :: t, List.mem_cons_self, List.mem_cons_self⟩
        · obtain ⟨s, hs, hmem⟩ := ih hrest
          rw [hseg] at hs
          -- the first segment grows by the character in front, the others stay
          rcases List.mem_cons.mp hs with rfl | hs
          · exact ⟨b :: s, List.mem_cons_self, List.mem_cons_of_mem b hmem⟩
          · exact ⟨s, List.mem_cons_of_mem _ hs, hmem⟩

theorem segmentsOf_of_no_slash {cs : List Char} (h : '/' ∉ cs) : segmentsOf cs = [cs] := by
  induction cs with
  | nil => rfl
  | cons c rest ih =>
    rw [List.mem_cons, not_or] at h
    simp [segmentsOf, Ne.symm h.1, ih h.2]

theorem intercalate_segmentsOf (cs : List Char) :
    "/".intercalate ((segmentsOf cs).map String.ofList) = String.ofList cs := by
  induction cs with
  | nil => simp [segmentsOf]
  | cons c rest ih =>
    cases hs : segmentsOf rest with
    | nil => exact absurd hs (segmentsOf_ne_nil rest)
    | cons t ts =>
      rw [hs] at ih
      by_cases hc : c = '/'
      · have hslash : String.ofList ('/' :: rest) = "/" ++ String.ofList rest := by
          rw [← List.singleton_append, String.ofList_append]
        simp only [segmentsOf, hc, if_true, hs, List.map_cons, String.intercalate_cons_cons]
        rw [hslash, ← ih, List.map_cons]
        simp
      · have hcons : ∀ l : List Char,
            String.ofList (c :: l) = String.ofList [c] ++ String.ofList l :=
          fun l => by rw [← List.singleton_append, String.ofList_append]
        simp only [segmentsOf, hc, if_false, hs, List.map_cons]
        rw [hcons t, String.intercalate_cons_append, hcons rest, ← ih, List.map_cons]

theorem segments_ne_nil (p : Path) : p.segments ≠ [] := by
  simp [segments, segmentsOf_ne_nil]

theorem slash_not_mem_segment {p : Path} {s : String} (h : s ∈ p.segments) : '/' ∉ s.toList := by
  obtain ⟨cs, hcs, rfl⟩ := List.mem_map.mp h
  simpa using slash_not_mem_segmentsOf hcs

/-- Every character that is neither a slash nor a dot stands in a step. -/
theorem exists_mem_steps {p : Path} {c : Char} (hc : c ∈ p.text.toList) (hslash : c ≠ '/')
    (hdot : c ≠ '.') : ∃ s ∈ p.steps, c ∈ s.toList := by
  obtain ⟨cs, hseg, hmem⟩ := exists_mem_segmentsOf hc hslash
  refine ⟨String.ofList cs, List.mem_filter.mpr ⟨List.mem_map_of_mem hseg, ?_⟩, by simpa using hmem⟩
  have hnil : cs ≠ [] := List.ne_nil_of_mem hmem
  have hone : cs ≠ ['.'] := by
    rintro rfl
    exact hdot (List.mem_singleton.mp hmem)
  simp [isIdle, ← String.toList_inj, hnil, hone]

/-- A slash divides the segments of a text. -/
theorem segments_append_slash (a b : String) :
    segments ⟨a ++ "/" ++ b⟩ = segments ⟨a⟩ ++ segments ⟨b⟩ := by
  have htext : (a ++ "/" ++ b).toList = a.toList ++ '/' :: b.toList := by simp
  simp [segments, htext, segmentsOf_append_slash]

/-- A path is its segments with slashes between them. -/
theorem intercalate_segments (p : Path) : "/".intercalate p.segments = p.text := by
  simpa [segments] using intercalate_segmentsOf p.text.toList

theorem segments_intercalate {ss : List String} (hne : ss ≠ [])
    (h : ∀ s ∈ ss, '/' ∉ s.toList) : segments ⟨"/".intercalate ss⟩ = ss := by
  induction ss with
  | nil => exact absurd rfl hne
  | cons s rest ih =>
    have hs : segments ⟨s⟩ = [s] := by
      simp [segments, segmentsOf_of_no_slash (h s List.mem_cons_self)]
    cases rest with
    | nil => simpa using hs
    | cons t ts =>
      have hrest := ih (by simp) (fun u hu => h u (List.mem_cons_of_mem _ hu))
      rw [String.intercalate_cons_cons, segments_append_slash, hs, hrest]
      simp

/-! ## Slashes at the ends -/

/-- A path from the root is a slash and a text. -/
theorem eq_of_isAbsolute {p : Path} (h : p.isAbsolute = true) :
    ∃ rest, p = ⟨"" ++ "/" ++ rest⟩ := by
  obtain ⟨rest, hrest⟩ := List.isPrefixOf_iff_prefix.mp h
  have htext : p.text = "" ++ "/" ++ String.ofList rest := by
    rw [← String.toList_inj, ← hrest]
    simp
  exact ⟨String.ofList rest, congrArg Path.mk htext⟩

theorem eq_of_endsInSlash {p : Path} (h : p.endsInSlash = true) :
    ∃ front, p = ⟨front ++ "/" ++ ""⟩ := by
  obtain ⟨front, hfront⟩ := List.isSuffixOf_iff_suffix.mp h
  have htext : p.text = String.ofList front ++ "/" ++ "" := by
    rw [← String.toList_inj, ← hfront]
    simp
  exact ⟨String.ofList front, congrArg Path.mk htext⟩

/-- A path from the root begins with an empty segment. -/
theorem segments_of_isAbsolute {p : Path} (h : p.isAbsolute = true) :
    ∃ rest, rest ≠ [] ∧ p.segments = "" :: rest := by
  obtain ⟨rest, rfl⟩ := eq_of_isAbsolute h
  refine ⟨segments ⟨rest⟩, segments_ne_nil _, ?_⟩
  rw [segments_append_slash]
  rfl

/-- A slash at the end leaves an empty segment. -/
theorem getLast?_of_endsInSlash {p : Path} (h : p.endsInSlash = true) :
    p.segments.getLast? = some "" := by
  obtain ⟨front, rfl⟩ := eq_of_endsInSlash h
  rw [segments_append_slash]
  simp [segments, segmentsOf]

theorem suffix_of_getLast?_segmentsOf {cs : List Char} (h : (segmentsOf cs).getLast? = some []) :
    cs = [] ∨ ['/'] <:+ cs := by
  induction cs with
  | nil => exact .inl rfl
  | cons c rest ih =>
    have hne := segmentsOf_ne_nil rest
    refine .inr ?_
    by_cases hc : c = '/'
    · subst hc
      have hlast : (segmentsOf rest).getLast? = some [] := by
        rw [segmentsOf, if_pos rfl, List.getLast?_cons_of_ne_nil hne] at h
        exact h
      rcases ih hlast with rfl | hrest
      · exact List.suffix_refl _
      · exact hrest.trans (List.suffix_cons _ _)
    · cases hs : segmentsOf rest with
      | nil => exact absurd hs hne
      | cons t ts =>
        cases ts with
        | nil => simp [segmentsOf, hc, hs] at h
        | cons u us =>
          have hlast : (segmentsOf rest).getLast? = some [] := by
            rw [hs]
            simpa [segmentsOf, hc, hs] using h
          rcases ih hlast with rfl | hrest
          · simp [segmentsOf] at hs
          · exact hrest.trans (List.suffix_cons _ _)

/-- Only a slash at the end leaves an empty segment there. -/
theorem endsInSlash_of_getLast? {p : Path} (hp : p.text ≠ "") (h : p.segments.getLast? = some "") :
    p.endsInSlash = true := by
  rw [segments, List.getLast?_map, Option.map_eq_some_iff] at h
  obtain ⟨cs, hlast, hcs⟩ := h
  have hnil : cs = [] := by simpa using hcs
  rw [hnil] at hlast
  rcases suffix_of_getLast?_segmentsOf hlast with hempty | hsuffix
  · exact absurd (by simpa using hempty) hp
  · simpa [endsInSlash, Text.hasTail, List.isSuffixOf_iff_suffix] using hsuffix

theorem text_ne_empty_of_isAbsolute {p : Path} (h : p.isAbsolute = true) : p.text ≠ "" := by
  obtain ⟨rest, rfl⟩ := eq_of_isAbsolute h
  simp

/-! ## Joining -/

/-- What stands before the segments of a name below a directory is the same for all names: its steps
are those of the directory. -/
theorem exists_segments_join (p : Path) :
    ∃ front, (∀ name, isAbsolute ⟨name⟩ = false →
        (p.join name).segments = front ++ segments ⟨name⟩) ∧
      front.filter (fun s => !isIdle s) = p.steps ∧
      (p.isAbsolute = true → ∃ more, front = "" :: more) := by
  have hjoin : ∀ name, isAbsolute ⟨name⟩ = false → p.join name =
      if p.text.isEmpty || p.endsInSlash then ⟨p.text ++ name⟩ else ⟨p.text ++ "/" ++ name⟩ := by
    intro name h
    rw [join, if_neg (by simpa [isAbsolute] using h)]
  by_cases hempty : p.text = ""
  · refine ⟨[], fun name h => ?_, ?_, ?_⟩
    · simp [hjoin name h, hempty]
    · simp [steps, segments, hempty, segmentsOf, isIdle]
    · intro habs
      exact absurd hempty (text_ne_empty_of_isAbsolute habs)
  · by_cases hslash : p.endsInSlash = true
    · have hdirect : (p.text.isEmpty || p.endsInSlash) = true := by simp [hslash]
      obtain ⟨front, rfl⟩ := eq_of_endsInSlash hslash
      refine ⟨segments ⟨front⟩, fun name h => ?_, ?_, ?_⟩
      · rw [hjoin name h, if_pos hdirect, String.append_empty, segments_append_slash]
      · rw [steps, segments_append_slash]
        simp [segments, segmentsOf, isIdle]
      · intro habs
        obtain ⟨rest, hne, hrest⟩ := segments_of_isAbsolute habs
        rw [segments_append_slash] at hrest
        cases hf : segments ⟨front⟩ with
        | nil => exact absurd hf (segments_ne_nil _)
        | cons t ts =>
          rw [hf] at hrest
          exact ⟨ts, by rw [(List.cons.inj hrest).1]⟩
    · refine ⟨p.segments, fun name h => ?_, rfl, ?_⟩
      · rw [hjoin name h, if_neg (by simp [hempty, hslash]), segments_append_slash]
      · intro habs
        obtain ⟨rest, -, hrest⟩ := segments_of_isAbsolute habs
        exact ⟨rest, hrest⟩

/-- The segments of a name below a directory end with those of the name; the steps before them are
those of the directory. -/
theorem segments_join {p : Path} {name : String} (h : isAbsolute ⟨name⟩ = false) :
    ∃ front, (p.join name).segments = front ++ segments ⟨name⟩ ∧
      front.filter (fun s => !isIdle s) = p.steps ∧
      (p.isAbsolute = true → ∃ more, front = "" :: more) := by
  obtain ⟨front, hjoin, hrest⟩ := exists_segments_join p
  exact ⟨front, hjoin name h, hrest⟩

@[simp] theorem steps_join {p : Path} {name : String} (h : isAbsolute ⟨name⟩ = false) :
    (p.join name).steps = p.steps ++ steps ⟨name⟩ := by
  obtain ⟨front, hseg, hfront, -⟩ := segments_join (p := p) h
  rw [steps, hseg, List.filter_append, hfront]
  rfl

theorem isAbsolute_join {p : Path} (hp : p.isAbsolute = true) (name : String) :
    (p.join name).isAbsolute = true := by
  unfold join
  split
  · assumption
  · obtain ⟨rest, rfl⟩ := eq_of_isAbsolute hp
    split <;> simp [isAbsolute, Text.hasHead, List.isPrefixOf]

theorem isAbsolute_join_of_relative {p : Path} {name : String} (hp : p.isAbsolute = false)
    (h : isAbsolute ⟨name⟩ = false) : (p.join name).isAbsolute = false := by
  unfold join
  rw [if_neg (by simpa [isAbsolute] using h)]
  by_cases hempty : p.text = ""
  · simpa [hempty] using h
  · have htext : p.text.toList ≠ [] := by simpa using hempty
    cases hl : p.text.toList with
    | nil => exact absurd hl htext
    | cons c rest =>
      have hc : Text.hasHead "/" p.text = false := hp
      simp only [Text.hasHead, hl] at hc
      split <;> simpa [isAbsolute, Text.hasHead, hl, List.isPrefixOf] using hc

theorem isAbsolute_join_eq {p : Path} {name : String} (h : isAbsolute ⟨name⟩ = false) :
    (p.join name).isAbsolute = p.isAbsolute := by
  cases hp : p.isAbsolute with
  | true => exact isAbsolute_join hp name
  | false => exact isAbsolute_join_of_relative hp h

/-- What `join` puts between a directory and a name. -/
def gap (p : Path) : String := if p.text.isEmpty || p.endsInSlash then "" else "/"

theorem byteSize_gap_le (p : Path) : p.gap.utf8ByteSize ≤ 1 := by
  unfold gap
  split <;> decide

theorem text_join {p : Path} {name : String} (h : isAbsolute ⟨name⟩ = false) :
    (p.join name).text = p.text ++ p.gap ++ name := by
  rw [join, gap, if_neg (by simpa [isAbsolute] using h)]
  split
  · rw [String.append_empty]
  · rfl

theorem nul_not_mem_gap (p : Path) : '\x00' ∉ p.gap.toList := by
  unfold gap
  split <;> decide

/-! ## Components -/

/-- What follows the leading component of a path holds its steps. -/
theorem filter_split (p : Path) : p.split.2.filter (fun s => !isIdle s) = p.steps := by
  unfold steps split
  split <;> simp_all [isIdle]

/-- Apart from what leads a path, its components are its steps. -/
theorem components_eq (p : Path) : p.components = p.split.1.toList ++ p.steps.map component := by
  show p.split.1.toList ++ (p.split.2.filter (fun s => !isIdle s)).map component = _
  rw [filter_split]

theorem split_of_isAbsolute {p : Path} (h : p.isAbsolute = true) :
    ∃ rest, p.segments = "" :: rest ∧ p.split = (some .root, rest) := by
  obtain ⟨rest, hne, hrest⟩ := segments_of_isAbsolute h
  refine ⟨rest, hrest, ?_⟩
  unfold split
  rw [hrest]
  cases rest with
  | nil => exact absurd rfl hne
  | cons s ss => rfl

theorem components_of_isAbsolute {p : Path} (h : p.isAbsolute = true) :
    p.components = .root :: p.steps.map component := by
  obtain ⟨rest, -, hsplit⟩ := split_of_isAbsolute h
  rw [components_eq, hsplit]
  rfl

/-- The root is a component of paths from the root only. -/
theorem root_mem_components_iff {p : Path} : .root ∈ p.components ↔ p.isAbsolute = true := by
  constructor
  · intro h
    rw [components_eq, List.mem_append] at h
    have hmap : Component.root ∉ p.steps.map component := by
      intro hmem
      obtain ⟨s, -, hs⟩ := List.mem_map.mp hmem
      unfold component at hs
      split at hs <;> cases hs
    rcases h with h | h
    · unfold split at h
      split at h
      · rename_i s rest hseg
        have htext := intercalate_segments p
        rw [hseg, String.intercalate_cons_cons] at htext
        simp [isAbsolute, Text.hasHead, ← htext, List.isPrefixOf]
      · simp at h
      · simp at h
    · exact absurd h hmap
  · intro h
    rw [components_of_isAbsolute h]
    exact List.mem_cons_self

theorem component_injective {a b : String} (h : component a = component b) : a = b := by
  unfold component at h
  split at h <;> split at h <;> simp_all

theorem map_component_inj {a b : List String} (h : a.map component = b.map component) : a = b := by
  induction a generalizing b with
  | nil => cases b with
    | nil => rfl
    | cons t ts => cases h
  | cons s ss ih =>
    cases b with
    | nil => cases h
    | cons t ts =>
      obtain ⟨hst, hrest⟩ := List.cons.inj h
      rw [component_injective hst, ih hrest]

/-- The root is what only paths that start there have in common. -/
theorem same.isAbsolute {p q : Path} (h : p.same q = true) (hp : p.isAbsolute = true) :
    q.isAbsolute = true := by
  rw [← root_mem_components_iff] at hp ⊢
  rwa [← of_decide_eq_true h]

/-- Paths from the root are the same exactly when they have the same steps. -/
theorem same_iff_steps {p q : Path} (hp : p.isAbsolute = true) (hq : q.isAbsolute = true) :
    p.same q = true ↔ p.steps = q.steps := by
  unfold same
  rw [decide_eq_true_iff, components_of_isAbsolute hp, components_of_isAbsolute hq]
  constructor
  · intro h
    exact map_component_inj (List.cons.inj h).2
  · intro h
    rw [h]

/-! ## Dropping idle segments -/

theorem filter_dropWhile_isIdle (ss : List String) :
    (ss.dropWhile isIdle).filter (fun s => !isIdle s) = ss.filter (fun s => !isIdle s) := by
  induction ss with
  | nil => rfl
  | cons s rest ih =>
    by_cases hs : isIdle s = true
    · simp [hs, ih]
    · simp [hs]

theorem filter_dropIdleEnd (ss : List String) :
    (dropIdleEnd ss).filter (fun s => !isIdle s) = ss.filter (fun s => !isIdle s) := by
  rw [dropIdleEnd, List.filter_reverse, filter_dropWhile_isIdle, ← List.filter_reverse,
    List.reverse_reverse]

theorem startsWith_dropIdleEnd (ss : List String) : dropIdleEnd ss <+: ss := by
  have h := List.dropWhile_suffix isIdle (l := ss.reverse)
  rw [← List.reverse_prefix, List.reverse_reverse] at h
  exact h

/-- What is left ends in a segment that counts. -/
theorem getLast?_dropIdleEnd {ss : List String} {s : String}
    (h : (dropIdleEnd ss).getLast? = some s) : isIdle s = false := by
  rw [dropIdleEnd, List.getLast?_reverse] at h
  have hhead := List.head?_dropWhile_not isIdle ss.reverse
  rw [h] at hhead
  simpa using hhead

/-- As the last segment that is left counts, dropping it drops the last step. -/
theorem filter_dropLast_dropIdleEnd (ss : List String) :
    (dropIdleEnd ss).dropLast.filter (fun s => !isIdle s) =
      (ss.filter (fun s => !isIdle s)).dropLast := by
  rw [← filter_dropIdleEnd ss]
  cases hlast : (dropIdleEnd ss).getLast? with
  | none =>
    rw [List.getLast?_eq_none_iff.mp hlast]
    rfl
  | some s =>
    obtain ⟨front, hfront⟩ := List.getLast?_eq_some_iff.mp hlast
    rw [hfront, List.dropLast_concat, List.filter_append]
    simp [getLast?_dropIdleEnd hlast]

/-- The name of a path is its last step, unless that goes up. -/
theorem fileName?_of_steps {p : Path} {front : List String} {last : String}
    (hsteps : p.steps = front ++ [last]) (hup : last ≠ "..") : p.fileName? = some last := by
  have hfilter := filter_dropIdleEnd p.split.2
  rw [filter_split, hsteps] at hfilter
  cases hlast : (dropIdleEnd p.split.2).getLast? with
  | none =>
    rw [List.getLast?_eq_none_iff.mp hlast] at hfilter
    simp at hfilter
  | some s =>
    -- the segment that is left last counts, so it is the last step
    obtain ⟨before, hbefore⟩ := List.getLast?_eq_some_iff.mp hlast
    rw [hbefore, List.filter_append] at hfilter
    have hsame := List.append_inj_right' hfilter (by simp [getLast?_dropIdleEnd hlast])
    have hs : s = last := by simpa [getLast?_dropIdleEnd hlast] using hsame
    rw [fileName?, hlast, hs]
    simp [hup]

theorem dropComponents_zero (ss : List String) : dropComponents 0 ss = ss.dropWhile isIdle := by
  induction ss with
  | nil => rfl
  | cons s rest ih => by_cases hs : isIdle s = true <;> simp [dropComponents, hs, ih]

theorem filter_dropComponents (n : Nat) (ss : List String) :
    (dropComponents n ss).filter (fun s => !isIdle s) =
      (ss.filter (fun s => !isIdle s)).drop n := by
  induction ss generalizing n with
  | nil => cases n <;> rfl
  | cons s rest ih =>
    cases n with
    | zero => rw [dropComponents_zero, filter_dropWhile_isIdle, List.drop_zero]
    | succ n => by_cases hs : isIdle s = true <;> simp [dropComponents, hs, ih]

/-- What is left begins with a segment that counts. -/
theorem head?_dropComponents {n : Nat} {ss : List String} {s : String}
    (h : (dropComponents n ss).head? = some s) : isIdle s = false := by
  induction ss generalizing n with
  | nil => cases n <;> simp [dropComponents] at h
  | cons t rest ih =>
    cases n with
    | zero =>
      by_cases ht : isIdle t = true
      · exact ih (n := 0) (by simpa [dropComponents, ht] using h)
      · rw [Bool.not_eq_true] at ht
        simp only [dropComponents, ht, Bool.false_eq_true, if_false, List.head?_cons] at h
        rwa [← Option.some.inj h]
    | succ n =>
      by_cases ht : isIdle t = true
      · exact ih (n := n + 1) (by simpa [dropComponents, ht] using h)
      · exact ih (n := n) (by simpa [dropComponents, ht] using h)

theorem dropComponents_suffix (n : Nat) (ss : List String) : dropComponents n ss <:+ ss := by
  induction ss generalizing n with
  | nil => cases n <;> simp [dropComponents]
  | cons s rest ih =>
    have htail : ∀ m, dropComponents m rest <:+ s :: rest :=
      fun m => (ih m).trans (List.suffix_cons s rest)
    cases n with
    | zero => by_cases hs : isIdle s = true <;> simp [dropComponents, hs, htail]
    | succ n => by_cases hs : isIdle s = true <;> simp [dropComponents, hs, htail]

theorem dropComponents_append (a b : List String) :
    dropComponents (a.filter (fun s => !isIdle s)).length (a ++ b) = b.dropWhile isIdle := by
  induction a with
  | nil => exact dropComponents_zero b
  | cons s rest ih =>
    by_cases hs : isIdle s = true
    · cases hn : (rest.filter (fun s => !isIdle s)).length with
      | zero => simpa [dropComponents, hs, hn] using ih
      | succ n => simpa [dropComponents, hs, hn] using ih
    · simpa [dropComponents, hs] using ih

/-! ## Parents -/

/-- The steps of segments after a slash. -/
theorem steps_intercalate {ss : List String} (h : ∀ s ∈ ss, '/' ∉ s.toList) :
    steps ⟨"" ++ "/" ++ "/".intercalate ss⟩ = ss.filter (fun s => !isIdle s) := by
  rw [steps, segments_append_slash]
  by_cases hnil : ss = []
  · rw [hnil]
    rfl
  · rw [segments_intercalate hnil h]
    simp [segments, segmentsOf, isIdle]

/-- The parent of a path from the root has all its steps but the last. -/
theorem steps_of_parent? {p q : Path} (hp : p.isAbsolute = true) (h : p.parent? = some q) :
    p.steps ≠ [] ∧ q.isAbsolute = true ∧ q.steps = p.steps.dropLast := by
  obtain ⟨rest, hseg, hsplit⟩ := split_of_isAbsolute hp
  have hsteps : p.steps = rest.filter (fun s => !isIdle s) := by
    rw [steps, hseg]
    simp [isIdle]
  unfold parent? at h
  simp only [hsplit] at h
  cases hend : dropIdleEnd rest with
  | nil => simp [hend] at h
  | cons s ss =>
    simp only [hend, Option.some.injEq] at h
    rw [← hend] at h
    let left := dropIdleEnd (dropIdleEnd rest).dropLast
    have hleft : ∀ t ∈ left, '/' ∉ t.toList := by
      intro t ht
      have hlast : t ∈ (dropIdleEnd rest).dropLast := (startsWith_dropIdleEnd _).subset ht
      have hrest : t ∈ rest := (startsWith_dropIdleEnd rest).subset (List.dropLast_subset _ hlast)
      exact slash_not_mem_segment (p := p) (by rw [hseg]; exact List.mem_cons_of_mem _ hrest)
    have hq : q = ⟨"" ++ "/" ++ "/".intercalate left⟩ := by
      rw [← h]
      simp [ofSplit, headText, left]
    refine ⟨?_, ?_, ?_⟩
    · -- the last segment that is left is a step
      have hlast : (dropIdleEnd rest).getLast? = some ((s :: ss).getLast (by simp)) := by
        rw [hend, List.getLast?_eq_some_getLast]
      rw [hsteps, ← filter_dropIdleEnd]
      refine List.ne_nil_of_mem (List.mem_filter.mpr ⟨List.mem_of_getLast? hlast, ?_⟩)
      simp [getLast?_dropIdleEnd hlast]
    · rw [hq]
      simp [isAbsolute, Text.hasHead, List.isPrefixOf]
    · rw [hq, steps_intercalate hleft, filter_dropIdleEnd, filter_dropLast_dropIdleEnd, hsteps]

/-! ## What lies below a path -/

/-- What `below?` leaves of a path, as segments. -/
theorem below?_eq_some {p base : Path} (hp : p.isAbsolute = true) (hbase : base.isAbsolute = true)
    {rest : String} (h : p.below? base = some rest) :
    ∃ tail, p.segments = "" :: tail ∧
      rest = "/".intercalate (dropIdleEnd (dropComponents base.steps.length tail)) ∧
      p.steps.take base.steps.length = base.steps := by
  obtain ⟨tail, hseg, hsplit⟩ := split_of_isAbsolute hp
  unfold below? at h
  simp only [components_of_isAbsolute hbase, components_of_isAbsolute hp, hsplit] at h
  split at h
  · rename_i hprefix
    refine ⟨tail, hseg, ?_, ?_⟩
    · simpa using (Option.some.inj h).symm
    · rw [List.isPrefixOf_iff_prefix, List.cons_prefix_cons] at hprefix
      have htake := List.prefix_iff_eq_take.mp hprefix.2
      rw [List.length_map, ← List.map_take] at htake
      exact (map_component_inj htake).symm
  · cases h

/-- What `below?` leaves of a longer path neither begins nor ends idly, and its steps are those that
follow the base. -/
theorem segments_of_below? {p base : Path} (hp : p.isAbsolute = true)
    (hbase : base.isAbsolute = true) {rest : String} (h : p.below? base = some rest)
    (hne : p.steps ≠ base.steps) :
    (∀ s, (segments ⟨rest⟩).head? = some s → isIdle s = false) ∧
      (∀ s, (segments ⟨rest⟩).getLast? = some s → isIdle s = false) ∧
      p.steps = base.steps ++ steps ⟨rest⟩ := by
  obtain ⟨tail, hseg, hrest, htake⟩ := below?_eq_some hp hbase h
  let left := dropIdleEnd (dropComponents base.steps.length tail)
  have htail : tail.filter (fun s => !isIdle s) = p.steps := by
    rw [steps, hseg]
    simp [isIdle]
  have hfilter : left.filter (fun s => !isIdle s) = p.steps.drop base.steps.length := by
    rw [filter_dropIdleEnd, filter_dropComponents, htail]
  have hsteps : p.steps = base.steps ++ left.filter (fun s => !isIdle s) := by
    rw [hfilter]
    conv => lhs; rw [← List.take_append_drop base.steps.length p.steps, htake]
  have hnil : left ≠ [] := by
    intro hnil
    rw [hnil] at hsteps
    exact hne (by simpa using hsteps)
  have hslash : ∀ t ∈ left, '/' ∉ t.toList := by
    intro t ht
    have h1 := (dropComponents_suffix _ _).subset ((startsWith_dropIdleEnd _).subset ht)
    exact slash_not_mem_segment (p := p) (by rw [hseg]; exact List.mem_cons_of_mem _ h1)
  have hsegs : segments ⟨rest⟩ = left := by rw [hrest, segments_intercalate hnil hslash]
  refine ⟨?_, ?_, by rw [show steps ⟨rest⟩ = left.filter _ by rw [steps, hsegs]]; exact hsteps⟩
  · intro s hs
    rw [hsegs] at hs
    apply @head?_dropComponents base.steps.length tail
    obtain ⟨more, hmore⟩ := startsWith_dropIdleEnd (dropComponents base.steps.length tail)
    rw [← hmore, List.head?_append, show (dropIdleEnd _).head? = some s from hs]
    rfl
  · intro s hs
    rw [hsegs] at hs
    exact getLast?_dropIdleEnd hs

/-- Dropping segments only takes characters away. -/
theorem sublist_intercalate {ss tt : List String} (h : ss.Sublist tt) :
    ("/".intercalate ss).toList.Sublist ("/".intercalate tt).toList := by
  induction h with
  | slnil => simp
  | @cons ss tt t h ih =>
    by_cases htt : tt = []
    · subst htt
      rw [List.sublist_nil.mp h]
      simp
    · rw [String.intercalate_cons_of_ne_nil htt, String.toList_append]
      exact ih.trans (List.sublist_append_right _ _)
  | @cons_cons ss tt t h ih =>
    by_cases htt : tt = []
    · subst htt
      obtain rfl := List.sublist_nil.mp h
      exact List.Sublist.refl _
    · rw [String.intercalate_cons_of_ne_nil htt]
      by_cases hss : ss = []
      · subst hss
        simp only [String.intercalate_singleton, String.toList_append, List.append_assoc]
        exact List.sublist_append_left _ _
      · rw [String.intercalate_cons_of_ne_nil hss]
        simp only [String.toList_append]
        exact List.Sublist.append (List.Sublist.refl _) ih

theorem byteSize_le_of_sublist {s t : String} (h : s.toList.Sublist t.toList) :
    s.utf8ByteSize ≤ t.utf8ByteSize := by
  have hcons : ∀ (c : Char) (l : List Char),
      (String.ofList (c :: l)).utf8ByteSize = c.utf8Size + (String.ofList l).utf8ByteSize := by
    intro c l
    rw [← List.singleton_append, String.ofList_append, String.utf8ByteSize_append,
      ← String.singleton_eq_ofList, String.utf8ByteSize_singleton]
  have hlists : ∀ {a b : List Char}, a.Sublist b →
      (String.ofList a).utf8ByteSize ≤ (String.ofList b).utf8ByteSize := by
    intro a b hab
    induction hab with
    | slnil => exact Nat.le_refl _
    | cons c _ ih => rw [hcons]; omega
    | cons_cons c _ ih => rw [hcons, hcons]; omega
  simpa using hlists h

/-- The text of a parent is part of the text of the path. -/
theorem sublist_of_parent? {p q : Path} (hp : p.isAbsolute = true) (h : p.parent? = some q) :
    q.text.toList.Sublist p.text.toList := by
  obtain ⟨rest, hseg, hsplit⟩ := split_of_isAbsolute hp
  have hne : rest ≠ [] := by
    obtain ⟨rest', hne, hrest⟩ := segments_of_isAbsolute hp
    rw [hseg] at hrest
    rwa [(List.cons.inj hrest).2]
  have htext := intercalate_segments p
  rw [hseg, String.intercalate_cons_of_ne_nil hne] at htext
  unfold parent? at h
  simp only [hsplit] at h
  cases hend : dropIdleEnd rest with
  | nil => simp [hend] at h
  | cons s ss =>
    simp only [hend, Option.some.injEq] at h
    have hsub : (dropIdleEnd (s :: ss).dropLast).Sublist rest :=
      (startsWith_dropIdleEnd _).sublist.trans ((List.dropLast_sublist _).trans
        (hend ▸ (startsWith_dropIdleEnd rest).sublist))
    rw [← h, ← htext]
    simpa [ofSplit, headText] using sublist_intercalate hsub

/-- What `below?` leaves of a name that was joined to the base is part of the name. -/
theorem sublist_of_below?_join {base : Path} (hbase : base.isAbsolute = true) {name rest : String}
    (hname : isAbsolute ⟨name⟩ = false) (h : (base.join name).below? base = some rest) :
    rest.toList.Sublist name.toList := by
  obtain ⟨front, hfront, hsteps, habs⟩ := segments_join (p := base) hname
  obtain ⟨more, hmore⟩ := habs hbase
  obtain ⟨tail, htail, hrest, -⟩ := below?_eq_some (isAbsolute_join hbase name) hbase h
  rw [hfront, hmore, List.cons_append] at htail
  have hdrop : dropComponents base.steps.length tail = (segments ⟨name⟩).dropWhile isIdle := by
    rw [← (List.cons.inj htail).2, ← hsteps, hmore]
    simpa [isIdle] using dropComponents_append more (segments ⟨name⟩)
  have hsub : (dropIdleEnd (dropComponents base.steps.length tail)).Sublist (segments ⟨name⟩) :=
    (startsWith_dropIdleEnd _).sublist.trans (hdrop ▸ (List.dropWhile_suffix isIdle).sublist)
  have hchars := sublist_intercalate hsub
  rwa [← hrest, intercalate_segments] at hchars

/-- A path whose steps begin with those of a base lies below it. -/
theorem below?_isSome {p base : Path} (hp : p.isAbsolute = true) (hbase : base.isAbsolute = true)
    (h : base.steps <+: p.steps) : ∃ rest, p.below? base = some rest := by
  obtain ⟨tail, -, hsplit⟩ := split_of_isAbsolute hp
  have hprefix : base.steps.map component <+: p.steps.map component := List.IsPrefix.map _ h
  unfold below?
  simp only [components_of_isAbsolute hbase, components_of_isAbsolute hp, hsplit]
  rw [if_pos (by simpa [List.isPrefixOf_iff_prefix] using hprefix)]
  exact ⟨_, rfl⟩

end DeviceSpec.Path

/-! ## Slashes -/

namespace DeviceSpec

/-- Slashes that make no difference to where a path leads. -/
def slashes : Nat → String
  | 0 => ""
  | n + 1 => "/" ++ slashes n

theorem byteSize_slashes (n : Nat) : (slashes n).utf8ByteSize = n := by
  induction n with
  | zero => rfl
  | succ n ih =>
    have hslash : "/".utf8ByteSize = 1 := by decide
    rw [slashes, String.utf8ByteSize_append, ih, hslash, Nat.add_comm]

theorem nul_not_mem_slashes (n : Nat) : '\x00' ∉ (slashes n).toList := by
  induction n with
  | zero => decide
  | succ n ih => simpa [slashes] using ih

theorem steps_slashes (n : Nat) (name : String) :
    Path.steps ⟨slashes n ++ name⟩ = Path.steps ⟨name⟩ := by
  induction n with
  | zero => simp [slashes]
  | succ n ih =>
    have htext : slashes (n + 1) ++ name = "" ++ "/" ++ (slashes n ++ name) := by
      simp [slashes, String.append_assoc]
    rw [htext, ← ih, Path.steps, Path.segments_append_slash]
    rfl

theorem steps_append_slashes (n : Nat) (name : String) :
    Path.steps ⟨name ++ slashes n⟩ = Path.steps ⟨name⟩ := by
  cases n with
  | zero => simp [slashes]
  | succ n =>
    have hnone : Path.steps ⟨slashes n⟩ = [] := by
      have h := steps_slashes n ""
      rwa [String.append_empty] at h
    rw [slashes, ← String.append_assoc, Path.steps, Path.segments_append_slash, List.filter_append]
    simpa [Path.steps] using hnone

theorem isAbsolute_slashes (n : Nat) (name : String) :
    Path.isAbsolute ⟨slashes (n + 1) ++ name⟩ = true := by
  simp [Path.isAbsolute, Text.hasHead, slashes, List.isPrefixOf]

end DeviceSpec
