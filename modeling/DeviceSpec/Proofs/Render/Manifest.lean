import DeviceSpec.Proofs.Text.Lines
import DeviceSpec.Render.Manifest

/-!
# Reading the manifest

The manifest is split into its tags and the texts between them, and a tag into its name and its
attributes. Entities stand for the characters they name. A text or an attribute belongs to the
entry by the elements that are open around it; all other texts are layout.

* **entities** — putting them in for one character after the other comes to the same as doing it
  all at once (`toList_escapeMarkup`); a text that was escaped comes back, whatever is in it
  (`unescaped_escaped`), and has no character that would end a text, a tag or an attribute
  (`escaped_clean`);
* **tags** — the reader goes from tag to tag (`read_open`, `read_close`), and finds the attribute
  that was written in one (`tag_attribute`);
* **entries** — each line fills in its part of the entry (`read_textLine`, `read_transport`, …), so
  the lines of an entry are read as the entry (`read_entry`);
* **the whole** — the manifest is read as the entries of the HALs in the order of their names
  (`manifest_read_back`).
-/

namespace DeviceSpec

/-! ## The reader -/

/-- Entities replaced by the characters they stand for. -/
def unescaped : List Char → List Char
  | '&' :: 'a' :: 'm' :: 'p' :: ';' :: rest => '&' :: unescaped rest
  | '&' :: 'l' :: 't' :: ';' :: rest => '<' :: unescaped rest
  | '&' :: 'g' :: 't' :: ';' :: rest => '>' :: unescaped rest
  | '&' :: 'q' :: 'u' :: 'o' :: 't' :: ';' :: rest => '"' :: unescaped rest
  | c :: rest => c :: unescaped rest
  | [] => []

/-- A piece of a document: what stands in a tag, or between two tags. -/
inductive Piece where
  | tag (inside : List Char)
  | text (content : List Char)

/-- The pieces of a document. What is held belongs to the piece that is being read. -/
def pieces (inTag : Bool) (held : List Char) : List Char → List Piece
  | [] => []
  | c :: rest =>
    if inTag then
      if c = '>' then .tag held :: pieces false [] rest else pieces true (held ++ [c]) rest
    else if c = '<' then .text held :: pieces true [] rest
    else pieces false (held ++ [c]) rest

/-- The name of a tag. -/
def tagName (inside : List Char) : String := String.ofList (inside.takeWhile (· != ' '))

/-- The name of an attribute, between a blank and an equals sign. -/
def attributeName (key : List Char) : String :=
  String.ofList (((key.dropWhile (· != ' ')).drop 1).takeWhile (· != '='))

/-- Attributes from what stands between the quotation marks of a tag. -/
def attributePairs : List (List Char) → List (String × String)
  | key :: value :: more =>
    (attributeName key, String.ofList (unescaped value)) :: attributePairs more
  | _ => []

/-- The attributes of a tag. -/
def attributesOf (inside : List Char) : List (String × String) :=
  attributePairs (inside.splitOn '"')

/-- The value of an attribute, or nothing. -/
def attributeOf (name : String) (attributes : List (String × String)) : String :=
  (attributes.lookup name).getD ""

/-- Fill in the attributes of an element, which stands first among the open ones. -/
def ManifestEntry.withAttributes (m : ManifestEntry) (path : List String)
    (attributes : List (String × String)) : ManifestEntry :=
  match path with
  | ["hal", "manifest"] => { format := attributeOf "format" attributes }
  | ["transport", "hal", "manifest"] =>
    { m with transport := { arch := attributeOf "arch" attributes } }
  | ["impl", "hal", "manifest"] =>
    { m with implementation := some ⟨attributeOf "level" attributes⟩ }
  | _ => m

/-- Fill in a text of the element that stands first among the open ones. -/
def ManifestEntry.withText (m : ManifestEntry) (path : List String) (text : String) :
    ManifestEntry :=
  match path with
  | ["name", "hal", "manifest"] => { m with name := text }
  | ["transport", "hal", "manifest"] => { m with transport := { m.transport with mode := text } }
  | ["version", "hal", "manifest"] => { m with version := text }
  | ["name", "interface", "hal", "manifest"] =>
    { m with interface := { m.interface with name := text } }
  | ["instance", "interface", "hal", "manifest"] =>
    { m with interface := { m.interface with instanceName := text } }
  | _ => m

/-- The elements that are open, from the innermost outwards, the entry that is being read, and the
entries that were read before it. -/
structure ManifestReader where
  path : List String := []
  entry : ManifestEntry := {}
  entries : List ManifestEntry := []

/-- Read a piece. An entry is complete when its element is closed. -/
def ManifestReader.step (r : ManifestReader) : Piece → ManifestReader
  | .text content =>
    { r with entry := r.entry.withText r.path (String.ofList (unescaped content)) }
  | .tag ('/' :: name) =>
    { r with
      path := r.path.drop 1
      entries := if name = "hal".toList then r.entries ++ [r.entry] else r.entries }
  | .tag inside =>
    { r with
      path := tagName inside :: r.path
      entry := r.entry.withAttributes (tagName inside :: r.path) (attributesOf inside) }

/-- Read the rest of a document. -/
def ManifestReader.read (r : ManifestReader) (held cs : List Char) : ManifestReader :=
  (pieces false held cs).foldl ManifestReader.step r

/-- The entries of a manifest. -/
def readManifest (text : String) : List ManifestEntry :=
  (ManifestReader.read {} [] text.toList).entries

/-! ## Entities -/

/-- What stands for a character in the text of a manifest. -/
def entity : Char → List Char
  | '&' => "&amp;".toList
  | '<' => "&lt;".toList
  | '>' => "&gt;".toList
  | '"' => "&quot;".toList
  | c => [c]

theorem unescaped_entity (c : Char) (rest : List Char) :
    unescaped (entity c ++ rest) = c :: unescaped rest := by
  unfold entity
  split
  · rfl
  · rfl
  · rfl
  · rfl
  · rename_i hamp _ _ _
    rw [List.singleton_append, unescaped]
    all_goals exact fun _ hc => absurd hc hamp

/-- The characters of an escaped text. -/
def escaped (s : String) : List Char := s.toList.flatMap entity

theorem toList_replaceChar (c : Char) (word s : String) :
    (replaceChar c word s).toList = s.toList.flatMap fun d => if d = c then word.toList else [d] :=
  String.toList_ofList

/-- The replacements that come later leave the entities as they are, since the first is that of the
character that all of them begin with. -/
theorem entity_eq (c : Char) : entity c =
    (((if c = '&' then "&amp;".toList else [c]).flatMap fun d =>
      if d = '<' then "&lt;".toList else [d]).flatMap fun d =>
        if d = '>' then "&gt;".toList else [d]).flatMap fun d =>
          if d = '"' then "&quot;".toList else [d] := by
  unfold entity
  split
  · decide
  · decide
  · decide
  · decide
  · rename_i hamp hlt hgt hquot
    rw [if_neg hamp, List.flatMap_singleton, if_neg hlt, List.flatMap_singleton, if_neg hgt,
      List.flatMap_singleton, if_neg hquot]

/-- Each character is escaped by itself. -/
@[simp] theorem toList_escapeMarkup (s : String) : (escapeMarkup s).toList = escaped s := by
  rw [escaped, funext entity_eq]
  simp only [escapeMarkup, toList_replaceChar, List.flatMap_assoc]

/-- A text comes back from what was written for it. -/
theorem unescaped_escaped (s : String) : String.ofList (unescaped (escaped s)) = s := by
  have hchars : ∀ cs : List Char, unescaped (cs.flatMap entity) = cs := by
    intro cs
    induction cs with
    | nil => rfl
    | cons c cs ih => rw [List.flatMap_cons, unescaped_entity, ih]
  rw [escaped, hchars, String.ofList_toList]

/-- Nothing in an escaped text is taken for markup. -/
theorem escaped_clean (s : String) : '<' ∉ escaped s ∧ '>' ∉ escaped s ∧ '"' ∉ escaped s := by
  have hentity : ∀ c, '<' ∉ entity c ∧ '>' ∉ entity c ∧ '"' ∉ entity c := by
    intro c
    unfold entity
    split
    · decide
    · decide
    · decide
    · decide
    · rename_i _ hlt hgt hquot
      simp only [List.mem_singleton]
      exact ⟨fun h => hlt h.symm, fun h => hgt h.symm, fun h => hquot h.symm⟩
  simp only [escaped, List.mem_flatMap, not_exists, not_and]
  exact ⟨fun c _ => (hentity c).1, fun c _ => (hentity c).2.1, fun c _ => (hentity c).2.2⟩

/-! ## Pieces -/

theorem pieces_text {content : List Char} (h : '<' ∉ content) (held rest : List Char) :
    pieces false held (content ++ '<' :: rest) =
      .text (held ++ content) :: pieces true [] rest := by
  induction content generalizing held with
  | nil => simp [pieces]
  | cons c content ih =>
    have hc : c ≠ '<' := fun heq => h (heq ▸ List.mem_cons_self)
    have hrest := ih (fun hmem => h (List.mem_cons_of_mem c hmem)) (held ++ [c])
    simpa [pieces, hc] using hrest

theorem pieces_tag {inside : List Char} (h : '>' ∉ inside) (held rest : List Char) :
    pieces true held (inside ++ '>' :: rest) = .tag (held ++ inside) :: pieces false [] rest := by
  induction inside generalizing held with
  | nil => simp [pieces]
  | cons c inside ih =>
    have hc : c ≠ '>' := fun heq => h (heq ▸ List.mem_cons_self)
    have hrest := ih (fun hmem => h (List.mem_cons_of_mem c hmem)) (held ++ [c])
    simpa [pieces, hc] using hrest

/-! ## Lines -/

section
variable {r : ManifestReader} {held content inside name rest : List Char}

/-- Where the reader stands, texts are layout. -/
def ManifestReader.Between (r : ManifestReader) : Prop :=
  ∀ text, r.entry.withText r.path text = r.entry

/-- A tag that opens an element after some layout. -/
theorem read_open (hr : r.Between) (hcontent : '<' ∉ content) (hinside : '>' ∉ inside)
    (hopen : inside.head? ≠ some '/') :
    r.read held (content ++ '<' :: (inside ++ '>' :: rest)) =
      ManifestReader.read
        ⟨tagName inside :: r.path,
          r.entry.withAttributes (tagName inside :: r.path) (attributesOf inside), r.entries⟩
        [] rest := by
  rw [ManifestReader.read, pieces_text hcontent, pieces_tag hinside, List.nil_append,
    List.foldl_cons, List.foldl_cons]
  have htext : r.step (.text (held ++ content)) = r := by rw [ManifestReader.step, hr]
  rw [htext, ManifestReader.step]
  · rfl
  · rintro tail rfl
    exact hopen rfl

/-- A tag that closes an element after a text. -/
theorem read_close (hcontent : '<' ∉ content) (hname : '>' ∉ name) :
    r.read held (content ++ '<' :: '/' :: (name ++ '>' :: rest)) =
      ManifestReader.read
        ⟨r.path.drop 1,
          r.entry.withText r.path (String.ofList (unescaped (held ++ content))),
          if name = "hal".toList then
            r.entries ++ [r.entry.withText r.path (String.ofList (unescaped (held ++ content)))]
          else r.entries⟩
        [] rest := by
  have hclose : '>' ∉ '/' :: name := by simpa using hname
  rw [ManifestReader.read, pieces_text hcontent, ← List.cons_append, pieces_tag hclose]
  rfl

/-- The end of a line is layout. -/
theorem read_lineEnd : r.read held ('\n' :: rest) = r.read (held ++ ['\n']) rest := by
  simp [ManifestReader.read, pieces]

/-- An element that holds a text. -/
theorem read_element (hr : r.Between) {indent : List Char} (hindent : '<' ∉ indent)
    (hinside : '>' ∉ inside) (hopen : inside.head? ≠ some '/') (hname : '>' ∉ name)
    (hhal : name ≠ "hal".toList) (text : String) :
    r.read held (indent ++ '<' :: (inside ++ '>' ::
        (escaped text ++ '<' :: '/' :: (name ++ '>' :: '\n' :: rest)))) =
      ManifestReader.read
        ⟨r.path,
          (r.entry.withAttributes (tagName inside :: r.path) (attributesOf inside)).withText
            (tagName inside :: r.path) text, r.entries⟩
        ['\n'] rest := by
  rw [read_open hr hindent hinside hopen, read_close (escaped_clean text).1 hname, if_neg hhal,
    read_lineEnd, List.nil_append, unescaped_escaped]
  rfl

end

/-! ## Tags -/

theorem tagName_append {tag : List Char} (h : ' ' ∉ tag) (key : List Char) :
    tagName (tag ++ key) = String.ofList (tag ++ key.takeWhile (· != ' ')) := by
  have hblank : ∀ c ∈ tag, (c != ' ') = true := by
    intro c hc
    rw [bne_iff_ne]
    rintro rfl
    exact h hc
  rw [tagName, List.takeWhile_append_of_pos hblank]

/-- A tag without attributes. -/
theorem attributesOf_none {tag : List Char} (h : '"' ∉ tag) : attributesOf tag = [] := by
  rw [attributesOf, Text.splitOn_of_not_mem h]
  simp [attributePairs]

/-- The attributes of a tag with one. -/
theorem attributesOf_one {key : List Char} (hkey : '"' ∉ key) (value : String) :
    attributesOf (key ++ '"' :: (escaped value ++ ['"'])) = [(attributeName key, value)] := by
  have hsplit : (key ++ '"' :: (escaped value ++ ['"'])).splitOn '"' =
      key.splitOn '"' ++ ((escaped value).splitOn '"' ++ [].splitOn '"') := by
    simp only [List.splitOn]
    rw [List.splitOnP_append_cons _ _ (by rfl), List.splitOnP_append_cons _ _ (by rfl)]
  have hvalue := (escaped_clean value).2.2
  rw [attributesOf, hsplit, Text.splitOn_of_not_mem hkey, Text.splitOn_of_not_mem hvalue]
  simp [attributePairs, unescaped_escaped]

/-- A tag with one attribute. -/
theorem tag_attribute (tag key : List Char) (htag : ' ' ∉ tag) (hmark : '>' ∉ tag ++ ' ' :: key)
    (hkey : '"' ∉ tag ++ ' ' :: key) (value : String) :
    '>' ∉ (tag ++ ' ' :: key) ++ '"' :: (escaped value ++ ['"']) ∧
    tagName ((tag ++ ' ' :: key) ++ '"' :: (escaped value ++ ['"'])) = String.ofList tag ∧
    attributesOf ((tag ++ ' ' :: key) ++ '"' :: (escaped value ++ ['"'])) =
      [(attributeName (tag ++ ' ' :: key), value)] := by
  refine ⟨?_, ?_, attributesOf_one hkey value⟩
  · have hvalue := (escaped_clean value).2.1
    simp only [List.mem_append, not_or] at hmark ⊢
    exact ⟨hmark, by simp [hvalue]⟩
  · rw [List.append_assoc, tagName_append htag]
    simp

/-! ## Entries -/

/-- A name of an element that holds a text. -/
def isTextTag (tag : String) : Bool :=
  tag != "" && tag != "hal" && tag.toList.all Char.isAlpha

section
variable {e : ManifestEntry} {path : List String} {done : List ManifestEntry}
  {held rest : List Char}

/-- The line of an element that holds a text. -/
theorem read_textLine (hpath : ∀ text, e.withText path text = e) {indent tag : String}
    (hindent : '<' ∉ indent.toList) (htag : isTextTag tag = true) (text : String) :
    ManifestReader.read ⟨path, e, done⟩ held
        ((indent ++ element tag text).toList ++ '\n' :: rest) =
      ManifestReader.read
        ⟨path, (e.withAttributes (tag :: path) []).withText (tag :: path) text, done⟩
        ['\n'] rest := by
  simp only [isTextTag, Bool.and_eq_true, bne_iff_ne, List.all_eq_true] at htag
  obtain ⟨⟨hne, hhal⟩, halpha⟩ := htag
  have hchar : ∀ c, c.isAlpha = false → c ∉ tag.toList := by
    intro c hc hmem
    rw [halpha c hmem] at hc
    cases hc
  have hline : (indent ++ element tag text).toList ++ '\n' :: rest =
      indent.toList ++ '<' :: (tag.toList ++ '>' ::
        (escaped text ++ '<' :: '/' :: (tag.toList ++ '>' :: '\n' :: rest))) := by
    simp [element]
  have hopen : tag.toList.head? ≠ some '/' := fun h =>
    hchar '/' (by decide) (List.mem_of_mem_head? (Option.mem_def.mpr h))
  have hname : tagName tag.toList = tag := by
    have happend := tagName_append (hchar ' ' (by decide)) []
    simpa using happend
  have hbetween : ManifestReader.Between ⟨path, e, done⟩ := hpath
  rw [hline, read_element hbetween hindent (hchar '>' (by decide)) hopen (hchar '>' (by decide))
    (fun h => hhal (String.toList_inj.mp h)), hname, attributesOf_none (hchar '"' (by decide))]

/-- The line of the way the service is reached. -/
theorem read_transport (t : Transport) :
    ManifestReader.read ⟨["hal", "manifest"], e, done⟩ held (t.line.toList ++ '\n' :: rest) =
      ManifestReader.read ⟨["hal", "manifest"], { e with transport := t }, done⟩ ['\n'] rest := by
  unfold Transport.line
  split
  · rename_i harch
    have hempty : t = ⟨"", t.mode⟩ := by rw [← String.isEmpty_iff.mp harch]
    rw [read_textLine (fun _ => rfl) (by decide) (by decide), hempty]
    rfl
  · have hline : ("        <transport arch=\"" ++ escapeMarkup t.arch ++ "\">"
        ++ escapeMarkup t.mode ++ "</transport>").toList ++ '\n' :: rest =
        "        ".toList ++ '<' :: ((("transport".toList ++ ' ' :: "arch=".toList) ++ '"' ::
          (escaped t.arch ++ ['"'])) ++ '>' ::
            (escaped t.mode ++ '<' :: '/' :: ("transport".toList ++ '>' :: '\n' :: rest))) := by
      simp
    obtain ⟨hinside, htag, hattributes⟩ :=
      tag_attribute "transport".toList "arch=".toList (by decide) (by decide) (by decide) t.arch
    rw [hline, read_element (fun _ => rfl) (by decide) hinside (by simp) (by decide) (by decide),
      htag, hattributes]
    rfl

theorem toList_unlines_cons (line : String) (more : List String) :
    (Text.unlines (line :: more)).toList ++ rest =
      line.toList ++ '\n' :: ((Text.unlines more).toList ++ rest) := by
  simp

/-- The lines an entry begins with. What was read before is done with. -/
theorem read_entryStart (m : ManifestEntry) :
    ManifestReader.read ⟨["manifest"], e, done⟩ held
        ((Text.unlines ["    <hal format=\"" ++ escapeMarkup m.format ++ "\">",
          "        " ++ element "name" m.name, m.transport.line]).toList ++ rest) =
      ManifestReader.read ⟨["hal", "manifest"],
        { name := m.name, format := m.format, transport := m.transport }, done⟩ ['\n'] rest := by
  have hopen : ∀ more,
      ("    <hal format=\"" ++ escapeMarkup m.format ++ "\">").toList ++ '\n' :: more =
      "    ".toList ++ '<' :: ((("hal".toList ++ ' ' :: "format=".toList) ++ '"' ::
        (escaped m.format ++ ['"'])) ++ '>' :: '\n' :: more) := by
    simp
  obtain ⟨hinside, htag, hattributes⟩ :=
    tag_attribute "hal".toList "format=".toList (by decide) (by decide) (by decide) m.format
  simp only [toList_unlines_cons]
  rw [hopen, read_open (fun _ => rfl) (by decide) hinside (by simp), htag, hattributes,
    read_lineEnd]
  exact (read_textLine (fun _ => rfl) (by decide) (by decide) _).trans (read_transport _)

/-- The line of the level of an implementation, if there is one. -/
theorem read_implementation (i? : Option Implementation) (he : e.implementation = none) :
    ManifestReader.read ⟨["hal", "manifest"], e, done⟩ ['\n']
        ((Text.unlines (match i? with
          | some i => ["        <impl level=\"" ++ escapeMarkup i.level ++ "\"></impl>"]
          | none => [])).toList ++ rest) =
      ManifestReader.read ⟨["hal", "manifest"], { e with implementation := i? }, done⟩
        ['\n'] rest := by
  cases i? with
  | none =>
    have hsame : { e with implementation := none } = e := by rw [← he]
    rw [hsame]
    rfl
  | some i =>
    have hline : ("        <impl level=\"" ++ escapeMarkup i.level ++ "\"></impl>").toList
        ++ '\n' :: rest =
        "        ".toList ++ '<' :: ((("impl".toList ++ ' ' :: "level=".toList) ++ '"' ::
          (escaped i.level ++ ['"'])) ++ '>' ::
            (escaped "" ++ '<' :: '/' :: ("impl".toList ++ '>' :: '\n' :: rest))) := by
      simp [escaped]
    obtain ⟨hinside, htag, hattributes⟩ :=
      tag_attribute "impl".toList "level=".toList (by decide) (by decide) (by decide) i.level
    simp only [toList_unlines_cons, Text.unlines_nil]
    rw [String.toList_empty, List.nil_append, hline,
      read_element (fun _ => rfl) (by decide) hinside (by simp) (by decide) (by decide), htag,
      hattributes]
    rfl

/-- The lines of the interface. -/
theorem read_interface (i : Interface) :
    ManifestReader.read ⟨["hal", "manifest"], e, done⟩ held
        ((Text.unlines ["        <interface>",
          "            " ++ element "name" i.name,
          "            " ++ element "instance" i.instanceName,
          "        </interface>"]).toList ++ rest) =
      ManifestReader.read ⟨["hal", "manifest"], { e with interface := i }, done⟩ ['\n'] rest := by
  have hopen : ∀ more, "        <interface>".toList ++ '\n' :: more =
      "        ".toList ++ '<' :: ("interface".toList ++ '>' :: '\n' :: more) := by simp
  have hclose : ∀ more, "        </interface>".toList ++ '\n' :: more =
      "        ".toList ++ '<' :: '/' :: ("interface".toList ++ '>' :: '\n' :: more) := by simp
  simp only [toList_unlines_cons]
  rw [hopen, read_open (fun _ => rfl) (by decide) (by decide) (by decide), read_lineEnd,
    read_textLine (fun _ => rfl) (by decide) (by decide),
    read_textLine (fun _ => rfl) (by decide) (by decide),
    hclose, read_close (by decide) (by decide), read_lineEnd]
  rfl

/-- The line that closes an entry. -/
theorem read_entryEnd :
    ManifestReader.read ⟨["hal", "manifest"], e, done⟩ held
        ((Text.unlines ["    </hal>"]).toList ++ rest) =
      ManifestReader.read ⟨["manifest"], e, done ++ [e]⟩ ['\n'] rest := by
  have hline : "    </hal>".toList ++ '\n' :: rest =
      "    ".toList ++ '<' :: '/' :: ("hal".toList ++ '>' :: '\n' :: rest) := by simp
  rw [toList_unlines_cons]
  exact (congrArg _ hline).trans ((read_close (by decide) (by decide)).trans read_lineEnd)

/-- The lines of an entry are read as the entry. -/
theorem read_entry (m : ManifestEntry) :
    ManifestReader.read ⟨["manifest"], e, done⟩ held ((Text.unlines m.lines).toList ++ rest) =
      ManifestReader.read ⟨["manifest"], m, done ++ [m]⟩ ['\n'] rest := by
  have hlines : m.lines =
      ["    <hal format=\"" ++ escapeMarkup m.format ++ "\">",
        "        " ++ element "name" m.name, m.transport.line]
      ++ ((match m.implementation with
          | some i => ["        <impl level=\"" ++ escapeMarkup i.level ++ "\"></impl>"]
          | none => [])
      ++ (["        " ++ element "version" m.version]
      ++ (["        <interface>",
          "            " ++ element "name" m.interface.name,
          "            " ++ element "instance" m.interface.instanceName,
          "        </interface>"]
      ++ ["    </hal>"]))) := by
    rw [ManifestEntry.lines, List.append_assoc]
    rfl
  rw [hlines]
  simp only [Text.unlines_append, String.toList_append, List.append_assoc]
  rw [read_entryStart, read_implementation _ rfl, toList_unlines_cons, Text.unlines_nil,
    String.toList_empty, List.nil_append, read_textLine (fun _ => rfl) (by decide) (by decide),
    read_interface, read_entryEnd]
  rfl

/-- The lines of several entries are read as the entries. -/
theorem read_entries (ms : List ManifestEntry) :
    ∃ e' held', ManifestReader.read ⟨["manifest"], e, done⟩ held
        ((Text.unlines (ms.flatMap ManifestEntry.lines)).toList ++ rest) =
      ManifestReader.read ⟨["manifest"], e', done ++ ms⟩ held' rest := by
  induction ms generalizing e done held with
  | nil => exact ⟨e, held, by simp⟩
  | cons m ms ih =>
    obtain ⟨e', held', hrest⟩ := @ih m (done ++ [m]) ['\n']
    refine ⟨e', held', ?_⟩
    rw [List.flatMap_cons, Text.unlines_append, String.toList_append, List.append_assoc, read_entry,
      hrest, List.append_assoc]
    rfl

end

/-! ## The manifest -/

/-- The manifest of a device is read as its entries. -/
theorem readManifest_manifest (s : Spec) : readManifest s.manifest = s.manifestEntries := by
  have hchars : s.manifest.toList =
      [] ++ '<' :: ("manifest version=\"1.0\" type=\"device\"".toList ++ '>' :: '\n' ::
        ((Text.unlines (s.manifestEntries.flatMap ManifestEntry.lines)).toList ++
          ([] ++ '<' :: '/' :: ("manifest".toList ++ '>' :: ['\n'])))) := by
    simp [Spec.manifest, Text.unlines_append]
  rw [readManifest, hchars, read_open (fun _ => rfl) (by decide) (by decide) (by decide),
    read_lineEnd]
  have hpath : tagName "manifest version=\"1.0\" type=\"device\"".toList = "manifest" := by decide
  rw [hpath]
  obtain ⟨e, held, hentries⟩ := read_entries s.manifestEntries
  rw [hentries, read_close (by decide) (by decide)]
  rfl

/-- The manifest is read back as the entries that the HALs declare, every HAL once and in the order
of the names, whatever the texts in them. So it tells different lists of entries apart. -/
theorem manifest_read_back (s : Spec) :
    (s.halsByName.Perm s.hals ∧ s.halsByName.Pairwise fun a b => a.name ≤ b.name) ∧
    readManifest s.manifest = s.halsByName.flatMap Hal.manifest ∧
    ∀ t : Spec, s.manifest = t.manifest ↔
      s.halsByName.flatMap Hal.manifest = t.halsByName.flatMap Hal.manifest := by
  refine ⟨s.halsByName_sorted, readManifest_manifest s, fun t => ⟨fun hsame => ?_, fun hsame => ?_⟩⟩
  · have hread := congrArg readManifest hsame
    rwa [readManifest_manifest, readManifest_manifest] at hread
  · have hentries : s.manifestEntries = t.manifestEntries := hsame
    rw [Spec.manifest, Spec.manifest, hentries]

end DeviceSpec
