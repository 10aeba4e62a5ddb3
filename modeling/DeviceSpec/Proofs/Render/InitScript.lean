import DeviceSpec.Proofs.Render.Reading
import DeviceSpec.Render.Ramdisk
import Mathlib.Data.List.Basic

/-!
# Reading an init script

An init script consists of items. A line `import X`, `on T` or `service N P [args]` that is not
indented opens one; a line that is indented by four blanks belongs to the item above it; empty
lines separate.

* **one item** — the lines below an item are collected until the line that opens it is reached
  (`readItems`), so its lines are read as the item whatever follows it (`readItems_lines`);
* **the whole** — a script is read back as its imports, actions and services, each in order, so two
  scripts that differ in any of these have different texts (`init_script_read_back`).
-/

namespace DeviceSpec

/-! ## Items -/

/-- An item of an init script. -/
inductive InitItem where
  | imported (file : String)
  | action (a : InitAction)
  | service (s : InitService)
  deriving DecidableEq

namespace InitItem

/-- The lines of an item. -/
def lines : InitItem → List String
  | imported file => ["import " ++ file]
  | action a => a.lines
  | service s => s.lines

/-- The file that is imported. -/
def imported? : InitItem → Option String
  | imported file => some file
  | _ => none

/-- The action. -/
def action? : InitItem → Option InitAction
  | action a => some a
  | _ => none

/-- The service. -/
def service? : InitItem → Option InitService
  | service s => some s
  | _ => none

end InitItem

/-- The items of a script in the order they are written. -/
def InitScript.items (s : InitScript) : List InitItem :=
  s.imports.map .imported ++ s.actions.map .action ++ s.services.map .service

/-! ## The reader -/

/-- What stands before the first space and what stands after it. -/
def cutAtSpace (text : String) : String × String :=
  (String.ofList (text.toList.takeWhile (· != ' ')),
    String.ofList (text.toList.dropWhile (· != ' ')).tail)

/-- The service of a line `service N P [args]`; what follows the path is all arguments. -/
def InitService.ofHead (text : String) (options : List String) : InitService :=
  let (name, rest) := cutAtSpace text
  let (path, args) := cutAtSpace rest
  ⟨name, path, args, options⟩

/-- The item that a line opens, with the lines that belong to it. -/
def InitItem.ofHead? (line : String) (below : List String) : Option InitItem :=
  match Text.afterHead? "import " line with
  | some file => if below = [] then some (.imported file) else none
  | none =>
    match Text.afterHead? "on " line with
    | some triggers => some (.action ⟨triggers, below⟩)
    | none =>
      (Text.afterHead? "service " line).map fun text => .service (InitService.ofHead text below)

/-- Read lines: the indented lines they begin with, which belong to an item above them, and the
items that follow. -/
def readItems : List String → Option (List String × List InitItem)
  | [] => some ([], [])
  | line :: rest =>
    match readItems rest with
    | none => none
    | some (below, items) =>
      if line = "" then if below = [] then some ([], items) else none
      else
        match Text.afterHead? "    " line with
        | some text => some (text :: below, items)
        | none => (InitItem.ofHead? line below).map fun item => ([], item :: items)

/-- Read the imports, the actions and the services of a script. -/
def readInitScript (text : String) :
    Option (List String × List InitAction × List InitService) :=
  match readItems (Text.linesOf text) with
  | some ([], items) =>
    some (items.filterMap InitItem.imported?, items.filterMap InitItem.action?,
      items.filterMap InitItem.service?)
  | _ => none

/-! ## What can be read -/

/-- Neither the triggers nor a command go over several lines. -/
structure InitAction.Readable (a : InitAction) : Prop where
  triggers : '\n' ∉ a.triggers.toList
  commands : ∀ command ∈ a.commands, '\n' ∉ command.toList

/-- Nothing in the service goes over several lines, and a space ends its name and its path. -/
structure InitService.Readable (s : InitService) : Prop where
  name : '\n' ∉ s.name.toList ∧ ' ' ∉ s.name.toList
  path : '\n' ∉ s.path.toList ∧ ' ' ∉ s.path.toList
  args : '\n' ∉ s.args.toList
  options : ∀ option ∈ s.options, '\n' ∉ option.toList

/-- Every item of the script can be read. -/
structure InitScript.Readable (s : InitScript) : Prop where
  imports : ∀ file ∈ s.imports, '\n' ∉ file.toList
  actions : ∀ a ∈ s.actions, a.Readable
  services : ∀ v ∈ s.services, v.Readable

/-- The item can be read. -/
def InitItem.Readable : InitItem → Prop
  | imported file => '\n' ∉ file.toList
  | action a => a.Readable
  | service s => s.Readable

theorem InitScript.Readable.of_mem_items {s : InitScript} (h : s.Readable) :
    ∀ item ∈ s.items, item.Readable := by
  simp only [InitScript.items, List.forall_mem_append, List.forall_mem_map]
  exact ⟨⟨h.imports, h.actions⟩, h.services⟩

/-! ## One item -/

section Item

variable {rest below : List String} {items : List InitItem}

/-- A word ends where the text does, or at a space. -/
theorem cutAtSpace_eq {text word : String} {more : List Char}
    (htext : text.toList = word.toList ++ more) (hword : ' ' ∉ word.toList)
    (hmore : more = [] ∨ ∃ rest, more = ' ' :: rest) :
    cutAtSpace text = (word, String.ofList more.tail) := by
  have hkept : ∀ c ∈ word.toList, (c != ' ') = true := by
    intro c hc
    exact bne_iff_ne.mpr fun heq => hword (heq ▸ hc)
  have hend : more.takeWhile (· != ' ') = [] ∧ more.dropWhile (· != ' ') = more := by
    rcases hmore with rfl | ⟨rest, rfl⟩ <;> simp
  rw [cutAtSpace, htext, List.takeWhile_append_of_pos hkept, List.dropWhile_append_of_pos hkept,
    hend.1, hend.2, List.append_nil, String.ofList_toList]

theorem cutAtSpace_word {word : String} (h : ' ' ∉ word.toList) : cutAtSpace word = (word, "") :=
  cutAtSpace_eq (List.append_nil _).symm h (.inl rfl)

theorem cutAtSpace_append {word : String} (h : ' ' ∉ word.toList) (rest : String) :
    cutAtSpace (word ++ " " ++ rest) = (word, rest) := by
  have hchars : (word ++ " " ++ rest).toList = word.toList ++ ' ' :: rest.toList := by simp
  rw [cutAtSpace_eq hchars h (.inr ⟨_, rfl⟩), List.tail_cons, String.ofList_toList]

/-- The line of a service is read as the service, with arguments or without. -/
theorem InitService.ofHead_head {s : InitService} (h : s.Readable) :
    ∃ text, s.head = "service " ++ text ∧ InitService.ofHead text s.options = s := by
  obtain ⟨name, path, args, options⟩ := s
  have hname : ' ' ∉ name.toList := h.name.2
  have hpath : ' ' ∉ path.toList := h.path.2
  by_cases hargs : args = ""
  · subst hargs
    refine ⟨name ++ " " ++ path, ?_, ?_⟩
    · simp [InitService.head, String.intercalate_cons_cons, String.append_assoc]
    · simp only [InitService.ofHead, cutAtSpace_append hname, cutAtSpace_word hpath]
  · refine ⟨name ++ " " ++ (path ++ " " ++ args), ?_, ?_⟩
    · simp [InitService.head, hargs, String.intercalate_cons_cons, String.append_assoc]
    · simp only [InitService.ofHead, cutAtSpace_append hname, cutAtSpace_append hpath]

/-- Indented lines are added to those that belong to the item above. -/
theorem readItems_indented (h : readItems rest = some (below, items)) (texts : List String) :
    readItems (texts.map ("    " ++ ·) ++ rest) = some (texts ++ below, items) := by
  induction texts with
  | nil => exact h
  | cons text texts ih =>
    rw [List.map_cons, List.cons_append, readItems, ih]
    simp [Text.afterHead?_append]

/-- A line that opens an item takes what is indented below it. -/
theorem readItems_head {line : String} {item : InitItem} (hne : line ≠ "")
    (hflush : Text.afterHead? "    " line = none) (hitem : InitItem.ofHead? line below = some item)
    (h : readItems rest = some (below, items)) :
    readItems (line :: rest) = some ([], item :: items) := by
  simp only [readItems, h, hne, if_false, hflush, hitem, Option.map_some]

/-- An empty line before an item is of no account. -/
theorem readItems_empty (h : readItems rest = some ([], items)) :
    readItems ("" :: rest) = some ([], items) := by
  simp [readItems, h]

/-- The lines of an item are read as the item, whatever items follow it. -/
theorem readItems_lines {item : InitItem} (hitem : item.Readable)
    (h : readItems rest = some ([], items)) :
    readItems (item.lines ++ rest) = some ([], item :: items) := by
  cases item with
  | imported file =>
    refine readItems_head ?_ ?_ ?_ h
    · simp
    · simp [Text.afterHead?, Text.hasHead]
    · simp [InitItem.ofHead?, Text.afterHead?_append]
  | action a =>
    have hbelow := readItems_indented h a.commands
    rw [List.append_nil] at hbelow
    refine readItems_empty (readItems_head ?_ ?_ ?_ hbelow)
    · simp
    · simp [Text.afterHead?, Text.hasHead]
    · have himport : Text.afterHead? "import " ("on " ++ a.triggers) = none := by
        simp [Text.afterHead?, Text.hasHead]
      simp [InitItem.ofHead?, himport, Text.afterHead?_append]
  | service s =>
    obtain ⟨text, hhead, hservice⟩ := InitService.ofHead_head hitem
    have hbelow := readItems_indented h s.options
    rw [List.append_nil] at hbelow
    refine readItems_empty (readItems_head ?_ ?_ ?_ hbelow)
    · simp [hhead]
    · simp [hhead, Text.afterHead?, Text.hasHead]
    · have himport : Text.afterHead? "import " ("service " ++ text) = none := by
        simp [Text.afterHead?, Text.hasHead]
      have haction : Text.afterHead? "on " ("service " ++ text) = none := by
        simp [Text.afterHead?, Text.hasHead]
      simp [InitItem.ofHead?, hhead, himport, haction, Text.afterHead?_append, hservice]

end Item

/-! ## The whole -/

theorem readItems_flatMap {items : List InitItem} (h : ∀ item ∈ items, item.Readable) :
    readItems (items.flatMap InitItem.lines) = some ([], items) := by
  induction items with
  | nil => rfl
  | cons item rest ih =>
    rw [List.flatMap_cons]
    exact readItems_lines (h item List.mem_cons_self)
      (ih fun i hi => h i (List.mem_cons_of_mem item hi))

theorem InitService.newline_not_mem_head {s : InitService} (h : s.Readable) :
    '\n' ∉ s.head.toList := by
  have hname := h.name.1
  have hpath := h.path.1
  have hargs := h.args
  unfold InitService.head
  split <;> simp [String.intercalate_cons_cons, hname, hpath, hargs]

/-- An item that can be read keeps to its lines. -/
theorem InitItem.newline_not_mem_lines {item : InitItem} (h : item.Readable) :
    ∀ line ∈ item.lines, '\n' ∉ line.toList := by
  cases item with
  | imported file =>
    have hfile : '\n' ∉ file.toList := h
    simp [InitItem.lines, hfile]
  | action a =>
    have htriggers := h.triggers
    simpa [InitItem.lines, InitAction.lines, htriggers] using h.commands
  | service s =>
    have hhead := InitService.newline_not_mem_head h
    simpa [InitItem.lines, InitService.lines, hhead] using h.options

theorem InitScript.lines_eq (s : InitScript) : s.lines = s.items.flatMap InitItem.lines := by
  have himports : s.imports.map ("import " ++ ·) =
      s.imports.flatMap fun file => InitItem.lines (.imported file) := List.map_eq_flatMap
  simp only [InitScript.items, List.flatMap_append, List.flatMap_map, ← himports]
  rfl

/-- The items of a script are its imports, its actions and its services. -/
theorem InitScript.filterMap_items (s : InitScript) :
    s.items.filterMap InitItem.imported? = s.imports ∧
      s.items.filterMap InitItem.action? = s.actions ∧
      s.items.filterMap InitItem.service? = s.services := by
  simp [InitScript.items, List.filterMap_map, Function.comp_def, List.filterMap_none,
    InitItem.imported?, InitItem.action?, InitItem.service?]

theorem readInitScript_render {s : InitScript} (h : s.Readable) :
    readInitScript s.render = some (s.imports, s.actions, s.services) := by
  have hitems := h.of_mem_items
  have hlines : ∀ line ∈ s.lines, '\n' ∉ line.toList := by
    rw [s.lines_eq, List.forall_mem_flatMap]
    exact fun item hitem => InitItem.newline_not_mem_lines (hitems item hitem)
  obtain ⟨himports, hactions, hservices⟩ := s.filterMap_items
  rw [readInitScript, InitScript.render, Text.linesOf_unlines hlines, s.lines_eq,
    readItems_flatMap hitems]
  simp only [himports, hactions, hservices]

/-- A script of which no text goes over several lines, and whose services have names and paths
without a space, is read back as its imports, its actions with their commands and its services with
their arguments and options, each in order. So two such scripts have the same text only if they
agree in all of these. A name and a path may be empty. -/
theorem init_script_read_back {s : InitScript} (h : s.Readable) :
    readInitScript s.render = some (s.imports, s.actions, s.services) ∧
      ∀ t : InitScript, t.Readable →
        (t.render = s.render ↔
          t.imports = s.imports ∧ t.actions = s.actions ∧ t.services = s.services) := by
  refine ⟨readInitScript_render h, fun t ht => ⟨fun hrender => ?_, ?_⟩⟩
  · have hread := readInitScript_render ht
    rw [hrender, readInitScript_render h] at hread
    simpa using hread.symm
  · rintro ⟨himports, hactions, hservices⟩
    simp only [InitScript.render, InitScript.lines, himports, hactions, hservices]

/-- A script with a service of the given arguments and options, after all other kinds of items: an
action without commands, one with a command that is indented further, and a service that has
arguments with two spaces between them. -/
def daemonScript (args : String) (options : List String) : InitScript where
  name := "init.widget.rc"
  imports := ["/vendor/etc/init/usb.rc"]
  actions := [⟨"boot", []⟩, ⟨"fs", ["mount_all /fstab", "  chmod 0660 /dev/gpu", ""]⟩]
  services := [⟨"wifi", "/vendor/bin/wifi", "-d  wlan0", []⟩,
    ⟨"gpu", "/vendor/bin/gpu", args, options⟩]

theorem daemonScript_readable {args : String} {options : List String} (hargs : '\n' ∉ args.toList)
    (hoptions : ∀ option ∈ options, '\n' ∉ option.toList) :
    (daemonScript args options).Readable where
  imports := by simp [daemonScript]
  actions := by
    simp only [daemonScript, List.forall_mem_cons]
    exact ⟨⟨by decide, by decide⟩, ⟨by decide, by decide⟩, List.forall_mem_nil _⟩
  services := by
    simp only [daemonScript, List.forall_mem_cons]
    exact ⟨⟨by decide, by decide, by decide, by decide⟩, ⟨by simp, by simp, hargs, hoptions⟩,
      List.forall_mem_nil _⟩

/-- It is read back, and an option is not taken for an argument. -/
theorem init_script_read_back_daemonScript :
    let s := daemonScript "" ["class core"]
    let t := daemonScript "class core" []
    s.Readable ∧ t.Readable ∧
      readInitScript s.render = some (s.imports, s.actions, s.services) ∧
      t.render ≠ s.render := by
  intro s t
  have hs : s.Readable := daemonScript_readable (by decide) (by decide)
  have ht : t.Readable := daemonScript_readable (by decide) (by decide)
  obtain ⟨hread, hsame⟩ := init_script_read_back hs
  refine ⟨hs, ht, hread, fun hrender => ?_⟩
  obtain ⟨-, -, hservices⟩ := (hsame t ht).mp hrender
  revert hservices
  decide

end DeviceSpec
