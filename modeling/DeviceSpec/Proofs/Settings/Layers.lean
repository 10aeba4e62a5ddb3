import DeviceSpec.Proofs.Disk.Follow
import DeviceSpec.Proofs.Settings.EnvFile
import DeviceSpec.Settings.Basic

/-!
# One file, read twice

The command line takes the definitions of the environment file into the environment, first
definition first, and then loads the settings as always: from the environment, or else the last
definition in that same file.

* **the first reading** — it adds to the environment what is defined before the first fault, the
  first definition of a name winning (`lookup_adoptLines`);
* **the second reading** — it finds nothing else as long as no name that the environment leaves
  unset is given two values (`lookup_defined_adoptLines`);
* **the settings** — so they are those of a single reading, for such a file, and in general exactly
  when the first definition taken and the last definition found ask for the same
  (`ofRun_eq_load_iff`).
-/

namespace DeviceSpec

open EnvFile

/-! ## What lines define -/

namespace EnvFile

/-- All that is defined once lines have been read, last definition first: the variables after
them. -/
def defined (environment earlier : Variables) (ls : List Line) : Variables :=
  (definitionsOf (statements environment earlier ls)).reverse ++ earlier

section
variable {environment earlier : Variables} {line : List Char} {rest : List Line}

theorem defined_nil : defined environment earlier [] = earlier := rfl

theorem defined_fault :
    defined environment earlier (.fault :: rest) = defined environment earlier rest := rfl

theorem defined_text_of_define {key value : String}
    (h : parseLine environment earlier line = .define key value) :
    defined environment earlier (.text line :: rest) =
      defined environment ((key, value) :: earlier) rest := by
  simp [defined, statements, h, definitionsOf]

/-- A line that defines nothing under some variables defines nothing under any. -/
theorem defined_text_of_defines_none (h : (parseLine environment earlier line).defines = none)
    (environment' earlier' : Variables) (rest : List Line) :
    defined environment' earlier' (.text line :: rest) = defined environment' earlier' rest := by
  rw [defines_parseLine _ environment' _ earlier'] at h
  cases hline : parseLine environment' earlier' line with
  | define key value => rw [hline] at h; cases h
  | nothing => simp [defined, statements, hline, definitionsOf]
  | fault => simp [defined, statements, hline, definitionsOf]

/-- A line that defines a name under some variables defines it under any, though maybe with another
value. -/
theorem defined_text_of_defines_some {key : String}
    (h : (parseLine environment earlier line).defines = some key)
    (environment' earlier' : Variables) (rest : List Line) :
    ∃ value, defined environment' earlier' (.text line :: rest) =
      defined environment' ((key, value) :: earlier') rest := by
  rw [defines_parseLine _ environment' _ earlier'] at h
  obtain ⟨value, hline⟩ := Statement.eq_define_of_defines h
  exact ⟨value, defined_text_of_define hline⟩

/-- What has been defined stays defined. -/
theorem mem_defined_of_mem {ls : List Line} {p : String × String} (hp : p ∈ earlier) :
    p ∈ defined environment earlier ls :=
  List.mem_append_right _ hp

theorem defined_eq_reverse (content : ByteArray) :
    defined environment [] (lines content) = (definitions environment content).reverse :=
  List.append_nil _

end

/-- A name that the environment leaves unset is given one value only. -/
def Unambiguous (environment definitions : Variables) : Prop :=
  ∀ p ∈ definitions, ∀ q ∈ definitions, environment.lookup p.1 = none → p.1 = q.1 → p.2 = q.2
  deriving Decidable

/-- A name stands for what the environment says or else the last definition above. -/
theorem valueOf_eq (environment earlier : Variables) (name : List Char) :
    valueOf environment earlier name =
      (((environment ++ earlier).lookup (String.ofList name)).getD "").toList := by
  rw [valueOf, List.lookup_append]
  cases environment.lookup (String.ofList name) <;> rfl

theorem valueOf_congr {environment earlier environment' earlier' : Variables}
    (h : ∀ key, (environment ++ earlier).lookup key = (environment' ++ earlier').lookup key) :
    valueOf environment earlier = valueOf environment' earlier' := by
  funext name
  rw [valueOf_eq, valueOf_eq, h]

end EnvFile

/-! ## The first reading -/

/-- The definitions that are taken into the environment, in order: those before the first fault,
each read with the ones before it taken. -/
def taken : Variables → Variables → List Line → Variables
  | _, _, [] => []
  | _, _, .fault :: _ => []
  | environment, earlier, .text line :: rest =>
    match parseLine environment earlier line with
    | .fault => []
    | .nothing => taken environment earlier rest
    | .define key value =>
      let environment :=
        if (environment.lookup key).isSome then environment else environment ++ [(key, value)]
      (key, value) :: taken environment ((key, value) :: earlier) rest

/-- To set a variable that is unset is to define it after all others. -/
theorem lookup_set (environment : Variables) (key value name : String) :
    (if (environment.lookup key).isSome then environment
      else environment ++ [(key, value)]).lookup name =
      (environment.lookup name).or ([(key, value)].lookup name) := by
  split
  · next hset =>
    rw [List.lookup_singleton]
    split
    · next hname =>
      rw [eq_of_beq hname]
      cases hkey : environment.lookup key with
      | none => rw [hkey] at hset; cases hset
      | some v => rfl
    · rw [Option.or_none]
  · exact List.lookup_append

/-- The environment after the first reading: what it was, or else the first definition taken. -/
theorem lookup_adoptLines (environment earlier : Variables) (ls : List Line) (name : String) :
    (adoptLines environment earlier ls).lookup name =
      (environment ++ taken environment earlier ls).lookup name := by
  induction ls generalizing environment earlier with
  | nil => rw [adoptLines, taken, List.append_nil]
  | cons l rest ih =>
    cases l with
    | fault => rw [adoptLines, taken, List.append_nil]
    | text line =>
      rw [adoptLines, taken]
      cases parseLine environment earlier line with
      | fault => rw [List.append_nil]
      | nothing => exact ih environment earlier
      | define key value =>
        rw [ih, List.lookup_append, lookup_set, Option.or_assoc, ← List.lookup_append,
          ← List.lookup_append, List.singleton_append]

/-! ## The second reading -/

section
variable {environment earlier : Variables} {key value name : String}

/-- A definition that says nothing new about its name might as well be the first one. -/
theorem lookup_define
    (hold : ∀ {v}, environment.lookup key = none → earlier.lookup key = some v → v = value) :
    (environment ++ (key, value) :: earlier).lookup name =
      ((environment ++ earlier).lookup name).or ([(key, value)].lookup name) := by
  simp only [List.lookup_append, List.lookup_cons, List.lookup_nil]
  cases hname : name == key with
  | false => simp
  | true =>
    rw [eq_of_beq hname]
    cases henv : environment.lookup key with
    | some v => rfl
    | none =>
      cases hearlier : earlier.lookup key with
      | none => rfl
      | some v => rw [hold henv hearlier]; rfl

/-- In an unambiguous file no definition says anything new about a name defined above it. -/
theorem EnvFile.Unambiguous.eq_of_lookup {ls : List Line}
    (h : Unambiguous environment (defined environment ((key, value) :: earlier) ls))
    (hunset : environment.lookup key = none) {v : String} (hv : earlier.lookup key = some v) :
    v = value := by
  obtain ⟨above, below, rfl, -⟩ := List.lookup_eq_some_iff.mp hv
  exact h (key, v) (mem_defined_of_mem (by simp)) (key, value) (mem_defined_of_mem (by simp))
    hunset rfl

end

/-- Two environments that come to the same with what has been defined so far come to the same at
the end of an unambiguous file. -/
theorem lookup_defined_congr {environment environment' earlier earlier' : Variables}
    {ls : List Line}
    (hextends : ∀ key v, environment.lookup key = some v → environment'.lookup key = some v)
    (hsame : ∀ key, (environment ++ earlier).lookup key = (environment' ++ earlier').lookup key)
    (hone : Unambiguous environment (defined environment earlier ls)) (name : String) :
    (environment ++ defined environment earlier ls).lookup name =
      (environment' ++ defined environment' earlier' ls).lookup name := by
  induction ls generalizing earlier earlier' with
  | nil =>
    rw [defined_nil, defined_nil]
    exact hsame name
  | cons l rest ih =>
    cases l with
    | fault =>
      rw [defined_fault] at hone ⊢
      rw [defined_fault]
      exact ih hsame hone
    | text line =>
      have hline := parseLine_congr (valueOf_congr hsame) line
      cases hdefines : (parseLine environment earlier line).defines with
      | none =>
        have hskip := defined_text_of_defines_none hdefines
        rw [hskip] at hone ⊢
        rw [hskip]
        exact ih hsame hone
      | some key =>
        obtain ⟨value, hparse⟩ := Statement.eq_define_of_defines hdefines
        rw [defined_text_of_define hparse] at hone ⊢
        rw [defined_text_of_define (hline ▸ hparse)]
        refine ih (fun name => ?_) hone
        have hold {v : String} (hunset : environment.lookup key = none)
            (hv : earlier.lookup key = some v) : v = value := hone.eq_of_lookup hunset hv
        -- A name that is unset in the second environment is unset in the first, so what has been
        -- defined so far says the same about it in both.
        have hold' {v : String} (hunset' : environment'.lookup key = none)
            (hv' : earlier'.lookup key = some v) : v = value := by
          have hunset : environment.lookup key = none := by
            cases hkey : environment.lookup key with
            | none => rfl
            | some w => rw [hextends key w hkey] at hunset'; cases hunset'
          have hkey := hsame key
          rw [List.lookup_append, List.lookup_append, hunset, hunset', hv'] at hkey
          exact hold hunset hkey
        rw [lookup_define hold, lookup_define hold', hsame]

/-- Where the first reading has stopped, the second goes on alone. -/
theorem lookup_defined_current {environment current earlier again : Variables} {ls : List Line}
    (hcurrent : ∀ key, current.lookup key = (environment ++ earlier).lookup key)
    (hagain : ∀ p ∈ again, (current.lookup p.1).isSome)
    (hone : Unambiguous environment (defined environment earlier ls)) (name : String) :
    (environment ++ defined environment earlier ls).lookup name =
      (current ++ defined current again ls).lookup name := by
  refine lookup_defined_congr (fun key v hkey => ?_) (fun key => ?_) hone name
  · rw [hcurrent, List.lookup_append, hkey]
    rfl
  · rw [← hcurrent, List.lookup_append]
    cases hkey : again.lookup key with
    | none => rw [Option.or_none]
    | some v =>
      obtain ⟨above, below, rfl, -⟩ := List.lookup_eq_some_iff.mp hkey
      have hset := hagain (key, v) (by simp)
      rw [Option.or_of_isSome hset]

/-- Reading an unambiguous file into the environment and then once more comes to what a single
reading comes to. Up to the first fault, `current` is the environment of the first reading and
`again` what the second has found. -/
theorem lookup_defined_adoptLines {environment current earlier again : Variables}
    {ls : List Line}
    (hcurrent : ∀ key, current.lookup key = (environment ++ earlier).lookup key)
    (hagain : ∀ p ∈ again, (current.lookup p.1).isSome)
    (hone : Unambiguous environment (defined environment earlier ls)) (name : String) :
    (environment ++ defined environment earlier ls).lookup name =
      (adoptLines current earlier ls ++
        defined (adoptLines current earlier ls) again ls).lookup name := by
  induction ls generalizing current earlier again with
  | nil => exact lookup_defined_current hcurrent hagain hone name
  | cons l rest ih =>
    cases l with
    | fault => exact lookup_defined_current hcurrent hagain hone name
    | text line =>
      have hvalues : valueOf current earlier = valueOf environment earlier :=
        valueOf_congr fun key => by
          rw [List.lookup_append, hcurrent, ← List.lookup_append, List.append_assoc]
          simp [List.lookup_append]
      cases hparse : parseLine current earlier line with
      | fault =>
        simp only [adoptLines, hparse]
        exact lookup_defined_current hcurrent hagain hone name
      | nothing =>
        have hskip := defined_text_of_defines_none (congrArg Statement.defines hparse)
        rw [hskip] at hone ⊢
        simp only [adoptLines, hparse, hskip]
        exact ih hcurrent hagain hone
      | define key value =>
        have hparse' : parseLine environment earlier line = .define key value :=
          parseLine_congr hvalues line ▸ hparse
        rw [defined_text_of_define hparse'] at hone ⊢
        simp only [adoptLines, hparse]
        have hset := lookup_set current key value
        generalize (if (current.lookup key).isSome then current
          else current ++ [(key, value)]) = next at hset ⊢
        obtain ⟨value', hvalue'⟩ := defined_text_of_defines_some
          (congrArg Statement.defines hparse) (adoptLines next ((key, value) :: earlier) rest)
          again rest
        rw [hvalue']
        -- The second reading may find another value, but the name is set by now.
        refine ih (fun key' => ?_) ?_ hone
        · rw [hset, hcurrent,
            ← lookup_define fun hunset hv => hone.eq_of_lookup hunset hv]
        · simp only [List.forall_mem_cons, hset, Option.isSome_or]
          exact ⟨by simp, fun p hp => by rw [hagain p hp]; rfl⟩

/-! ## The settings -/

/-- The variables that settings come from. -/
def settingVariables : List String := [buildTopVariable, checkModulesVariable]

/-- The settings that one variable gives on its own. -/
def Settings.ofVariable (key : String) (value : Option String) : Settings :=
  .ofVariables (value.toList.map (key, ·))

theorem Settings.ofVariable_buildTop (vars : Variables) :
    ofVariable buildTopVariable (vars.lookup buildTopVariable) =
      { buildTop := (ofVariables vars).buildTop } := by
  have hne : (checkModulesVariable == buildTopVariable) = false := by decide
  cases h : vars.lookup buildTopVariable <;> simp [ofVariable, ofVariables, h, hne]

theorem Settings.ofVariable_checkModules (vars : Variables) :
    ofVariable checkModulesVariable (vars.lookup checkModulesVariable) =
      { checksModules := (ofVariables vars).checksModules } := by
  have hne : (buildTopVariable == checkModulesVariable) = false := by decide
  cases h : vars.lookup checkModulesVariable <;> simp [ofVariable, ofVariables, h, hne]

/-- Variables give the same settings exactly when each of the two gives the same on its own. -/
theorem Settings.ofVariables_eq_iff {vars vars' : Variables} :
    ofVariables vars = ofVariables vars' ↔
      ∀ key ∈ settingVariables,
        ofVariable key (vars.lookup key) = ofVariable key (vars'.lookup key) := by
  simp only [settingVariables, List.forall_mem_cons, List.not_mem_nil, ofVariable_buildTop,
    ofVariable_checkModules]
  cases ofVariables vars
  cases ofVariables vars'
  simp

section
variable {dir : Path} {environment : Variables} {d : Disk} {content : ByteArray}

theorem Settings.load_of_read (h : d.read (envFile dir) = .ok content) :
    Settings.load dir environment d =
      .ofVariables (environment ++ (definitions environment content).reverse) := by
  rw [Settings.load, h]

/-- The environment file of the directory itself is the nearest. -/
theorem adoptEnvFile_of_read (h : d.read (envFile dir) = .ok content) :
    adoptEnvFile environment dir d = adoptLines environment [] (lines (withoutMark content)) := by
  have hnearest : nearestEnvFile (dir.components.length + 1) d dir = some (envFile dir) := by
    rw [nearestEnvFile, Disk.find_of_read h]
  rw [adoptEnvFile, hnearest]
  simp only [h]

/-- The settings of a run are those of its directory exactly when, for each of the two variables
that the environment leaves unset, the first definition taken, or else the last one found after
that, asks for the same as the last definition in the file. They are for every file without a mark
in front that gives no unset variable two values, whatever faults it has. -/
theorem Settings.ofRun_eq_load_iff (h : d.read (envFile dir) = .ok content) :
    (Settings.ofRun dir environment d = Settings.load dir environment d ↔
        ∀ key ∈ settingVariables, environment.lookup key = none →
          Settings.ofVariable key
              (((taken environment [] (lines (withoutMark content))).lookup key).or
                ((definitions (adoptEnvFile environment dir d) content).reverse.lookup key)) =
            Settings.ofVariable key ((definitions environment content).reverse.lookup key)) ∧
      (withoutMark content = content →
        Unambiguous environment (definitions environment content) →
          Settings.ofRun dir environment d = Settings.load dir environment d) := by
  rw [Settings.ofRun, Settings.load_of_read h, Settings.load_of_read h,
    Settings.ofVariables_eq_iff]
  constructor
  · refine forall₂_congr fun key _ => ?_
    have htaken := lookup_adoptLines environment [] (lines (withoutMark content)) key
    rw [← adoptEnvFile_of_read h, List.lookup_append] at htaken
    rw [List.lookup_append, List.lookup_append, htaken, Option.or_assoc]
    cases environment.lookup key with
    | none => simp only [Option.none_or, forall_const]
    | some v => simp only [Option.some_or, reduceCtorEq, false_implies]
  · intro hmark hone key _
    rw [adoptEnvFile_of_read h, hmark, ← defined_eq_reverse, ← defined_eq_reverse]
    have hone' : Unambiguous environment (defined environment [] (lines content)) := by
      rw [defined_eq_reverse]
      exact fun p hp q hq => hone p (List.mem_reverse.mp hp) q (List.mem_reverse.mp hq)
    rw [lookup_defined_adoptLines (fun _ => by rw [List.append_nil])
      (List.forall_mem_nil _) hone']

end

/-! ## Two files -/

/-- A directory with a given environment file. -/
def configuredDirectory (text : String) : Disk where
  entries := [(["w"], .directory), (["w", ".env"], .file text.toUTF8)]

theorem read_configuredDirectory (text : String) :
    (configuredDirectory text).read (envFile ⟨"/w"⟩) = .ok text.toUTF8 :=
  rfl

/-- A definition, a line that is none, and the same definition once more. -/
def faultyFile : String := "ANDROID_BUILD_TOP=/top\n=\nANDROID_BUILD_TOP=/top\n"

theorem ofRun_eq_load_faultyFile :
    (configuredDirectory faultyFile).read (envFile ⟨"/w"⟩) = .ok faultyFile.toUTF8 ∧
      Settings.ofRun ⟨"/w"⟩ [] (configuredDirectory faultyFile) =
        Settings.load ⟨"/w"⟩ [] (configuredDirectory faultyFile) :=
  ⟨read_configuredDirectory faultyFile,
    (Settings.ofRun_eq_load_iff (read_configuredDirectory faultyFile)).2 (by decide +kernel)
      (by decide +kernel)⟩

/-- The root of the Android tree, given twice. -/
def ambiguousFile : String := "ANDROID_BUILD_TOP=/first\nANDROID_BUILD_TOP=/second\n"

/-- A run takes the first root, and its directory asks for the second. -/
theorem buildTop_ambiguousFile :
    (configuredDirectory ambiguousFile).read (envFile ⟨"/w"⟩) = .ok ambiguousFile.toUTF8 ∧
      Settings.ofRun ⟨"/w"⟩ [] (configuredDirectory ambiguousFile) =
        { buildTop := some ⟨"/first"⟩ } ∧
      Settings.load ⟨"/w"⟩ [] (configuredDirectory ambiguousFile) =
        { buildTop := some ⟨"/second"⟩ } :=
  ⟨read_configuredDirectory ambiguousFile, by decide +kernel, by decide +kernel⟩

end DeviceSpec
