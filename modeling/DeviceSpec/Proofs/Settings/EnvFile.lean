import DeviceSpec.Settings.EnvFile

/-!
# What the variables do to an environment file

A line may refer to variables, those of the environment or those defined above it. They come into
the value that the line defines, and into nothing else.

* **the same variables** — a line says the same wherever a name stands for the same value
  (`parseLine_congr`);
* **other variables** — whether a line defines something, and what name it gives a value to, does
  not depend on any variable (`defines_parseLine`).
-/

namespace DeviceSpec.EnvFile

variable {environment environment' earlier earlier' : Variables}

/-! ## The same variables -/

section
variable (h : valueOf environment earlier = valueOf environment' earlier')
include h

theorem substitute_congr (r : Reading) :
    r.substitute environment earlier = r.substitute environment' earlier' := by
  rw [Reading.substitute, Reading.substitute, h]

theorem take_congr (r : Reading) (c : Char) :
    r.take environment earlier c = r.take environment' earlier' c := by
  simp only [Reading.take, substitute_congr h]

theorem finish_congr (r : Reading) :
    r.finish environment earlier = r.finish environment' earlier' := by
  simp only [Reading.finish, substitute_congr h]

theorem readValue_congr (r : Reading) (cs : List Char) :
    readValue environment earlier r cs = readValue environment' earlier' r cs := by
  induction cs generalizing r with
  | nil => exact finish_congr h r
  | cons c rest ih => simp only [readValue, take_congr h, finish_congr h, ih]

/-- A line says the same wherever a name stands for the same value. -/
theorem parseLine_congr (line : List Char) :
    parseLine environment earlier line = parseLine environment' earlier' line := by
  simp only [parseLine, readValue_congr h]

end

/-! ## Other variables -/

/-- A reading without the value read so far, the only part that variables come into. -/
def Reading.shape (r : Reading) : Reading := { r with value := [] }

/-- The name that a statement gives a value to. -/
def Statement.defines : Statement → Option String
  | .define key _ => some key
  | _ => none

theorem Statement.eq_define_of_defines {s : Statement} {key : String}
    (h : s.defines = some key) : ∃ value, s = .define key value := by
  cases s with
  | define key' value =>
    cases h
    exact ⟨value, rfl⟩
  | nothing => cases h
  | fault => cases h

section
variable (environment environment' earlier earlier' : Variables)

/-- Whether a character is allowed, and where it leaves the reading, does not depend on any
variable. -/
theorem shape_take {r r' : Reading} (h : r.shape = r'.shape) (c : Char) :
    (r.take environment earlier c).map Reading.shape =
      (r'.take environment' earlier' c).map Reading.shape := by
  obtain ⟨isSingle, isDouble, isEscaped, isOver, naming, name, value⟩ := r
  obtain ⟨isSingle', isDouble', isEscaped', isOver', naming', name', value'⟩ := r'
  simp only [Reading.shape, Reading.mk.injEq, and_true] at h
  obtain ⟨rfl, rfl, rfl, rfl, rfl, rfl⟩ := h
  simp only [Reading.take, Reading.substitute, Reading.push, apply_ite (Option.map Reading.shape),
    apply_ite Reading.shape, Option.map_map, Option.map_some, Function.comp_def]
  rfl

theorem isSome_finish {r r' : Reading} (h : r.shape = r'.shape) :
    (r.finish environment earlier).isSome = (r'.finish environment' earlier').isSome := by
  simp only [Reading.shape, Reading.mk.injEq, and_true] at h
  obtain ⟨hsingle, hdouble, -, -, hnaming, -⟩ := h
  simp only [Reading.finish, hsingle, hdouble, hnaming]
  split <;> rfl

theorem isSome_readValue {r r' : Reading} (h : r.shape = r'.shape) (cs : List Char) :
    (readValue environment earlier r cs).isSome =
      (readValue environment' earlier' r' cs).isSome := by
  induction cs generalizing r r' with
  | nil => exact isSome_finish _ _ _ _ h
  | cons c rest ih =>
    have hover : r.isOver = r'.isOver := congrArg (·.isOver) h
    have htake := shape_take environment environment' earlier earlier' h c
    simp only [readValue, hover]
    split
    · split
      · exact ih h
      · split
        · exact isSome_finish _ _ _ _ h
        · rfl
    · cases hr : r.take environment earlier c with
      | none =>
        rw [hr] at htake
        rw [Option.map_eq_none_iff.mp htake.symm]
      | some s =>
        rw [hr] at htake
        obtain ⟨s', hr', hs⟩ := Option.map_eq_some_iff.mp htake.symm
        rw [hr']
        exact ih hs.symm

/-- Whether a line defines something, and what name it gives a value to, does not depend on any
variable. -/
theorem defines_parseLine (line : List Char) :
    (parseLine environment earlier line).defines =
      (parseLine environment' earlier' line).defines := by
  unfold parseLine
  split
  · rfl
  · rfl
  · split
    · rfl
    · next key rest _ =>
      have h := isSome_readValue environment environment' earlier earlier' (r := {}) rfl
        (rest.dropWhile Text.isBlank)
      split
      · rfl
      · rfl
      · revert h
        cases readValue environment earlier {} (rest.dropWhile Text.isBlank) <;>
          cases readValue environment' earlier' {} (rest.dropWhile Text.isBlank) <;>
          simp [Statement.defines]

end

end DeviceSpec.EnvFile
