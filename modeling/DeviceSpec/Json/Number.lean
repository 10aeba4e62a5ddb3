/-!
# Numbers in a document

No part of a device description is a number, so numbers are read only to be named in a message. A
whole number that fits 64 bits is shown as it is. Any other number is shown as the double it stands
for, with the fewest digits that read back.

* `Number.toText` writes a number the way messages name it.
-/

namespace DeviceSpec.Json

/-- A number of a document. -/
inductive Number where
  /-- A whole number that fits 64 bits. -/
  | whole (n : Int)
  /-- Any other number. -/
  | real (x : Float)

/-- Two to the power `n`. -/
def powerOfTwo (n : Nat) : Nat := Nat.pow 2 n

/-- Ten to the power `n`. -/
def powerOfTen (n : Nat) : Nat := Nat.pow 10 n

/-! ## Fewest digits -/

/-- A positive double as `mantissa * 2 ^ exponent`, with the reals that round to it. -/
structure Binary where
  /-- The integer mantissa. -/
  mantissa : Nat
  /-- The power of two. -/
  exponent : Int
  /-- The next smaller double is only half as far away as the next larger one. -/
  narrowBelow : Bool

/-- The mantissa and exponent of a positive finite double. -/
def Binary.ofBits (bits : Nat) : Binary :=
  let fraction : Nat := bits % powerOfTwo 52
  let biased : Nat := bits / powerOfTwo 52 % powerOfTwo 11
  if biased = 0 then ⟨fraction, -1074, false⟩
  else ⟨powerOfTwo 52 + fraction, (biased : Int) - 1075, fraction == 0 && decide (1 < biased)⟩

/-- The decimal exponent of the positive ratio `num / den`. -/
def decimalExponent (num den : Nat) : Int :=
  if den ≤ num then ((Nat.toDigits 10 (num / den)).length : Int) - 1
  else
    match (List.range 400).find? (fun j => decide (den ≤ num * powerOfTen j)) with
    | some j => -(j : Int)
    | none => -400

/-- `num / den` scaled down by a power of ten, as a ratio. -/
def scaleDown (num den : Nat) (power : Int) : Nat × Nat :=
  if 0 ≤ power then (num, den * powerOfTen power.toNat)
  else (num * powerOfTen (-power).toNat, den)

/-- The multiple of `10 ^ power` nearest to the double that still rounds to it, if a neighbour of
the double on that grid does. All quantities are in quarters of the double's last place. -/
def Binary.onGrid? (b : Binary) (power : Int) : Option Nat :=
  let shift := b.exponent - 2
  let unitNum := if 0 ≤ shift then powerOfTwo shift.toNat else 1
  let unitDen := if 0 ≤ shift then 1 else powerOfTwo (-shift).toNat
  let (num, den) := scaleDown (4 * b.mantissa * unitNum) unitDen power
  let under := if b.narrowBelow then 1 else 2
  let (lowNum, _) := scaleDown ((4 * b.mantissa - under) * unitNum) unitDen power
  let (highNum, _) := scaleDown ((4 * b.mantissa + 2) * unitNum) unitDen power
  let closed := b.mantissa % 2 == 0
  let inside (d : Nat) : Bool :=
    let x := d * den
    if closed then decide (lowNum ≤ x) && decide (x ≤ highNum)
    else decide (lowNum < x) && decide (x < highNum)
  let below := num / den
  let above := below + 1
  match inside below, inside above with
  | true, true =>
    let down := num - below * den
    let up := above * den - num
    if down < up then some below
    else if up < down then some above
    else if below % 2 = 0 then some below else some above
  | true, false => some below
  | false, true => some above
  | false, false => none

/-- The fewest decimal digits that read back as the double, and the power of ten of the last. -/
def Binary.shortest (b : Binary) : Nat × Int :=
  let shift := b.exponent - 2
  let num := 4 * b.mantissa * (if 0 ≤ shift then powerOfTwo shift.toNat else 1)
  let den := if 0 ≤ shift then 1 else powerOfTwo (-shift).toNat
  let top := decimalExponent num den
  let attempt (count : Nat) : Option (Nat × Int) :=
    let power := top - (count : Int) + 1
    (b.onGrid? power).map (fun d => (d, power))
  ((List.range' 1 17).findSome? attempt).getD (0, 0)

/-! ## Spelling -/

/-- Digits without trailing zeros, and the power of ten of the first digit. -/
def significantDigits (d : Nat) (power : Int) : List Char × Int :=
  let all := Nat.toDigits 10 d
  let kept := (all.reverse.dropWhile (· == '0')).reverse
  (if kept.isEmpty then ['0'] else kept, power + (all.length : Int) - 1)

/-- A positive value from its digits: positional from `1e-5` up to `1e16`, with at least one digit
after the point, and with a signed exponent outside. -/
def spellDigits (digits : List Char) (top : Int) : List Char :=
  if top < -5 ∨ 16 ≤ top then
    let mantissa := match digits with
      | d :: e :: rest => d :: '.' :: e :: rest
      | short => short
    mantissa ++ 'e' :: (if top < 0 then '-' else '+') :: Nat.toDigits 10 top.natAbs
  else if top < 0 then
    '0' :: '.' :: (List.replicate (top.natAbs - 1) '0' ++ digits)
  else
    let whole := top.toNat + 1
    let padded := digits ++ List.replicate (whole - digits.length) '0'
    let fraction := padded.drop whole
    padded.take whole ++ '.' :: (if fraction.isEmpty then ['0'] else fraction)

/-- A finite double with the fewest digits that read back. -/
def realToText (x : Float) : String :=
  let bits := x.toBits.toNat
  let sign := if bits / powerOfTwo 63 = 1 then ['-'] else []
  let size := bits % powerOfTwo 63
  let body :=
    if size = 0 then ['0', '.', '0']
    else
      let (d, power) := (Binary.ofBits size).shortest
      let (digits, top) := significantDigits d power
      spellDigits digits top
  String.ofList (sign ++ body)

/-- The number the way messages show it. -/
def Number.toText : Number → String
  | .whole n => toString n
  | .real x => realToText x

end DeviceSpec.Json
