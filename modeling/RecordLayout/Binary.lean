/-!
# Binary floating-point formats

The IEEE 754 binary formats as bit patterns held in `Nat`: `binary64` (53-bit significand,
11-bit exponent) and `binary32` (24-bit significand, 8-bit exponent).

* `BinaryFormat.decode` reads a pattern as NaN, an infinity, or a finite value `m · 2^e`.
* `BinaryFormat.roundRatio` is the value of the format nearest to a positive ratio, ties to an
  even significand, too large values becoming infinity; `BinaryFormat.ofRatio` adds the sign.
* `BinaryFormat.convert` carries a pattern from one format to another: exactly when widening,
  rounded to nearest even when narrowing.  A NaN stays a quiet NaN with its sign and the top of
  its payload.
-/

namespace RecordLayout

/-- A binary interchange format: bits of significand (with the hidden bit) and of exponent. -/
structure BinaryFormat where
  precision : Nat
  expBits : Nat
  deriving DecidableEq, Repr, Inhabited

/-- A decoded pattern. -/
inductive BinaryValue where
  | nan
  | infinite (neg : Bool)
  /-- The value `(-1)^neg · m · 2^e`. -/
  | finite (neg : Bool) (m : Nat) (e : Int)
  deriving DecidableEq, Repr, Inhabited

namespace BinaryFormat

/-- Double precision. -/
def binary64 : BinaryFormat := ⟨53, 11⟩

/-- Single precision. -/
def binary32 : BinaryFormat := ⟨24, 8⟩

/-- Bits of the stored fraction. -/
def fracBits (f : BinaryFormat) : Nat := f.precision - 1

/-- The exponent bias. -/
def bias (f : BinaryFormat) : Nat := Nat.pow 2 (f.expBits - 1) - 1

/-- The all-ones exponent field of infinities and NaNs. -/
def topExp (f : BinaryFormat) : Nat := Nat.pow 2 f.expBits - 1

/-- The exponent of the unit in the last place of the subnormals. -/
def minExp (f : BinaryFormat) : Int := 1 - (f.bias : Int) - f.fracBits

/-- The sign bit. -/
def signBit (f : BinaryFormat) : Nat := Nat.pow 2 (f.fracBits + f.expBits)

/-- The quiet bit of a NaN. -/
def quietBit (f : BinaryFormat) : Nat := Nat.pow 2 (f.fracBits - 1)

/-- The stored fraction of a pattern. -/
def fraction (f : BinaryFormat) (bits : Nat) : Nat := bits % Nat.pow 2 f.fracBits

/-- Whether the sign bit is set. -/
def isNeg (f : BinaryFormat) (bits : Nat) : Bool := bits / f.signBit % 2 == 1

/-- **Decodes** a pattern. -/
def decode (f : BinaryFormat) (bits : Nat) : BinaryValue :=
  let frac := f.fraction bits
  let ex := bits / Nat.pow 2 f.fracBits % Nat.pow 2 f.expBits
  let neg := f.isNeg bits
  if ex = f.topExp then (if frac = 0 then .infinite neg else .nan)
  else if ex = 0 then .finite neg frac f.minExp
  else .finite neg (frac + Nat.pow 2 f.fracBits) ((ex : Int) - f.bias - f.fracBits)

/-- The pattern of an infinity. -/
def infinity (f : BinaryFormat) (neg : Bool) : Nat :=
  (if neg then f.signBit else 0) + f.topExp * Nat.pow 2 f.fracBits

/-- `⌊log₂ (num / den)⌋` for positive `num` and `den`. -/
def floorLog2 (num den : Nat) : Int :=
  let k : Int := (Nat.log2 num : Int) - Nat.log2 den
  -- the ratio lies in [2^(k-1), 2^(k+1)); test the upper half
  let atLeast :=
    if k ≥ 0 then num ≥ den * Nat.pow 2 k.toNat else num * Nat.pow 2 (-k).toNat ≥ den
  if atLeast then k else k - 1

/-- `num / (den · 2^e)` rounded to the nearest integer, ties to even. -/
def roundScaled (num den : Nat) (e : Int) : Nat :=
  let (n, d) :=
    if e ≥ 0 then (num, den * Nat.pow 2 e.toNat) else (num * Nat.pow 2 (-e).toNat, den)
  let q := n / d
  let r := n % d
  if 2 * r > d ∨ (2 * r = d ∧ q % 2 = 1) then q + 1 else q

/-- **The pattern nearest to the positive ratio `num / den`** (without sign), ties to an even
significand; values beyond the largest finite one round to infinity. -/
def roundRatio (f : BinaryFormat) (num den : Nat) : Nat :=
  if num = 0 ∨ den = 0 then 0
  else
    let e := max (floorLog2 num den - f.fracBits) f.minExp
    let q := roundScaled num den e
    -- rounding up may carry into the next binade
    let (q, e) := if q = Nat.pow 2 f.precision then (q / 2, e + 1) else (q, e)
    if q < Nat.pow 2 f.fracBits then q
    else
      let field := e + f.bias + f.fracBits
      if field ≥ f.topExp then f.topExp * Nat.pow 2 f.fracBits
      else field.toNat * Nat.pow 2 f.fracBits + (q - Nat.pow 2 f.fracBits)

/-- The pattern nearest to `(-1)^neg · num / den`. -/
def ofRatio (f : BinaryFormat) (neg : Bool) (num den : Nat) : Nat :=
  (if neg then f.signBit else 0) + f.roundRatio num den

/-- The pattern of `(-1)^neg · m · 2^e`, rounded to nearest even. -/
def ofScaled (f : BinaryFormat) (neg : Bool) (m : Nat) (e : Int) : Nat :=
  if e ≥ 0 then f.ofRatio neg (m * Nat.pow 2 e.toNat) 1
  else f.ofRatio neg m (Nat.pow 2 (-e).toNat)

/-- **Carries a pattern of format `src` to format `dst`.** -/
def convert (src dst : BinaryFormat) (bits : Nat) : Nat :=
  match src.decode bits with
  | .nan =>
    let sign := if src.isNeg bits then dst.signBit else 0
    let payload :=
      if dst.fracBits ≥ src.fracBits then
        src.fraction bits * Nat.pow 2 (dst.fracBits - src.fracBits)
      else src.fraction bits / Nat.pow 2 (src.fracBits - dst.fracBits)
    sign + dst.topExp * Nat.pow 2 dst.fracBits + (payload % Nat.pow 2 dst.fracBits ||| dst.quietBit)
  | .infinite neg => dst.infinity neg
  | .finite neg m e => dst.ofScaled neg m e

end BinaryFormat

end RecordLayout
