import RecordLayout.Binary

/-!
# Shortest decimal digits

A finite positive value `m · 2^e` of a binary format is written with the fewest significant
decimal digits that read back to it.  The values that read back to `m · 2^e` are those closer
to it than to either neighbour: an interval whose ends lie halfway to the neighbours, ends
included exactly when `m` is even.  At the lowest significand of a binade (and above the
subnormals) the lower neighbour is half as far away as the upper one.

`shortest` tries 1, 2, … significant digits.  With `n` digits the two candidates are the
value's neighbours on the grid `d · 10^k` with `10^(n-1) ≤ d < 10^n`; the first `n` for which
a candidate lies in the interval wins, and of two such candidates the nearer one, an exact tie
going to the even `d`.  The answer is the digit string without trailing zeros and the decimal
exponent of its last digit.
-/

namespace RecordLayout.Decimal

/-- A value as a ratio scaled by four, so that the halfway points are whole numbers:
the real number is `x / (4 · den)`. -/
structure Scaled where
  value : Nat
  low : Nat
  high : Nat
  den : Nat
  deriving Repr

/-- The value `m · 2^e` and the ends of its rounding interval, scaled by four. -/
def Scaled.ofBinary (f : BinaryFormat) (m : Nat) (e : Int) : Scaled :=
  let border := m = Nat.pow 2 f.fracBits ∧ e > f.minExp
  let (v, lo, hi) := (4 * m, if border then 4 * m - 1 else 4 * m - 2, 4 * m + 2)
  if e ≥ 0 then
    let s := Nat.pow 2 e.toNat
    ⟨v * s, lo * s, hi * s, 1⟩
  else ⟨v, lo, hi, Nat.pow 2 (-e).toNat⟩

/-- Compares `a · 10^k` with the scaled quantity `x / (4 · den)`. -/
def compareGrid (a : Nat) (k : Int) (x den : Nat) : Ordering :=
  if k ≥ 0 then compare (a * Nat.pow 10 k.toNat * 4 * den) x
  else compare (a * 4 * den) (x * Nat.pow 10 (-k).toNat)

/-- `⌊log₁₀ (x / y)⌋` for positive `x` and `y`. -/
def floorLog10 (x y : Nat) : Int :=
  let k : Int := ((Nat.toDigits 10 x).length : Int) - (Nat.toDigits 10 y).length
  -- the ratio lies in [10^(k-1), 10^(k+1))
  let atLeast :=
    if k ≥ 0 then x ≥ y * Nat.pow 10 k.toNat else x * Nat.pow 10 (-k).toNat ≥ y
  if atLeast then k else k - 1

/-- `⌊x / (4 · den · 10^k)⌋`. -/
def gridFloor (x den : Nat) (k : Int) : Nat :=
  if k ≥ 0 then x / (4 * den * Nat.pow 10 k.toNat) else x * Nat.pow 10 (-k).toNat / (4 * den)

/-- Whether `a · 10^k` lies in the rounding interval. -/
def Scaled.admits (s : Scaled) (inclusive : Bool) (a : Nat) (k : Int) : Bool :=
  let lo := compareGrid a k s.low s.den
  let hi := compareGrid a k s.high s.den
  if inclusive then lo != .lt && hi != .gt else lo == .gt && hi == .lt

/-- Twice the distance from `a · 10^k` to the value, scaled by `4 · den · 10^(-k)` when `k < 0`
(only compared between candidates of one grid). -/
def Scaled.gap (s : Scaled) (a : Nat) (k : Int) : Nat :=
  let (c, v) := if k ≥ 0 then (a * Nat.pow 10 k.toNat * 4 * s.den, s.value)
    else (a * 4 * s.den, s.value * Nat.pow 10 (-k).toNat)
  if c ≥ v then c - v else v - c

/-- The digits of `d` without trailing zeros, and the exponent of the last digit kept. -/
def trimZeros (d : Nat) (k : Int) : List Char × Int :=
  let ds := Nat.toDigits 10 d
  let kept := (ds.reverse.dropWhile (· = '0')).reverse
  (kept, k + (ds.length - kept.length))

/-- The candidate of `n` significant digits, if one lies in the interval. -/
def Scaled.candidate (s : Scaled) (inclusive : Bool) (n : Nat) : Option (Nat × Int) :=
  let k := floorLog10 s.value (4 * s.den) - (n - 1 : Nat)
  let d := gridFloor s.value s.den k
  match s.admits inclusive d k, s.admits inclusive (d + 1) k with
  | true, true =>
    let gd := s.gap d k
    let gu := s.gap (d + 1) k
    if gd < gu ∨ (gd = gu ∧ d % 2 = 0) then some (d, k) else some (d + 1, k)
  | true, false => some (d, k)
  | false, true => some (d + 1, k)
  | false, false => none

/-- Tries `n`, `n + 1`, … significant digits, `fuel` times. -/
def Scaled.search (s : Scaled) (inclusive : Bool) : Nat → Nat → Option (Nat × Int)
  | 0, _ => none
  | fuel + 1, n =>
    match s.candidate inclusive n with
    | some c => some c
    | none => s.search inclusive fuel (n + 1)

/-- **The shortest digits** of the positive finite value `m · 2^e` of format `f`: digits
without trailing zeros, and the exponent of the last one.  Seventeen digits always suffice for
the formats here; the full value is the fallback. -/
def shortest (f : BinaryFormat) (m : Nat) (e : Int) : List Char × Int :=
  let s := Scaled.ofBinary f m e
  match s.search (m % 2 = 0) (f.precision + 2) 1 with
  | some (d, k) => trimZeros d k
  | none =>
    if e ≥ 0 then trimZeros (m * Nat.pow 2 e.toNat) 0
    else trimZeros (m * Nat.pow 5 (-e).toNat) e

end RecordLayout.Decimal
