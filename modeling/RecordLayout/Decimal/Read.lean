import RecordLayout.Binary

/-!
# Reading floating-point numerals

A numeral is an optional sign followed by

* decimal digits with at most one point and an optional exponent `e±ddd`, or
* `0x` and hexadecimal digits with at most one point and a required binary exponent `p±ddd`,
* or one of the words `inf`, `infinity` (with an optional sign) and `nan`, in any case.

Underscores may separate digits (and follow a `0x`), never stand first, last or doubled.  The
numeral denotes an exact rational, which `readBinary64` rounds to the nearest double, ties to
even.  A numeral too large for a double reads as an infinity and is reported out of range;
one too small reads as zero.  Exponents stop growing at five digits, as any larger one already
leaves the range.
-/

namespace RecordLayout.Decimal

/-- The outcome of reading a numeral as a double. -/
inductive Reading where
  /-- The pattern of the nearest double. -/
  | value (bits : Nat)
  /-- Too large: the pattern of the infinity of its sign. -/
  | outOfRange (bits : Nat)
  | malformed
  deriving DecidableEq, Repr

/-- ASCII lower case. -/
def lowerAscii (c : Char) : Char :=
  if 'A' ≤ c ∧ c ≤ 'Z' then Char.ofNat (c.toNat + 32) else c

/-- The length of the common prefix of `cs` and `word`, ignoring ASCII case. -/
def commonPrefix : List Char → List Char → Nat
  | c :: cs, w :: ws => if lowerAscii c = w then commonPrefix cs ws + 1 else 0
  | _, _ => 0

/-- The words `inf`, `infinity` and `nan`: the pattern and the characters they take, if the
text starts with one of them. -/
def special? (f : BinaryFormat) (cs : List Char) : Option (Nat × Nat) :=
  let infinity (neg : Bool) (signLen : Nat) (rest : List Char) :=
    let n := commonPrefix rest "infinity".toList
    if n = 8 then some (f.infinity neg, signLen + 8)
    else if n ≥ 3 then some (f.infinity neg, signLen + 3)
    else none
  match cs with
  | '+' :: rest => infinity false 1 rest
  | '-' :: rest => infinity true 1 rest
  | c :: rest =>
    if lowerAscii c = 'i' then infinity false 0 cs
    else if lowerAscii c = 'n' ∧ commonPrefix rest "an".toList = 2 then
      some (f.topExp * Nat.pow 2 f.fracBits + 1 + f.quietBit, 3)
    else none
  | [] => none

/-- The value of a digit in base 16 (and so in base 10), if it is one. -/
def hexValue (c : Char) : Option Nat :=
  if '0' ≤ c ∧ c ≤ '9' then some (c.toNat - '0'.toNat)
  else if 'a' ≤ lowerAscii c ∧ lowerAscii c ≤ 'f' then some ((lowerAscii c).toNat - 'a'.toNat + 10)
  else none

/-- The parts of a numeral read so far. -/
structure Numeral where
  neg : Bool := false
  hex : Bool := false
  /-- The digits of the significand, point removed, as a number. -/
  digits : Nat := 0
  /-- Digits after the point. -/
  fracDigits : Nat := 0
  sawDigits : Bool := false
  sawPoint : Bool := false
  exp : Int := 0
  deriving Repr

/-- Reads significand digits and a point; answers the numeral and the rest of the text. -/
def readSignificand (n : Numeral) : List Char → Numeral × List Char
  | [] => (n, [])
  | c :: rest =>
    if c = '_' then readSignificand n rest
    else if c = '.' then
      if n.sawPoint then (n, c :: rest) else readSignificand { n with sawPoint := true } rest
    else
      let base := if n.hex then 16 else 10
      match hexValue c with
      | some d =>
        if d < base then
          let frac := if n.sawPoint then n.fracDigits + 1 else n.fracDigits
          readSignificand
            { n with digits := n.digits * base + d, sawDigits := true, fracDigits := frac } rest
        else (n, c :: rest)
      | none => (n, c :: rest)

/-- Reads exponent digits (underscores skipped), stopping growth at five digits. -/
def readExponent (e : Nat) : List Char → Nat × List Char
  | [] => (e, [])
  | c :: rest =>
    if c = '_' then readExponent e rest
    else if '0' ≤ c ∧ c ≤ '9' then
      readExponent (if e < 10000 then e * 10 + (c.toNat - '0'.toNat) else e) rest
    else (e, c :: rest)

/-- Whether the underscores of a numeral each stand between two digits (a `0x`, `0o` or `0b`
prefix counting as a digit). -/
def underscoresFit (cs : List Char) : Bool :=
  let cs := match cs with
    | '+' :: r | '-' :: r => r
    | r => r
  let (hex, body, start) := match cs with
    | '0' :: b :: r =>
      if lowerAscii b = 'x' then (true, r, '0')
      else if lowerAscii b = 'o' ∨ lowerAscii b = 'b' then (false, r, '0')
      else (false, cs, '^')
    | _ => (false, cs, '^')
  let step := fun (saw : Option Char) (c : Char) =>
    match saw with
    | none => none
    | some s =>
      if ('0' ≤ c ∧ c ≤ '9') ∨ (hex ∧ 'a' ≤ lowerAscii c ∧ lowerAscii c ≤ 'f') then some '0'
      else if c = '_' then (if s = '0' then some '_' else none)
      else if s = '_' then none
      else some '!'
  match body.foldl step (some start) with
  | some s => s ≠ '_'
  | none => false

/-- Reads a decimal or hexadecimal numeral; `none` when it is malformed. -/
def readNumeral (cs : List Char) : Option Numeral :=
  let (neg, rest) := match cs with
    | '+' :: r => (false, r)
    | '-' :: r => (true, r)
    | r => (false, r)
  let (hex, rest) := match rest with
    | '0' :: x :: r@(_ :: _) => if lowerAscii x = 'x' then (true, r) else (false, rest)
    | _ => (false, rest)
  let (n, rest) := readSignificand { neg, hex } rest
  if !n.sawDigits then none
  else
    let mark := if hex then 'p' else 'e'
    let withExp : Option (Numeral × List Char) := match rest with
      | c :: r =>
        if lowerAscii c = mark then
          let (esign, r) := match r with
            | '+' :: r' => (1, r')
            | '-' :: r' => (-1, r')
            | r' => (1, r')
          match r with
          | d :: _ =>
            if '0' ≤ d ∧ d ≤ '9' then
              let (e, r) := readExponent 0 r
              some ({ n with exp := esign * (e : Int) }, r)
            else none
          | [] => none
        else if hex then none else some (n, rest)
      | [] => if hex then none else some (n, [])
    match withExp with
    | some (n, []) => if cs.contains '_' && !underscoresFit cs then none else some n
    | _ => none

/-- **Reads a numeral as a double**, rounded to nearest even. -/
def readBinary64 (s : String) : Reading :=
  let f := BinaryFormat.binary64
  let cs := s.toList
  match special? f cs with
  | some (bits, used) => if used = cs.length then .value bits else .malformed
  | none =>
    match readNumeral cs with
    | none => .malformed
    | some n =>
      let signedZero := if n.neg then f.signBit else 0
      if n.digits = 0 then .value signedZero
      else
        let inf := f.infinity n.neg
        let bits :=
          if n.hex then
            let e : Int := n.exp - 4 * (n.fracDigits : Int)
            let b : Int := Nat.log2 n.digits + 1
            if b - 1 + e ≥ 1024 then inf
            else if b + e ≤ -1075 then signedZero
            else f.ofScaled n.neg n.digits e
          else
            let e : Int := n.exp - n.fracDigits
            let nd : Int := (Nat.toDigits 10 n.digits).length
            if nd - 1 + e > 309 then inf
            else if nd + e < -324 then signedZero
            else if e ≥ 0 then f.ofRatio n.neg (n.digits * Nat.pow 10 e.toNat) 1
            else f.ofRatio n.neg n.digits (Nat.pow 10 (-e).toNat)
        if bits % f.signBit = inf % f.signBit then .outOfRange bits else .value bits

end RecordLayout.Decimal
