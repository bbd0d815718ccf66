/-!
# Integer numerals

An integer numeral is decimal digits, or digits after a base prefix: `0x` (hexadecimal), `0o`
(octal), `0b` (binary), or a lone leading `0` (octal).  Underscores may separate digits, and
may follow a prefix.  A signed numeral may start with `+` or `-`.  `readUnsigned?` and
`readSigned?` answer the value when it fits the given number of bits.
-/

namespace RecordLayout.Text

/-- ASCII lower case of a letter. -/
def lowerLetter (c : Char) : Char :=
  if 'A' ≤ c ∧ c ≤ 'Z' then Char.ofNat (c.toNat + 32) else c

/-- The value of a digit in bases up to 16. -/
def digitValue (c : Char) : Option Nat :=
  let c := lowerLetter c
  if '0' ≤ c ∧ c ≤ '9' then some (c.toNat - '0'.toNat)
  else if 'a' ≤ c ∧ c ≤ 'f' then some (c.toNat - 'a'.toNat + 10)
  else none

/-- The digits after the prefix, read in `base`; underscores are skipped. -/
def readDigits (base acc : Nat) : List Char → Option Nat
  | [] => some acc
  | '_' :: rest => readDigits base acc rest
  | c :: rest =>
    match digitValue c with
    | some d => if d < base then readDigits base (acc * base + d) rest else none
    | none => none

/-- Whether each underscore stands between digits or after a base prefix (`prefixed`: the body
follows a prefix or a leading `0`). -/
def underscoresPlaced (prefixed : Bool) (body : List Char) : Bool :=
  let step := fun (saw : Option Char) (c : Char) =>
    match saw with
    | none => none
    | some s =>
      if c = '_' then (if s = '0' then some '_' else none)
      else if s = '_' ∧ (digitValue c).isNone then none
      else if (digitValue c).isSome then some '0'
      else some '!'
  match body.foldl step (some (if prefixed then '0' else '^')) with
  | some s => s ≠ '_'
  | none => false

/-- **An unsigned numeral**: its value, if it is well formed. -/
def readNatural? (cs : List Char) : Option Nat :=
  let (base, body, prefixed) := match cs with
    | '0' :: b :: r@(_ :: _) =>
      if lowerLetter b = 'x' then (16, r, true)
      else if lowerLetter b = 'o' then (8, r, true)
      else if lowerLetter b = 'b' then (2, r, true)
      else (8, b :: r, true)
    | '0' :: r => (8, r, true)
    | _ => (10, cs, false)
  if cs.isEmpty then none
  else if cs.contains '_' && !underscoresPlaced prefixed body then none
  else readDigits base 0 body

/-- An unsigned numeral that fits in `bits` bits. -/
def readUnsigned? (s : String) (bits : Nat) : Option Nat :=
  (readNatural? s.toList).bind fun v => if v < Nat.pow 2 bits then some v else none

/-- A signed numeral that fits in `bits` bits (two's complement). -/
def readSigned? (s : String) (bits : Nat) : Option Int :=
  let (neg, rest) := match s.toList with
    | '+' :: r => (false, r)
    | '-' :: r => (true, r)
    | r => (false, r)
  (readNatural? rest).bind fun v =>
    if neg then (if v ≤ Nat.pow 2 (bits - 1) then some (-(v : Int)) else none)
    else if v < Nat.pow 2 (bits - 1) then some (v : Int) else none

end RecordLayout.Text
