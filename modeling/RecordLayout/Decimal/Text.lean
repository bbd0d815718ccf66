import RecordLayout.Decimal.Shortest

/-!
# Text of floating-point values

A value is written with its shortest digits (`Decimal.shortest`).  `Style` holds the decisions
of the text: which decimal exponents are written positionally, the exponent's mark, sign and
least number of digits, and the words for NaN and the infinities.  `Style.standard` is the
style of every float this library writes: positional for exponents from -4 up to 5,
scientific otherwise (`1e+06`, `1.5e-07`), a sign on every exponent and at least two exponent
digits; a negative zero keeps its sign (`-0`).
-/

namespace RecordLayout.Decimal

/-- The decisions of a float's text. -/
structure Style where
  /-- The least decimal exponent written positionally. -/
  lowest : Int
  /-- The first decimal exponent written in scientific form again. -/
  highest : Int
  /-- The least number of digits of a scientific exponent. -/
  expDigits : Nat
  nan : String
  posInf : String
  negInf : String
  deriving Repr

/-- **Positional from 10^-4 up to below 10^6**; `e+dd` exponents otherwise. -/
def Style.standard : Style := ⟨-4, 6, 2, "NaN", "+Inf", "-Inf"⟩

/-- Digits `ds` with the value `0.ds · 10^dp`, written positionally. -/
def positional (ds : List Char) (dp : Int) : String :=
  if dp ≤ 0 then "0." ++ String.ofList (List.replicate (-dp).toNat '0' ++ ds)
  else if dp.toNat < ds.length then
    String.ofList (ds.take dp.toNat) ++ "." ++ String.ofList (ds.drop dp.toNat)
  else String.ofList (ds ++ List.replicate (dp.toNat - ds.length) '0')

/-- Digits `ds` with the value `d.ddd · 10^exp`, written in scientific form. -/
def scientific (st : Style) (ds : List Char) (exp : Int) : String :=
  let lead := String.ofList (ds.take 1)
  let frac := if ds.length > 1 then "." ++ String.ofList (ds.drop 1) else ""
  let mag := Nat.toDigits 10 exp.natAbs
  let mag := List.replicate (st.expDigits - mag.length) '0' ++ mag
  lead ++ frac ++ "e" ++ (if exp < 0 then "-" else "+") ++ String.ofList mag

/-- **The text of a pattern of format `f`** in style `st`. -/
def Style.render (st : Style) (f : BinaryFormat) (bits : Nat) : String :=
  match f.decode bits with
  | .nan => st.nan
  | .infinite neg => if neg then st.negInf else st.posInf
  | .finite neg m e =>
    let sign := if neg then "-" else ""
    if m = 0 then sign ++ "0"
    else
      let (ds, k) := shortest f m e
      let dp : Int := ds.length + k
      let exp := dp - 1
      if exp < st.lowest ∨ exp ≥ st.highest then sign ++ scientific st ds exp
      else sign ++ positional ds dp

end RecordLayout.Decimal
