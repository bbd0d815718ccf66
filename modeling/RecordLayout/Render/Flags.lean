import RecordLayout.View
import RecordLayout.Text.Quote

/-!
# Flag sets

* `mask` names the set bits of a 64-bit mask, lowest first, joined by ` | `: bit `i` takes the
  `i`-th name when there is a non-empty one, and its value in hexadecimal (`0x40`) otherwise.
  It walks the positions upwards, clearing each set bit it names, and stops as soon as no set
  bit is left.
* `flags` names the one-bit fields of a record view that hold 1, in field order.
-/

namespace RecordLayout

/-- The name of bit `i` of a mask. -/
def bitName (names : List String) (i : Nat) : String :=
  match names[i]? with
  | some n => if n = "" then "0x" ++ Text.hex (Nat.pow 2 i) else n
  | none => "0x" ++ Text.hex (Nat.pow 2 i)

/-- The walk of `mask` over the bit positions `i, i + 1, …`, `k` of them left: it stops once
the mask is cleared, and clears each set bit it names. -/
def maskLoop (names : List String) : (k i : Nat) → UInt64 → List String
  | 0, _, _ => []
  | k + 1, i, m =>
    if m = 0 then []
    else
      let bit : UInt64 := 1 <<< i.toUInt64
      if m &&& bit = 0 then maskLoop names k (i + 1) m
      else bitName names i :: maskLoop names k (i + 1) (m &&& ~~~bit)

/-- **The names of the set bits** of a 64-bit mask, lowest first. -/
def mask (bits : Nat) (names : List String) : String :=
  " | ".intercalate (maskLoop names 64 0 bits.toUInt64)

/-- **The one-bit fields that hold 1**, by their shown names, in field order. -/
def flags (c : Catalog) (h : Heap) (v : View) : Except Failure String := do
  let rec ← v.recordOf c
  let set ← rec.layout.fields.filterMapM fun f =>
    if f.width = 1 then do
      let x ← View.getUnsigned c h v f.name
      pure (if x = 1 then some f.external else none)
    else pure none
  pure (" | ".intercalate set)

end RecordLayout
