import RecordLayout.View
import RecordLayout.Text.Quote
import RecordLayout.Decimal.Text

/-!
# Dumps of record values

A dump writes a record view as `Name{field: value, …}` with each field under its shown name:

* a record held by value as its own dump,
* a pointer as `nil` for address zero and `0x…` (hexadecimal) otherwise,
* a float with its shortest digits in its own precision (`Decimal.Style.standard`),
* a full-width `bool` as `true` or `false`,
* a `char` as a quoted character with everything outside printable ASCII escaped (`'\x00'`,
  `'é'`),
* a signed integer in decimal with its sign, and every other integer as an unsigned decimal.

Each field is read on its own, so a view without a memory fails at its first field read (a
record without fields still dumps as `Name{}`).  Records held by value were declared before the
record holding them, so the nesting is finite;
`dumpWith` counts it down with the number of records in the catalog.
-/

namespace RecordLayout

/-- The text of one field's value; `nested` dumps a record held by value. -/
def fieldText (c : Catalog) (h : Heap) (v : View) (f : FieldInfo)
    (nested : View → Except Failure String) : Except Failure String :=
  match f.storage.kind with
  | .record => (View.field c h v f.name).bind nested
  | .pointer => (View.getUnsigned c h v f.name).map fun x =>
      if x = 0 then "nil" else "0x" ++ Text.hex x
  | .float32 => (View.getFloat c h v f.name).map fun x =>
      Decimal.Style.standard.render .binary32 (BinaryFormat.convert .binary64 .binary32 x)
  | .float64 => (View.getFloat c h v f.name).map (Decimal.Style.standard.render .binary64)
  | .bool =>
    if f.isBitfield then (View.getUnsigned c h v f.name).map toString
    else (View.getBool c h v f.name).map fun b => if b then "true" else "false"
  | .char => (View.getUnsigned c h v f.name).map fun x => Text.quoteRuneAscii (Char.ofNat x)
  | k =>
    if k.isSigned then (View.getSigned c h v f.name).map toString
    else (View.getUnsigned c h v f.name).map toString

/-- Dumps a view, with `fuel` levels of nesting left. -/
def dumpWith (c : Catalog) (h : Heap) : Nat → View → Except Failure String
  | 0, _ => .error (Failure.nilPointer .format [] "record")
  | fuel + 1, v => do
    let rec ← v.recordOf c
    let parts ← rec.layout.fields.mapM fun f =>
      (fieldText c h v f (dumpWith c h fuel)).map fun t => f.external ++ ": " ++ t
    pure (rec.name ++ "\x7b" ++ ", ".intercalate parts ++ "\x7d")

/-- **The dump of a record view.** -/
def dump (c : Catalog) (h : Heap) (v : View) : Except Failure String :=
  dumpWith c h (c.records.size + 1) v

end RecordLayout
