import RecordLayout.Catalog.Basic

/-!
# Reports on records

A report gathers what can be said of a declared record: name, size, alignment, ABI and bases;
for each field its physical and shown names, storage type and kind, size, alignment, bit width,
bits taken, compiled offset and the offset found by name; for each pointer field its names,
offset, kind of aim, target name and target (or the failure of an open forward reference);
and the layout's text.
-/

namespace RecordLayout

/-- What a report says of one field. -/
structure FieldReport where
  name : String
  external : String
  typeName : String
  kind : String
  size : Nat
  align : Nat
  width : Nat
  bits : Nat
  offset : Nat
  /-- The bit offset found by the field's physical name. -/
  offsetOf : Except Failure Nat

/-- What a report says of one pointer field. -/
structure PointerReport where
  name : String
  slot : String
  offset : Nat
  kind : String
  targetName : String
  target : Except Failure String

/-- What a report says of a record. -/
structure RecordReport where
  name : String
  size : Nat
  align : Nat
  abi : Abi
  bases : List String
  fields : List FieldReport
  pointers : List PointerReport
  text : String

namespace Catalog

/-- **The bit offset of a field found by name** in a layout; a missing layout and an unknown
name fail. -/
def offsetOf (l : Option Layout) (name : String) : Except Failure Nat :=
  match l with
  | none => .error (Failure.nilPointer .query [name] "layout")
  | some l =>
    match l.offsetOf? name with
    | some n => .ok n
    | none => .error (Failure.fieldNotFound .query l.name name)

/-- The byte offset of a field found by name; a bitfield off a byte boundary fails. -/
def byteOffsetOf (l : Option Layout) (name : String) : Except Failure Nat :=
  (offsetOf l name).bind fun bits =>
    if bits % 8 ≠ 0 then
      .error { phase := .query, kind := .invalidData, path := [name],
               detail := "bitfield starts at bit " ++ toString bits ++ ", not on a byte boundary" }
    else .ok (bits / 8)

/-- The report on a pointer field. -/
def pointerReport (c : Catalog) (pf : PointerField) : PointerReport :=
  match c.binding? pf.binding with
  | some bd =>
    { name := pf.name, slot := pf.slot, offset := pf.offset, kind := bd.aim.kindName,
      targetName := c.targetName bd, target := (c.target bd).map c.recordName }
  | none =>
    { name := pf.name, slot := pf.slot, offset := pf.offset, kind := "unknown",
      targetName := "?", target := .error (Failure.nilPointer .access [pf.name] "binding") }

/-- **The report on a record.** -/
def report (c : Catalog) (rec : Record) : RecordReport :=
  { name := rec.name, size := rec.size, align := rec.align, abi := rec.abi,
    bases := rec.bases.map c.recordName,
    fields := rec.layout.fields.map fun f =>
      { name := f.name, external := f.external, typeName := f.storage.name,
        kind := f.storage.kind.name, size := f.storage.size, align := f.storage.align,
        width := f.width, bits := f.bits, offset := f.offset,
        offsetOf := offsetOf (some rec.layout) f.name },
    pointers := rec.pointers.map c.pointerReport,
    text := rec.layout.render }

end Catalog

end RecordLayout
