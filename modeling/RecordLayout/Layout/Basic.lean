import RecordLayout.Storage
import RecordLayout.Layout.Placement

/-!
# Compiled layouts

A compiled layout lists the record's fields in order with their storage type, bit width and
bit offset, and gives the record's size and alignment in bytes.

A pointer field is stored under its *physical* name, the declared name with a leading `_`
(the slot); everywhere a field is looked up by name, the physical name and the name with one
leading `_` removed both find it.

* `Layout.render` writes `Name{size=S align=A f:type@off g:type:width@off}`.
* `Layout.find?` looks a field up by name; `Layout.offsetOf?` answers the bit at which the
  first field of that name starts, by walking the placement steps again.
-/

namespace RecordLayout

/-- A name with one leading `_` removed, if it has one. -/
def stripSlotPrefix (s : String) : String :=
  match s.toList with
  | '_' :: rest => String.ofList rest
  | _ => s

/-- One field of a compiled layout. -/
structure FieldInfo where
  /-- The physical name; pointer slots carry a leading `_`. -/
  name : String
  storage : Storage
  /-- The bit width of a bitfield, 0 for a full-width field. -/
  width : Nat
  /-- The offset in bits from the start of the record. -/
  offset : Nat
  deriving DecidableEq, Repr, Inhabited

namespace FieldInfo

/-- Whether the field is a bitfield. -/
def isBitfield (f : FieldInfo) : Bool := f.width > 0

/-- Whether the field is a pointer slot. -/
def isPointer (f : FieldInfo) : Bool := f.storage.kind == .pointer

/-- The bits the field takes. -/
def bits (f : FieldInfo) : Nat := if f.width > 0 then f.width else f.storage.bits

/-- The name a field is shown under: pointer slots lose their leading `_`. -/
def external (f : FieldInfo) : String :=
  if f.isPointer then stripSlotPrefix f.name else f.name

/-- Whether a name finds this field: its physical name or that name without a leading `_`. -/
def answersTo (f : FieldInfo) (n : String) : Bool :=
  f.name == n || stripSlotPrefix f.name == n

/-- What placement knows of the field. -/
def slot (f : FieldInfo) : Slot := ⟨f.name, f.storage.size, f.storage.align, f.width⟩

/-- The field in a layout's text: `name:type@offset` or `name:type:width@offset`. -/
def render (f : FieldInfo) : String :=
  if f.isBitfield then
    f.name ++ ":" ++ f.storage.name ++ ":" ++ toString f.width ++ "@" ++ toString f.offset
  else f.name ++ ":" ++ f.storage.name ++ "@" ++ toString f.offset

end FieldInfo

/-- A compiled layout. -/
structure Layout where
  name : String
  fields : List FieldInfo
  size : Nat
  align : Nat
  deriving DecidableEq, Repr, Inhabited

namespace Layout

/-- The text of a layout, e.g. `Point{size=8 align=4 x:int32_t@0 y:int32_t@32}`. -/
def render (l : Layout) : String :=
  l.name ++ "\x7bsize=" ++ toString l.size ++ " align=" ++ toString l.align ++
    String.join (l.fields.map fun f => " " ++ f.render) ++ "\x7d"

/-- The position and description of the field a name finds; of several, the last. -/
def find? (l : Layout) (n : String) : Option (Nat × FieldInfo) :=
  (l.fields.zipIdx.foldl (fun acc (f, i) => if f.answersTo n then some (i, f) else acc) none)

/-- **The bit at which a field starts**, found by placing the fields again up to the first one
that the name finds. -/
def offsetOf? (l : Layout) (n : String) : Option Nat :=
  startOf? (fun s => s.name == n || stripSlotPrefix s.name == n) 0 false (l.fields.map (·.slot))

end Layout

end RecordLayout
