import RecordLayout.Catalog.Basic
import RecordLayout.Heap
import RecordLayout.Binary

/-!
# Views of records in memory

A view places a record at an address of a memory.  Fields are read and written through it by
name: a full-width field as a little-endian number of its size, a bitfield as its bits counted
from the lowest bit of its first byte.

* Integer fields (the ten integer kinds) read as unsigned bit patterns (`View.getUnsigned`)
  or, sign-extended for the signed kinds, as integers (`View.getSigned`).  Writes check that the
  value fits the field's bits (`View.setUnsigned`, `View.setSigned`).
* Float fields read and write double patterns; a `float32` field widens on reading and rounds
  to nearest even on writing.
* `View.field` views a record held by value; `View.pointer` and `View.setPointer` follow and set
  pointer fields through their bindings.

A view whose record or memory is missing answers every access with a `nil instance` failure.
A byte address from 2^32 on is out of bounds before the memory is asked.
-/

namespace RecordLayout

/-- A record placed at an address of a memory; either may be missing. -/
structure View where
  record : Option RecordId
  memory : Option MemoryId
  addr : Nat
  deriving DecidableEq, Repr, Inhabited

/-- The view with neither record nor memory. -/
def View.empty : View := ⟨none, none, 0⟩

/-- Whether two views (or two missing views) share their address and memory. -/
def View.sameAddress : Option View → Option View → Bool
  | none, none => true
  | some a, some b => a.addr == b.addr && a.memory == b.memory
  | _, _ => false

/-- A view whose record and memory are both present. -/
structure Live where
  id : RecordId
  record : Record
  memId : MemoryId
  memory : Memory
  addr : Nat

/-- Addresses from 2^32 on do not exist. -/
def addressSpace : Nat := Nat.pow 2 32

namespace Live

/-- The failure of a field read as a type it does not have. -/
def mismatch (l : Live) (f : FieldInfo) (expected : String) : Failure :=
  Failure.typeMismatch .access [l.record.name, f.name] f.storage.name expected

/-- The field a name finds. -/
def field (l : Live) (name : String) : Except Failure FieldInfo :=
  match l.record.layout.find? name with
  | some (_, f) => .ok f
  | none => .error (Failure.fieldNotFound .access l.record.name name)

/-- The byte address of a full-width field. -/
def byteAddr (l : Live) (f : FieldInfo) : Except Failure Nat :=
  let a := l.addr + f.offset / 8
  if a ≥ addressSpace then .error (Failure.outOfBounds .access [l.record.name, f.name] a f.storage.size)
  else .ok a

/-- The bytes a bitfield touches: first address, number of bytes, and the bit it starts at
within the first byte. -/
def span (l : Live) (f : FieldInfo) : Except Failure (Nat × Nat × Nat) :=
  let first := f.offset / 8
  let last := (f.offset + f.bits + 7) / 8
  let a := l.addr + first
  if a ≥ addressSpace then .error (Failure.outOfBounds .access [l.record.name, f.name] a (last - first))
  else .ok (a, last - first, f.offset % 8)

/-- Whether a size is one a full-width field can be read with. -/
def scalarSize (n : Nat) : Bool := n == 1 || n == 2 || n == 4 || n == 8

/-- **Reads the bits of a field** as an unsigned number. -/
def readRaw (l : Live) (f : FieldInfo) : Except Failure Nat :=
  if f.isBitfield then do
    let (a, n, shift) ← l.span f
    let bytes ← l.memory.read a n
    pure (ofLE bytes / Nat.pow 2 shift % Nat.pow 2 f.bits)
  else do
    let a ← l.byteAddr f
    if scalarSize f.storage.size then l.memory.readLE a f.storage.size
    else throw (l.mismatch f "scalar")

/-- `whole` with `bits` bits from bit `shift` on replaced by the low bits of `v`. -/
def replaceBits (whole shift bits v : Nat) : Nat :=
  whole / Nat.pow 2 (shift + bits) * Nat.pow 2 (shift + bits) + v % Nat.pow 2 bits * Nat.pow 2 shift +
    whole % Nat.pow 2 shift

/-- **Writes the bits of a field**: the low bits of `v` that the field holds. -/
def writeRaw (l : Live) (f : FieldInfo) (v : Nat) : Except Failure Memory :=
  if f.isBitfield then do
    let (a, n, shift) ← l.span f
    let cur ← l.memory.read a n
    l.memory.writeLE a n (replaceBits (ofLE cur) shift f.bits v)
  else do
    let a ← l.byteAddr f
    if scalarSize f.storage.size then l.memory.writeLE a f.storage.size v
    else throw (l.mismatch f "scalar")

end Live

namespace View

/-- The live form of a view, or the failure of a missing record or memory. -/
def live (c : Catalog) (h : Heap) (v : View) : Except Failure Live :=
  match v.record, v.memory with
  | some r, some m =>
    match c.record? r, h.get? m with
    | some rec, some mem => .ok ⟨r, rec, m, mem, v.addr⟩
    | _, _ => .error (Failure.nilPointer .access [] "instance")
  | _, _ => .error (Failure.nilPointer .access [] "instance")

/-- The record a view shows, whether or not it has a memory; the failure of a view with no
record. -/
def recordOf (c : Catalog) (v : View) : Except Failure Record :=
  match v.record.bind c.record? with
  | some rec => .ok rec
  | none => .error (Failure.nilPointer .access [] "instance")

/-- Stores a changed memory of a live view back into the heap. -/
def store (h : Heap) (l : Live) (m : Memory) : Heap := h.set l.memId m

/-- **The unsigned bits** of an integer or pointer field. -/
def getUnsigned (c : Catalog) (h : Heap) (v : View) (name : String) : Except Failure Nat := do
  let l ← v.live c h
  let f ← l.field name
  if !(f.storage.kind.isInteger || f.isPointer) then throw (l.mismatch f "integer")
  l.readRaw f

/-- **Writes an unsigned value** (below 2^64) to an integer field it fits. -/
def setUnsigned (c : Catalog) (h : Heap) (v : View) (name : String) (value : Nat) :
    Except Failure Heap := do
  let l ← v.live c h
  let f ← l.field name
  if !f.storage.kind.isInteger then throw (l.mismatch f "integer")
  if f.bits < 64 ∧ value ≥ Nat.pow 2 f.bits then
    throw (Failure.overflow .access [l.record.name, f.name] (toString value) f.storage.name)
  let m ← l.writeRaw f value
  pure (store h l m)

/-- The signed reading of `raw` as a two's complement number of `bits` bits. -/
def signExtend (bits raw : Nat) : Int :=
  if bits > 0 ∧ raw ≥ Nat.pow 2 (bits - 1) then (raw : Int) - Int.pow 2 bits else raw

/-- **The integer value** of an integer field: sign-extended for the signed kinds; an unsigned
value from 2^63 on does not fit. -/
def getSigned (c : Catalog) (h : Heap) (v : View) (name : String) : Except Failure Int := do
  let l ← v.live c h
  let f ← l.field name
  if !f.storage.kind.isInteger then throw (l.mismatch f "integer")
  let raw ← l.readRaw f
  if f.storage.kind.isSigned then pure (signExtend f.bits raw)
  else if raw ≥ Nat.pow 2 63 then
    throw (Failure.overflow .access [l.record.name, f.name] (toString raw) "int64")
  else pure raw

/-- **Writes an integer value** (a 64-bit signed value) to an integer field it fits. -/
def setSigned (c : Catalog) (h : Heap) (v : View) (name : String) (value : Int) :
    Except Failure Heap := do
  let l ← v.live c h
  let f ← l.field name
  if !f.storage.kind.isInteger then throw (l.mismatch f "integer")
  let w := f.bits
  let overflow := Failure.overflow .access [l.record.name, f.name] (toString value) f.storage.name
  if !f.storage.kind.isSigned then
    if value < 0 ∨ (w < 64 ∧ value ≥ Int.pow 2 w) then throw overflow
    let m ← l.writeRaw f value.toNat
    pure (store h l m)
  else
    if w < 64 ∧ (value < -Int.pow 2 (w - 1) ∨ value > Int.pow 2 (w - 1) - 1) then throw overflow
    let m ← l.writeRaw f (value % Int.pow 2 w).toNat
    pure (store h l m)

/-- Whether an integer or pointer field is non-zero. -/
def getBool (c : Catalog) (h : Heap) (v : View) (name : String) : Except Failure Bool :=
  (getUnsigned c h v name).map (· ≠ 0)

/-- Writes 1 or 0 to an integer field. -/
def setBool (c : Catalog) (h : Heap) (v : View) (name : String) (b : Bool) : Except Failure Heap :=
  setUnsigned c h v name (if b then 1 else 0)

/-- **The double pattern** of a float field; a `float32` field is widened exactly. -/
def getFloat (c : Catalog) (h : Heap) (v : View) (name : String) : Except Failure Nat := do
  let l ← v.live c h
  let f ← l.field name
  if !f.storage.kind.isFloat then throw (l.mismatch f "float")
  let raw ← l.readRaw f
  if f.storage.kind = .float32 then
    pure (BinaryFormat.convert .binary32 .binary64 raw)
  else pure raw

/-- **Writes a double pattern** to a float field; a `float32` field takes the nearest single. -/
def setFloat (c : Catalog) (h : Heap) (v : View) (name : String) (bits : Nat) :
    Except Failure Heap := do
  let l ← v.live c h
  let f ← l.field name
  match f.storage.kind with
  | .float32 =>
    let m ← l.writeRaw f (BinaryFormat.convert .binary64 .binary32 bits)
    pure (store h l m)
  | .float64 =>
    let m ← l.writeRaw f bits
    pure (store h l m)
  | _ => throw (l.mismatch f "float")

/-- **The view of a record held by value** in a field. -/
def field (c : Catalog) (h : Heap) (v : View) (name : String) : Except Failure View := do
  let l ← v.live c h
  let f ← l.field name
  if f.storage.kind ≠ .record then throw (l.mismatch f "record")
  let a ← l.byteAddr f
  pure ⟨f.storage.record?, v.memory, a⟩

/-- The bytes of the whole record. -/
def bytes (c : Catalog) (h : Heap) (v : View) : Except Failure (List UInt8) := do
  let l ← v.live c h
  l.memory.read l.addr l.record.size

/-- Sets every byte of the record to zero. -/
def clear (c : Catalog) (h : Heap) (v : View) : Except Failure Heap := do
  let l ← v.live c h
  let m ← l.memory.write l.addr (List.replicate l.record.size 0)
  pure (store h l m)

end View

namespace PointerField

/-- The live view a pointer field of record `owner` is used on, or why it cannot be. -/
def check (c : Catalog) (h : Heap) (owner : RecordId) (pf : PointerField) (v : Option View) :
    Except Failure Live :=
  let ownerName := c.recordName owner
  match v.map (View.live c h) with
  | some (.ok l) =>
    if l.id ≠ owner then .error (Failure.typeMismatch .access [pf.name] l.record.name ownerName)
    else .ok l
  | _ => .error (Failure.nilPointer .access [ownerName, pf.name] "instance")

/-- The binding of a pointer field and the record it points at. -/
def aimed (c : Catalog) (pf : PointerField) : Except Failure RecordId :=
  match c.binding? pf.binding with
  | some bd => c.target bd
  | none => .error (Failure.nilPointer .access [pf.name] "binding")

/-- The slot of a pointer field in its owner's layout. -/
def slotField (l : Live) (pf : PointerField) : FieldInfo :=
  l.record.layout.fields.getD pf.index default

/-- **Follows a pointer field**: no view for a zero address, else the target record at the
stored address in the same memory. -/
def get (c : Catalog) (h : Heap) (owner : RecordId) (pf : PointerField) (v : Option View) :
    Except Failure (Option View) := do
  let l ← check c h owner pf v
  let target ← aimed c pf
  let raw ← l.readRaw (slotField l pf)
  if raw = 0 then pure none
  else if raw ≥ addressSpace then
    throw { phase := .access, kind := .outOfBounds, record := l.record.name, path := [pf.name],
            cause := some (.inr "out of range"),
            detail := "address 0x" ++ Text.hex raw ++ " outside 32-bit memory" }
  else pure (some ⟨some target, some l.memId, raw⟩)

/-- **Sets a pointer field** to a view of its target record in the same memory, or to zero. -/
def set (c : Catalog) (h : Heap) (owner : RecordId) (pf : PointerField) (v : Option View)
    (value : Option View) : Except Failure Heap := do
  let l ← check c h owner pf v
  let target ← aimed c pf
  match value with
  | none =>
    let m ← l.writeRaw (slotField l pf) 0
    pure (View.store h l m)
  | some w =>
    match w.record, w.memory with
    | some r, some mid =>
      if r ≠ target then
        throw (Failure.typeMismatch .access [l.record.name, pf.name] (c.recordName r)
          (c.recordName target))
      else if mid ≠ l.memId then
        throw { phase := .access, kind := .typeMismatch, record := l.record.name, path := [pf.name],
                expected := "instance in the same memory",
                detail := c.recordName r ++ " at 0x" ++ Text.hex w.addr ++ " lives in another memory" }
      else
        let m ← l.writeRaw (slotField l pf) w.addr
        pure (View.store h l m)
    | _, _ => throw (Failure.nilPointer .access [l.record.name, pf.name] "pointee instance")

end PointerField

namespace View

/-- Follows the pointer field a name finds. -/
def pointer (c : Catalog) (h : Heap) (v : View) (name : String) : Except Failure (Option View) := do
  let l ← v.live c h
  let pf ← c.pointerField l.id name
  PointerField.get c h l.id pf (some v)

/-- Sets the pointer field a name finds. -/
def setPointer (c : Catalog) (h : Heap) (v : View) (name : String) (value : Option View) :
    Except Failure Heap := do
  let l ← v.live c h
  let pf ← c.pointerField l.id name
  PointerField.set c h l.id pf (some v) value

end View

end RecordLayout
