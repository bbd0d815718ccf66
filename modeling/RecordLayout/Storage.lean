/-!
# Storage types

A field stores one of twelve fixed-width **scalars**, a nested **record** by value, or a
**pointer slot** whose width is the target ABI's pointer size.  Each storage type has a name,
a kind, a size and an alignment in bytes; a scalar is aligned to its size.

* `StorageKind` lists the fourteen kinds in a fixed order: the eight integers, `bool` and
  `char` (all ten are *integer* kinds, read and written as unsigned bit patterns), the two
  floats, then `record` and `pointer`.
* `Scalar.named?` is the table of the twenty-five names a scalar can be written with
  (`int32_t`, `int32`, `double`, `byte`, …); `Scalar.aliases` lists them sorted.
-/

namespace RecordLayout

/-- The kind of a storage type. -/
inductive StorageKind where
  | int8 | uint8 | int16 | uint16 | int32 | uint32 | int64 | uint64 | bool | char
  | float32 | float64 | record | pointer
  deriving DecidableEq, Repr, Inhabited

namespace StorageKind

/-- The name of a kind. -/
def name : StorageKind → String
  | int8 => "int8"
  | uint8 => "uint8"
  | int16 => "int16"
  | uint16 => "uint16"
  | int32 => "int32"
  | uint32 => "uint32"
  | int64 => "int64"
  | uint64 => "uint64"
  | bool => "bool"
  | char => "char"
  | float32 => "float32"
  | float64 => "float64"
  | record => "record"
  | pointer => "pointer"

/-- The integer kinds: the eight integers, `bool` and `char`. -/
def isInteger : StorageKind → Bool
  | int8 | uint8 | int16 | uint16 | int32 | uint32 | int64 | uint64 | bool | char => true
  | _ => false

/-- The signed integer kinds, read back with sign extension. -/
def isSigned : StorageKind → Bool
  | int8 | int16 | int32 | int64 => true
  | _ => false

/-- The two floating-point kinds. -/
def isFloat : StorageKind → Bool
  | float32 | float64 => true
  | _ => false

end StorageKind

/-- The twelve fixed-width scalar types. -/
inductive Scalar where
  | int8 | uint8 | int16 | uint16 | int32 | uint32 | int64 | uint64 | bool | char
  | float32 | float64
  deriving DecidableEq, Repr, Inhabited

namespace Scalar

/-- The canonical name of a scalar. -/
def name : Scalar → String
  | int8 => "int8_t"
  | uint8 => "uint8_t"
  | int16 => "int16_t"
  | uint16 => "uint16_t"
  | int32 => "int32_t"
  | uint32 => "uint32_t"
  | int64 => "int64_t"
  | uint64 => "uint64_t"
  | bool => "bool"
  | char => "char"
  | float32 => "float32_t"
  | float64 => "float64_t"

/-- The kind of a scalar. -/
def kind : Scalar → StorageKind
  | int8 => .int8
  | uint8 => .uint8
  | int16 => .int16
  | uint16 => .uint16
  | int32 => .int32
  | uint32 => .uint32
  | int64 => .int64
  | uint64 => .uint64
  | bool => .bool
  | char => .char
  | float32 => .float32
  | float64 => .float64

/-- The size of a scalar in bytes, which is also its alignment. -/
def size : Scalar → Nat
  | int8 | uint8 | bool | char => 1
  | int16 | uint16 => 2
  | int32 | uint32 | float32 => 4
  | int64 | uint64 | float64 => 8

/-- **The names a scalar can be written with**, each with its scalar. -/
def table : List (String × Scalar) :=
  [ ("int8_t", int8), ("uint8_t", uint8), ("int16_t", int16), ("uint16_t", uint16),
    ("int32_t", int32), ("uint32_t", uint32), ("int64_t", int64), ("uint64_t", uint64),
    ("float32_t", float32), ("float64_t", float64), ("float", float32), ("double", float64),
    ("bool", bool), ("char", char), ("int8", int8), ("uint8", uint8), ("byte", uint8),
    ("int16", int16), ("uint16", uint16), ("int32", int32), ("uint32", uint32),
    ("int64", int64), ("uint64", uint64), ("float32", float32), ("float64", float64) ]

/-- The scalar a name stands for, if any. -/
def named? (s : String) : Option Scalar :=
  (table.find? (·.1 == s)).map (·.2)

/-- All names of `table`, in ascending order of their characters. -/
def aliases : List String :=
  (table.map (·.1)).mergeSort fun a b => decide (a ≤ b)

end Scalar

/-- A record, identified by the order in which it was declared across all builders. -/
structure RecordId where
  index : Nat
  deriving DecidableEq, Repr, Inhabited, Hashable

/-- What a field stores. -/
inductive Storage where
  /-- A fixed-width scalar. -/
  | scalar (s : Scalar)
  /-- A record stored by value, with the name, size and alignment it was declared with. -/
  | record (id : RecordId) (name : String) (size align : Nat)
  /-- A pointer slot of the given size and alignment. -/
  | slot (size align : Nat)
  deriving DecidableEq, Repr, Inhabited

namespace Storage

/-- The type name: the scalar's name, the record's name, or `void*` for a pointer slot. -/
def name : Storage → String
  | scalar s => s.name
  | record _ n _ _ => n
  | slot _ _ => "void*"

/-- The kind of a storage type. -/
def kind : Storage → StorageKind
  | scalar s => s.kind
  | record .. => .record
  | slot .. => .pointer

/-- The size in bytes. -/
def size : Storage → Nat
  | scalar s => s.size
  | record _ _ n _ => n
  | slot n _ => n

/-- The alignment in bytes. -/
def align : Storage → Nat
  | scalar s => s.size
  | record _ _ _ a => a
  | slot _ a => a

/-- The width in bits. -/
def bits (t : Storage) : Nat := t.size * 8

/-- The record a storage type holds by value. -/
def record? : Storage → Option RecordId
  | record id .. => some id
  | _ => none

end Storage

end RecordLayout
