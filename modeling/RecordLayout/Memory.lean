import RecordLayout.Failure

/-!
# Linear memory

A linear memory is a run of bytes made of 64 KiB pages, at most 65536 of them (4 GiB), with a
bump allocator.  Multi-byte numbers are stored little-endian: the lowest byte first.

* `leBytes` and `ofLE` are the little-endian model of a number of a given width as a list of
  bytes; `Memory.readLE` and `Memory.writeLE` read and write through it.
* Every read or write of `len` bytes at `offset` needs `offset + len` to be at most the size;
  otherwise it fails with the offset and length, and the memory is unchanged.
* `Memory.alloc` hands out the next free address rounded up to a power-of-two alignment (the
  first eight bytes are never handed out), zeroes the block, and grows the memory by whole
  pages when the block does not fit; `Memory.free` takes a block back only when it is the last
  one handed out.
-/

namespace RecordLayout

/-- **Little-endian bytes** of the low `width` bytes of `v`. -/
def leBytes : Nat → Nat → List UInt8
  | 0, _ => []
  | w + 1, v => (v % 256).toUInt8 :: leBytes w (v / 256)

/-- The number whose little-endian bytes these are. -/
def ofLE : List UInt8 → Nat
  | [] => 0
  | b :: rest => b.toNat + 256 * ofLE rest

/-- A linear memory: its bytes and the next free address of its allocator. -/
structure Memory where
  bytes : ByteArray
  /-- The next free address, a 32-bit value. -/
  next : Nat
  deriving Inhabited

namespace Memory

/-- Bytes in a page. -/
def pageSize : Nat := 65536

/-- The most pages a memory can have. -/
def maxPages : Nat := 65536

/-- Addresses below this are never handed out. -/
def reserved : Nat := 8

/-- A zeroed memory of `pages` pages, between 1 and `maxPages`. -/
def create (pages : Nat) : Except Failure Memory :=
  if pages = 0 ∨ pages > maxPages then
    .error (Failure.invalidData .memory [] ("invalid page count " ++ toString pages))
  else .ok ⟨ByteArray.mk (Array.replicate (pages * pageSize) 0), reserved⟩

/-- The size in bytes. -/
def size (m : Memory) : Nat := m.bytes.size

/-- Whether `len` bytes at `offset` lie inside the memory. -/
def fits (m : Memory) (offset len : Nat) : Bool := offset + len ≤ m.size

/-- **Reads** `len` bytes at `offset`. -/
def read (m : Memory) (offset len : Nat) : Except Failure (List UInt8) :=
  if m.fits offset len then .ok (m.bytes.extract offset (offset + len)).toList
  else .error (Failure.outOfBounds .memory [] offset len)

/-- Stores bytes from `offset` on, without a bounds check. -/
def store (bytes : ByteArray) (offset : Nat) : List UInt8 → ByteArray
  | [] => bytes
  | b :: rest => store (bytes.set! offset b) (offset + 1) rest

/-- **Writes** bytes at `offset`. -/
def write (m : Memory) (offset : Nat) (data : List UInt8) : Except Failure Memory :=
  if m.fits offset data.length then .ok { m with bytes := store m.bytes offset data }
  else .error (Failure.outOfBounds .memory [] offset data.length)

/-- Reads a little-endian number of `width` bytes. -/
def readLE (m : Memory) (offset width : Nat) : Except Failure Nat :=
  (m.read offset width).map ofLE

/-- Writes the low `width` bytes of `v`, little-endian. -/
def writeLE (m : Memory) (offset width v : Nat) : Except Failure Memory :=
  m.write offset (leBytes width v)

/-- Addresses from 2^32 on do not exist. -/
def addressLimit : Nat := Nat.pow 2 32

/-- **Allocates** `size` bytes aligned to `align` (0 counts as 1); answers the address. -/
def alloc (m : Memory) (size align : Nat) : Except Failure (Nat × Memory) :=
  let align := if align = 0 then 1 else align
  if align &&& (align - 1) ≠ 0 then
    .error { phase := .memory, kind := .allocation,
             detail := "alignment " ++ toString align ++ " is not a power of two" }
  else
    let start := (m.next + align - 1) / align * align
    let stop := start + size
    if stop > addressLimit then .error (Failure.allocationFailed .memory size align)
    else
      let grown :=
        if stop > m.size then
          let pages := (stop - m.size + pageSize - 1) / pageSize
          m.bytes ++ ByteArray.mk (Array.replicate (pages * pageSize) 0)
        else m.bytes
      let bytes := if size > 0 then store grown start (List.replicate size 0) else grown
      -- the address and the next free address are 32-bit values: a block that ends at
      -- exactly 2^32 leaves the next free address at 0
      .ok (start % addressLimit, { bytes, next := stop % addressLimit })

/-- **Frees** a block: only the block handed out last, at a non-zero address, is taken back. -/
def free (m : Memory) (ptr size : Nat) : Memory :=
  if ptr ≠ 0 ∧ (ptr + size) % addressLimit = m.next then { m with next := ptr } else m

end Memory

end RecordLayout
