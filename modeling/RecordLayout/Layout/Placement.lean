import RecordLayout.Failure

/-!
# Placing fields

Fields are placed one after another, in bits.  A full-width field, and the first bitfield of a
run, starts at the next multiple of its alignment (in bits); a bitfield that follows a bitfield
is packed directly after it.  The record's alignment is the largest field alignment (at least
1), and its size is the bytes used, rounded up to that alignment.

Bit offsets are unsigned 64-bit words.  Adding a field's bits to its offset is checked and fails
when the sum no longer fits; rounding up to an alignment, and to a whole byte at the end, is not
checked and wraps around past 2^64 - 1 as word arithmetic does.

* `alignUp` rounds up to a multiple; `alignWord` does the same in word arithmetic; `Slot.start`
  is where one slot goes after a given number of bits; `placeFrom` folds `Slot.start` over the
  slots.
* `place` is the whole compilation.  It fails when a field's end no longer fits in 64 bits, or
  when the size no longer fits in 32 bits.
* `startOf?` walks the same steps to answer where a slot with a given name starts.
-/

namespace RecordLayout

/-- **Round up** `x` to a multiple of `a`; alignments 0 and 1 leave `x` as it is. -/
def alignUp (x a : Nat) : Nat :=
  if a ≤ 1 then x else (x + a - 1) / a * a

/-- Bit offsets from 2^64 on cannot be represented. -/
def bitLimit : Nat := Nat.pow 2 64

/-- Rounding up of a 64-bit offset: a multiple at or past 2^64 wraps around. -/
def alignWord (x a : Nat) : Nat := alignUp x a % bitLimit

/-- The alignment of a slot in bits; an alignment of 0 counts as one byte. -/
def bitAlign (align : Nat) : Nat :=
  if align = 0 then 8 else align * 8

/-- The bytes that hold a number of bits: the bits rounded up to a whole byte in word
arithmetic, then counted in bytes. -/
def bytesFor (bits : Nat) : Nat := alignWord bits 8 / 8

/-- What placement needs to know of a field: its name, size and alignment in bytes, and its
bit width (0 for a full-width field). -/
structure Slot where
  name : String
  size : Nat
  align : Nat
  width : Nat
  deriving DecidableEq, Repr, Inhabited

namespace Slot

/-- Whether the slot is a bitfield. -/
def isBitfield (s : Slot) : Bool := s.width > 0

/-- The bits a slot takes: its width, or its whole size. -/
def bits (s : Slot) : Nat := if s.width > 0 then s.width else s.size * 8

/-- **Where a slot starts** when `bits` bits are used and the previous slot was a bitfield or
not: a bitfield after a bitfield packs, everything else is aligned. -/
def start (s : Slot) (prevBitfield : Bool) (bits : Nat) : Nat :=
  if s.isBitfield && prevBitfield then bits else alignWord bits (bitAlign s.align)

end Slot

/-- The result of placing fields: the bit offset of each, the size and the alignment in bytes. -/
structure Placement where
  offsets : List Nat
  size : Nat
  align : Nat
  deriving DecidableEq, Repr, Inhabited

/-- Places `slots` after `bits` used bits; returns the offsets, the bits used at the end and the
largest alignment seen (starting from `maxAlign`). -/
def placeFrom (bits : Nat) (prevBitfield : Bool) (maxAlign : Nat) :
    List Slot → Except Failure (List Nat × Nat × Nat)
  | [] => .ok ([], bits, maxAlign)
  | s :: rest =>
    let off := s.start prevBitfield bits
    if off + s.bits ≥ bitLimit then
      .error (Failure.overflow .compile [s.name] (toString off) "bit offset")
    else
      match placeFrom (off + s.bits) s.isBitfield (max maxAlign s.align) rest with
      | .ok (offs, used, a) => .ok (off :: offs, used, a)
      | .error e => .error e

/-- **Compile a layout**: offsets, size and alignment of the slots, in order. -/
def place (slots : List Slot) : Except Failure Placement :=
  match placeFrom 0 false 1 slots with
  | .error e => .error e
  | .ok (offs, used, a) =>
    let size := alignUp (bytesFor used) a
    if size > 0xFFFFFFFF then .error (Failure.overflow .compile [] (toString size) "record size")
    else .ok ⟨offs, size, a⟩

/-- Walks the placement steps and answers the start of the first slot that `hit` accepts; the
running sum of bits is a word, unchecked. -/
def startOf? (hit : Slot → Bool) : Nat → Bool → List Slot → Option Nat
  | _, _, [] => none
  | bits, prev, s :: rest =>
    let off := s.start prev bits
    if hit s then some off else startOf? hit ((off + s.bits) % bitLimit) s.isBitfield rest

end RecordLayout
