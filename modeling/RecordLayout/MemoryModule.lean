/-!
# The module behind a linear memory

A linear memory is made by instantiating a WebAssembly module written for it alone: one memory
of the given number of pages and no maximum, exported under the name `memory`.  `memoryModule`
writes that module in the binary format: the magic number and version, a memory section and an
export section, each opened by its id and its length.  Numbers in it are unsigned LEB128
(`leb128`): seven bits a byte, lowest first, the top bit set on every byte but the last.
-/

namespace RecordLayout

/-- **Unsigned LEB128** of a 32-bit number: its low seven bits, with the top bit set when more
bytes follow, then the bytes of the number shifted down by seven. -/
def leb128 (v : UInt32) : List UInt8 :=
  let b := (v &&& 0x7f).toUInt8
  if v >>> 7 = 0 then [b] else (b ||| 0x80) :: leb128 (v >>> 7)
termination_by v.toNat
decreasing_by
  have hne : (v >>> 7).toNat ≠ 0 := fun h0 => ‹¬v >>> 7 = 0› (UInt32.toNat_inj.1 h0)
  rw [UInt32.toNat_shiftRight, Nat.shiftRight_eq_div_pow] at hne ⊢
  simp only [show (7 : UInt32).toNat % 32 = 7 from rfl] at hne ⊢
  omega

/-- **The module of one memory** of `pages` pages, without a maximum, exported as `memory`. -/
def memoryModule (pages : UInt32) : List UInt8 :=
  -- the limits: no maximum, then the minimum
  let limits : List UInt8 := 0x00 :: leb128 pages
  -- one memory
  let memSec : List UInt8 := 0x01 :: limits
  let name := "memory".toUTF8.toList
  -- one export: the name, the kind (a memory) and the index
  let expSec : List UInt8 := 0x01 :: leb128 name.length.toUInt32 ++ name ++ [0x02, 0x00]
  [0x00, 0x61, 0x73, 0x6d] ++ [0x01, 0x00, 0x00, 0x00] ++
    0x05 :: leb128 memSec.length.toUInt32 ++ memSec ++
    0x07 :: leb128 expSec.length.toUInt32 ++ expSec

end RecordLayout
