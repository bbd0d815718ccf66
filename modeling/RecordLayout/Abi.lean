import RecordLayout.Failure
import RecordLayout.Storage

/-!
# Target ABIs

A target ABI fixes the size and alignment of a pointer slot.  Two are predefined:
`native64` (8 bytes, aligned to 8) and `wasm32` (4 bytes, aligned to 4).  An ABI is *valid*
when its pointers have 4 or 8 bytes and its pointer alignment is a power of two no larger than
the pointer size; records may share fields (as bases) only between ABIs with equal pointer
size and alignment.
-/

namespace RecordLayout

/-- A target ABI: a name, and the size and alignment of pointers in bytes (32-bit values). -/
structure Abi where
  name : String
  pointerSize : Nat
  pointerAlign : Nat
  deriving DecidableEq, Repr, Inhabited

namespace Abi

/-- Eight-byte pointers aligned to eight. -/
def native64 : Abi := ⟨"native64", 8, 8⟩

/-- Four-byte pointers aligned to four. -/
def wasm32 : Abi := ⟨"wasm32", 4, 4⟩

/-- Whether a number is a power of two. -/
def isPowerOfTwo (n : Nat) : Bool :=
  n ≠ 0 && n &&& (n - 1) == 0

/-- **Validity**: pointers of 4 or 8 bytes, aligned to a power of two no larger than that. -/
def validate (a : Abi) : Except Failure Unit :=
  if a.pointerSize ≠ 4 ∧ a.pointerSize ≠ 8 then
    .error { phase := .declare, kind := .invalidDeclaration,
             detail := "unsupported pointer size " ++ toString a.pointerSize }
  else if !isPowerOfTwo a.pointerAlign || a.pointerAlign > a.pointerSize then
    .error { phase := .declare, kind := .invalidDeclaration,
             detail := "invalid pointer alignment " ++ toString a.pointerAlign }
  else .ok ()

/-- Two ABIs can share fields when their pointers agree in size and alignment. -/
def compatible (a b : Abi) : Bool :=
  a.pointerSize == b.pointerSize && a.pointerAlign == b.pointerAlign

/-- The storage type of a pointer slot under this ABI. -/
def slot (a : Abi) : Storage := .slot a.pointerSize a.pointerAlign

end Abi

end RecordLayout
