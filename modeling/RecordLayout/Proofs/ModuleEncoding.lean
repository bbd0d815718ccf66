import Mathlib
import RecordLayout.MemoryModule

/-!
# The memory module, read back

`memoryModule` writes a WebAssembly module by hand, LEB128 numbers and section lengths
included.  This module states the reading side of the binary format, as far as that module
needs it, and proves that it reads the module back.

* `Wasm.readLEB128` is the standard unsigned LEB128 decoder.  `Wasm.readSection` reads a section
  by its length prefix, `Wasm.readSections` and `Wasm.readModule` a whole module;
  `Wasm.readVec` with `Wasm.readLimits` or `Wasm.readExport` reads the contents of a memory or an
  export section.
* `leb128_of_lt` and `leb128_of_le` give one step of the encoder on the number's value, and
  `leb128_induction` the induction that follows it; every fact about the encoding is proved with
  the two (`leb128_bounds`, `leb128_continuation`, `readLEB128_leb128`).
* `length_leb128`: the encoding of `v` has `max 1 ⌈bits(v) / 7⌉` bytes.
* `readSection_sectionBytes`: a section written as its id, the LEB128 of its length and its
  contents (`sectionBytes`) is read back whatever follows it; `memoryModule_eq_sections` shows
  `memoryModule` as the header and two such sections.
* **`memoryModule_encoding`**: the LEB128 encoder is right for every 32-bit number, and the module
  of every page count reads back as one memory section and one export section, declaring one
  memory with that minimum and no maximum, exported as `memory`.
-/

namespace RecordLayout

namespace Wasm

/-- **The standard unsigned LEB128 decoder**: seven bits a byte, lowest first, up to and with the
first byte whose top bit is clear; it answers the number and the bytes after it. -/
def readLEB128 : List UInt8 → Option (Nat × List UInt8)
  | [] => none
  | b :: rest =>
    if b.toNat < 0x80 then some (b.toNat, rest)
    else (readLEB128 rest).map fun (v, r) => (b.toNat % 0x80 + 0x80 * v, r)

lemma readLEB128_length_lt {bs r : List UInt8} {v : Nat} (h : readLEB128 bs = some (v, r)) :
    r.length < bs.length := by
  induction bs generalizing v with
  | nil => simp [readLEB128] at h
  | cons b bs ih =>
    simp only [readLEB128] at h
    split at h
    · cases h
      simp
    · obtain ⟨⟨w, r'⟩, hw, he⟩ := Option.map_eq_some_iff.1 h
      simp only [Prod.mk.injEq] at he
      obtain ⟨-, rfl⟩ := he
      have := ih hw
      simp only [List.length_cons]
      omega

/-- **One section**: its id, its size in LEB128 and that many bytes of contents; it answers the
id, the contents and the bytes after them. -/
def readSection : List UInt8 → Option (UInt8 × List UInt8 × List UInt8)
  | [] => none
  | id :: rest => (readLEB128 rest).bind fun (n, body) =>
    if n ≤ body.length then some (id, body.take n, body.drop n) else none

lemma readSection_length_lt {bs c r : List UInt8} {id : UInt8}
    (h : readSection bs = some (id, c, r)) : r.length < bs.length := by
  cases bs with
  | nil => simp [readSection] at h
  | cons b rest =>
    obtain ⟨⟨n, body⟩, hn, hs⟩ := Option.bind_eq_some_iff.1 h
    have hlt := readLEB128_length_lt hn
    simp only at hs
    split at hs
    · cases hs
      simp only [List.length_drop, List.length_cons]
      omega
    · cases hs

/-- **The sections of a module's body**, in order, up to the last byte. -/
def readSections (bs : List UInt8) : Option (List (UInt8 × List UInt8)) :=
  if bs = [] then some []
  else
    match _h : readSection bs with
    | none => none
    | some (id, c, r) => (readSections r).map ((id, c) :: ·)
termination_by bs.length
decreasing_by exact readSection_length_lt _h

/-- The magic number (a zero byte and `asm`) and the version 1 that open every module. -/
def moduleHeader : List UInt8 := [0x00, 0x61, 0x73, 0x6d, 0x01, 0x00, 0x00, 0x00]

/-- **A module**: the header, then its sections with nothing left over. -/
def readModule (bs : List UInt8) : Option (List (UInt8 × List UInt8)) :=
  if bs.take 8 = moduleHeader then readSections (bs.drop 8) else none

/-- `n` items read one after the other. -/
def readItems {α : Type} (item : List UInt8 → Option (α × List UInt8)) :
    Nat → List UInt8 → Option (List α × List UInt8)
  | 0, bs => some ([], bs)
  | n + 1, bs => (item bs).bind fun (x, r) =>
    (readItems item n r).map fun (xs, r') => (x :: xs, r')

/-- **A vector**: its length in LEB128, then its items. -/
def readVec {α : Type} (item : List UInt8 → Option (α × List UInt8)) (bs : List UInt8) :
    Option (List α × List UInt8) :=
  (readLEB128 bs).bind fun (n, r) => readItems item n r

/-- One byte. -/
def readByte : List UInt8 → Option (UInt8 × List UInt8)
  | [] => none
  | b :: r => some (b, r)

/-- The limits of a memory, in pages. -/
structure Limits where
  min : Nat
  max : Option Nat
  deriving DecidableEq, Repr

/-- **Limits**: flag 0 and a minimum, or flag 1, a minimum and a maximum. -/
def readLimits : List UInt8 → Option (Limits × List UInt8)
  | 0x00 :: rest => (readLEB128 rest).map fun (min, r) => (⟨min, none⟩, r)
  | 0x01 :: rest => (readLEB128 rest).bind fun (min, r) =>
    (readLEB128 r).map fun (max, r') => (⟨min, some max⟩, r')
  | _ => none

/-- An export: the bytes of its name, the kind of what it exports (2 for a memory) and that
thing's index. -/
structure Export where
  name : List UInt8
  kind : UInt8
  index : Nat
  deriving DecidableEq, Repr

/-- **An export**: its name as a vector of bytes, its kind byte, then the index in LEB128. -/
def readExport (bs : List UInt8) : Option (Export × List UInt8) :=
  (readVec readByte bs).bind fun (name, r) =>
    match r with
    | kind :: r => (readLEB128 r).map fun (index, r') => (⟨name, kind, index⟩, r')
    | [] => none

end Wasm

open Wasm

/-! ## One step of the encoder -/

lemma shiftRight_seven_toNat (v : UInt32) : (v >>> 7).toNat = v.toNat / 128 := by
  rw [UInt32.toNat_shiftRight, Nat.shiftRight_eq_div_pow]
  rfl

lemma low_seven_toNat (v : UInt32) : ((v &&& 0x7f).toUInt8).toNat = v.toNat % 128 := by
  rw [UInt32.toNat_toUInt8, UInt32.toNat_and, show (0x7f : UInt32).toNat = 2 ^ 7 - 1 from rfl,
    Nat.and_two_pow_sub_one_eq_mod]
  omega

/-- Setting the top bit of a byte below 128 adds 128. -/
lemma or_top_toNat {b : UInt8} (h : b.toNat < 128) : (b ||| 0x80).toNat = b.toNat + 128 := by
  rw [UInt8.toNat_or, show (0x80 : UInt8).toNat = 2 ^ 7 * 1 from rfl, Nat.or_comm,
    ← Nat.two_pow_add_eq_or_of_lt h]
  omega

lemma shiftRight_seven_eq_zero_iff (v : UInt32) : v >>> 7 = 0 ↔ v.toNat < 128 := by
  rw [← UInt32.toNat_inj, shiftRight_seven_toNat]
  simp only [UInt32.toNat_zero]
  omega

/-- A number below 128 is one byte, itself. -/
lemma leb128_of_lt {v : UInt32} (h : v.toNat < 128) : leb128 v = [UInt8.ofNat v.toNat] := by
  rw [leb128, if_pos ((shiftRight_seven_eq_zero_iff v).2 h)]
  congr 1
  apply UInt8.toNat_inj.1
  rw [low_seven_toNat, UInt8.toNat_ofNat']
  omega

/-- A larger number is its low seven bits with the top bit set, then the rest. -/
lemma leb128_of_le {v : UInt32} (h : 128 ≤ v.toNat) :
    leb128 v = UInt8.ofNat (v.toNat % 128 + 128) :: leb128 (v >>> 7) := by
  rw [leb128, if_neg (fun h0 => by rw [shiftRight_seven_eq_zero_iff] at h0; omega)]
  congr 1
  apply UInt8.toNat_inj.1
  have hlow := low_seven_toNat v
  rw [or_top_toNat (by omega), hlow, UInt8.toNat_ofNat']
  omega

/-- **Induction along the encoder**, on the number's value: a number below 128 is written at
once, a larger one after the number divided by 128. -/
lemma leb128_induction {motive : UInt32 → Prop}
    (small : ∀ v : UInt32, v.toNat < 128 → motive v)
    (large : ∀ v : UInt32, 128 ≤ v.toNat → motive (v >>> 7) → motive v) (v : UInt32) :
    motive v := by
  induction v using leb128.induct with
  | case1 v h => exact small v ((shiftRight_seven_eq_zero_iff v).1 h)
  | case2 v h ih =>
    refine large v ?_ ih
    by_contra hlt
    exact h ((shiftRight_seven_eq_zero_iff v).2 (by omega))

/-! ## The encoding -/

lemma leb128_ne_nil (v : UInt32) : leb128 v ≠ [] := by
  rcases Nat.lt_or_ge v.toNat 128 with h | h
  · simp [leb128_of_lt h]
  · simp [leb128_of_le h]

/-- **The decoder reads the encoding back**, consuming exactly its bytes. -/
lemma readLEB128_leb128 (v : UInt32) (rest : List UInt8) :
    readLEB128 (leb128 v ++ rest) = some (v.toNat, rest) := by
  induction v using leb128_induction with
  | small v hv =>
    have hb : (UInt8.ofNat v.toNat).toNat = v.toNat :=
      UInt8.toNat_ofNat_of_lt' (by simp only [UInt8.size]; omega)
    rw [leb128_of_lt hv, List.cons_append, List.nil_append, readLEB128, hb, if_pos hv]
  | large v hv ih =>
    rw [leb128_of_le hv, List.cons_append]
    have hb : (UInt8.ofNat (v.toNat % 128 + 128)).toNat = v.toNat % 128 + 128 :=
      UInt8.toNat_ofNat_of_lt' (by simp only [UInt8.size]; omega)
    simp only [readLEB128, hb, ih, shiftRight_seven_toNat, Option.map_some]
    rw [if_neg (by omega)]
    congr 2
    omega

/-- **How large the encoded number is**: below `2 ^ (7 · length)`, and, when there is more than
one byte, at least `2 ^ (7 · (length - 1))`. -/
lemma leb128_bounds (v : UInt32) :
    v.toNat < 2 ^ (7 * (leb128 v).length) ∧
      (1 < (leb128 v).length → 2 ^ (7 * ((leb128 v).length - 1)) ≤ v.toNat) := by
  induction v using leb128_induction with
  | small v hv => simp [leb128_of_lt hv, hv]
  | large v hv ih =>
    rw [leb128_of_le hv, List.length_cons]
    rw [shiftRight_seven_toNat] at ih
    obtain ⟨hlt, hge⟩ := ih
    have hpos : 0 < (leb128 (v >>> 7)).length := List.length_pos_iff.2 (leb128_ne_nil _)
    constructor
    · -- the rest holds the number divided by 128
      rw [Nat.mul_add, Nat.pow_add]
      have := (Nat.div_lt_iff_lt_mul (by norm_num : 0 < 128)).1 hlt
      omega
    · intro _
      rw [show 7 * ((leb128 (v >>> 7)).length + 1 - 1) =
          7 * ((leb128 (v >>> 7)).length - 1) + 7 by omega, Nat.pow_add]
      rcases Nat.lt_or_ge 1 (leb128 (v >>> 7)).length with hmore | hone
      · have := hge hmore
        have := Nat.div_mul_le_self v.toNat 128
        norm_num
        omega
      · have hone : (leb128 (v >>> 7)).length = 1 := by omega
        simp [hone, hv]

/-- **The length of the encoding**: one byte for zero, else a byte for every seven bits,
counted from the highest set bit. -/
lemma length_leb128 (v : UInt32) :
    (leb128 v).length = max 1 ((v.toNat.size + 6) / 7) := by
  obtain ⟨hlt, hge⟩ := leb128_bounds v
  have hpos : 0 < (leb128 v).length := List.length_pos_iff.2 (leb128_ne_nil v)
  have hsize : v.toNat.size ≤ 7 * (leb128 v).length := Nat.size_le.2 hlt
  rcases Nat.lt_or_ge 1 (leb128 v).length with hmore | hone
  · have hbig : 7 * ((leb128 v).length - 1) < v.toNat.size := Nat.lt_size.2 (hge hmore)
    omega
  · omega

/-- **The continuation bits**: every byte but the last has its top bit set, the last has it
clear. -/
lemma leb128_continuation (v : UInt32) :
    (∀ b ∈ (leb128 v).dropLast, 128 ≤ b.toNat) ∧ ∀ b ∈ (leb128 v).getLast?, b.toNat < 128 := by
  induction v using leb128_induction with
  | small v hv =>
    have hb : (UInt8.ofNat v.toNat).toNat = v.toNat :=
      UInt8.toNat_ofNat_of_lt' (by simp only [UInt8.size]; omega)
    rw [leb128_of_lt hv]
    refine ⟨by simp, fun b hlast => ?_⟩
    rw [List.getLast?_singleton, Option.mem_def, Option.some.injEq] at hlast
    rw [← hlast, hb]
    exact hv
  | large v hv ih =>
    obtain ⟨hinit, hlast⟩ := ih
    obtain ⟨b, bs, hbs⟩ := List.exists_cons_of_ne_nil (leb128_ne_nil (v >>> 7))
    rw [leb128_of_le hv]
    rw [hbs] at hinit hlast ⊢
    refine ⟨?_, by simpa [List.getLast?_cons_cons] using hlast⟩
    intro c hc
    rw [List.dropLast_cons_cons, List.mem_cons] at hc
    rcases hc with rfl | hc
    · rw [UInt8.toNat_ofNat']
      omega
    · exact hinit c hc

/-- At most five bytes: a 32-bit number has at most 32 bits. -/
lemma length_leb128_le_five (v : UInt32) : (leb128 v).length ≤ 5 := by
  have hsize : v.toNat.size ≤ 32 := Nat.size_le.2 v.toNat_lt
  rw [length_leb128]
  omega

/-! ## Sections and the module -/

/-- A section as it is written: its id, the LEB128 of its length, then its contents. -/
def sectionBytes (id : UInt8) (c : List UInt8) : List UInt8 :=
  id :: leb128 c.length.toUInt32 ++ c

/-- **A section reads back** as its id and contents, whatever follows it. -/
lemma readSection_sectionBytes (id : UInt8) (c rest : List UInt8) (h : c.length < 2 ^ 32) :
    readSection (sectionBytes id c ++ rest) = some (id, c, rest) := by
  have hn : c.length.toUInt32.toNat = c.length := by
    rw [Nat.toUInt32_eq, UInt32.toNat_ofNat']
    omega
  rw [sectionBytes, List.cons_append, List.cons_append, readSection, List.append_assoc,
    readLEB128_leb128, hn]
  simp

lemma readSections_nil : readSections [] = some [] := by
  rw [readSections, if_pos rfl]

lemma readSections_of_readSection {bs c r : List UInt8} {id : UInt8}
    (h : readSection bs = some (id, c, r)) :
    readSections bs = (readSections r).map ((id, c) :: ·) := by
  have hne : bs ≠ [] := by
    rintro rfl
    simp [readSection] at h
  rw [readSections, if_neg hne]
  split
  · simp_all
  · simp_all

/-- The contents of the memory section of `memoryModule p`: one memory, flag 0 (no maximum),
then the minimum. -/
def memorySection (p : UInt32) : List UInt8 := 0x01 :: 0x00 :: leb128 p

/-- The contents of its export section: one export, the six bytes of the name `memory`, kind 2
(a memory) and index 0. -/
def exportSection : List UInt8 := [0x01, 0x06] ++ "memory".toUTF8.toList ++ [0x02, 0x00]

/-- `memoryModule` writes the header and its two sections, each with its length in front. -/
lemma memoryModule_eq_sections (p : UInt32) :
    memoryModule p =
      moduleHeader ++ sectionBytes 0x05 (memorySection p) ++ sectionBytes 0x07 exportSection := by
  have hlen : "memory".toUTF8.toList.length.toUInt32 = 6 := by cbv
  have hsix : leb128 6 = [0x06] := by cbv
  simp only [memoryModule, moduleHeader, sectionBytes, memorySection, exportSection, hlen, hsix,
    List.append_assoc, List.cons_append, List.nil_append]

/-- **The memory module reads back**: its two sections, each cut by its own length prefix, with
nothing left over. -/
lemma readModule_memoryModule (p : UInt32) :
    readModule (memoryModule p) = some [(0x05, memorySection p), (0x07, exportSection)] := by
  have hmem : (memorySection p).length < 2 ^ 32 := by
    have := length_leb128_le_five p
    simp only [memorySection, List.length_cons]
    omega
  have hexp : exportSection.length < 2 ^ 32 := by
    have hname : "memory".toUTF8.toList.length = 6 := by cbv
    rw [exportSection, List.length_append, List.length_append, hname]
    simp
  have hsec7 := readSection_sectionBytes 0x07 exportSection [] hexp
  have hsec5 := readSection_sectionBytes 0x05 (memorySection p)
    (sectionBytes 0x07 exportSection) hmem
  rw [List.append_nil] at hsec7
  -- the header, then the memory section, then the export section, then nothing
  rw [memoryModule_eq_sections, List.append_assoc, readModule,
    List.take_left' (show moduleHeader.length = 8 from rfl), if_pos rfl,
    List.drop_left' (show moduleHeader.length = 8 from rfl),
    readSections_of_readSection hsec5, readSections_of_readSection hsec7, readSections_nil]
  rfl

/-- The memory section declares one memory: minimum `p`, no maximum. -/
lemma memorySection_limits (p : UInt32) :
    readVec readLimits (memorySection p) = some ([⟨p.toNat, none⟩], []) := by
  have h := readLEB128_leb128 p []
  rw [List.append_nil] at h
  simp [memorySection, readVec, readLEB128, readItems, readLimits, h]

/-- The export section exports memory 0 as `memory`. -/
lemma exportSection_exports :
    readVec readExport exportSection = some ([⟨"memory".toUTF8.toList, 0x02, 0⟩], []) := by
  cbv

/-- **The memory module is right**: the LEB128 encoder writes, for every 32-bit number, between
one and five bytes, one for every seven bits counted from the highest set bit (at least one), the
top bit set on all but the last, and the decoder reads exactly those bytes back as the number;
and the module of every page count is a module whose two length prefixes cut out its memory
section and its export section exactly, declaring one memory with that many pages as its minimum
and no maximum, exported as `memory`. -/
theorem memoryModule_encoding (v p : UInt32) :
    (1 ≤ (leb128 v).length ∧ (leb128 v).length ≤ 5 ∧
      (leb128 v).length = max 1 ((v.toNat.size + 6) / 7) ∧
      (∀ b ∈ (leb128 v).dropLast, 128 ≤ b.toNat) ∧ (∀ b ∈ (leb128 v).getLast?, b.toNat < 128) ∧
      ∀ rest, readLEB128 (leb128 v ++ rest) = some (v.toNat, rest)) ∧
    ∃ mem exp, readModule (memoryModule p) = some [(0x05, mem), (0x07, exp)] ∧
      readVec readLimits mem = some ([⟨p.toNat, none⟩], []) ∧
      readVec readExport exp = some ([⟨"memory".toUTF8.toList, 0x02, 0⟩], []) := by
  have hpos : 0 < (leb128 v).length := List.length_pos_iff.2 (leb128_ne_nil v)
  exact ⟨⟨hpos, length_leb128_le_five v, length_leb128 v, (leb128_continuation v).1,
      (leb128_continuation v).2, readLEB128_leb128 v⟩,
    _, _, readModule_memoryModule p, memorySection_limits p, exportSection_exports⟩

/-- Two hundred pages take a two-byte minimum, so the memory section is four bytes long. -/
example : memoryModule 200 = [0x00, 0x61, 0x73, 0x6d, 0x01, 0x00, 0x00, 0x00,
    0x05, 0x04, 0x01, 0x00, 0xc8, 0x01,
    0x07, 0x0a, 0x01, 0x06, 0x6d, 0x65, 0x6d, 0x6f, 0x72, 0x79, 0x02, 0x00] := by
  cbv

end RecordLayout
