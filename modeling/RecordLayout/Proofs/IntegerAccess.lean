import Mathlib
import RecordLayout.Proofs.Setters

/-!
# Integer reads and writes of a field

An integer field of `w` bits holds `w` bits.  Written as an integer, a signed field stores the
two's complement of a value from `-2^(w-1)` to `2^(w-1) - 1`, an unsigned one (`uintN`, `bool`,
`char`) a value from 0 below `2^w`; any other value overflows.  Read as an integer, a signed
field sign-extends its bits and an unsigned one answers them as they are, overflowing from
2^63 on.

* `View.signExtend_eq` reads sign extension as a case split on the sign bit, and
  `View.signExtend_emod` shows it undoes two's complement over the signed range.
* `Live.InBounds`: the bytes of a field lie inside its view's memory; every write of such a
  field succeeds (`Live.writeRaw_ok`), whether it is a bitfield or full-width.
* `View.setSigned_of_isSigned`, `View.setSigned_of_not_isSigned` and `View.setUnsigned_of_lt`
  say which writes succeed and what they store; `View.getSigned_store` what a read answers
  after a write, and `View.setSigned_reads_back` that a write of an integer reads back or
  overflows.
* **`integer_access`** puts these together for every integer field of at most 64 bits inside
  its memory (`IntegerAccess`).
-/

namespace RecordLayout

/-- An integer field is stored in one of the sizes a number is read with. -/
lemma FieldInfo.scalarSize_of_isInteger {f : FieldInfo} (hint : f.storage.kind.isInteger) :
    Live.scalarSize f.storage.size := by
  rcases f with ⟨_, (s | _ | _), _, _⟩
  · cases s <;> rfl
  · simp [Storage.kind, StorageKind.isInteger] at hint
  · simp [Storage.kind, StorageKind.isInteger] at hint

/-- An integer field has at least one bit. -/
lemma FieldInfo.bits_pos_of_isInteger {f : FieldInfo} (hint : f.storage.kind.isInteger) :
    0 < f.bits := by
  have hsize := FieldInfo.scalarSize_of_isInteger hint
  unfold FieldInfo.bits Storage.bits
  split
  · assumption
  · simp only [Live.scalarSize, Bool.or_eq_true, beq_iff_eq] at hsize
    omega

namespace Live

/-- The bytes a field covers lie inside the view's memory, and so inside the 32-bit address
space. -/
def InBounds (l : Live) (f : FieldInfo) : Prop :=
  l.addr + (f.offset + f.bits + 7) / 8 ≤ min l.memory.size addressSpace

instance (l : Live) (f : FieldInfo) : Decidable (l.InBounds f) :=
  inferInstanceAs (Decidable (_ ≤ _))

variable {l : Live} {f : FieldInfo}

/-- **A field in bounds can be written**, when it is a bitfield or of a size a number is written
with. -/
lemma writeRaw_ok (hin : l.InBounds f) (hpos : 0 < f.bits)
    (hsize : f.isBitfield ∨ scalarSize f.storage.size) (v : Nat) : ∃ m, l.writeRaw f v = .ok m := by
  obtain ⟨hmem, hspace⟩ := Nat.le_min.mp hin
  -- the field's first byte lies below its end, so inside the address space
  have hfirst : ¬ l.addr + f.offset / 8 ≥ addressSpace := by omega
  unfold writeRaw
  by_cases hb : f.isBitfield = true
  · simp only [hb, if_true, span, hfirst, if_false, ok_bind_eq, Memory.read_eq]
    rw [if_pos (by omega)]
    simp only [ok_bind_eq, Memory.writeLE, Memory.write, Memory.fits, length_leBytes]
    rw [if_pos (by simp only [decide_eq_true_eq]; omega)]
    exact ⟨_, rfl⟩
  · have hfull := FieldInfo.bits_of_width_zero (FieldInfo.width_eq_zero hb)
    have hscalar : scalarSize f.storage.size := by simpa [hb] using hsize
    simp only [hb, Bool.false_eq_true, if_false, byteAddr, hfirst, ok_bind_eq, hscalar, if_true,
      Memory.writeLE, Memory.write, Memory.fits, length_leBytes]
    rw [if_pos (by simp only [decide_eq_true_eq]; omega)]
    exact ⟨_, rfl⟩

end Live

namespace View

/-- The sign extension of a `w`-bit pattern: the pattern below the sign bit, the pattern less
`2^w` from there on. -/
lemma signExtend_eq {w u : Nat} (hw : 0 < w) :
    signExtend w u = if u < 2 ^ (w - 1) then (u : Int) else u - 2 ^ w := by
  unfold signExtend
  by_cases hu : u < 2 ^ (w - 1)
  · rw [if_neg (by simp only [Nat.pow_eq]; omega), if_pos hu]
  · rw [if_pos ⟨hw, by simp only [Nat.pow_eq]; omega⟩, if_neg hu]
    rfl

/-- **Sign extension undoes two's complement**: a value of the signed `w`-bit range, cut to
`w` bits, sign-extends back to itself. -/
lemma signExtend_emod {w : Nat} {x : Int} (hw : 0 < w) (hlo : -2 ^ (w - 1) ≤ x)
    (hhi : x < 2 ^ (w - 1)) : signExtend w (x % 2 ^ w).toNat = x := by
  have hpow : (2 : Int) ^ w = 2 * 2 ^ (w - 1) := by
    rw [← pow_succ']
    congr 1
    omega
  have hpos : (0 : Int) < 2 ^ (w - 1) := by positivity
  have hcast : ((2 ^ (w - 1) : Nat) : Int) = 2 ^ (w - 1) := by push_cast; rfl
  rw [signExtend_eq hw]
  rcases le_or_gt 0 x with hx | hx
  · -- from 0 on the value is its own pattern, below the sign bit
    have hmod : x % 2 ^ w = x := Int.emod_eq_of_lt hx (by omega)
    rw [hmod, if_pos (by omega), Int.toNat_of_nonneg hx]
  · -- below 0 the pattern is the value plus `2^w`, from the sign bit on
    have hmod : x % 2 ^ w = x + 2 ^ w := by
      rw [← Int.add_emod_right]
      exact Int.emod_eq_of_lt (by omega) (by omega)
    rw [hmod, if_neg (by omega), Int.toNat_of_nonneg (by omega)]
    ring

variable {c : Catalog} {h : Heap} {v : View} {l : Live} {n : String} {f : FieldInfo}

/-- The low `w` bits of an integer, as a number, lie below `2^w`. -/
lemma toNat_emod_lt (x : Int) (w : Nat) : (x % 2 ^ w).toNat < 2 ^ w := by
  have hpos : (0 : Int) < 2 ^ w := by positivity
  have hlt := Int.emod_lt_of_pos x hpos
  have hnn := Int.emod_nonneg x hpos.ne'
  have hcast : ((2 ^ w : Nat) : Int) = 2 ^ w := by push_cast; rfl
  omega

/-- **Reading an integer after a write**: the field's bits are the value's low bits, read
sign-extended in a signed field, and as they are in an unsigned one, which fails from 2^63 on. -/
lemma getSigned_store (hl : v.live c h = .ok l) (hf : l.field n = .ok f)
    (hint : f.storage.kind.isInteger) {y : Nat} {m : Memory} (hw : l.writeRaw f y = .ok m) :
    getSigned c (store h l m) v n =
      if f.storage.kind.isSigned then .ok (signExtend f.bits (y % 2 ^ f.bits))
      else if y % 2 ^ f.bits ≥ 2 ^ 63 then
        .error (Failure.overflow .access [l.record.name, f.name] (toString (y % 2 ^ f.bits)) "int64")
      else .ok ((y % 2 ^ f.bits : Nat) : Int) := by
  simp only [getSigned, live_store hl, ok_bind_eq, Live.field_withMemory, hf, hint, Bool.not_true,
    Bool.false_eq_true, if_false, Live.readRaw_writeRaw hw]
  rfl

section Bounds

variable (hl : v.live c h = .ok l) (hf : l.field n = .ok f) (hint : f.storage.kind.isInteger)
  (hin : l.InBounds f) (hbits : f.bits ≤ 64)
include hl hf hint hin hbits

/-- **A signed field takes exactly the values of its two's complement range**: within it the
write stores the value's low bits, outside it fails with an overflow. -/
lemma setSigned_of_isSigned (hs : f.storage.kind.isSigned) (x : Int64) :
    (-2 ^ (f.bits - 1) ≤ x.toInt ∧ x.toInt ≤ 2 ^ (f.bits - 1) - 1 ∧
      ∃ m, l.writeRaw f (x.toInt % 2 ^ f.bits).toNat = .ok m ∧
        setSigned c h v n x.toInt = .ok (store h l m)) ∨
    (¬ (-2 ^ (f.bits - 1) ≤ x.toInt ∧ x.toInt ≤ 2 ^ (f.bits - 1) - 1) ∧
      ∃ e, setSigned c h v n x.toInt = .error e ∧ e.kind = .overflow) := by
  simp only [setSigned, hl, hf, ok_bind_eq, hint, hs, Bool.not_true, Bool.false_eq_true, if_false]
  by_cases hr : -2 ^ (f.bits - 1) ≤ x.toInt ∧ x.toInt ≤ 2 ^ (f.bits - 1) - 1
  · obtain ⟨m, hm⟩ := Live.writeRaw_ok hin (FieldInfo.bits_pos_of_isInteger hint)
      (.inr (FieldInfo.scalarSize_of_isInteger hint)) (x.toInt % 2 ^ f.bits).toNat
    refine .inl ⟨hr.1, hr.2, m, hm, ?_⟩
    have hin' : ¬ (f.bits < 64 ∧
        (x.toInt < -Int.pow 2 (f.bits - 1) ∨ x.toInt > Int.pow 2 (f.bits - 1) - 1)) := by
      show ¬ (f.bits < 64 ∧ (x.toInt < -2 ^ (f.bits - 1) ∨ x.toInt > 2 ^ (f.bits - 1) - 1))
      omega
    rw [if_neg hin']
    change (l.writeRaw f (x.toInt % 2 ^ f.bits).toNat >>= _) = _
    rw [hm]
    rfl
  · -- at 64 bits every 64-bit value is in range, so the field has fewer bits
    have hlt : f.bits < 64 := by
      by_contra h64
      have h63 : f.bits - 1 = 63 := by omega
      rw [h63] at hr
      exact hr ⟨x.le_toInt, by have := x.toInt_lt; omega⟩
    have hout : f.bits < 64 ∧
        (x.toInt < -Int.pow 2 (f.bits - 1) ∨ x.toInt > Int.pow 2 (f.bits - 1) - 1) := by
      show f.bits < 64 ∧ (x.toInt < -2 ^ (f.bits - 1) ∨ x.toInt > 2 ^ (f.bits - 1) - 1)
      omega
    rw [if_pos hout]
    exact .inr ⟨hr, _, rfl, rfl⟩

/-- **An unsigned field takes exactly the values from 0 below `2^w`**, every 64-bit value from 0
on when it has 64 bits: within them the write stores the value, outside it fails with an
overflow. -/
lemma setSigned_of_not_isSigned (hs : f.storage.kind.isSigned = false) (x : Int64) :
    (0 ≤ x.toInt ∧ (f.bits = 64 ∨ x.toInt < 2 ^ f.bits) ∧
      ∃ m, l.writeRaw f x.toInt.toNat = .ok m ∧ setSigned c h v n x.toInt = .ok (store h l m)) ∨
    (¬ (0 ≤ x.toInt ∧ (f.bits = 64 ∨ x.toInt < 2 ^ f.bits)) ∧
      ∃ e, setSigned c h v n x.toInt = .error e ∧ e.kind = .overflow) := by
  simp only [setSigned, hl, hf, ok_bind_eq, hint, hs, Bool.not_true, Bool.false_eq_true, if_false,
    Bool.not_false, if_true]
  by_cases hr : 0 ≤ x.toInt ∧ (f.bits = 64 ∨ x.toInt < 2 ^ f.bits)
  · obtain ⟨m, hm⟩ := Live.writeRaw_ok hin (FieldInfo.bits_pos_of_isInteger hint)
      (.inr (FieldInfo.scalarSize_of_isInteger hint)) x.toInt.toNat
    refine .inl ⟨hr.1, hr.2, m, hm, ?_⟩
    have hin' : ¬ (x.toInt < 0 ∨ (f.bits < 64 ∧ x.toInt ≥ Int.pow 2 f.bits)) := by
      show ¬ (x.toInt < 0 ∨ (f.bits < 64 ∧ x.toInt ≥ 2 ^ f.bits))
      omega
    rw [if_neg hin', hm]
    rfl
  · have hout : x.toInt < 0 ∨ (f.bits < 64 ∧ x.toInt ≥ Int.pow 2 f.bits) := by
      show x.toInt < 0 ∨ (f.bits < 64 ∧ x.toInt ≥ 2 ^ f.bits)
      omega
    rw [if_pos hout]
    exact .inr ⟨hr, _, rfl, rfl⟩

/-- **A write of a 64-bit integer reads back or overflows**: it stores bits that read as the
integer, or fails with an overflow. -/
lemma setSigned_reads_back (x : Int64) :
    (∃ m, setSigned c h v n x.toInt = .ok (store h l m) ∧
      getSigned c (store h l m) v n = .ok x.toInt) ∨
    (∃ e, setSigned c h v n x.toInt = .error e ∧ e.kind = .overflow) := by
  have hw := FieldInfo.bits_pos_of_isInteger hint
  cases hs : f.storage.kind.isSigned
  · rcases setSigned_of_not_isSigned hl hf hint hin hbits hs x with
      ⟨hpos, hlt, m, hm, hset⟩ | ⟨-, e, hset, hk⟩
    · refine .inl ⟨m, hset, ?_⟩
      -- the value is below `2^bits` and below 2^63, so it is its own bits
      have hfits : x.toInt.toNat < 2 ^ f.bits := by
        rcases hlt with h64 | hlt
        · rw [h64]
          have := x.toInt_lt
          omega
        · have : ((2 ^ f.bits : Nat) : Int) = 2 ^ f.bits := by push_cast; rfl
          omega
      have h63 : ¬ x.toInt.toNat ≥ 2 ^ 63 := by
        have := x.toInt_lt
        omega
      rw [getSigned_store hl hf hint hm, hs, Nat.mod_eq_of_lt hfits, if_neg (by simp),
        if_neg h63, Int.toNat_of_nonneg hpos]
    · exact .inr ⟨e, hset, hk⟩
  · rcases setSigned_of_isSigned hl hf hint hin hbits hs x with
      ⟨hlo, hhi, m, hm, hset⟩ | ⟨-, e, hset, hk⟩
    · refine .inl ⟨m, hset, ?_⟩
      rw [getSigned_store hl hf hint hm, hs, if_pos rfl,
        Nat.mod_eq_of_lt (toNat_emod_lt _ _), signExtend_emod hw hlo (by omega)]
    · exact .inr ⟨e, hset, hk⟩

omit hbits in
/-- **Bits that fit the field are written unsigned.** -/
lemma setUnsigned_of_lt {u : Nat} (hu : u < 2 ^ f.bits) :
    ∃ m, l.writeRaw f u = .ok m ∧ setUnsigned c h v n u = .ok (store h l m) := by
  obtain ⟨m, hm⟩ := Live.writeRaw_ok hin (FieldInfo.bits_pos_of_isInteger hint)
    (.inr (FieldInfo.scalarSize_of_isInteger hint)) u
  have hfit : ¬ (f.bits < 64 ∧ u ≥ Nat.pow 2 f.bits) := by
    show ¬ (f.bits < 64 ∧ u ≥ 2 ^ f.bits)
    omega
  refine ⟨m, hm, ?_⟩
  simp only [setUnsigned, hl, hf, ok_bind_eq, hint, Bool.not_true, Bool.false_eq_true, if_false]
  rw [if_neg hfit, hm]
  rfl

end Bounds

end View

/-- **What the integer accessors of a view promise for one integer field** `f`, the field that
name `n` finds, of `f.bits` bits: the integers a write takes, what a read gives back, and how a
read sees bits written unsigned.  A call that fails gives no heap, so it writes nothing. -/
structure IntegerAccess (c : Catalog) (h : Heap) (v : View) (n : String) (f : FieldInfo) :
    Prop where
  /-- A signed field takes exactly the 64-bit integers of its two's complement range. -/
  signed_range : f.storage.kind.isSigned → ∀ x : Int64,
    (∃ h', View.setSigned c h v n x.toInt = .ok h') ↔
      -2 ^ (f.bits - 1) ≤ x.toInt ∧ x.toInt ≤ 2 ^ (f.bits - 1) - 1
  /-- An unsigned field (`uintN`, `bool`, `char`) takes exactly the 64-bit integers from 0 on
  that are below `2^bits`, all of them when it has 64 bits. -/
  unsigned_range : f.storage.kind.isSigned = false → ∀ x : Int64,
    (∃ h', View.setSigned c h v n x.toInt = .ok h') ↔
      0 ≤ x.toInt ∧ (f.bits = 64 ∨ x.toInt < 2 ^ f.bits)
  /-- An integer written reads back. -/
  read_back : ∀ (x : Int64) (h' : Heap), View.setSigned c h v n x.toInt = .ok h' →
    View.getSigned c h' v n = .ok x.toInt
  /-- A write the field rejects fails with an overflow. -/
  rejected : ∀ (x : Int64) (e : Failure), View.setSigned c h v n x.toInt = .error e →
    e.kind = .overflow
  /-- Bits written unsigned read, in a signed field, sign-extended from its width. -/
  signed_of_unsigned : f.storage.kind.isSigned → ∀ u < 2 ^ f.bits, ∃ h',
    View.setUnsigned c h v n u = .ok h' ∧
      View.getSigned c h' v n = .ok (if u < 2 ^ (f.bits - 1) then (u : Int) else u - 2 ^ f.bits)
  /-- Bits written unsigned read, in an unsigned field, as they are below 2^63, and fail with
  an overflow from there on. -/
  unsigned_of_unsigned : f.storage.kind.isSigned = false → ∀ u < 2 ^ f.bits, ∃ h',
    View.setUnsigned c h v n u = .ok h' ∧
      (u < 2 ^ 63 → View.getSigned c h' v n = .ok u) ∧
      (2 ^ 63 ≤ u → ∃ e, View.getSigned c h' v n = .error e ∧ e.kind = .overflow)

/-- **The integer accessors act on an integer field as its kind and width say.**  For a field of
at most 64 bits whose bytes lie inside the view's memory: a signed field takes the 64-bit integers
of its two's complement range, an unsigned one those from 0 below `2^bits` (all from 0 on at 64
bits); an integer written reads back; a rejected write is an overflow; and bits written unsigned
read sign-extended in a signed field, and as they are in an unsigned one below 2^63. -/
theorem integer_access {c : Catalog} {h : Heap} {v : View} {l : Live} {n : String}
    {f : FieldInfo} (hl : v.live c h = .ok l) (hf : l.field n = .ok f)
    (hint : f.storage.kind.isInteger) (hbits : f.bits ≤ 64) (hin : l.InBounds f) :
    IntegerAccess c h v n f where
  signed_range hs x := by
    rcases View.setSigned_of_isSigned hl hf hint hin hbits hs x with
      ⟨hlo, hhi, m, -, hset⟩ | ⟨hr, e, hset, -⟩
    · exact ⟨fun _ => ⟨hlo, hhi⟩, fun _ => ⟨_, hset⟩⟩
    · rw [hset]
      exact ⟨fun ⟨_, hok⟩ => (by cases hok), fun hr' => absurd hr' hr⟩
  unsigned_range hs x := by
    rcases View.setSigned_of_not_isSigned hl hf hint hin hbits hs x with
      ⟨hpos, hlt, m, -, hset⟩ | ⟨hr, e, hset, -⟩
    · exact ⟨fun _ => ⟨hpos, hlt⟩, fun _ => ⟨_, hset⟩⟩
    · rw [hset]
      exact ⟨fun ⟨_, hok⟩ => (by cases hok), fun hr' => absurd hr' hr⟩
  read_back x h' hset := by
    rcases View.setSigned_reads_back hl hf hint hin hbits x with
      ⟨m, hset', hget⟩ | ⟨e, hset', -⟩
    · rw [hset] at hset'
      cases hset'
      exact hget
    · rw [hset] at hset'
      cases hset'
  rejected x e hset := by
    rcases View.setSigned_reads_back hl hf hint hin hbits x with
      ⟨m, hset', -⟩ | ⟨e', hset', hk⟩
    · rw [hset] at hset'
      cases hset'
    · rw [hset] at hset'
      cases hset'
      exact hk
  signed_of_unsigned hs u hu := by
    obtain ⟨m, hm, hset⟩ := View.setUnsigned_of_lt hl hf hint hin hu
    refine ⟨_, hset, ?_⟩
    rw [View.getSigned_store hl hf hint hm, if_pos hs, Nat.mod_eq_of_lt hu,
      View.signExtend_eq (FieldInfo.bits_pos_of_isInteger hint)]
  unsigned_of_unsigned hs u hu := by
    obtain ⟨m, hm, hset⟩ := View.setUnsigned_of_lt hl hf hint hin hu
    refine ⟨_, hset, fun h63 => ?_, fun h63 => ?_⟩
    · rw [View.getSigned_store hl hf hint hm, hs, Nat.mod_eq_of_lt hu, if_neg (by simp),
        if_neg (by omega)]
    · rw [View.getSigned_store hl hf hint hm, hs, Nat.mod_eq_of_lt hu, if_neg (by simp),
        if_pos h63]
      exact ⟨_, rfl, rfl⟩

/-- A signed 5-bit field after a byte, viewed at address 4 of a memory of eight bytes. -/
theorem integer_access_five_bits :
    ∃ c r l f, (({} : Catalog).addBuilder Abi.native64).1.declare ⟨0⟩ "S" []
        [.field "a" (.scalar .uint8), .bits "x" (.scalar .int16) 5] = .ok (c, r) ∧
      View.live c ⟨#[⟨⟨#[0, 0, 0, 0, 0, 0, 0, 0]⟩, 8⟩]⟩ ⟨some r, some ⟨0⟩, 4⟩ = .ok l ∧
      l.field "x" = .ok f ∧ f.storage.kind.isInteger ∧ f.bits ≤ 64 ∧ l.InBounds f ∧
      IntegerAccess c ⟨#[⟨⟨#[0, 0, 0, 0, 0, 0, 0, 0]⟩, 8⟩]⟩ ⟨some r, some ⟨0⟩, 4⟩ "x" f := by
  have hdecl : (({} : Catalog).addBuilder Abi.native64).1.declare ⟨0⟩ "S" []
      [.field "a" (.scalar .uint8), .bits "x" (.scalar .int16) 5] = .ok (_, _) := rfl
  refine ⟨_, _, _, _, hdecl, rfl, rfl, rfl, by decide, by decide, ?_⟩
  exact integer_access rfl rfl rfl (by decide) (by decide)

end RecordLayout
