import Mathlib
import RecordLayout.Proofs.MemoryBits
import RecordLayout.Proofs.Placement

/-!
# The bump allocator

A linear memory hands out blocks from a bump pointer, its *next free address*: a block goes at
the next multiple of its alignment, the bump pointer moves past it, and `free` moves the bump
pointer back only when the block freed ends exactly there.  The first eight bytes are never
handed out, so that address 0 can stand for no block.

A run of allocator calls starts from a fresh memory; each `alloc` that succeeds adds a block
(its address and size) to the *live* blocks, and each `free` names a live block and drops it.

* `alloc_eq_ok` says everything a successful `alloc` does: the alignment is a power of two, the
  block ends by 2^32, the address is the start rounded to a 32-bit value, the bump pointer moves
  to the end of the block (modulo 2^32), and the block's bytes read back as zeros.
* `alloc_eq_error_iff`: `alloc` fails exactly when the alignment is not a power of two or the
  block would end past 2^32.
* `AllocInv` is what every run keeps (`allocInv_of_run`): addresses above the reserved bytes,
  every live block of non-zero size below the bump pointer, live blocks pairwise apart.
* **`bump_allocator_contract`**: along every run in which no block ends at exactly 4 GiB, the
  bump pointer stays past every live block of non-zero size, and each block handed out is past
  the reserved bytes, aligned, inside the memory, zeroed, and after every live block.

Two things keep the contract from holding of every run.  A block that ends at exactly 2^32
leaves the bump pointer at 0, after which address 0 itself is handed out
(`alloc_at_wrapped_next`).  And `free` recognises the last block by its end only: after an
empty block, freeing the block before it moves the bump pointer below the empty block, which is
still live (`free_before_empty_block`).
-/

namespace RecordLayout

namespace Memory

/-! ## One allocation -/

/-- The alignment an allocation rounds to: an alignment of 0 counts as 1. -/
def allocAlign (align : Nat) : Nat := if align = 0 then 1 else align

/-- Where a block aligned to `align` goes: the bump pointer rounded up to the alignment. -/
def allocStart (m : Memory) (align : Nat) : Nat := ceilMultiple m.next (allocAlign align)

lemma one_le_allocAlign (align : Nat) : 1 ≤ allocAlign align := by
  unfold allocAlign
  split <;> omega

lemma le_allocStart (m : Memory) (align : Nat) : m.next ≤ allocStart m align :=
  le_ceilMultiple m.next (one_le_allocAlign align)

lemma allocAlign_dvd_allocStart (m : Memory) (align : Nat) : allocAlign align ∣ allocStart m align :=
  dvd_ceilMultiple _ _

lemma addressLimit_eq : addressLimit = 2 ^ 32 := rfl

/-- The power-of-two test of `alloc`, on a non-zero alignment. -/
lemma and_sub_one_ne_zero_iff (align : Nat) :
    (allocAlign align &&& (allocAlign align - 1) ≠ 0) ↔ ¬ (allocAlign align).isPowerOfTwo := by
  rw [ne_eq, Nat.and_sub_one_eq_zero_iff_isPowerOfTwo (by have := one_le_allocAlign align; omega)]

/-! ## Reading back what was stored -/

lemma size_store (bytes : ByteArray) (a : Nat) (data : List UInt8) :
    (store bytes a data).size = bytes.size := by
  induction data generalizing bytes a with
  | nil => rfl
  | cons b rest ih => rw [store, ih, ByteArray.size_set!]

/-- A read inside the memory answers the bytes from the offset on. -/
lemma read_of_fits {m : Memory} {a n : Nat} (h : a + n ≤ m.size) :
    m.read a n = .ok ((m.bytes.data.toList.drop a).take n) := by
  simp only [read, fits, h, decide_true, if_true, byteArray_toList, ByteArray.data_extract,
    Array.toList_extract, List.extract_eq_take_drop, Nat.add_sub_cancel_left]

/-- **Bytes stored inside a memory read back** as they were stored. -/
lemma read_store_self (bytes : ByteArray) (a : Nat) (data : List UInt8) (next : Nat)
    (h : a + data.length ≤ bytes.size) :
    (⟨store bytes a data, next⟩ : Memory).read a data.length = .ok data := by
  have hfit : a + data.length ≤ (⟨store bytes a data, next⟩ : Memory).size := by
    simpa [size, size_store] using h
  have ha : a ≤ bytes.data.toList.length := by
    simp only [Array.length_toList]
    exact le_trans (Nat.le_add_right a _) h
  rw [read_of_fits hfit, toList_store bytes a data h, List.append_assoc,
    List.drop_left' (by simp only [List.length_take]; omega), List.take_left' rfl]

/-! ## What `alloc` does -/

/-- The bytes of a memory grown by whole pages, when needed, to hold `stop` bytes. -/
def grownBytes (m : Memory) (stop : Nat) : ByteArray :=
  if stop > m.size then
    m.bytes ++ ByteArray.mk (Array.replicate ((stop - m.size + pageSize - 1) / pageSize * pageSize) 0)
  else m.bytes

/-- The bytes of a memory once `size` bytes at `start` are handed out: grown to hold the block,
and zeroed over it. -/
def allocBytes (m : Memory) (start size : Nat) : ByteArray :=
  if size > 0 then store (grownBytes m (start + size)) start (List.replicate size 0)
  else grownBytes m (start + size)

/-- `alloc` in terms of the start of the block and the bytes it leaves. -/
lemma alloc_eq (m : Memory) (size align : Nat) :
    m.alloc size align =
      if allocAlign align &&& (allocAlign align - 1) ≠ 0 then
        .error { phase := .memory, kind := .allocation,
                 detail := "alignment " ++ toString (allocAlign align) ++ " is not a power of two" }
      else if allocStart m align + size > addressLimit then
        .error (Failure.allocationFailed .memory size (allocAlign align))
      else .ok (allocStart m align % addressLimit,
        ⟨allocBytes m (allocStart m align) size, (allocStart m align + size) % addressLimit⟩) :=
  rfl

/-- Growing makes room for the bytes asked for. -/
lemma le_size_grownBytes (m : Memory) (stop : Nat) : stop ≤ (grownBytes m stop).size := by
  unfold grownBytes
  split
  · rename_i hout
    simp only [Memory.size] at hout ⊢
    -- the pages added are the missing bytes rounded up to whole pages
    have hpages := le_ceilMultiple (stop - m.bytes.size) (show 1 ≤ pageSize by decide)
    have hsz : ∀ n, (ByteArray.mk (Array.replicate n (0 : UInt8))).size = n := by
      simp [ByteArray.size]
    rw [← ceilMultiple, ByteArray.size_append, hsz]
    omega
  · rename_i hin
    simp only [Memory.size] at hin
    omega

/-- **The block handed out reads back as zeros.** -/
lemma read_allocBytes (m : Memory) (start size next : Nat) :
    (⟨allocBytes m start size, next⟩ : Memory).read start size = .ok (List.replicate size 0) := by
  have hfit := le_size_grownBytes m (start + size)
  unfold allocBytes
  split
  · simpa using read_store_self _ start (List.replicate size 0) next (by simpa using hfit)
  · rename_i hsize
    have hz : size = 0 := by omega
    subst hz
    rw [read_of_fits (by simpa [Memory.size] using hfit)]
    simp

section Alloc

variable {m m' : Memory} {size align p : Nat}

/-- **A successful allocation**: the alignment is a power of two, the block ends by 2^32, the
address is the start as a 32-bit value, the bump pointer moves to the end of the block as a
32-bit value, and the block's bytes read back as zeros. -/
lemma alloc_eq_ok (h : m.alloc size align = .ok (p, m')) :
    (allocAlign align).isPowerOfTwo ∧ allocStart m align + size ≤ addressLimit ∧
      p = allocStart m align % addressLimit ∧
      m'.next = (allocStart m align + size) % addressLimit ∧
      m'.read (allocStart m align) size = .ok (List.replicate size 0) := by
  rw [alloc_eq] at h
  split at h
  · cases h
  · rename_i hpow
    split at h
    · cases h
    · rename_i hstop
      simp only [Except.ok.injEq, Prod.mk.injEq] at h
      obtain ⟨rfl, rfl⟩ := h
      refine ⟨?_, by omega, rfl, rfl, read_allocBytes m _ size _⟩
      exact not_not.mp ((not_congr (and_sub_one_ne_zero_iff align)).mp hpow)

/-- **`alloc` fails exactly** when the alignment is not a power of two or the block would end
past 2^32. -/
lemma alloc_eq_error_iff :
    (∃ e, m.alloc size align = .error e) ↔
      ¬ (allocAlign align).isPowerOfTwo ∨ addressLimit < allocStart m align + size := by
  rw [alloc_eq, ← and_sub_one_ne_zero_iff]
  split
  · rename_i hpow
    exact ⟨fun _ => Or.inl hpow, fun _ => ⟨_, rfl⟩⟩
  · rename_i hpow
    split
    · rename_i hstop
      exact ⟨fun _ => Or.inr hstop, fun _ => ⟨_, rfl⟩⟩
    · rename_i hstop
      simp only [hpow, false_or, reduceCtorEq, exists_false, false_iff]
      exact hstop

/-- A read that succeeds lies inside the memory. -/
lemma fits_of_read_eq_ok {a n : Nat} {data : List UInt8} (h : m.read a n = .ok data) :
    a + n ≤ m.size := by
  unfold read fits at h
  split at h
  · rename_i hfit
    simpa using hfit
  · cases h

/-- A block that ends below 2^32 is handed out at its start, and the bump pointer moves to its
end. -/
lemma alloc_of_next_ne_zero (h : m.alloc size align = .ok (p, m')) (hnz : m'.next ≠ 0) :
    allocStart m align + size < addressLimit ∧ p = allocStart m align ∧
      m'.next = allocStart m align + size := by
  obtain ⟨-, hle, hp, hnext, -⟩ := alloc_eq_ok h
  have hlt : allocStart m align + size < addressLimit := by
    rcases Nat.lt_or_eq_of_le hle with hlt | heq
    · exact hlt
    · rw [heq, Nat.mod_self] at hnext
      exact absurd hnext hnz
  exact ⟨hlt, by rw [hp, Nat.mod_eq_of_lt (by omega)], by rw [hnext, Nat.mod_eq_of_lt hlt]⟩

end Alloc

/-! ## Runs of allocator calls -/

/-- A block handed out: its address and its size in bytes. -/
structure Block where
  addr : Nat
  size : Nat
  deriving DecidableEq, Repr

/-- Two blocks share no byte: one of them is empty, or one ends by the start of the other. -/
def Block.Apart (b b' : Block) : Prop :=
  b.size = 0 ∨ b'.size = 0 ∨ b.addr + b.size ≤ b'.addr ∨ b'.addr + b'.size ≤ b.addr

lemma Block.Apart.symm {b b' : Block} (h : b.Apart b') : b'.Apart b := by
  unfold Block.Apart at *
  omega

/-- **The states that runs of allocator calls reach** from a fresh memory, with the blocks still
live.  Each `free` names a live block.  No block ends at exactly 2^32: the bump pointer after
each `alloc` is not 0. -/
inductive AllocRun : Memory → List Block → Prop
  | fresh {pages : Nat} {m : Memory} : create pages = .ok m → AllocRun m []
  | alloc {m m' : Memory} {live : List Block} {size align p : Nat} :
      AllocRun m live → m.alloc size align = .ok (p, m') → m'.next ≠ 0 →
      AllocRun m' (⟨p, size⟩ :: live)
  | free {m : Memory} {live : List Block} {b : Block} :
      AllocRun m live → b ∈ live → AllocRun (m.free b.addr b.size) (live.erase b)

/-- What every run keeps. -/
structure AllocInv (m : Memory) (live : List Block) : Prop where
  /-- The bump pointer is past the reserved bytes and below 2^32. -/
  next_ge : reserved ≤ m.next
  next_lt : m.next < addressLimit
  /-- Every live block lies past the reserved bytes and ends below 2^32. -/
  addr_ge : ∀ b ∈ live, reserved ≤ b.addr
  end_lt : ∀ b ∈ live, b.addr + b.size < addressLimit
  /-- Every live block of non-zero size ends by the bump pointer. -/
  end_le : ∀ b ∈ live, 0 < b.size → b.addr + b.size ≤ m.next
  /-- Live blocks share no byte. -/
  apart : live.Pairwise Block.Apart

section Run

variable {m m' : Memory} {live : List Block}

lemma allocInv_fresh {pages : Nat} (h : create pages = .ok m) : AllocInv m [] := by
  unfold create at h
  split at h
  · cases h
  · cases h
    exact ⟨Nat.le_refl _, show reserved < addressLimit by decide, by simp, by simp, by simp,
      List.Pairwise.nil⟩

/-- **An allocation keeps the invariant**: the new block starts at or after the bump pointer,
so after every live block, and the bump pointer moves to its end. -/
lemma allocInv_alloc (hi : AllocInv m live) {size align p : Nat}
    (h : m.alloc size align = .ok (p, m')) (hnz : m'.next ≠ 0) :
    AllocInv m' (⟨p, size⟩ :: live) := by
  obtain ⟨hlt, rfl, hnext⟩ := alloc_of_next_ne_zero h hnz
  have hstart := le_allocStart m align
  have hreserved := hi.next_ge
  refine ⟨by omega, by omega, ?_, ?_, ?_, ?_⟩
  · intro b hb
    rcases List.mem_cons.mp hb with rfl | hb
    · exact le_trans hreserved hstart
    · exact hi.addr_ge b hb
  · intro b hb
    rcases List.mem_cons.mp hb with rfl | hb
    · exact hlt
    · exact hi.end_lt b hb
  · intro b hb hpos
    rcases List.mem_cons.mp hb with rfl | hb
    · exact le_of_eq hnext.symm
    · have := hi.end_le b hb hpos
      omega
  · refine List.pairwise_cons.mpr ⟨fun b hb => ?_, hi.apart⟩
    -- a live block of non-zero size ends by the bump pointer, hence by the new start
    by_cases hpos : 0 < b.size
    · have := hi.end_le b hb hpos
      exact Or.inr (Or.inr (Or.inr (by simp only; omega)))
    · exact Or.inr (Or.inl (by omega))

/-- A live block shares no byte with any other live block. -/
lemma AllocInv.apart_of_erase (hi : AllocInv m live) {b : Block}
    (hb : b ∈ live) : ∀ q ∈ live.erase b, b.Apart q := by
  have hperm := List.perm_cons_erase hb
  have hpw := (hperm.pairwise_iff Block.Apart.symm).mp hi.apart
  exact (List.pairwise_cons.mp hpw).1

/-- **Freeing a live block keeps the invariant**: the bump pointer moves back only to a block
that ends at it, and every other live block of non-zero size ends by that block's start. -/
lemma allocInv_free (hi : AllocInv m live) {b : Block} (hb : b ∈ live) :
    AllocInv (m.free b.addr b.size) (live.erase b) := by
  have hsub : ∀ q ∈ live.erase b, q ∈ live := fun q hq => List.mem_of_mem_erase hq
  have hapart := hi.apart.sublist (List.erase_sublist : List.Sublist (live.erase b) live)
  unfold free
  split
  · rename_i hcond
    -- the freed block ends where the bump pointer stands
    have hend : b.addr + b.size = m.next := by
      rw [Nat.mod_eq_of_lt (hi.end_lt b hb)] at hcond
      exact hcond.2
    refine ⟨hi.addr_ge b hb, by have := hi.end_lt b hb; simp only; omega,
      fun q hq => hi.addr_ge q (hsub q hq), fun q hq => hi.end_lt q (hsub q hq), ?_, hapart⟩
    intro q hq hpos
    have hq_le := hi.end_le q (hsub q hq) hpos
    simp only
    rcases hi.apart_of_erase hb q hq with h0 | h0 | h0 | h0 <;> omega
  · exact ⟨hi.next_ge, hi.next_lt, fun q hq => hi.addr_ge q (hsub q hq),
      fun q hq => hi.end_lt q (hsub q hq), fun q hq => hi.end_le q (hsub q hq), hapart⟩

/-- **Every run keeps the invariant.** -/
lemma allocInv_of_run (h : AllocRun m live) : AllocInv m live := by
  induction h with
  | fresh hc => exact allocInv_fresh hc
  | alloc _ ha hnz ih => exact allocInv_alloc ih ha hnz
  | free _ hb ih => exact allocInv_free ih hb

end Run

/-! ## The contract -/

/-- **The contract of the bump allocator** in a state with live blocks `live`. -/
structure BumpContract (m : Memory) (live : List Block) : Prop where
  /-- The bump pointer is past every live block of non-zero size. -/
  used_covers : ∀ b ∈ live, 0 < b.size → b.addr + b.size ≤ m.next
  /-- A block handed out that does not end at exactly 2^32 lies past the reserved bytes, is
  aligned, lies inside the memory, reads as zeros, and starts after every live block of non-zero
  size. -/
  alloc_ok : ∀ size align p m', m.alloc size align = .ok (p, m') → m'.next ≠ 0 →
    reserved ≤ p ∧ allocAlign align ∣ p ∧ p + size ≤ m'.size ∧
      m'.read p size = .ok (List.replicate size 0) ∧
      ∀ b ∈ live, 0 < b.size → b.addr + b.size ≤ p
  /-- An allocation fails exactly when its alignment is not a power of two or the block would
  end past 2^32; a failed call hands back no memory, so the bump pointer and the bytes stay as
  they were. -/
  alloc_error : ∀ size align, (∃ e, m.alloc size align = .error e) ↔
    ¬ (allocAlign align).isPowerOfTwo ∨ addressLimit < allocStart m align + size

/-- An invariant state meets the contract. -/
lemma AllocInv.contract {live : List Block} (hi : AllocInv m live) : BumpContract m live where
  used_covers := hi.end_le
  alloc_ok size align p m' h hnz := by
    have hread := (alloc_eq_ok h).2.2.2.2
    obtain ⟨-, rfl, -⟩ := alloc_of_next_ne_zero h hnz
    have hstart := le_allocStart m align
    refine ⟨le_trans hi.next_ge hstart, allocAlign_dvd_allocStart m align,
      fits_of_read_eq_ok hread, hread, fun b hb hpos => ?_⟩
    have := hi.end_le b hb hpos
    omega
  alloc_error _ _ := alloc_eq_error_iff

/-- **The bump allocator keeps its contract** along every run of calls from a fresh memory in
which every `free` names a live block and no block ends at exactly 2^32. -/
theorem bump_allocator_contract {m : Memory} {live : List Block} (h : AllocRun m live) :
    BumpContract m live :=
  (allocInv_of_run h).contract

/-- A fresh page with a block of 16 bytes handed out at address 8. -/
theorem bump_allocator_contract_one_block :
    AllocRun ⟨allocBytes ⟨ByteArray.mk (Array.replicate (1 * pageSize) 0), reserved⟩ 8 16, 24⟩
        [⟨8, 16⟩] ∧
      BumpContract ⟨allocBytes ⟨ByteArray.mk (Array.replicate (1 * pageSize) 0), reserved⟩ 8 16, 24⟩
        [⟨8, 16⟩] := by
  have hfresh : AllocRun ⟨ByteArray.mk (Array.replicate (1 * pageSize) 0), reserved⟩ [] :=
    AllocRun.fresh (show create 1 = .ok _ from rfl)
  have hstart : allocStart ⟨ByteArray.mk (Array.replicate (1 * pageSize) 0), reserved⟩ 8 = 8 := rfl
  have halloc : alloc ⟨ByteArray.mk (Array.replicate (1 * pageSize) 0), reserved⟩ 16 8 =
      .ok (8, ⟨allocBytes ⟨ByteArray.mk (Array.replicate (1 * pageSize) 0), reserved⟩ 8 16, 24⟩) := by
    rw [alloc_eq, hstart]
    rfl
  have hrun := AllocRun.alloc hfresh halloc (show (24 : Nat) ≠ 0 by decide)
  exact ⟨hrun, bump_allocator_contract hrun⟩

/-! ## Where the contract stops -/

section Defects

variable {m m' : Memory} {size align p : Nat}

/-- **A block that ends at exactly 2^32 wraps the bump pointer to 0**, and then an empty block
is handed out at address 0, the address that stands for no block. -/
theorem alloc_at_wrapped_next (h : m.alloc size align = .ok (p, m'))
    (hend : allocStart m align + size = addressLimit) :
    m'.next = 0 ∧ ∃ m'', m'.alloc 0 1 = .ok (0, m'') := by
  have hnext : m'.next = 0 := by
    rw [(alloc_eq_ok h).2.2.2.1, hend, Nat.mod_self]
  have hstart : allocStart m' 1 = 0 := by
    simp only [allocStart, hnext]
    exact ceilMultiple_eq_self (one_le_allocAlign 1) (Nat.dvd_zero _)
  refine ⟨hnext, ⟨allocBytes m' 0 0, 0⟩, ?_⟩
  rw [alloc_eq, hstart]
  rfl

/-- **`free` takes a block back by its end only**: in any state of a run, after a block of
non-zero size and then an empty block right behind it, freeing the first block moves the bump
pointer back to its start, below the empty block, which is still live. -/
theorem free_before_empty_block {live : List Block} (hr : AllocRun m live) {m₁ m₂ : Memory}
    {q : Nat} (h₁ : m.alloc size align = .ok (p, m₁)) (hnz : m₁.next ≠ 0) (hpos : 0 < size)
    (h₂ : m₁.alloc 0 1 = .ok (q, m₂)) :
    q = p + size ∧ p < q ∧ (m₂.free p size).next = p := by
  have hi := allocInv_of_run hr
  obtain ⟨hlt, rfl, hnext₁⟩ := alloc_of_next_ne_zero h₁ hnz
  -- the empty block goes right at the bump pointer, the end of the first block
  have hstart : allocStart m₁ 1 = allocStart m align + size := by
    simp only [allocStart, hnext₁]
    exact ceilMultiple_eq_self (one_le_allocAlign 1) (Nat.one_dvd _)
  obtain ⟨-, -, hq, hnext₂, -⟩ := alloc_eq_ok h₂
  rw [hstart] at hq hnext₂
  rw [Nat.add_zero] at hnext₂
  rw [Nat.mod_eq_of_lt hlt] at hq hnext₂
  have hp : allocStart m align ≠ 0 := by
    have := le_allocStart m align
    have := hi.next_ge
    simp only [reserved] at *
    omega
  refine ⟨hq, by omega, ?_⟩
  unfold free
  rw [if_pos ⟨hp, by rw [Nat.mod_eq_of_lt hlt, hnext₂]⟩]

end Defects

end Memory

end RecordLayout
