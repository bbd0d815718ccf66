import Mathlib
import RecordLayout.Layout.Placement

/-!
# Placement against its reference

The reference placement lays slots out with unbounded offsets.  A slot that starts a run (a
full-width slot, or a bitfield that is first or follows a full-width slot) goes to the least
multiple of its alignment in bits at or after the end of the slot before; a bitfield after a
bitfield goes right after it.  The alignment is the largest slot alignment, at least 1, and the
size is the least multiple of the alignment that holds the bits used, in whole bytes.

`place` computes the same thing in 64-bit words, and only the addition of a slot's bits to its
offset is checked.  So the two agree as long as no rounding step wraps, which is the case while
the reference ends at least a byte below 2^64.

* `ceilMultiple x m` is the least multiple of `m` at least `x` (`ceilMultiple_spec`).
* `refOffsets`, `refEnd`, `refAlign` and `referencePlacement` make up the reference.
* `Sound slots p`: one offset per slot, bit ranges disjoint and in input order, all inside the
  record, each slot that starts a run aligned to its own type.
* **`place_agrees_with_reference`**: while the reference ends at least a byte below 2^64, `place`
  returns the reference placement when its size fits in 32 bits and the compile-phase overflow
  of the record size otherwise; every placement it returns is `Sound`.
* **`place_wraps_in_last_byte`**: when the reference ends inside the last byte below 2^64,
  rounding that end up to a whole byte wraps to 0, and `place` accepts the slots with size 0
  although the reference size is far beyond 32 bits.
* **`place_wraps_run_start`**: rounding the start of a run up wraps too, and then two slots
  share bit 0.
-/

namespace RecordLayout

/-! ## Rounding up -/

/-- The least multiple of `m` that is at least `x`, for `m ≥ 1`. -/
def ceilMultiple (x m : Nat) : Nat := (x + m - 1) / m * m

lemma le_ceilMultiple (x : Nat) {m : Nat} (hm : 1 ≤ m) : x ≤ ceilMultiple x m := by
  have hdiv := Nat.div_add_mod (x + m - 1) m
  have hmod := Nat.mod_lt (x + m - 1) (show 0 < m by omega)
  rw [ceilMultiple, Nat.mul_comm]
  omega

lemma dvd_ceilMultiple (x m : Nat) : m ∣ ceilMultiple x m := Nat.dvd_mul_left m _

lemma ceilMultiple_le {x m y : Nat} (hm : 1 ≤ m) (hy : m ∣ y) (hxy : x ≤ y) :
    ceilMultiple x m ≤ y := by
  obtain ⟨k, rfl⟩ := hy
  have hq : (x + m - 1) / m < k + 1 := by
    rw [Nat.div_lt_iff_lt_mul (by omega), Nat.add_mul, Nat.one_mul, Nat.mul_comm k]
    omega
  rw [ceilMultiple, Nat.mul_comm m k]
  exact Nat.mul_le_mul_right m (by omega)

/-- **`ceilMultiple x m` is the least multiple of `m` at least `x`.** -/
theorem ceilMultiple_spec (x : Nat) {m : Nat} (hm : 1 ≤ m) :
    m ∣ ceilMultiple x m ∧ x ≤ ceilMultiple x m ∧
      ∀ y, m ∣ y → x ≤ y → ceilMultiple x m ≤ y :=
  ⟨dvd_ceilMultiple x m, le_ceilMultiple x hm, fun _ hy hxy => ceilMultiple_le hm hy hxy⟩

lemma ceilMultiple_eq_self {x m : Nat} (hm : 1 ≤ m) (hx : m ∣ x) : ceilMultiple x m = x :=
  Nat.le_antisymm (ceilMultiple_le hm hx (Nat.le_refl x)) (le_ceilMultiple x hm)

lemma alignUp_eq_ceilMultiple (x : Nat) {m : Nat} (hm : 1 ≤ m) : alignUp x m = ceilMultiple x m := by
  unfold alignUp
  split
  · have hm1 : m = 1 := by omega
    subst hm1
    simp [ceilMultiple]
  · rfl

lemma bitAlign_of_pos {a : Nat} (ha : 1 ≤ a) : bitAlign a = 8 * a := by
  rw [bitAlign, if_neg (by omega), Nat.mul_comm]

/-! ## The reference -/

/-- Where the reference places a slot after `e` bits. -/
def refStart (s : Slot) (prev : Bool) (e : Nat) : Nat :=
  if s.isBitfield && prev then e else ceilMultiple e (8 * s.align)

/-- The reference offsets of `slots` placed after `e` bits, the slot before being a bitfield or
not. -/
def refOffsets : Nat → Bool → List Slot → List Nat
  | _, _, [] => []
  | e, prev, s :: rest =>
    refStart s prev e :: refOffsets (refStart s prev e + s.bits) s.isBitfield rest

/-- The bit at which the reference placement of `slots` after `e` bits ends. -/
def refEnd : Nat → Bool → List Slot → Nat
  | e, _, [] => e
  | e, prev, s :: rest => refEnd (refStart s prev e + s.bits) s.isBitfield rest

/-- The largest alignment of the slots, and 1 when none is larger. -/
def refAlign (slots : List Slot) : Nat := (slots.map (·.align)).foldr max 1

/-- **The reference placement** of a record's slots. -/
def referencePlacement (slots : List Slot) : Placement :=
  ⟨refOffsets 0 false slots,
    ceilMultiple ((refEnd 0 false slots + 7) / 8) (refAlign slots), refAlign slots⟩

/-- Each slot with whether the slot before it is a bitfield. -/
def withPrev : Bool → List Slot → List (Slot × Bool)
  | _, [] => []
  | prev, s :: rest => (s, prev) :: withPrev s.isBitfield rest

/-- **A sound placement** of slots: one offset per slot, bit ranges disjoint and in input order,
all inside the record, and every slot that starts a run aligned to its own type. -/
structure Sound (slots : List Slot) (p : Placement) : Prop where
  length : p.offsets.length = slots.length
  ordered : (slots.zip p.offsets).Pairwise fun a b => a.2 + a.1.bits ≤ b.2
  inside : ∀ a ∈ slots.zip p.offsets, a.2 + a.1.bits ≤ 8 * p.size
  aligned : ∀ a ∈ (withPrev false slots).zip p.offsets,
    !(a.1.1.isBitfield && a.1.2) → 8 * a.1.1.align ∣ a.2

/-! ## Facts of the reference -/

section Reference

variable {slots : List Slot}

lemma le_refStart {s : Slot} (hs : 1 ≤ s.align) (prev : Bool) (e : Nat) : e ≤ refStart s prev e := by
  unfold refStart
  split
  · exact Nat.le_refl e
  · exact le_ceilMultiple e (by omega)

lemma le_refEnd (halign : ∀ s ∈ slots, 1 ≤ s.align) (e : Nat) (prev : Bool) :
    e ≤ refEnd e prev slots := by
  induction slots generalizing e prev with
  | nil => exact Nat.le_refl e
  | cons s rest ih =>
    have hs := halign s List.mem_cons_self
    have hrest : ∀ t ∈ rest, 1 ≤ t.align := fun t ht => halign t (List.mem_cons_of_mem s ht)
    calc e ≤ refStart s prev e := le_refStart hs prev e
      _ ≤ refStart s prev e + s.bits := Nat.le_add_right _ _
      _ ≤ refEnd (refStart s prev e + s.bits) s.isBitfield rest := ih hrest _ _

@[simp] lemma refOffsets_length (e : Nat) (prev : Bool) :
    (refOffsets e prev slots).length = slots.length := by
  induction slots generalizing e prev with
  | nil => rfl
  | cons s rest ih => simp [refOffsets, ih]

lemma zip_refOffsets_cons (s : Slot) (rest : List Slot) (e : Nat) (prev : Bool) :
    (s :: rest).zip (refOffsets e prev (s :: rest)) =
      (s, refStart s prev e) ::
        rest.zip (refOffsets (refStart s prev e + s.bits) s.isBitfield rest) := rfl

/-- Every reference offset is at or after the bit the placement starts from. -/
lemma le_of_mem_refOffsets (halign : ∀ s ∈ slots, 1 ≤ s.align) {e : Nat} {prev : Bool} :
    ∀ a ∈ slots.zip (refOffsets e prev slots), e ≤ a.2 := by
  induction slots generalizing e prev with
  | nil => simp [refOffsets]
  | cons s rest ih =>
    have hs := halign s List.mem_cons_self
    have hrest : ∀ t ∈ rest, 1 ≤ t.align := fun t ht => halign t (List.mem_cons_of_mem s ht)
    intro a ha
    rw [zip_refOffsets_cons, List.mem_cons] at ha
    rcases ha with rfl | ha
    · exact le_refStart hs prev e
    · exact Nat.le_trans (le_refStart hs prev e)
        (Nat.le_trans (Nat.le_add_right _ _) (ih hrest a ha))

/-- Every slot of the reference ends by the end of the placement. -/
lemma end_le_refEnd (halign : ∀ s ∈ slots, 1 ≤ s.align) {e : Nat} {prev : Bool} :
    ∀ a ∈ slots.zip (refOffsets e prev slots), a.2 + a.1.bits ≤ refEnd e prev slots := by
  induction slots generalizing e prev with
  | nil => simp [refOffsets]
  | cons s rest ih =>
    have hrest : ∀ t ∈ rest, 1 ≤ t.align := fun t ht => halign t (List.mem_cons_of_mem s ht)
    intro a ha
    rw [zip_refOffsets_cons, List.mem_cons] at ha
    rcases ha with rfl | ha
    · exact le_refEnd hrest _ _
    · exact ih hrest a ha

/-- The reference bit ranges follow one another in input order. -/
lemma refOffsets_ordered (halign : ∀ s ∈ slots, 1 ≤ s.align) (e : Nat) (prev : Bool) :
    (slots.zip (refOffsets e prev slots)).Pairwise fun a b => a.2 + a.1.bits ≤ b.2 := by
  induction slots generalizing e prev with
  | nil => simp [refOffsets]
  | cons s rest ih =>
    have hrest : ∀ t ∈ rest, 1 ≤ t.align := fun t ht => halign t (List.mem_cons_of_mem s ht)
    rw [zip_refOffsets_cons, List.pairwise_cons]
    exact ⟨fun b hb => le_of_mem_refOffsets hrest b hb, ih hrest _ _⟩

/-- The reference puts every slot that starts a run on a multiple of its alignment. -/
lemma refOffsets_aligned (e : Nat) (prev : Bool) :
    ∀ a ∈ (withPrev prev slots).zip (refOffsets e prev slots),
      !(a.1.1.isBitfield && a.1.2) → 8 * a.1.1.align ∣ a.2 := by
  induction slots generalizing e prev with
  | nil => simp [withPrev]
  | cons s rest ih =>
    intro a ha hrun
    simp only [withPrev, refOffsets, List.zip_cons_cons, List.mem_cons] at ha
    rcases ha with rfl | ha
    · have hstart : refStart s prev e = ceilMultiple e (8 * s.align) := by
        simp only [Bool.not_eq_true'] at hrun
        simp [refStart, hrun]
      simpa [hstart] using dvd_ceilMultiple e (8 * s.align)
    · exact ih _ _ a ha hrun

lemma one_le_refAlign (slots : List Slot) : 1 ≤ refAlign slots := by
  induction slots with
  | nil => exact Nat.le_refl 1
  | cons s rest ih =>
    simp only [refAlign, List.map_cons, List.foldr_cons] at ih ⊢
    omega

/-- The running maximum of `placeFrom` is the reference alignment. -/
lemma foldl_max_align (slots : List Slot) {m : Nat} (hm : 1 ≤ m) :
    slots.foldl (fun a s => max a s.align) m = max m (refAlign slots) := by
  induction slots generalizing m with
  | nil => simp [refAlign]; omega
  | cons s rest ih =>
    rw [List.foldl_cons, ih (by omega)]
    simp only [refAlign, List.map_cons, List.foldr_cons]
    omega

lemma foldl_max_align_one (slots : List Slot) :
    slots.foldl (fun a s => max a s.align) 1 = refAlign slots := by
  rw [foldl_max_align slots (Nat.le_refl 1)]
  have := one_le_refAlign slots
  omega

/-- **The reference placement is sound.** -/
theorem referencePlacement_sound (halign : ∀ s ∈ slots, 1 ≤ s.align) :
    Sound slots (referencePlacement slots) where
  length := refOffsets_length 0 false
  ordered := refOffsets_ordered halign 0 false
  inside := by
    intro a ha
    have hend := end_le_refEnd halign a ha
    have hbytes := le_ceilMultiple ((refEnd 0 false slots + 7) / 8) (one_le_refAlign slots)
    simp only [referencePlacement]
    omega
  aligned := refOffsets_aligned 0 false

end Reference

/-! ## Placement in words -/

section Words

variable {slots : List Slot}

lemma bitLimit_eq : bitLimit = 2 ^ 64 := rfl

/-- While the bits stay a byte below 2^64, rounding them up to whole bytes does not wrap. -/
lemma bytesFor_of_lt {bits : Nat} (h : bits + 8 ≤ bitLimit) : bytesFor bits = (bits + 7) / 8 := by
  simp only [bytesFor, alignWord, alignUp, bitLimit_eq, show ¬ (8 ≤ 1) by decide, if_false] at h ⊢
  omega

/-- **`placeFrom` follows the reference** as long as the reference ends below 2^64: no rounding
step wraps and no addition overflows. -/
lemma placeFrom_eq_ref (halign : ∀ s ∈ slots, 1 ≤ s.align) (e : Nat) (prev : Bool) (m : Nat)
    (hfit : refEnd e prev slots < bitLimit) :
    placeFrom e prev m slots =
      .ok (refOffsets e prev slots, refEnd e prev slots,
        slots.foldl (fun a s => max a s.align) m) := by
  induction slots generalizing e prev m with
  | nil => rfl
  | cons s rest ih =>
    have hs := halign s List.mem_cons_self
    have hrest : ∀ t ∈ rest, 1 ≤ t.align := fun t ht => halign t (List.mem_cons_of_mem s ht)
    -- the slot ends by the end of the reference, hence below 2^64
    have hend : refStart s prev e + s.bits < bitLimit :=
      Nat.lt_of_le_of_lt (le_refEnd hrest _ _) hfit
    have hstart : s.start prev e = refStart s prev e := by
      by_cases hrun : (s.isBitfield && prev) = true
      · simp only [Slot.start, refStart, hrun, if_true]
      · have hlt : ceilMultiple e (8 * s.align) < bitLimit := by
          simp only [refStart, hrun, Bool.false_eq_true, if_false] at hend
          omega
        simp only [Slot.start, refStart, hrun, alignWord, bitAlign_of_pos hs,
          alignUp_eq_ceilMultiple e (show 1 ≤ 8 * s.align by omega), Nat.mod_eq_of_lt hlt,
          Bool.false_eq_true, if_false]
    have hcheck : ¬ (refStart s prev e + s.bits ≥ bitLimit) := Nat.not_le.2 hend
    simp only [placeFrom, hstart, hcheck, if_false, ih hrest _ _ (max m s.align) hfit, refOffsets,
      refEnd, List.foldl_cons]

/-- **Placement equals the reference** while the reference ends a byte below 2^64: the
reference placement when its size fits in 32 bits, the compile-phase overflow of the record
size otherwise. -/
theorem place_eq_reference (halign : ∀ s ∈ slots, 1 ≤ s.align)
    (hend : refEnd 0 false slots + 8 ≤ bitLimit) :
    place slots =
      if 0xFFFFFFFF < (referencePlacement slots).size then
        .error (Failure.overflow .compile [] (toString (referencePlacement slots).size)
          "record size")
      else .ok (referencePlacement slots) := by
  simp only [place, placeFrom_eq_ref halign 0 false 1 (by omega),
    foldl_max_align_one, bytesFor_of_lt hend,
    alignUp_eq_ceilMultiple _ (one_le_refAlign slots), referencePlacement]
  rfl

/-- **Every placement that `place` returns is sound** while the reference ends a byte below
2^64. -/
lemma sound_of_place (halign : ∀ s ∈ slots, 1 ≤ s.align)
    (hend : refEnd 0 false slots + 8 ≤ bitLimit) {p : Placement} (hp : place slots = .ok p) :
    Sound slots p := by
  rw [place_eq_reference halign hend] at hp
  split at hp
  · cases hp
  · cases hp
    exact referencePlacement_sound halign

/-- **Placement agrees with its reference** while the reference ends a byte below 2^64: it
fails with the compile-phase overflow of the record size exactly when the reference size does
not fit in 32 bits, returns the reference placement otherwise, and every placement it returns
is sound. -/
theorem place_agrees_with_reference (slots : List Slot) (halign : ∀ s ∈ slots, 1 ≤ s.align)
    (hend : refEnd 0 false slots + 8 ≤ bitLimit) :
    place slots =
        (if 0xFFFFFFFF < (referencePlacement slots).size then
          .error (Failure.overflow .compile [] (toString (referencePlacement slots).size)
            "record size")
        else .ok (referencePlacement slots)) ∧
      ∀ p, place slots = .ok p → Sound slots p :=
  ⟨place_eq_reference halign hend, fun _ => sound_of_place halign hend⟩

/-- An `int32_t`, a bitfield of three bits and a `uint64_t`. -/
theorem place_agrees_with_reference_mixed :
    (∀ s ∈ [⟨"x", 4, 4, 0⟩, ⟨"f", 1, 1, 3⟩, ⟨"y", 8, 8, 0⟩], 1 ≤ Slot.align s) ∧
      refEnd 0 false [⟨"x", 4, 4, 0⟩, ⟨"f", 1, 1, 3⟩, ⟨"y", 8, 8, 0⟩] + 8 ≤ bitLimit ∧
      (place [⟨"x", 4, 4, 0⟩, ⟨"f", 1, 1, 3⟩, ⟨"y", 8, 8, 0⟩] =
          (if 0xFFFFFFFF <
              (referencePlacement [⟨"x", 4, 4, 0⟩, ⟨"f", 1, 1, 3⟩, ⟨"y", 8, 8, 0⟩]).size then
            .error (Failure.overflow .compile []
              (toString (referencePlacement
                [⟨"x", 4, 4, 0⟩, ⟨"f", 1, 1, 3⟩, ⟨"y", 8, 8, 0⟩]).size) "record size")
          else .ok (referencePlacement [⟨"x", 4, 4, 0⟩, ⟨"f", 1, 1, 3⟩, ⟨"y", 8, 8, 0⟩])) ∧
        ∀ p, place [⟨"x", 4, 4, 0⟩, ⟨"f", 1, 1, 3⟩, ⟨"y", 8, 8, 0⟩] = .ok p →
          Sound [⟨"x", 4, 4, 0⟩, ⟨"f", 1, 1, 3⟩, ⟨"y", 8, 8, 0⟩] p) :=
  ⟨by decide, by decide, place_agrees_with_reference _ (by decide) (by decide)⟩

/-! ## The wrap in the last byte -/

lemma bytesFor_in_last_byte {bits : Nat} (hlow : bitLimit < bits + 8) (hhigh : bits < bitLimit) :
    bytesFor bits = 0 := by
  simp only [bytesFor, alignWord, alignUp, bitLimit_eq, show ¬ (8 ≤ 1) by decide, if_false]
    at hlow hhigh ⊢
  omega

/-- **Placement wraps in the last byte.**  When the reference ends inside the last byte below
2^64, no offset wraps but the size in whole bytes does: `place` accepts the slots with size 0,
while the reference size is beyond 32 bits. -/
theorem place_wraps_in_last_byte (halign : ∀ s ∈ slots, 1 ≤ s.align)
    (hlow : bitLimit < refEnd 0 false slots + 8) (hhigh : refEnd 0 false slots < bitLimit) :
    0xFFFFFFFF < (referencePlacement slots).size ∧
      place slots = .ok ⟨refOffsets 0 false slots, 0, refAlign slots⟩ := by
  constructor
  · have := le_ceilMultiple ((refEnd 0 false slots + 7) / 8) (one_le_refAlign slots)
    simp only [referencePlacement, bitLimit_eq] at hlow ⊢
    omega
  · have hzero : alignUp 0 (refAlign slots) = 0 := by
      rw [alignUp_eq_ceilMultiple 0 (one_le_refAlign slots)]
      exact Nat.le_zero.1 (ceilMultiple_le (one_le_refAlign slots) (Nat.dvd_zero _) (Nat.le_refl 0))
    simp only [place, placeFrom_eq_ref halign 0 false 1 hhigh,
      foldl_max_align_one, bytesFor_in_last_byte hlow hhigh, hzero]
    rfl

/-- A run of whole-byte slots aligned to one byte, started on a byte boundary, ends after the
sum of their bits. -/
lemma refEnd_replicate_append {s : Slot} (hs : s.width = 0) (ha : s.align = 1) (rest : List Slot)
    (n : Nat) {e : Nat} (he : 8 ∣ e) (prev : Bool) :
    refEnd e prev (List.replicate (n + 1) s ++ rest) = refEnd (e + (n + 1) * s.bits) false rest := by
  have hflag : s.isBitfield = false := by simp [Slot.isBitfield, hs]
  have hbits : s.bits = s.size * 8 := by simp [Slot.bits, hs]
  have hstart : ∀ e' prev', 8 ∣ e' → refStart s prev' e' = e' := by
    intro e' prev' he'
    simp only [refStart, hflag, Bool.false_and, Bool.false_eq_true, if_false, ha]
    exact ceilMultiple_eq_self (by omega) he'
  induction n generalizing e prev with
  | zero =>
    simp only [Nat.zero_add, List.replicate_one, List.singleton_append, refEnd, hstart e prev he,
      hflag, Nat.one_mul]
  | succ n ih =>
    have he' : 8 ∣ e + s.bits := Nat.dvd_add he (by rw [hbits]; exact Nat.dvd_mul_left 8 _)
    rw [List.replicate_succ, List.cons_append, refEnd, hstart e prev he, hflag, ih he']
    congr 1
    rw [Nat.add_mul (n + 1) 1, Nat.one_mul]
    omega

/-- `2^30 - 1` slots of 2 GiB, one of 2 GiB less a byte, all aligned to a byte, and a bitfield
of seven bits: the reference ends at bit 2^64 - 1, and the layout is accepted with size 0. -/
theorem place_wraps_in_last_byte_two_gib :
    (∀ s ∈ List.replicate (2 ^ 30 - 1) ⟨"a", 2 ^ 31, 1, 0⟩ ++
        [⟨"b", 2 ^ 31 - 1, 1, 0⟩, ⟨"c", 1, 1, 7⟩], 1 ≤ Slot.align s) ∧
      bitLimit < refEnd 0 false (List.replicate (2 ^ 30 - 1) ⟨"a", 2 ^ 31, 1, 0⟩ ++
        [⟨"b", 2 ^ 31 - 1, 1, 0⟩, ⟨"c", 1, 1, 7⟩]) + 8 ∧
      refEnd 0 false (List.replicate (2 ^ 30 - 1) ⟨"a", 2 ^ 31, 1, 0⟩ ++
        [⟨"b", 2 ^ 31 - 1, 1, 0⟩, ⟨"c", 1, 1, 7⟩]) < bitLimit ∧
      0xFFFFFFFF < (referencePlacement (List.replicate (2 ^ 30 - 1) ⟨"a", 2 ^ 31, 1, 0⟩ ++
        [⟨"b", 2 ^ 31 - 1, 1, 0⟩, ⟨"c", 1, 1, 7⟩])).size ∧
      place (List.replicate (2 ^ 30 - 1) ⟨"a", 2 ^ 31, 1, 0⟩ ++
          [⟨"b", 2 ^ 31 - 1, 1, 0⟩, ⟨"c", 1, 1, 7⟩]) =
        .ok ⟨refOffsets 0 false (List.replicate (2 ^ 30 - 1) ⟨"a", 2 ^ 31, 1, 0⟩ ++
            [⟨"b", 2 ^ 31 - 1, 1, 0⟩, ⟨"c", 1, 1, 7⟩]), 0,
          refAlign (List.replicate (2 ^ 30 - 1) ⟨"a", 2 ^ 31, 1, 0⟩ ++
            [⟨"b", 2 ^ 31 - 1, 1, 0⟩, ⟨"c", 1, 1, 7⟩])⟩ := by
  have halign : ∀ s ∈ List.replicate (2 ^ 30 - 1) (⟨"a", 2 ^ 31, 1, 0⟩ : Slot) ++
      [⟨"b", 2 ^ 31 - 1, 1, 0⟩, ⟨"c", 1, 1, 7⟩], 1 ≤ s.align := by
    intro s hs
    simp only [List.mem_append, List.mem_replicate, List.mem_cons, List.not_mem_nil] at hs
    rcases hs with ⟨-, rfl⟩ | rfl | rfl | hs
    all_goals first | exact Nat.le_refl 1 | exact hs.elim
  have hend : refEnd 0 false (List.replicate (2 ^ 30 - 1) (⟨"a", 2 ^ 31, 1, 0⟩ : Slot) ++
      [⟨"b", 2 ^ 31 - 1, 1, 0⟩, ⟨"c", 1, 1, 7⟩]) = 2 ^ 64 - 1 := by
    rw [show 2 ^ 30 - 1 = (2 ^ 30 - 2) + 1 by decide,
      refEnd_replicate_append rfl rfl _ _ (Nat.dvd_zero 8) false]
    decide
  have hlow : bitLimit < refEnd 0 false (List.replicate (2 ^ 30 - 1) (⟨"a", 2 ^ 31, 1, 0⟩ : Slot) ++
      [⟨"b", 2 ^ 31 - 1, 1, 0⟩, ⟨"c", 1, 1, 7⟩]) + 8 := by
    rw [hend]; decide
  have hhigh : refEnd 0 false (List.replicate (2 ^ 30 - 1) (⟨"a", 2 ^ 31, 1, 0⟩ : Slot) ++
      [⟨"b", 2 ^ 31 - 1, 1, 0⟩, ⟨"c", 1, 1, 7⟩]) < bitLimit := by
    rw [hend]; decide
  exact ⟨halign, hlow, hhigh, place_wraps_in_last_byte halign hlow hhigh⟩

/-! ## A run start that wraps -/

/-- Placing a list cut in two places the first part, then the second from where the first
ended. -/
lemma placeFrom_append {xs : List Slot} {e : Nat} {prev : Bool} {m : Nat} {offs : List Nat}
    {used a : Nat} (h : placeFrom e prev m xs = .ok (offs, used, a)) (ys : List Slot) :
    placeFrom e prev m (xs ++ ys) =
      (placeFrom used ((xs.getLast?.map Slot.isBitfield).getD prev) a ys).map
        fun q => (offs ++ q.1, q.2) := by
  induction xs generalizing e prev m offs with
  | nil =>
    cases h
    simp only [List.nil_append, List.getLast?_nil, Option.map_none, Option.getD_none]
    cases placeFrom used prev a ys <;> rfl
  | cons s rest ih =>
    simp only [placeFrom] at h
    split at h
    · cases h
    · rename_i hfit
      split at h
      · rename_i offs' used' a' hrest
        cases h
        -- the flag the second part starts from is that of the last slot of the first
        have hflag : ((s :: rest).getLast?.map Slot.isBitfield).getD prev =
            (rest.getLast?.map Slot.isBitfield).getD s.isBitfield := by
          rw [List.getLast?_cons]
          cases rest.getLast? <;> rfl
        rw [List.cons_append, hflag]
        simp only [placeFrom, hfit, if_false, ih hrest]
        cases placeFrom used ((rest.getLast?.map Slot.isBitfield).getD s.isBitfield) a ys <;> rfl
      · cases h

lemma refAlign_le {slots : List Slot} {k : Nat} (hk : 1 ≤ k) (h : ∀ s ∈ slots, s.align ≤ k) :
    refAlign slots ≤ k := by
  induction slots with
  | nil => exact hk
  | cons s rest ih =>
    simp only [refAlign, List.map_cons, List.foldr_cons] at ih ⊢
    exact Nat.max_le.2 ⟨h s List.mem_cons_self, ih fun t ht => h t (List.mem_cons_of_mem s ht)⟩

/-- **A run start wraps to bit 0.**  A `uint64_t`, `2^30 - 1` slots of 2 GiB and one of 2 GiB
less nine bytes, all aligned to a byte, end at bit 2^64 - 8.  A second `uint64_t` starts a run
there, rounded up to a multiple of 64 bits, which wraps to bit 0: `place` accepts the slots with
size 8, the two `uint64_t` both at bit 0. -/
theorem place_wraps_run_start :
    ∃ p, place (⟨"a", 8, 8, 0⟩ :: (List.replicate (2 ^ 30 - 1) ⟨"r", 2 ^ 31, 1, 0⟩ ++
        [⟨"q", 2 ^ 31 - 9, 1, 0⟩, ⟨"b", 8, 8, 0⟩])) = .ok p ∧
      p.offsets.head? = some 0 ∧ p.offsets.getLast? = some 0 ∧ p.size = 8 := by
  have hsplit : (⟨"a", 8, 8, 0⟩ :: (List.replicate (2 ^ 30 - 1) (⟨"r", 2 ^ 31, 1, 0⟩ : Slot) ++
      [⟨"q", 2 ^ 31 - 9, 1, 0⟩, ⟨"b", 8, 8, 0⟩])) =
      (⟨"a", 8, 8, 0⟩ :: (List.replicate (2 ^ 30 - 1) ⟨"r", 2 ^ 31, 1, 0⟩ ++
        [⟨"q", 2 ^ 31 - 9, 1, 0⟩])) ++ [⟨"b", 8, 8, 0⟩] := by
    simp only [List.cons_append, List.append_assoc, List.nil_append]
  -- the slots before the second `uint64_t`: aligned to a byte at most 8, ending at 2^64 - 8
  have halign : ∀ s ∈ (⟨"a", 8, 8, 0⟩ :: (List.replicate (2 ^ 30 - 1)
      (⟨"r", 2 ^ 31, 1, 0⟩ : Slot) ++ [⟨"q", 2 ^ 31 - 9, 1, 0⟩])), 1 ≤ s.align ∧ s.align ≤ 8 := by
    intro s hs
    simp only [List.mem_cons, List.mem_append, List.mem_replicate, List.not_mem_nil] at hs
    rcases hs with rfl | ⟨-, rfl⟩ | rfl | hs
    all_goals first | decide | exact hs.elim
  have hend : refEnd 0 false (⟨"a", 8, 8, 0⟩ :: (List.replicate (2 ^ 30 - 1)
      (⟨"r", 2 ^ 31, 1, 0⟩ : Slot) ++ [⟨"q", 2 ^ 31 - 9, 1, 0⟩])) = 2 ^ 64 - 8 := by
    rw [refEnd, show 2 ^ 30 - 1 = (2 ^ 30 - 2) + 1 by decide,
      refEnd_replicate_append rfl rfl _ _ (by decide) _]
    decide
  have hfirst := placeFrom_eq_ref (fun s hs => (halign s hs).1) 0 false 1
    (by rw [hend, bitLimit_eq]; decide)
  have hA := refAlign_le (by decide) (fun s hs => (halign s hs).2)
  rw [foldl_max_align_one, hend] at hfirst
  have hlast : (⟨"a", 8, 8, 0⟩ :: (List.replicate (2 ^ 30 - 1) (⟨"r", 2 ^ 31, 1, 0⟩ : Slot) ++
      [⟨"q", 2 ^ 31 - 9, 1, 0⟩])).getLast? = some ⟨"q", 2 ^ 31 - 9, 1, 0⟩ := by
    rw [List.getLast?_cons, List.getLast?_append]
    rfl
  -- the second `uint64_t`: the end 2^64 - 8 rounded up to 64 bits is 2^64, which wraps to 0
  have hstart : (⟨"b", 8, 8, 0⟩ : Slot).start false (2 ^ 64 - 8) = 0 := by decide
  have hsecond : placeFrom (2 ^ 64 - 8) false (refAlign (⟨"a", 8, 8, 0⟩ ::
      (List.replicate (2 ^ 30 - 1) (⟨"r", 2 ^ 31, 1, 0⟩ : Slot) ++ [⟨"q", 2 ^ 31 - 9, 1, 0⟩])))
      [⟨"b", 8, 8, 0⟩] = .ok ([0], 64, 8) := by
    simp only [placeFrom, hstart, bitLimit_eq]
    rw [if_neg (by decide), Nat.max_eq_right hA]
    rfl
  rw [hsplit]
  refine ⟨⟨refOffsets 0 false (⟨"a", 8, 8, 0⟩ :: (List.replicate (2 ^ 30 - 1)
      (⟨"r", 2 ^ 31, 1, 0⟩ : Slot) ++ [⟨"q", 2 ^ 31 - 9, 1, 0⟩])) ++ [0], 8, 8⟩, ?_, ?_, ?_, rfl⟩
  · have hflag : (⟨"q", 2 ^ 31 - 9, 1, 0⟩ : Slot).isBitfield = false := rfl
    have hsize : alignUp (bytesFor 64) 8 = 8 := by decide
    rw [place, placeFrom_append hfirst, hlast, Option.map_some, Option.getD_some, hflag, hsecond]
    simp only [Except.map, hsize, gt_iff_lt, show ¬ (4294967295 < 8) by decide, if_false]
  · simp only [refOffsets, List.cons_append, List.head?_cons]
    rfl
  · exact List.getLast?_concat

end Words

end RecordLayout
