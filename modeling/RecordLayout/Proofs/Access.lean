import Mathlib
import RecordLayout.Proofs.MemoryBits
import RecordLayout.Proofs.Names
import RecordLayout.Proofs.Placement

/-!
# Reading and writing one field

A field of a live view occupies the bits `[8 * addr + offset, 8 * addr + offset + bits)` of
its memory.  A bitfield is read and written through the whole bytes around it, a full-width
field as a little-endian number of its size; either way only the field's own bits count.

* **`Live.readRaw_eq_ok`**: a field reads as the window of the memory's number at its bits.
* **`Live.writeRaw_eq_ok`**: a write keeps the memory's size and replaces exactly the field's
  bits by the low bits of the value; so it keeps every other bit (`Live.writeRaw_keeps_bits`),
  and the field reads back the value (`Live.readRaw_writeRaw`).
* `Live.readRaw_congr`: whether a field can be read, and what it reads, depends only on the
  memory's size and the field's bits.
* In a placed record every full-width field starts on a byte boundary
  (`ResolvesNames.byte_aligned`), and while the placement does not wrap, the bit ranges of two
  fields are apart (`ResolvesNames.fields_apart`).
-/

namespace RecordLayout

/-- The bits of the field, counted from the start of the record, are those its slot places. -/
@[simp] lemma FieldInfo.slot_bits (f : FieldInfo) : f.slot.bits = f.bits := by
  simp [FieldInfo.slot, Slot.bits, FieldInfo.bits, Storage.bits]

/-- A field that is not a bitfield has no width of its own. -/
lemma FieldInfo.width_eq_zero {f : FieldInfo} (hb : ¬ f.isBitfield = true) : f.width = 0 := by
  simpa [FieldInfo.isBitfield] using hb

/-- A full-width field spans its whole storage. -/
lemma FieldInfo.bits_of_width_zero {f : FieldInfo} (hw : f.width = 0) :
    f.bits = 8 * f.storage.size := by
  simp [FieldInfo.bits, hw, Storage.bits, Nat.mul_comm]

namespace Live

variable (l : Live) (f : FieldInfo)

/-- The bytes a bitfield spans hold it: it starts `offset % 8` bits into the first one and
ends within the last. -/
lemma span_holds : f.offset % 8 + f.bits ≤ 8 * ((f.offset + f.bits + 7) / 8 - f.offset / 8) := by
  omega

/-- The window of a bitfield within the bytes it spans is its window in the memory. -/
lemma bitfield_window (N : Nat) :
    ofLE (leBytes ((f.offset + f.bits + 7) / 8 - f.offset / 8)
        (N / 2 ^ (8 * (l.addr + f.offset / 8)))) / 2 ^ (f.offset % 8) % 2 ^ f.bits =
      N / 2 ^ (8 * l.addr + f.offset) % 2 ^ f.bits := by
  rw [ofLE_leBytes, window_window _ (span_holds f)]
  congr 3
  omega

/-- The window of a full-width field, a whole number of bytes from a byte boundary. -/
lemma fullWidth_window (hw : f.width = 0) (hal : f.offset % 8 = 0) (N : Nat) :
    N / 2 ^ (8 * (l.addr + f.offset / 8)) % 2 ^ (8 * f.storage.size) =
      N / 2 ^ (8 * l.addr + f.offset) % 2 ^ f.bits := by
  rw [FieldInfo.bits_of_width_zero hw]
  congr 3
  omega

/-- Whether a field can be read depends only on the memory's size, and what it reads is the
window at its bits. -/
lemma readRaw_of_size (hal : f.width = 0 → f.offset % 8 = 0) {m : Memory}
    (hsize : m.size = l.memory.size) :
    { l with memory := m }.readRaw f =
      (l.readRaw f).map fun _ => m.toNat / 2 ^ (8 * l.addr + f.offset) % 2 ^ f.bits := by
  unfold readRaw
  by_cases hb : f.isBitfield = true
  · simp only [hb, if_true, span]
    split
    · rfl
    · simp only [ok_bind_eq, Memory.read_eq, hsize]
      split
      · exact congrArg Except.ok (bitfield_window l f _)
      · rfl
  · have hw := FieldInfo.width_eq_zero hb
    simp only [hb, Bool.false_eq_true, if_false, byteAddr]
    split
    · rfl
    · simp only [ok_bind_eq]
      split
      · simp only [Memory.readLE, Memory.read_eq, hsize]
        split
        · simp only [Except.map, ofLE_leBytes]
          exact congrArg Except.ok (fullWidth_window l f hw (hal hw) _)
        · rfl
      · rfl

/-- **A field reads as the window of the memory at its bits.** -/
lemma readRaw_eq_ok (hal : f.width = 0 → f.offset % 8 = 0) {x : Nat} (h : l.readRaw f = .ok x) :
    x = l.memory.toNat / 2 ^ (8 * l.addr + f.offset) % 2 ^ f.bits := by
  have hself : l.readRaw f = (l.readRaw f).map fun _ =>
      l.memory.toNat / 2 ^ (8 * l.addr + f.offset) % 2 ^ f.bits :=
    readRaw_of_size l f hal rfl
  rw [h] at hself
  exact Except.ok.inj hself

/-- A read answers nothing but the window, so mapping every answer to the window changes
nothing. -/
lemma readRaw_map_window (hal : f.width = 0 → f.offset % 8 = 0) :
    ((l.readRaw f).map fun _ => l.memory.toNat / 2 ^ (8 * l.addr + f.offset) % 2 ^ f.bits) =
      l.readRaw f := by
  cases h : l.readRaw f with
  | error e => rfl
  | ok x => rw [readRaw_eq_ok l f hal h]; rfl

/-- **A write replaces exactly the field's bits** by the low bits of the value and keeps the
memory's size; it succeeds only where the field can be read. -/
lemma writeRaw_eq_ok (hal : f.width = 0 → f.offset % 8 = 0) {v : Nat} {m : Memory}
    (h : l.writeRaw f v = .ok m) :
    (∃ x, l.readRaw f = .ok x) ∧ m.size = l.memory.size ∧
      m.toNat = replaceBits l.memory.toNat (8 * l.addr + f.offset) f.bits v := by
  unfold writeRaw at h
  by_cases hb : f.isBitfield = true
  · simp only [hb, if_true, span] at h
    split at h
    · cases h
    · rename_i hlt
      simp only [ok_bind_eq, Memory.read_eq] at h
      split at h
      · rename_i hfit
        simp only [ok_bind_eq, Memory.writeLE] at h
        obtain ⟨-, hsize, hnat⟩ := Memory.write_eq_ok h
        refine ⟨?_, hsize, ?_⟩
        · exact ⟨_, by
            simp only [readRaw, hb, if_true, span, hlt, if_false, ok_bind_eq, Memory.read_eq, hfit]
            rfl⟩
        · -- the bytes around the field are put back with only the field's bits replaced
          rw [hnat, length_leBytes, ofLE_leBytes, replaceBits_mod, ofLE_leBytes,
            replaceBits_replaceBits_window _ _ (span_holds f)]
          congr 1
          omega
      · cases h
  · have hw := FieldInfo.width_eq_zero hb
    simp only [hb, Bool.false_eq_true, if_false, byteAddr] at h
    split at h
    · cases h
    · rename_i hlt
      simp only [ok_bind_eq] at h
      split at h
      · rename_i hscalar
        simp only [Memory.writeLE] at h
        obtain ⟨hfit, hsize, hnat⟩ := Memory.write_eq_ok h
        rw [length_leBytes] at hfit
        refine ⟨?_, hsize, ?_⟩
        · exact ⟨_, by
            simp only [readRaw, hb, Bool.false_eq_true, if_false, byteAddr, hlt, ok_bind_eq,
              hscalar, if_true, Memory.readLE, Memory.read_eq, hfit]
            rfl⟩
        · rw [hnat, length_leBytes, ofLE_leBytes, replaceBits_mod,
            FieldInfo.bits_of_width_zero hw]
          congr 1
          have := hal hw
          omega
      · cases h

variable {l f}

/-- **A written field reads back the value**, cut to the field's bits, wherever the field
starts. -/
lemma readRaw_writeRaw {v : Nat} {m : Memory} (h : l.writeRaw f v = .ok m) :
    { l with memory := m }.readRaw f = .ok (v % 2 ^ f.bits) := by
  unfold writeRaw at h
  by_cases hb : f.isBitfield = true
  · simp only [hb, if_true, span] at h
    split at h
    · cases h
    · rename_i hlt
      simp only [ok_bind_eq, Memory.read_eq] at h
      split at h
      · rename_i hfit
        simp only [ok_bind_eq, Memory.writeLE] at h
        have hsize := (Memory.write_eq_ok h).2.1
        have hwin := Memory.window_write_self h
        rw [length_leBytes, ofLE_leBytes] at hwin
        simp only [readRaw, hb, if_true, span, hlt, if_false, ok_bind_eq, Memory.read_eq, hsize,
          hfit, ofLE_leBytes, hwin, Nat.pow_eq]
        -- the bytes around the field hold it whole, so cutting them off first changes nothing
        have hcut (X : Nat) : replaceBits X (f.offset % 8) f.bits v %
            2 ^ (8 * ((f.offset + f.bits + 7) / 8 - f.offset / 8)) / 2 ^ (f.offset % 8) % 2 ^ f.bits =
              v % 2 ^ f.bits := by
          have := @window_window (replaceBits X (f.offset % 8) f.bits v) 0 _ _ _ (span_holds f)
          rwa [Nat.pow_zero, Nat.div_one, Nat.zero_add, replaceBits_window_self] at this
        rw [hcut]
        rfl
      · cases h
  · simp only [hb, Bool.false_eq_true, if_false, byteAddr] at h
    split at h
    · cases h
    · rename_i hlt
      simp only [ok_bind_eq] at h
      split at h
      · rename_i hscalar
        simp only [Memory.writeLE] at h
        obtain ⟨hfit, hsize, -⟩ := Memory.write_eq_ok h
        have hwin := Memory.window_write_self h
        rw [length_leBytes, ofLE_leBytes] at hwin
        rw [length_leBytes] at hfit
        simp only [readRaw, hb, Bool.false_eq_true, if_false, byteAddr, hlt, ok_bind_eq, hscalar,
          if_true, Memory.readLE, Memory.read_eq, hsize, hfit]
        rw [FieldInfo.bits_of_width_zero (FieldInfo.width_eq_zero hb), ← hwin, ← ofLE_leBytes]
        rfl
      · cases h

/-- **A write keeps every bit of the memory outside the field.** -/
lemma writeRaw_keeps_bits (hal : f.width = 0 → f.offset % 8 = 0) {v : Nat} {m : Memory}
    (h : l.writeRaw f v = .ok m) {p : Nat}
    (hp : p < 8 * l.addr + f.offset ∨ 8 * l.addr + f.offset + f.bits ≤ p) :
    m.bit p = l.memory.bit p := by
  obtain ⟨-, -, hnat⟩ := writeRaw_eq_ok l f hal h
  rw [Memory.bit_eq_testBit, Memory.bit_eq_testBit, hnat, testBit_replaceBits, if_neg (by omega)]

/-- **A write leaves a field apart from it as it was**: it reads the same, or fails the same. -/
lemma readRaw_writeRaw_of_apart {g : FieldInfo} (hal : f.width = 0 → f.offset % 8 = 0)
    (halg : g.width = 0 → g.offset % 8 = 0) {v : Nat} {m : Memory} (h : l.writeRaw f v = .ok m)
    (hapart : g.offset + g.bits ≤ f.offset ∨ f.offset + f.bits ≤ g.offset) :
    { l with memory := m }.readRaw g = l.readRaw g := by
  obtain ⟨-, hsize, hnat⟩ := writeRaw_eq_ok l f hal h
  rw [readRaw_of_size l g halg hsize, hnat, replaceBits_window_of_apart _ _ (by omega),
    readRaw_map_window l g halg]

/-- A write fails only out of bounds, or on a full-width field of a size no number has. -/
lemma writeRaw_error {v : Nat} {e : Failure} (h : l.writeRaw f v = .error e) :
    e.kind = .outOfBounds ∨ e.kind = .typeMismatch := by
  unfold writeRaw at h
  split at h
  · simp only [span] at h
    split at h
    · cases h
      exact .inl rfl
    · simp only [ok_bind_eq] at h
      cases hr : l.memory.read (l.addr + f.offset / 8) ((f.offset + f.bits + 7) / 8 - f.offset / 8)
        with
      | error e' =>
        rw [hr] at h
        cases h
        exact .inl (Memory.read_error hr)
      | ok cur =>
        rw [hr, ok_bind_eq] at h
        exact .inl (Memory.write_error h)
  · simp only [byteAddr] at h
    split at h
    · cases h
      exact .inl rfl
    · simp only [ok_bind_eq] at h
      split at h
      · exact .inl (Memory.write_error h)
      · cases h
        exact .inr rfl

end Live

/-! ## Fields of a placed record -/

/-- **The fields of a layout lie apart**: the bit ranges of two fields never meet. -/
def Layout.FieldsApart (lay : Layout) : Prop :=
  ∀ ⦃i j : Nat⦄ ⦃f g : FieldInfo⦄, i ≠ j → lay.fields[i]? = some f → lay.fields[j]? = some g →
    f.offset + f.bits ≤ g.offset ∨ g.offset + g.bits ≤ f.offset

/-- A full-width slot starts on a byte boundary: at a multiple of its alignment in bits, which
is a multiple of 8, and wrapping that past 2^64 keeps it one. -/
lemma Slot.start_byte_aligned {s : Slot} (hw : s.width = 0) (prev : Bool) (bits : Nat) :
    s.start prev bits % 8 = 0 := by
  have h8 : 8 ∣ bitAlign s.align := by
    unfold bitAlign
    split
    · exact Nat.dvd_refl 8
    · exact Nat.dvd_mul_left 8 _
  have hA : ¬ bitAlign s.align ≤ 1 := by
    have := Nat.le_of_dvd (by unfold bitAlign; split <;> omega) h8
    omega
  simp only [Slot.start, Slot.isBitfield, hw, Nat.lt_irrefl, decide_false, Bool.false_and,
    Bool.false_eq_true, if_false, alignWord, alignUp, if_neg hA, bitLimit_eq]
  rw [Nat.mod_mod_of_dvd _ (by norm_num : 8 ∣ 2 ^ 64)]
  exact Nat.mod_eq_zero_of_dvd (Nat.dvd_trans h8 (Nat.dvd_mul_left _ _))

/-- Every full-width slot that placing places starts on a byte boundary. -/
lemma placeFrom_byte_aligned {slots : List Slot} {bits : Nat} {prev : Bool} {m : Nat}
    {offs : List Nat} {used a : Nat} (h : placeFrom bits prev m slots = .ok (offs, used, a)) :
    ∀ (i : Nat) (s : Slot) (o : Nat), slots[i]? = some s → offs[i]? = some o → s.width = 0 →
      o % 8 = 0 := by
  induction slots generalizing bits prev m offs with
  | nil =>
    intro i s o hs
    simp at hs
  | cons s rest ih =>
    simp only [placeFrom] at h
    split at h
    · cases h
    · split at h
      · rename_i offs' used' a' hrec
        cases h
        intro i t o ht ho hw
        cases i with
        | zero =>
          simp only [List.getElem?_cons_zero, Option.some.injEq] at ht ho
          subst ht ho
          exact Slot.start_byte_aligned hw _ _
        | succ i =>
          simp only [List.getElem?_cons_succ] at ht ho
          exact ih hrec i t o ht ho hw
      · cases h

namespace ResolvesNames

variable {c : Catalog} {r : RecordId} {rec : Record}

/-- **Every full-width field of a placed record starts on a byte boundary.** -/
lemma byte_aligned (h : ResolvesNames c r rec) {i : Nat} {f : FieldInfo}
    (hf : rec.layout.fields[i]? = some f) : f.width = 0 → f.offset % 8 = 0 := by
  intro hw
  obtain ⟨used, hfrom⟩ := placeFrom_of_place h.compiled
  exact placeFrom_byte_aligned hfrom i f.slot f.offset (by simp [hf]) (by simp [hf]) hw

/-- **The bit ranges of two fields of a placed record are apart**, while its placement ends a
byte below 2^64 and every field's type is aligned to a byte at least. -/
lemma fields_apart (h : ResolvesNames c r rec)
    (halign : ∀ f ∈ rec.layout.fields, 1 ≤ f.storage.align)
    (hend : refEnd 0 false (rec.layout.fields.map (·.slot)) + 8 ≤ bitLimit) :
    rec.layout.FieldsApart := by
  intro i j f g hij hf hg
  have hslots : ∀ s ∈ rec.layout.fields.map (·.slot), 1 ≤ s.align := by
    intro s hs
    obtain ⟨f, hf, rfl⟩ := List.mem_map.mp hs
    exact halign f hf
  have hsound := sound_of_place hslots hend h.compiled
  -- the placement orders the fields' ranges one after another, in the order of the fields
  have hord : rec.layout.fields.Pairwise fun f g => f.offset + f.bits ≤ g.offset := by
    have := hsound.ordered
    rw [List.zip_map', List.pairwise_map] at this
    simpa using this
  rw [List.pairwise_iff_getElem] at hord
  obtain ⟨hi, rfl⟩ := List.getElem?_eq_some_iff.mp hf
  obtain ⟨hj, rfl⟩ := List.getElem?_eq_some_iff.mp hg
  rcases Nat.lt_or_gt_of_ne hij with hlt | hlt
  · exact .inl (hord i j hi hj hlt)
  · exact .inr (hord j i hj hi hlt)

end ResolvesNames

end RecordLayout
