import Mathlib
import RecordLayout.Proofs.Placement
import RecordLayout.Proofs.Stored
import RecordLayout.Wit.Canonical

/-!
# The canonical ABI against compiled layouts

Two layout algorithms meet in `Wit.check`.  The compiler places a record's fields in bits, with
offsets that are 64-bit words; the canonical ABI lays the projected WIT record out in bytes,
with offsets that are 32-bit words.  For fields that are not bitfields and whose alignments
divide 8, each canonical step is the compiled step read in bytes and reduced modulo 2^32:
rounding up to a divisor of 2^32 commutes with that reduction (`ceilMultiple_mod`), and a bit
offset rounded in 64-bit words is a byte offset rounded modulo 2^61 (`Slot.start_full_width`).

* `canonicalStep_foldl` follows the two computations field by field; `recordLayout_of_place`
  gives the canonical layout of a record whose fields were placed: the compiled size and
  alignment, and each compiled bit offset in bytes as a 32-bit word.
-/

namespace RecordLayout

/-! ## Rounding up in words -/

/-- Rounding up to a divisor of 2^32 commutes with reducing modulo 2^32. -/
lemma ceilMultiple_mod (x : Nat) {a : Nat} (ha : 1 ≤ a) (hdvd : a ∣ 2 ^ 32) :
    ceilMultiple (x % 2 ^ 32) a % 2 ^ 32 = ceilMultiple x a % 2 ^ 32 := by
  obtain ⟨k, hk⟩ := hdvd
  have hx := Nat.mod_add_div x (2 ^ 32)
  -- rounding `y + 2^32 * q` up adds `2^32 * q` to rounding `y` up, as `a` divides `2^32`
  have hsplit : ceilMultiple x a = ceilMultiple (x % 2 ^ 32) a + 2 ^ 32 * (x / 2 ^ 32) := by
    unfold ceilMultiple
    have hsum : x + a - 1 = (x % 2 ^ 32 + a - 1) + a * (k * (x / 2 ^ 32)) := by
      rw [← Nat.mul_assoc, ← hk]
      omega
    rw [hsum, Nat.add_mul_div_left _ _ (by omega), Nat.add_mul, hk]
    ring
  rw [hsplit, Nat.add_mul_mod_self_left]

/-- Rounding bits up to a multiple of `8 * a` rounds bytes up to a multiple of `a`. -/
lemma ceilMultiple_eight_mul (x : Nat) {a : Nat} (ha : 1 ≤ a) :
    ceilMultiple (8 * x) (8 * a) = 8 * ceilMultiple x a := by
  unfold ceilMultiple
  have hnum : 8 * x + 8 * a - 1 = 8 * (x + a - 1) + 7 := by omega
  have hdiv : (8 * (x + a - 1) + 7) / (8 * a) = (x + a - 1) / a := by
    rw [← Nat.div_div_eq_div_mul]
    congr 1
    omega
  rw [hnum, hdiv]
  ring

/-- **A full-width slot placed after `8 * x` bits** starts at the byte offset `x` rounded up to
its alignment, modulo 2^61: a bit offset that is a 64-bit word. -/
lemma Slot.start_full_width {s : Slot} (hw : s.width = 0) (ha : 1 ≤ s.align) (prev : Bool)
    (x : Nat) : s.start prev (8 * x) = 8 * (ceilMultiple x s.align % 2 ^ 61) := by
  have hrun : (s.isBitfield && prev) = false := by simp [Slot.isBitfield, hw]
  simp only [Slot.start, hrun, Bool.false_eq_true, if_false, alignWord, bitAlign_of_pos ha,
    alignUp_eq_ceilMultiple _ (show 1 ≤ 8 * s.align by omega), ceilMultiple_eight_mul x ha,
    bitLimit_eq]
  rw [show (2 : Nat) ^ 64 = 8 * 2 ^ 61 by norm_num, Nat.mul_mod_mul_left]

/-- The bytes that hold `8 * y` bits, below 2^64, are `y`. -/
lemma bytesFor_eight_mul {y : Nat} (h : 8 * y < bitLimit) : bytesFor (8 * y) = y := by
  rw [bytesFor_of_lt (by rw [bitLimit_eq] at h ⊢; omega)]
  omega

/-- A successful placement: the offsets and alignment that placing from the start gives, and
the size, the bytes used rounded up to the alignment, which fits in 32 bits. -/
lemma place_eq_ok {slots : List Slot} {p : Placement} (h : place slots = .ok p) :
    ∃ used, placeFrom 0 false 1 slots = .ok (p.offsets, used, p.align) ∧
      p.size = alignUp (bytesFor used) p.align ∧ p.size ≤ 0xFFFFFFFF := by
  unfold place at h
  split at h
  · cases h
  · rename_i offs used a hplace
    dsimp only at h
    split at h
    · cases h
    · rename_i hsize
      cases h
      exact ⟨used, hplace, rfl, show alignUp (bytesFor used) a ≤ 0xFFFFFFFF by omega⟩

/-- Placing a slot after others: it goes at its start, its bits fit below 2^64, and the rest go
after it. -/
lemma placeFrom_cons_eq_ok {s : Slot} {rest : List Slot} {bits m used a : Nat} {prev : Bool}
    {offs : List Nat} (h : placeFrom bits prev m (s :: rest) = .ok (offs, used, a)) :
    ∃ offs', offs = s.start prev bits :: offs' ∧ s.start prev bits + s.bits < bitLimit ∧
      placeFrom (s.start prev bits + s.bits) s.isBitfield (max m s.align) rest =
        .ok (offs', used, a) := by
  simp only [placeFrom] at h
  split at h
  · cases h
  · rename_i hfit
    split at h
    · rename_i offs' used' a' hrest
      cases h
      exact ⟨offs', rfl, by omega, hrest⟩
    · cases h

/-- Placing after fewer than 2^64 bits ends below 2^64. -/
lemma placeFrom_used_lt {slots : List Slot} {bits m used a : Nat} {prev : Bool} {offs : List Nat}
    (h : placeFrom bits prev m slots = .ok (offs, used, a)) (hbits : bits < bitLimit) :
    used < bitLimit := by
  induction slots generalizing bits prev m offs with
  | nil =>
    cases h
    exact hbits
  | cons s rest ih =>
    obtain ⟨offs', -, hfit, hrest⟩ := placeFrom_cons_eq_ok h
    exact ih hrest hfit

lemma max_dvd_eight {m a : Nat} (hm : m ∣ 8) (ha : a ∣ 8) : max m a ∣ 8 := by
  rcases le_total m a with h | h
  · rw [max_eq_right h]
    exact ha
  · rw [max_eq_left h]
    exact hm

lemma one_le_of_dvd_eight {a : Nat} (h : a ∣ 8) : 1 ≤ a :=
  Nat.pos_of_dvd_of_pos h (by norm_num)

lemma dvd_two_pow_32_of_dvd_eight {a : Nat} (h : a ∣ 8) : a ∣ 2 ^ 32 :=
  Nat.dvd_trans h (by norm_num)

namespace Wit

lemma wrap32_eq (n : Nat) : wrap32 n = n % 2 ^ 32 := rfl

/-! ## One record, field by field -/

/-- One field of the canonical layout of a record: after `acc.1` bytes, with the largest
alignment `acc.2.1` so far and the offsets `acc.2.2` so far. -/
def layoutStep (known : Array CanonicalInfo) (acc : Nat × Nat × List (String × Nat))
    (field : String × WitType) : Nat × Nat × List (String × Nat) :=
  let info := typeLayout known field.2
  let start := wrap32 (alignUp acc.1 info.align)
  (wrap32 (start + info.size), max acc.2.1 info.align, acc.2.2 ++ [(field.1, start)])

lemma recordLayout_eq (known : Array CanonicalInfo) (d : WitRecord) :
    recordLayout known d =
      if d.fields.isEmpty then ⟨0, 1, []⟩
      else
        let acc := d.fields.foldl (layoutStep known) (0, 1, [])
        ⟨wrap32 (alignUp acc.1 acc.2.1), acc.2.1, acc.2.2⟩ := rfl

/-- A field that the canonical ABI lays out as the compiler does: a full-width field whose
alignment divides 8, projected to a WIT type of its size and alignment. -/
structure Projects (known : Array CanonicalInfo) (f : FieldInfo) (t : WitType) : Prop where
  full : f.width = 0
  align_dvd : f.storage.align ∣ 8
  size_eq : (typeLayout known t).size = f.storage.size
  align_eq : (typeLayout known t).align = f.storage.align

variable {known : Array CanonicalInfo}

/-- **One canonical step is one compiled step in bytes, modulo 2^32**: after `x` bytes, a field
starts at `x` rounded up to its alignment, the byte offset the compiler finds modulo 2^61 and
reduced modulo 2^32. -/
lemma layoutStep_of_projects {f : FieldInfo} {t : WitType} (hf : Projects known f t)
    (x m : Nat) (offs : List (String × Nat)) (n : String) :
    layoutStep known (x % 2 ^ 32, m, offs) (n, t) =
      ((ceilMultiple x f.storage.align % 2 ^ 61 + f.storage.size) % 2 ^ 32,
        max m f.storage.align,
        offs ++ [(n, ceilMultiple x f.storage.align % 2 ^ 61 % 2 ^ 32)]) := by
  have ha := one_le_of_dvd_eight hf.align_dvd
  -- the canonical start, reduced modulo 2^32, forgets the compiler's reduction modulo 2^61
  have hstart : wrap32 (alignUp (x % 2 ^ 32) f.storage.align) =
      ceilMultiple x f.storage.align % 2 ^ 61 % 2 ^ 32 := by
    rw [wrap32_eq, alignUp_eq_ceilMultiple _ ha,
      ceilMultiple_mod x ha (dvd_two_pow_32_of_dvd_eight hf.align_dvd),
      Nat.mod_mod_of_dvd _ (by norm_num)]
  simp only [layoutStep, hf.size_eq, hf.align_eq, hstart, wrap32_eq, Nat.mod_add_mod]

/-- **The canonical fold follows the compiled placement**: from `x` bytes, reduced modulo
2^32, the canonical layout of the fields ends at the bytes the compiler ends at, reduced, with
the compiler's largest alignment and each compiled offset in bytes as a 32-bit value. -/
lemma foldl_layoutStep {fields : List FieldInfo} {types : List WitType}
    (hfit : List.Forall₂ (Projects known) fields types) {names : List String}
    (hlen : names.length = fields.length) {x m used a : Nat} {prev : Bool}
    (offs : List (String × Nat)) {offsets : List Nat} (hm : m ∣ 8)
    (h : placeFrom (8 * x) prev m (fields.map (·.slot)) = .ok (offsets, used, a)) :
    ∃ y, used = 8 * y ∧ a ∣ 8 ∧
      (names.zip types).foldl (layoutStep known) (x % 2 ^ 32, m, offs) =
        (y % 2 ^ 32, a, offs ++ names.zip (offsets.map fun o => wrap32 (o / 8))) := by
  -- induction on the fields, carrying the bytes used and the alignment so far
  induction hfit generalizing names x m prev offs offsets with
  | nil =>
    obtain rfl : names = [] := List.length_eq_zero_iff.mp hlen
    cases h
    exact ⟨x, rfl, hm, by simp⟩
  | @cons f t fields types hf _ ih =>
    obtain ⟨n, names, rfl⟩ : ∃ n rest, names = n :: rest :=
      List.exists_cons_of_length_eq_add_one hlen
    obtain ⟨offs', rfl, -, hrest⟩ := placeFrom_cons_eq_ok h
    have ha := one_le_of_dvd_eight hf.align_dvd
    have hstart : f.slot.start prev (8 * x) = 8 * (ceilMultiple x f.storage.align % 2 ^ 61) :=
      Slot.start_full_width hf.full ha prev x
    have hbits : f.slot.bits = 8 * f.storage.size := by
      simp [Slot.bits, FieldInfo.slot, hf.full, Nat.mul_comm]
    rw [hstart, hbits, ← Nat.mul_add] at hrest
    obtain ⟨y, hy, hdvd, hfold⟩ := ih (by simpa using hlen)
      (offs ++ [(n, ceilMultiple x f.storage.align % 2 ^ 61 % 2 ^ 32)])
      (max_dvd_eight hm hf.align_dvd) hrest
    refine ⟨y, hy, hdvd, ?_⟩
    rw [List.zip_cons_cons, List.foldl_cons, layoutStep_of_projects hf, hfold, hstart,
      List.map_cons, List.zip_cons_cons, wrap32_eq, Nat.mul_div_cancel_left _ (by norm_num),
      List.append_assoc, List.singleton_append]

/-- **The canonical layout of a placed record**: when every field is laid out by the canonical
ABI as the compiler lays it out, the canonical layout of the projected record has the compiled
size and alignment, and each compiled offset in bytes as a 32-bit value; the alignment divides
8. -/
lemma recordLayout_of_place {fields : List FieldInfo} {types : List WitType}
    (hfit : List.Forall₂ (Projects known) fields types) {names : List String}
    (hlen : names.length = fields.length) (name : String) {p : Placement}
    (hplace : place (fields.map (·.slot)) = .ok p) :
    recordLayout known ⟨name, names.zip types⟩ =
      ⟨p.size, p.align, names.zip (p.offsets.map fun o => wrap32 (o / 8))⟩ ∧ p.align ∣ 8 := by
  obtain ⟨used, hfrom, hsize, hbound⟩ := place_eq_ok hplace
  have hfrom' : placeFrom (8 * 0) false 1 (fields.map (·.slot)) =
      .ok (p.offsets, used, p.align) := hfrom
  obtain ⟨y, rfl, hdvd, hfold⟩ := foldl_layoutStep hfit hlen [] (Nat.one_dvd 8) hfrom'
  refine ⟨?_, hdvd⟩
  rw [recordLayout_eq]
  cases hfit with
  | nil =>
    -- no fields: nothing is placed, and both layouts are empty
    obtain rfl : names = [] := List.length_eq_zero_iff.mp hlen
    simp only [List.map_nil, placeFrom, Except.ok.injEq, Prod.mk.injEq] at hfrom
    obtain ⟨hoffs, hused, halign⟩ := hfrom
    have hy : y = 0 := by omega
    subst hy
    rw [hsize, ← halign, ← hoffs]
    rfl
  | cons hf hrest =>
    obtain ⟨n, names, rfl⟩ : ∃ n rest, names = n :: rest :=
      List.exists_cons_of_length_eq_add_one hlen
    have hused : 8 * y < bitLimit := placeFrom_used_lt hfrom (by rw [bitLimit_eq]; norm_num)
    have ha := one_le_of_dvd_eight hdvd
    -- the compiled size is the bytes used rounded up, which the canonical size is modulo 2^32
    have hsize' : p.size = ceilMultiple y p.align := by
      rw [hsize, bytesFor_eight_mul hused, alignUp_eq_ceilMultiple _ ha]
    have hcanon : wrap32 (alignUp (y % 2 ^ 32) p.align) = p.size := by
      rw [wrap32_eq, alignUp_eq_ceilMultiple _ ha,
        ceilMultiple_mod y ha (dvd_two_pow_32_of_dvd_eight hdvd), ← hsize',
        Nat.mod_eq_of_lt (by omega)]
    rw [Nat.zero_mod] at hfold
    simp only [List.zip_cons_cons, List.isEmpty_cons, Bool.false_eq_true, if_false]
    rw [← List.zip_cons_cons, hfold, hcanon, List.nil_append]

/-! ## The layouts of a projector's record types -/

lemma layouts_push (defs : Array WitRecord) (d : WitRecord) :
    layouts (defs.push d) = (layouts defs).push (recordLayout (layouts defs) d) := by
  unfold layouts
  rw [Array.foldl_push]

lemma size_layouts (defs : Array WitRecord) : (layouts defs).size = defs.size := by
  unfold layouts
  -- each record type pushes one layout
  exact Array.foldl_induction (fun i (known : Array CanonicalInfo) => known.size = i) rfl
    (fun _ _ h => by rw [Array.size_push, h])

lemma typeLayout_scalar (s : Scalar) :
    typeLayout known ((scalarType s.kind).getD .u8) = ⟨s.size, s.size, []⟩ := by
  cases s <;> rfl

lemma typeLayout_pointer {abi : Abi} (h : abi.pointerSize = 4 ∨ abi.pointerSize = 8) :
    typeLayout known (if abi.pointerSize = 4 then .u32 else .u64) =
      ⟨abi.pointerSize, abi.pointerSize, []⟩ := by
  rcases h with h | h <;> simp [h, typeLayout]

/-! ## Sound projectors -/

/-- The WIT names of a record's fields, in field order. -/
def witNames (rec : Record) : List String := rec.layout.fields.map fun f => kebab f.external

/-- **The canonical layout a compiled record stands for**: its size and alignment, and under
each field's WIT name the field's compiled offset in bytes, as a 32-bit value. -/
def compiledInfo (rec : Record) : CanonicalInfo :=
  ⟨rec.size, rec.align, (witNames rec).zip (rec.layout.fields.map fun f => wrap32 (f.offset / 8))⟩

/-- **A projector sound for a catalog**: each record type it made for a record names the
record's fields in order, no name twice, and lays out canonically as the record's compiled
layout stands for, with an alignment that divides 8. -/
def Sound (c : Catalog) (p : Projector) : Prop :=
  ∀ r k, (r, k) ∈ p.made → ∃ rec d, c.record? r = some rec ∧ p.defs[k]? = some d ∧
    d.fields.map Prod.fst = witNames rec ∧ (witNames rec).Nodup ∧
    (layouts p.defs)[k]? = some (compiledInfo rec) ∧ rec.align ∣ 8

variable {c : Catalog}

lemma sound_empty : Sound c {} := by
  intro r k h
  cases h

/-- Making the record type of a record keeps a projector sound, when the type names the
record's fields in order, no name twice, and lays out as the record's compiled layout. -/
lemma Sound.push {p : Projector} (hp : Sound c p) {r : RecordId} {rec : Record} {d : WitRecord}
    (hrec : c.record? r = some rec) (hnames : d.fields.map Prod.fst = witNames rec)
    (hnodup : (witNames rec).Nodup) (hinfo : recordLayout (layouts p.defs) d = compiledInfo rec)
    (halign : rec.align ∣ 8) :
    Sound c { defs := p.defs.push d, made := (r, p.defs.size) :: p.made } := by
  intro r' k hk
  rcases List.mem_cons.mp hk with hk | hk
  · -- the new entry, last of the record types
    obtain ⟨rfl, rfl⟩ := Prod.mk.inj hk
    refine ⟨rec, d, hrec, by simp, hnames, hnodup, ?_, halign⟩
    rw [layouts_push, Array.getElem?_push, if_pos (size_layouts p.defs).symm, hinfo]
  · -- an entry made before, below the new one
    obtain ⟨rec', d', hrec', hd', hnames', hnodup', hinfo', halign'⟩ := hp r' k hk
    have hlt : k < p.defs.size := (Array.getElem?_eq_some_iff.mp hd').1
    refine ⟨rec', d', hrec', ?_, hnames', hnodup', ?_, halign'⟩
    · rw [Array.getElem?_push, if_neg (by omega), hd']
    · rw [layouts_push, Array.getElem?_push, if_neg (by rw [size_layouts]; omega), hinfo']

/-! ## Projecting fields -/

/-- The WIT type of a field that holds no record by value. -/
def plainType (rec : Record) : Storage → Option WitType
  | .scalar s => some ((scalarType s.kind).getD .u8)
  | .slot .. => some (if rec.abi.pointerSize = 4 then .u32 else .u64)
  | .record .. => none

lemma scalar_size_dvd_eight (s : Scalar) : s.size ∣ 8 := by
  cases s <;> decide

/-- **Projecting one more field**: a full-width field whose WIT name is new gets the type of
the record it holds by value, as `nested` projects it, or its plain type; then the fields after
it are projected. -/
lemma projectFields_cons_eq_ok {rec : Record}
    {nested : Projector → RecordId → Except Failure Nat × Projector} {p p' : Projector}
    {seen : List (String × String)} {acc out : List (String × WitType)} {f : FieldInfo}
    {rest : List FieldInfo} (h : Projector.projectFields rec nested p seen acc (f :: rest) =
      (.ok out, p')) :
    f.width = 0 ∧ seen.lookup (kebab f.external) = none ∧ ∃ t p₁,
      ((∃ r k, f.storage.record? = some r ∧ nested p r = (.ok k, p₁) ∧ t = .defined k) ∨
        (p₁ = p ∧ plainType rec f.storage = some t)) ∧
      Projector.projectFields rec nested p₁ ((kebab f.external, f.name) :: seen)
        ((kebab f.external, t) :: acc) rest = (.ok out, p') := by
  simp only [Projector.projectFields] at h
  split at h
  · cases h
  · rename_i hbit
    have hw : f.width = 0 := by simpa [FieldInfo.isBitfield] using hbit
    split at h
    · cases h
    · rename_i hlook
      refine ⟨hw, hlook, ?_⟩
      split at h
      · -- a record held by value, projected by `nested`
        rename_i r n s a hs
        split at h
        · rename_i k p₁ hn
          exact ⟨_, p₁, .inl ⟨r, k, by simp [hs, Storage.record?], hn, rfl⟩, h⟩
        · cases h
      · rename_i n a hs
        exact ⟨_, p, .inr ⟨rfl, by simp [hs, plainType]⟩, h⟩
      · rename_i sc hs
        exact ⟨_, p, .inr ⟨rfl, by simp [hs, plainType]⟩, h⟩

/-- A field of plain type lays out canonically as compiled, in a record stored as compiled whose
ABI aligns pointers to their size. -/
lemma projects_plain {rec : Record} (hrec : rec.Stored c)
    (hnat : rec.abi.pointerAlign = rec.abi.pointerSize) {f : FieldInfo}
    (hf : f ∈ rec.layout.fields) (hw : f.width = 0) {t : WitType}
    (ht : plainType rec f.storage = some t) (known : Array CanonicalInfo) : Projects known f t := by
  have hfits := hrec.fits f hf
  cases hs : f.storage with
  | scalar sc =>
    rw [hs] at ht
    cases ht
    refine ⟨hw, ?_, ?_, ?_⟩
    all_goals simp [hs, Storage.size, Storage.align, typeLayout_scalar, scalar_size_dvd_eight]
  | slot n a =>
    rw [hs] at ht hfits
    cases ht
    obtain ⟨rfl, rfl⟩ := hfits
    have hsize := Abi.pointerSize_of_validate hrec.abi
    refine ⟨hw, ?_, ?_, ?_⟩
    · simp only [hs, Storage.align, hnat]
      rcases hsize with h | h <;> simp [h]
    · simp [hs, Storage.size, typeLayout_pointer hsize]
    · simp [hs, Storage.align, typeLayout_pointer hsize, hnat]
  | record => simp [hs, plainType] at ht

/-- A field holding a record by value lays out canonically as compiled, once a sound projector
made the type of that record. -/
lemma projects_defined {rec : Record} (hrec : rec.Stored c) {f : FieldInfo}
    (hf : f ∈ rec.layout.fields) (hw : f.width = 0) {r : RecordId}
    (hr : f.storage.record? = some r) {p : Projector} (hp : Sound c p) {k : Nat}
    (hk : (r, k) ∈ p.made) : Projects (layouts p.defs) f (.defined k) := by
  have hfits := hrec.fits f hf
  cases hs : f.storage with
  | record r' n size align =>
    rw [hs] at hr hfits
    cases hr
    obtain ⟨held, hheld, rfl, rfl⟩ := hfits
    obtain ⟨held', d, hheld', -, -, -, hinfo, halign⟩ := hp r k hk
    rw [hheld] at hheld'
    cases hheld'
    have hlayout : typeLayout (layouts p.defs) (.defined k) = compiledInfo held := by
      simp [typeLayout, hinfo]
    exact ⟨hw, by rw [hs]; exact halign, by rw [hlayout, hs]; rfl, by rw [hlayout, hs]; rfl⟩
  | scalar => simp [hs, Storage.record?] at hr
  | slot => simp [hs, Storage.record?] at hr

lemma mem_of_lookup_eq_some {l : List (RecordId × Nat)} {r : RecordId} {i : Nat}
    (h : l.lookup r = some i) : (r, i) ∈ l := by
  obtain ⟨l₁, l₂, rfl, -⟩ := List.lookup_eq_some_iff.mp h
  simp

lemma not_mem_of_lookup_eq_none {l : List (String × String)} {n : String}
    (h : l.lookup n = none) : n ∉ l.map Prod.fst := by
  intro hn
  obtain ⟨q, hq, rfl⟩ := List.mem_map.mp hn
  simpa using List.lookup_eq_none_iff.mp h q hq

section Fields

variable {rec : Record} (hrec : rec.Stored c) (hnat : rec.abi.pointerAlign = rec.abi.pointerSize)
  {nested : Projector → RecordId → Except Failure Nat × Projector}
  (hnested : ∀ f ∈ rec.layout.fields, ∀ r, f.storage.record? = some r → ∀ p₀ k p₁,
    Sound c p₀ → nested p₀ r = (.ok k, p₁) → Sound c p₁ ∧ p₀.made ⊆ p₁.made ∧ (r, k) ∈ p₁.made)
include hrec hnat hnested

/-- **Projecting the fields of a record stored as compiled** keeps a projector sound, and gives
each field, in order and under its WIT name, a type that lays out canonically as the field is
compiled; no WIT name is given twice.  `nested` is sound on the records the fields hold. -/
lemma projectFields_eq_ok {fields : List FieldInfo} {p p' : Projector}
    {seen : List (String × String)} {acc out : List (String × WitType)}
    (hsub : ∀ f ∈ fields, f ∈ rec.layout.fields) (hp : Sound c p)
    (hseen : (seen.map Prod.fst).Nodup)
    (h : Projector.projectFields rec nested p seen acc fields = (.ok out, p')) :
    Sound c p' ∧ p.made ⊆ p'.made ∧ ∃ types,
      out = acc.reverse ++ (fields.map fun f => kebab f.external).zip types ∧
      List.Forall₂ (Projects (layouts p'.defs)) fields types ∧
      (seen.map Prod.fst ++ fields.map fun f => kebab f.external).Nodup := by
  induction fields generalizing p seen acc with
  | nil =>
    simp only [Projector.projectFields, Prod.mk.injEq, Except.ok.injEq] at h
    obtain ⟨rfl, rfl⟩ := h
    exact ⟨hp, List.Subset.refl _, [], by simp, .nil, by simpa using hseen⟩
  | cons f rest ih =>
    obtain ⟨hw, hlook, t, p₁, hstep, hrest⟩ := projectFields_cons_eq_ok h
    have hf : f ∈ rec.layout.fields := hsub f List.mem_cons_self
    -- the field's type lays out as compiled at every sound projector that keeps what `p₁` made
    have hfield : Sound c p₁ ∧ p.made ⊆ p₁.made ∧ ∀ p'' : Projector, Sound c p'' →
        p₁.made ⊆ p''.made → Projects (layouts p''.defs) f t := by
      rcases hstep with ⟨r, k, hr, hn, rfl⟩ | ⟨rfl, hplain⟩
      · obtain ⟨hp₁, hsub₁, hmem⟩ := hnested f hf r hr p k p₁ hp hn
        exact ⟨hp₁, hsub₁, fun p'' hp'' hsub'' => projects_defined hrec hf hw hr hp'' (hsub'' hmem)⟩
      · exact ⟨hp, List.Subset.refl _, fun _ _ _ => projects_plain hrec hnat hf hw hplain _⟩
    have hseen' : (((kebab f.external, f.name) :: seen).map Prod.fst).Nodup :=
      List.nodup_cons.mpr ⟨not_mem_of_lookup_eq_none hlook, hseen⟩
    obtain ⟨hp', hsub', types, hout, hfit, hnodup⟩ :=
      ih (fun g hg => hsub g (List.mem_cons_of_mem f hg)) hfield.1 hseen' hrest
    refine ⟨hp', List.Subset.trans hfield.2.1 hsub', t :: types, ?_, .cons (hfield.2.2 p' hp' hsub') hfit, ?_⟩
    · rw [hout]
      simp
    · exact List.nodup_middle.mpr (by simpa using hnodup)

end Fields

/-! ## Projecting records, and the check -/

/-- **Projecting a record keeps a projector sound** and remembers the record's type, in a
catalog whose records are stored as compiled, when every record that the record holds by
value, itself included, aligns pointers to their size.  By induction on the fuel: nested
records are projected with one level less. -/
lemma projectWith_sound (hw : c.WellStored) :
    ∀ (fuel : Nat) {p p' : Projector} {r : RecordId} {k : Nat}, Sound c p →
      (∀ t, HeldBy c r t → NaturalPointers c t) →
      Projector.projectWith c fuel p r = (.ok k, p') →
      Sound c p' ∧ p.made ⊆ p'.made ∧ (r, k) ∈ p'.made
  | 0, _, _, _, _, _, _, h => by simp [Projector.projectWith] at h
  | fuel + 1, p, p', r, k, hp, hnat, h => by
    simp only [Projector.projectWith] at h
    split at h
    · -- a record projected before
      rename_i i hi
      simp only [Prod.mk.injEq, Except.ok.injEq] at h
      obtain ⟨rfl, rfl⟩ := h
      exact ⟨hp, List.Subset.refl _, mem_of_lookup_eq_some hi⟩
    · split at h
      · cases h
      · rename_i rec hrec
        split at h
        · rename_i fields p₁ hfields
          simp only [Prod.mk.injEq, Except.ok.injEq] at h
          obtain ⟨rfl, rfl⟩ := h
          -- the records held by the fields are projected soundly with one level less
          have hnested : ∀ f ∈ rec.layout.fields, ∀ t, f.storage.record? = some t →
              ∀ p₀ k₀ p₁, Sound c p₀ → Projector.projectWith c fuel p₀ t = (.ok k₀, p₁) →
                Sound c p₁ ∧ p₀.made ⊆ p₁.made ∧ (t, k₀) ∈ p₁.made :=
            fun f hf t ht _ _ _ hp₀ hn => projectWith_sound hw fuel hp₀
              (fun t' ht' => hnat t' (HeldBy.trans (.field .refl hrec hf ht) ht')) hn
          obtain ⟨hp₁, hsub, types, rfl, hfit, hnodup⟩ := projectFields_eq_ok (hw r rec hrec)
            (hnat r .refl rec hrec) hnested (fun _ hf => hf) hp (by simp) hfields
          have hlen : (witNames rec).length = types.length := by
            simpa [witNames] using hfit.length_eq
          obtain ⟨hinfo, halign⟩ := recordLayout_of_place hfit
            (show (witNames rec).length = rec.layout.fields.length by simp [witNames])
            (kebab rec.name) (hw r rec hrec).compiled
          refine ⟨Sound.push hp₁ hrec ?_ (by simpa [witNames] using hnodup) ?_ halign,
            fun x hx => List.mem_cons_of_mem _ (hsub hx), List.mem_cons_self⟩
          · simpa [witNames] using List.map_fst_zip (Nat.le_of_eq hlen)
          · simpa [compiledInfo, witNames, Function.comp_def] using hinfo
        · cases h

/-- Each pair of a field and an entry of a record type that names the fields has the field's
WIT name. -/
lemma name_of_mem_zip {fields : List FieldInfo} {entries : List (String × WitType)}
    (h : entries.map Prod.fst = fields.map fun f => kebab f.external) {f : FieldInfo}
    {e : String × WitType} (he : (f, e) ∈ fields.zip entries) : e.1 = kebab f.external := by
  induction fields generalizing entries with
  | nil => simp at he
  | cons g rest ih =>
    cases entries with
    | nil => simp at he
    | cons e' entries =>
      simp only [List.map_cons, List.cons.injEq] at h
      rcases List.mem_cons.mp he with he | he
      · obtain ⟨rfl, rfl⟩ := Prod.mk.inj he
        exact h.1
      · exact ih h.2 he

/-- Under distinct WIT names, the compiled offsets of a record find each field's own. -/
lemma lookup_compiledInfo {rec : Record} (hnodup : (witNames rec).Nodup) {f : FieldInfo}
    (hf : f ∈ rec.layout.fields) :
    (compiledInfo rec).offsets.lookup (kebab f.external) = some (wrap32 (f.offset / 8)) := by
  simp only [compiledInfo, witNames] at hnodup ⊢
  generalize rec.layout.fields = fields at hnodup hf
  induction fields with
  | nil => simp at hf
  | cons g rest ih =>
    simp only [List.map_cons, List.nodup_cons, List.mem_map] at hnodup
    simp only [List.map_cons, List.zip_cons_cons, List.lookup_cons]
    rcases List.mem_cons.mp hf with rfl | hf
    · simp
    · -- another field's name differs, as the names are distinct
      have hne : (kebab f.external == kebab g.external) = false :=
        beq_eq_false_iff_ne.mpr fun heq => hnodup.1 ⟨f, hf, heq⟩
      rw [hne]
      exact ih hnodup.2 hf

/-- **The canonical ABI agrees with the compiler.**  In a built catalog, a record that projects
to WIT, when every record it holds by value, itself included, aligns pointers to their size,
passes the check: the canonical layout of its projection is its compiled layout, with the
compiled size and alignment and, under each field's WIT name, the field's compiled offset in
bytes as a 32-bit value. -/
theorem check_eq_ok_of_project {c : Catalog} (hc : Built c) {r : RecordId} {k : Nat}
    {p : Projector} (hproj : Projector.project c {} r = (.ok k, p))
    (hnat : ∀ t, HeldBy c r t → NaturalPointers c t) :
    check c r = .ok () ∧
      ∃ rec, c.record? r = some rec ∧ canonical p.defs (.defined k) = compiledInfo rec := by
  obtain ⟨hp, -, hmem⟩ := projectWith_sound hc.wellStored _ sound_empty hnat hproj
  obtain ⟨rec, d, hrec, hd, hnames, hnodup, hinfo, -⟩ := hp r k hmem
  have hcanon : canonical p.defs (.defined k) = compiledInfo rec := by
    simp [canonical, typeLayout, hinfo]
  refine ⟨?_, rec, hrec, hcanon⟩
  -- each field's compiled offset is the canonical offset under its WIT name
  have hoffsets : ∀ x ∈ rec.layout.fields.zip d.fields,
      wrap32 (x.1.offset / 8) = ((compiledInfo rec).offsets.lookup x.2.1).getD 0 := by
    rintro ⟨f, e⟩ hx
    rw [name_of_mem_zip hnames hx, lookup_compiledInfo hnodup (List.of_mem_zip hx).1]
    rfl
  unfold check
  rw [hproj]
  dsimp only
  rw [hrec, hd]
  dsimp only
  rw [hcanon, if_neg (by simp [compiledInfo])]
  split
  · -- no field is found whose offsets differ
    rename_i f n t hsome
    have hpred := List.find?_some hsome
    simp only [ne_eq, decide_eq_true_eq] at hpred
    exact absurd (hoffsets _ (List.mem_of_find?_eq_some hsome)) hpred
  · rfl

/-- One builder of native pointers with a point of two integers. -/
def pointCatalog : Catalog :=
  let c := (({} : Catalog).addBuilder Abi.native64).1
  match c.declare ⟨0⟩ "point" [] [.field "x" (.scalar .int32), .field "y" (.scalar .int64)] with
  | .ok (c', _) => c'
  | .error _ => c

/-- The point, and a segment that holds a point by value and points to the next segment. -/
def segmentCatalog : Catalog :=
  match pointCatalog.declare ⟨0⟩ "segment" []
      [.field "start" (.record ⟨0⟩ "point" 16 8), .pointer "next" .self] with
  | .ok (c', _) => c'
  | .error _ => pointCatalog

/-- The segment projects to a record type after the point's, and passes the check. -/
theorem check_eq_ok_of_project_segment :
    Built segmentCatalog ∧
      Projector.project segmentCatalog {} ⟨1⟩ = (.ok 1,
        { defs := #[⟨"point", [("x", .s32), ("y", .s64)]⟩,
            ⟨"segment", [("start", .defined 0), ("next", .u64)]⟩],
          made := [(⟨1⟩, 1), (⟨0⟩, 0)] }) ∧
      (∀ t, HeldBy segmentCatalog ⟨1⟩ t → NaturalPointers segmentCatalog t) ∧
      (check segmentCatalog ⟨1⟩ = .ok () ∧ ∃ rec, segmentCatalog.record? ⟨1⟩ = some rec ∧
        canonical #[⟨"point", [("x", .s32), ("y", .s64)]⟩,
          ⟨"segment", [("start", .defined 0), ("next", .u64)]⟩] (.defined 1) = compiledInfo rec) := by
  have hpoint : Built pointCatalog := by
    refine .declare (.newBuilder Abi.native64 .empty) ?_
      (show (({} : Catalog).addBuilder Abi.native64).1.declare ⟨0⟩ "point" []
        [.field "x" (.scalar .int32), .field "y" (.scalar .int64)] = .ok (pointCatalog, ⟨0⟩)
        from rfl)
    intro d hd s hs
    simp only [List.mem_cons, List.not_mem_nil, or_false] at hd
    rcases hd with rfl | rfl <;> (cases hs; trivial)
  have hsegment : Built segmentCatalog := by
    refine .declare hpoint ?_
      (show pointCatalog.declare ⟨0⟩ "segment" []
        [.field "start" (.record ⟨0⟩ "point" 16 8), .pointer "next" .self] =
          .ok (segmentCatalog, ⟨1⟩) from rfl)
    intro d hd s hs
    simp only [List.mem_cons, List.not_mem_nil, or_false] at hd
    rcases hd with rfl | rfl
    · cases hs
      exact ⟨_, rfl, rfl, rfl⟩
    · cases hs
  have hproj : Projector.project segmentCatalog {} ⟨1⟩ = (.ok 1,
      { defs := #[⟨"point", [("x", .s32), ("y", .s64)]⟩,
          ⟨"segment", [("start", .defined 0), ("next", .u64)]⟩],
        made := [(⟨1⟩, 1), (⟨0⟩, 0)] }) := rfl
  -- both records use native pointers
  have hnat : ∀ t, HeldBy segmentCatalog ⟨1⟩ t → NaturalPointers segmentCatalog t := by
    intro t _ rec hrec
    have hsize : segmentCatalog.records.size = 2 := rfl
    have hlt : t.index < 2 := hsize ▸ Catalog.record?_lt hrec
    have habi : ∀ i < 2, (segmentCatalog.record? ⟨i⟩).map (·.abi) = some Abi.native64 := by
      intro i hi
      interval_cases i <;> rfl
    have h := habi t.index hlt
    rw [hrec, Option.map_some, Option.some.injEq] at h
    rw [h]
    rfl
  exact ⟨hsegment, hproj, hnat, check_eq_ok_of_project hsegment hproj hnat⟩

end Wit

end RecordLayout
