import Mathlib
import RecordLayout.Proofs.Access
import RecordLayout.Proofs.Stored

/-!
# Setter calls on a view

The setters of a view write one field each: the unsigned, signed, truth-value and float setters
the field the name finds, the pointer setter the slot of the pointer field the name finds.  A
call either fails, giving no heap, or stores the view's memory back with that field written.

* `View.setUnsigned_eq_ok`, `View.setSigned_eq_ok`, `View.setFloat_eq_ok` and
  `View.setPointer_eq_ok` take a successful call apart; `Setter.run_eq_ok` says the same of
  every `Setter` call: it wrote the field its name finds in the record.
* `Setter.runAll` runs calls one after another, a failing one leaving the heap as it was.
* `Setter.run_changes_only`: a successful call changes only the field's bits;
  `Setter.setUnsigned_overflow_iff`: when the unsigned setter overflows.
* `Setter.getUnsigned_runAll_of_not_named` and `Setter.getUnsigned_runAll_of_last`: after a
  run, a field reads as before when no successful call named it, and the value of the last one
  when that set it unsigned; both need the fields' bit ranges apart.
* **`setters_fieldwise`**: all of this for the records a declaration returns, whose placement
  does not wrap past 2^64.
-/

namespace RecordLayout

/-! ## Heaps -/

namespace Heap

lemma get?_set_self {h : Heap} {id : MemoryId} {m₀ : Memory} (hm : h.get? id = some m₀)
    (m : Memory) : (h.set id m).get? id = some m := by
  have hlt : id.index < h.memories.size := by
    simp only [get?] at hm
    exact (Array.getElem?_eq_some_iff.mp hm).1
  simp only [get?, set, Array.getElem?_modify, if_true, Array.getElem?_eq_getElem hlt,
    Option.map_some]

lemma get?_set_of_ne {h : Heap} {id id' : MemoryId} (m : Memory) (hne : id' ≠ id) :
    (h.set id m).get? id' = h.get? id' := by
  have hidx : id.index ≠ id'.index := fun heq => hne (by cases id; cases id'; simp_all)
  simp [get?, set, Array.getElem?_modify, hidx]

end Heap

namespace View

variable {c : Catalog} {h h' : Heap} {v : View} {l : Live}

/-- A view is live when its record and memory are there, and then it holds them. -/
lemma live_eq_ok (hl : v.live c h = .ok l) :
    v.record = some l.id ∧ v.memory = some l.memId ∧ c.record? l.id = some l.record ∧
      h.get? l.memId = some l.memory ∧ l.addr = v.addr := by
  unfold live at hl
  split at hl
  · split at hl
    · cases hl
      simp_all
    · cases hl
  · cases hl

/-- Storing a memory of a live view back leaves the view live, with that memory. -/
lemma live_store (hl : v.live c h = .ok l) (m : Memory) :
    v.live c (store h l m) = .ok { l with memory := m } := by
  obtain ⟨hr, hm, hrec, hmem, haddr⟩ := live_eq_ok hl
  simp only [live, hr, hm, hrec, store, Heap.get?_set_self hmem, haddr]

lemma setUnsigned_eq_ok {n : String} {x : Nat} (hs : setUnsigned c h v n x = .ok h') :
    ∃ l f m, v.live c h = .ok l ∧ l.field n = .ok f ∧ f.storage.kind.isInteger ∧
      ¬ (f.bits < 64 ∧ x ≥ 2 ^ f.bits) ∧ l.writeRaw f x = .ok m ∧ h' = store h l m := by
  simp only [setUnsigned, bind_eq_ok_iff] at hs
  obtain ⟨l, hl, f, hf, hs⟩ := hs
  split at hs
  · simp at hs
  · rename_i hint
    split at hs
    · simp at hs
    · rename_i hfit
      obtain ⟨m, hm, hs⟩ := bind_eq_ok_iff.mp hs
      exact ⟨l, f, m, hl, hf, by simpa using hint, hfit, hm, (Except.ok.inj hs).symm⟩

lemma setSigned_eq_ok {n : String} {x : Int} (hs : setSigned c h v n x = .ok h') :
    ∃ l f y m, v.live c h = .ok l ∧ l.field n = .ok f ∧ l.writeRaw f y = .ok m ∧
      h' = store h l m := by
  simp only [setSigned, bind_eq_ok_iff] at hs
  obtain ⟨l, hl, f, hf, hs⟩ := hs
  split at hs
  · simp at hs
  · split at hs
    · split at hs
      · simp at hs
      · obtain ⟨m, hm, hs⟩ := bind_eq_ok_iff.mp hs
        exact ⟨l, f, _, m, hl, hf, hm, (Except.ok.inj hs).symm⟩
    · split at hs
      · simp at hs
      · obtain ⟨m, hm, hs⟩ := bind_eq_ok_iff.mp hs
        exact ⟨l, f, _, m, hl, hf, hm, (Except.ok.inj hs).symm⟩

lemma setFloat_eq_ok {n : String} {x : Nat} (hs : setFloat c h v n x = .ok h') :
    ∃ l f y m, v.live c h = .ok l ∧ l.field n = .ok f ∧ l.writeRaw f y = .ok m ∧
      h' = store h l m := by
  simp only [setFloat, bind_eq_ok_iff] at hs
  obtain ⟨l, hl, f, hf, hs⟩ := hs
  split at hs
  · obtain ⟨m, hm, hs⟩ := bind_eq_ok_iff.mp hs
    exact ⟨l, f, _, m, hl, hf, hm, (Except.ok.inj hs).symm⟩
  · obtain ⟨m, hm, hs⟩ := bind_eq_ok_iff.mp hs
    exact ⟨l, f, _, m, hl, hf, hm, (Except.ok.inj hs).symm⟩
  · simp at hs

end View

/-- Setting a pointer field through a view writes the field's slot in the view's memory. -/
lemma PointerField.set_eq_ok {c : Catalog} {h h' : Heap} {owner : RecordId} {pf : PointerField}
    {v : View} {value : Option View} (hs : PointerField.set c h owner pf (some v) value = .ok h') :
    ∃ l y m, v.live c h = .ok l ∧ l.writeRaw (slotField l pf) y = .ok m ∧
      h' = View.store h l m := by
  simp only [PointerField.set, PointerField.check, Option.map_some, bind_eq_ok_iff] at hs
  obtain ⟨l, hl, t, -, hs⟩ := hs
  have hlive : v.live c h = .ok l := by
    split at hl
    · rename_i l' hl'
      split at hl
      · cases hl
      · cases hl
        exact Option.some.inj hl'
    · cases hl
  split at hs
  · obtain ⟨m, hm, hs⟩ := bind_eq_ok_iff.mp hs
    exact ⟨l, _, m, hlive, hm, (Except.ok.inj hs).symm⟩
  · split at hs
    · split at hs
      · simp at hs
      · split at hs
        · simp at hs
        · obtain ⟨m, hm, hs⟩ := bind_eq_ok_iff.mp hs
          exact ⟨l, _, m, hlive, hm, (Except.ok.inj hs).symm⟩
    · simp at hs

namespace View

variable {c : Catalog} {h h' : Heap} {v : View}

lemma setPointer_eq_ok {n : String} {value : Option View} (hs : setPointer c h v n value = .ok h') :
    ∃ l pf y m, v.live c h = .ok l ∧ c.pointerField l.id n = .ok pf ∧
      l.writeRaw (PointerField.slotField l pf) y = .ok m ∧ h' = store h l m := by
  simp only [setPointer, bind_eq_ok_iff] at hs
  obtain ⟨l, hl, pf, hpf, hs⟩ := hs
  obtain ⟨l', y, m, hl', hm, rfl⟩ := PointerField.set_eq_ok hs
  rw [hl] at hl'
  cases hl'
  exact ⟨l, pf, y, m, hl, hpf, hm, rfl⟩

end View

namespace Live

variable {l : Live}

@[simp] lemma field_withMemory (m : Memory) (n : String) :
    { l with memory := m }.field n = l.field n := rfl

@[simp] lemma mismatch_withMemory (m : Memory) (f : FieldInfo) (e : String) :
    { l with memory := m }.mismatch f e = l.mismatch f e := rfl

/-- The field a name finds is the one the layout's lookup finds. -/
lemma field_eq_ok_iff {n : String} {f : FieldInfo} :
    l.field n = .ok f ↔ ∃ i, l.record.layout.find? n = some (i, f) := by
  unfold field
  split
  · rename_i i f' hfind
    constructor
    · intro hf
      cases hf
      exact ⟨i, hfind⟩
    · rintro ⟨j, hj⟩
      rw [hfind] at hj
      cases hj
      rfl
  · rename_i hfind
    simp [hfind]

end Live

/-- What a change of a heap keeps: the memory `mid` keeps its size and every bit outside
`[lo, hi)`, and every other memory stays as it was. -/
structure Heap.ChangesOnly (h h' : Heap) (mid : MemoryId) (lo hi : Nat) : Prop where
  memory : ∃ m m', h.get? mid = some m ∧ h'.get? mid = some m' ∧ m'.size = m.size ∧
    ∀ p, p < lo ∨ hi ≤ p → m'.bit p = m.bit p
  others : ∀ id, id ≠ mid → h'.get? id = h.get? id

/-! ## Setter calls -/

/-- A call of one of the setters of a view: the name it is given, and the value as the caller
passes it (an unsigned or a signed 64-bit integer, a truth value, the bits of a double, or the
view to point at). -/
inductive Setter where
  | uint (name : String) (value : UInt64)
  | int (name : String) (value : Int64)
  | bool (name : String) (value : Bool)
  | float (name : String) (bits : UInt64)
  | pointer (name : String) (value : Option View)

namespace Setter

/-- The name a call is given. -/
def name : Setter → String
  | uint n _ | int n _ | bool n _ | float n _ | pointer n _ => n

/-- Runs one call on a view. -/
def run (c : Catalog) (h : Heap) (v : View) : Setter → Except Failure Heap
  | uint n x => View.setUnsigned c h v n x.toNat
  | int n x => View.setSigned c h v n x.toInt
  | bool n b => View.setBool c h v n b
  | float n x => View.setFloat c h v n x.toNat
  | pointer n w => View.setPointer c h v n w

/-- **Runs calls one after another** on a view, each on the heap the one before left: the heap
at the end, and the calls that succeeded, in order.  A call that fails gives no heap, so the
next one runs on the heap as it was. -/
def runAll (c : Catalog) (v : View) : Heap → List Setter → Heap × List Setter
  | h, [] => (h, [])
  | h, s :: rest =>
    match s.run c h v with
    | .ok h' => ((runAll c v h' rest).1, s :: (runAll c v h' rest).2)
    | .error _ => runAll c v h rest

section Run

variable {c : Catalog} {v : View} {h h' : Heap} {s : Setter} {calls : List Setter}

@[simp] lemma runAll_nil : runAll c v h [] = (h, []) := rfl

lemma runAll_cons_of_ok (hs : s.run c h v = .ok h') :
    runAll c v h (s :: calls) = ((runAll c v h' calls).1, s :: (runAll c v h' calls).2) := by
  simp only [runAll, hs]

lemma runAll_cons_of_error {e : Failure} (hs : s.run c h v = .error e) :
    runAll c v h (s :: calls) = runAll c v h calls := by
  simp only [runAll, hs]

end Run

section Record

/-! ### Calls on a view of a record that resolves its names -/

variable {c : Catalog} {r : RecordId} {rec : Record} {v : View} {h h' : Heap}

/-- The live form of a view of a catalog's record holds that record. -/
lemma live_record (hrec : c.record? r = some rec) (hvr : v.record = some r) {l : Live}
    (hl : v.live c h = .ok l) : l.id = r ∧ l.record = rec := by
  obtain ⟨hr, -, hlrec, -, -⟩ := View.live_eq_ok hl
  rw [hvr] at hr
  cases hr
  rw [hrec] at hlrec
  exact ⟨rfl, (Option.some.inj hlrec).symm⟩

/-- The field a name finds through a live view of the record is the one its layout finds. -/
lemma find_of_field (hrec : c.record? r = some rec) (hvr : v.record = some r) {l : Live}
    (hl : v.live c h = .ok l) {n : String} {f : FieldInfo} (hf : l.field n = .ok f) :
    ∃ i, rec.layout.find? n = some (i, f) := by
  rw [← (live_record hrec hvr hl).2]
  exact Live.field_eq_ok_iff.mp hf

/-- A call of the unsigned setter that succeeds writes an integer field its value, which fits
the field's bits. -/
lemma run_uint_eq_ok (hrec : c.record? r = some rec) (hvr : v.record = some r) {n : String}
    {x : UInt64} (hs : (uint n x).run c h v = .ok h') :
    ∃ l i f m, v.live c h = .ok l ∧ rec.layout.find? n = some (i, f) ∧
      f.storage.kind.isInteger ∧ x.toNat % 2 ^ f.bits = x.toNat ∧
      l.writeRaw f x.toNat = .ok m ∧ h' = View.store h l m := by
  obtain ⟨l, f, m, hl, hf, hint, hfit, hm, rfl⟩ := View.setUnsigned_eq_ok hs
  obtain ⟨i, hi⟩ := find_of_field hrec hvr hl hf
  -- below 64 bits the check keeps the value in range; from 64 bits on every 64-bit value fits
  have hlt : x.toNat < 2 ^ f.bits := by
    by_cases hb : f.bits < 64
    · omega
    · exact Nat.lt_of_lt_of_le x.toNat_lt (Nat.pow_le_pow_right (by norm_num) (by omega))
  exact ⟨l, i, f, m, hl, hi, hint, Nat.mod_eq_of_lt hlt, hm, rfl⟩

/-- The live form of a view of the record in a memory the heap has. -/
lemma live_of_get (hrec : c.record? r = some rec) (hvr : v.record = some r) {mid : MemoryId}
    {mem : Memory} (hvm : v.memory = some mid) (hmem : h.get? mid = some mem) :
    v.live c h = .ok ⟨r, rec, mid, mem, v.addr⟩ := by
  simp only [View.live, hvr, hvm, hrec, hmem]

variable (hres : ResolvesNames c r rec) (hrec : c.record? r = some rec) (hvr : v.record = some r)
include hres hrec hvr

/-- **A call that succeeds writes one field**: the one its name finds in the view's record,
through the view's live form, and stores the memory back. -/
lemma run_eq_ok {s : Setter} (hs : s.run c h v = .ok h') :
    ∃ l i f y m, v.live c h = .ok l ∧ rec.layout.find? s.name = some (i, f) ∧
      l.writeRaw f y = .ok m ∧ h' = View.store h l m := by
  cases s with
  | uint n x =>
    obtain ⟨l, f, m, hl, hf, -, -, hm, rfl⟩ := View.setUnsigned_eq_ok hs
    obtain ⟨i, hi⟩ := find_of_field hrec hvr hl hf
    exact ⟨l, i, f, _, m, hl, hi, hm, rfl⟩
  | int n x =>
    obtain ⟨l, f, y, m, hl, hf, hm, rfl⟩ := View.setSigned_eq_ok hs
    obtain ⟨i, hi⟩ := find_of_field hrec hvr hl hf
    exact ⟨l, i, f, y, m, hl, hi, hm, rfl⟩
  | bool n b =>
    obtain ⟨l, f, m, hl, hf, -, -, hm, rfl⟩ := View.setUnsigned_eq_ok hs
    obtain ⟨i, hi⟩ := find_of_field hrec hvr hl hf
    exact ⟨l, i, f, _, m, hl, hi, hm, rfl⟩
  | float n x =>
    obtain ⟨l, f, y, m, hl, hf, hm, rfl⟩ := View.setFloat_eq_ok hs
    obtain ⟨i, hi⟩ := find_of_field hrec hvr hl hf
    exact ⟨l, i, f, y, m, hl, hi, hm, rfl⟩
  | pointer n w =>
    -- a pointer field is found by its slot's position, and the slot is the field there
    obtain ⟨l, pf, y, m, hl, hpf, hm, rfl⟩ := View.setPointer_eq_ok hs
    obtain ⟨hid, hlrec⟩ := live_record hrec hvr hl
    rw [hid] at hpf
    obtain ⟨-, f, hf, hfn⟩ := (hres.pointer n pf).mp hpf
    have hslot : PointerField.slotField l pf = f := by
      simp [PointerField.slotField, hlrec, List.getD_eq_getElem?_getD, hf]
    exact ⟨l, pf.index, f, y, m, hl, (hres.find n pf.index f).mpr ⟨hf, hfn⟩, hslot ▸ hm, rfl⟩

/-- The field a name finds through the view's live form. -/
lemma field_of_find {l : Live} (hl : v.live c h = .ok l) {n : String} {i : Nat} {f : FieldInfo}
    (hf : rec.layout.fields[i]? = some f) (hn : f.answersTo n) : l.field n = .ok f := by
  rw [Live.field_eq_ok_iff, (live_record hrec hvr hl).2]
  exact ⟨i, (hres.find n i f).mpr ⟨hf, hn⟩⟩

/-- **Reading through the view after a write of a field apart** reads as before. -/
lemma getUnsigned_store_of_apart {l : Live} (hl : v.live c h = .ok l) {n : String} {i j : Nat}
    {f g : FieldInfo} (hf : rec.layout.fields[i]? = some f) (hn : f.answersTo n)
    (hg : rec.layout.fields[j]? = some g) {y : Nat} {m : Memory} (hw : l.writeRaw g y = .ok m)
    (hapart : f.offset + f.bits ≤ g.offset ∨ g.offset + g.bits ≤ f.offset) :
    View.getUnsigned c (View.store h l m) v n = View.getUnsigned c h v n := by
  have hfield := field_of_find hres hrec hvr hl hf hn
  simp only [View.getUnsigned, View.live_store hl, hl, ok_bind_eq, Live.field_withMemory, hfield,
    Live.mismatch_withMemory]
  rw [Live.readRaw_writeRaw_of_apart (hres.byte_aligned hg) (hres.byte_aligned hf) hw hapart]

/-- **Reading through the view after writing the field** reads the value, cut to its bits. -/
lemma getUnsigned_store_self {l : Live} (hl : v.live c h = .ok l) {n : String} {i : Nat}
    {f : FieldInfo} (hf : rec.layout.fields[i]? = some f) (hn : f.answersTo n)
    (hint : f.storage.kind.isInteger) {y : Nat} {m : Memory} (hw : l.writeRaw f y = .ok m) :
    View.getUnsigned c (View.store h l m) v n = .ok (y % 2 ^ f.bits) := by
  have hfield := field_of_find hres hrec hvr hl hf hn
  simp only [View.getUnsigned, View.live_store hl, ok_bind_eq, Live.field_withMemory, hfield,
    hint, Bool.true_or, Bool.not_true, Bool.false_eq_true, if_false]
  exact Live.readRaw_writeRaw hw

/-- **A call that succeeds and does not name a field leaves its reading as it was**, when the
fields' bit ranges are apart. -/
lemma getUnsigned_run_of_not_named
    (hapart : rec.layout.FieldsApart)
    {n : String} {i : Nat} {f : FieldInfo} (hf : rec.layout.fields[i]? = some f)
    (hn : f.answersTo n) {s : Setter} (hs : s.run c h v = .ok h')
    (hother : f.answersTo s.name = false) :
    View.getUnsigned c h' v n = View.getUnsigned c h v n := by
  obtain ⟨l, j, g, y, m, hl, hfind, hw, rfl⟩ := run_eq_ok hres hrec hvr hs
  obtain ⟨hg, hgn⟩ := (hres.find s.name j g).mp hfind
  -- the call wrote another field than `f`, since `f` does not answer to its name
  have hij : i ≠ j := by
    rintro rfl
    rw [hf] at hg
    cases hg
    rw [hgn] at hother
    cases hother
  exact getUnsigned_store_of_apart hres hrec hvr hl hf hn hg hw (hapart hij hf hg)

/-- **A call that succeeds changes only the bits of the field its name finds**: its memory keeps
its size and every bit outside the field's range, and every other memory stays as it was. -/
lemma run_changes_only {mid : MemoryId} (hvm : v.memory = some mid) {s : Setter}
    (hs : s.run c h v = .ok h') :
    ∃ (i : Nat) (f : FieldInfo), rec.layout.fields[i]? = some f ∧ f.answersTo s.name ∧
      h.ChangesOnly h' mid (8 * v.addr + f.offset) (8 * v.addr + f.offset + f.bits) := by
  obtain ⟨l, i, f, y, m, hl, hfind, hw, rfl⟩ := run_eq_ok hres hrec hvr hs
  obtain ⟨hf, hn⟩ := (hres.find s.name i f).mp hfind
  obtain ⟨-, hm, -, hmem, haddr⟩ := View.live_eq_ok hl
  rw [hvm] at hm
  cases hm
  have hal := hres.byte_aligned hf
  refine ⟨i, f, hf, hn, ⟨⟨l.memory, m, hmem, Heap.get?_set_self hmem m,
    (Live.writeRaw_eq_ok l f hal hw).2.1, fun p hp => ?_⟩, fun id hid => Heap.get?_set_of_ne m hid⟩⟩
  rw [← haddr] at hp
  exact Live.writeRaw_keeps_bits hal hw hp

/-- **The unsigned setter fails with an overflow exactly when the field is narrower than 64 bits
and the value does not fit them.** -/
lemma setUnsigned_overflow_iff {mid : MemoryId} {mem : Memory} (hvm : v.memory = some mid)
    (hmem : h.get? mid = some mem) {n : String} {i : Nat} {f : FieldInfo}
    (hf : rec.layout.fields[i]? = some f) (hn : f.answersTo n) (hint : f.storage.kind.isInteger)
    (x : Nat) :
    (∃ e, View.setUnsigned c h v n x = .error e ∧ e.kind = .overflow) ↔
      f.bits < 64 ∧ 2 ^ f.bits ≤ x := by
  have hl := live_of_get hrec hvr hvm hmem
  have hfield := field_of_find hres hrec hvr hl hf hn
  simp only [View.setUnsigned, hl, hfield, ok_bind_eq, hint, Bool.not_true, Bool.false_eq_true,
    if_false]
  by_cases hov : f.bits < 64 ∧ x ≥ Nat.pow 2 f.bits
  · rw [if_pos hov, throw_bind_eq]
    exact ⟨fun _ => hov, fun _ => ⟨_, rfl, rfl⟩⟩
  · rw [if_neg hov]
    -- past the check, a failure is the write's, which is never an overflow
    have hright : ¬ (f.bits < 64 ∧ 2 ^ f.bits ≤ x) := hov
    simp only [hright, iff_false, not_exists, not_and]
    intro e he
    cases hw : (⟨r, rec, mid, mem, v.addr⟩ : Live).writeRaw f x with
    | ok m =>
      rw [hw] at he
      cases he
    | error e' =>
      rw [hw] at he
      cases he
      rcases Live.writeRaw_error hw with hk | hk <;> rw [hk] <;> decide

/-- **An unsigned write of a field that succeeds reads back its value**, through any name the
field answers to. -/
lemma getUnsigned_run_uint {n n' : String} {i : Nat} {f : FieldInfo}
    (hf : rec.layout.fields[i]? = some f) (hn : f.answersTo n) (hn' : f.answersTo n')
    (hint : f.storage.kind.isInteger) {x : UInt64} (hs : (uint n' x).run c h v = .ok h') :
    View.getUnsigned c h' v n = .ok x.toNat := by
  obtain ⟨l, i', f', m, hl, hfind, -, hfit, hw, rfl⟩ := run_uint_eq_ok hrec hvr hs
  -- names resolve to one field, so the call's name finds `f` itself
  have hsame : (i', f') = (i, f) := by
    rw [← Option.some.injEq, ← hfind]
    exact (hres.find n' i f).mpr ⟨hf, hn'⟩
  cases hsame
  rw [getUnsigned_store_self hres hrec hvr hl hf hn hint hw, hfit]

variable (hapart : rec.layout.FieldsApart)
include hapart

/-- **A field no successful call names reads at the end as it read at the start.** -/
lemma getUnsigned_runAll_of_not_named {n : String} {i : Nat} {f : FieldInfo}
    (hf : rec.layout.fields[i]? = some f) (hn : f.answersTo n) (calls : List Setter) :
    ∀ h, (runAll c v h calls).2.all (fun s => !f.answersTo s.name) →
      View.getUnsigned c (runAll c v h calls).1 v n = View.getUnsigned c h v n := by
  -- induction on the calls, the heap they start from changing with each one that succeeds
  induction calls with
  | nil => intro h _; rfl
  | cons s rest ih =>
    intro h hall
    cases hs : s.run c h v with
    | error e =>
      rw [runAll_cons_of_error hs] at hall ⊢
      exact ih h hall
    | ok h' =>
      rw [runAll_cons_of_ok hs] at hall ⊢
      simp only [List.all_cons, Bool.and_eq_true, Bool.not_eq_true'] at hall
      rw [ih h' hall.2]
      exact getUnsigned_run_of_not_named hres hrec hvr hapart hf hn hs hall.1

/-- **The last successful call that names a field, when it sets it unsigned, decides what the
field reads at the end.** -/
lemma getUnsigned_runAll_of_last {n : String} {i : Nat} {f : FieldInfo}
    (hf : rec.layout.fields[i]? = some f) (hn : f.answersTo n) (hint : f.storage.kind.isInteger)
    (n' : String) (x : UInt64) (calls : List Setter) :
    ∀ h, ((runAll c v h calls).2.filter (fun s => f.answersTo s.name)).getLast? =
        some (uint n' x) →
      View.getUnsigned c (runAll c v h calls).1 v n = .ok x.toNat := by
  induction calls with
  | nil => intro h hlast; simp at hlast
  | cons s rest ih =>
    intro h hlast
    cases hs : s.run c h v with
    | error e =>
      rw [runAll_cons_of_error hs] at hlast ⊢
      exact ih h hlast
    | ok h' =>
      rw [runAll_cons_of_ok hs] at hlast ⊢
      dsimp only at hlast ⊢
      by_cases hsf : f.answersTo s.name = true
      · simp only [List.filter_cons, hsf, if_true, List.getLast?_cons] at hlast
        cases hlater : ((runAll c v h' rest).2.filter fun s => f.answersTo s.name).getLast? with
        | some y =>
          rw [hlater] at hlast
          exact ih h' (hlater.trans hlast)
        | none =>
          -- no later call that succeeds names the field: this call is the last write
          rw [hlater] at hlast
          cases hlast
          have hnone : (runAll c v h' rest).2.all (fun s => !f.answersTo s.name) := by
            rw [List.getLast?_eq_none_iff, List.filter_eq_nil_iff] at hlater
            simpa using hlater
          rw [getUnsigned_runAll_of_not_named hres hrec hvr hapart hf hn rest h' hnone]
          exact getUnsigned_run_uint hres hrec hvr hf hn hsf hint hs
      · simp only [List.filter_cons, hsf, Bool.false_eq_true, if_false] at hlast
        exact ih h' hlast

end Record

end Setter

/-- **What setter calls on a view promise, field by field**, for the view of record `rec`
(held at `r`) at address `addr` of memory `mid`. -/
structure FieldWise (c : Catalog) (r : RecordId) (rec : Record) (mid : MemoryId) (addr : Nat) :
    Prop where
  /-- A call that succeeds changes no bit of the view's memory outside the bit range of the field
  its name finds, keeps the memory's size, and leaves the other memories alone. -/
  changes_only : ∀ (h h' : Heap) (s : Setter), s.run c h ⟨some r, some mid, addr⟩ = .ok h' →
    ∃ (i : Nat) (f : FieldInfo), rec.layout.fields[i]? = some f ∧ f.answersTo s.name ∧
      h.ChangesOnly h' mid (8 * addr + f.offset) (8 * addr + f.offset + f.bits)
  /-- Writing an unsigned value to an integer field fails with an overflow exactly when the field
  has fewer than 64 bits and the value does not fit them. -/
  overflow : ∀ (h : Heap) (n : String) (i : Nat) (f : FieldInfo) (x : Nat),
    (h.get? mid).isSome → rec.layout.fields[i]? = some f → f.answersTo n →
    f.storage.kind.isInteger →
    ((∃ e, View.setUnsigned c h ⟨some r, some mid, addr⟩ n x = .error e ∧ e.kind = .overflow) ↔
      f.bits < 64 ∧ 2 ^ f.bits ≤ x)
  /-- After a run of calls, an integer field whose last successful call was the unsigned setter
  reads the value that call wrote. -/
  last_write : ∀ (h : Heap) (calls : List Setter) (n n' : String) (x : UInt64) (i : Nat)
    (f : FieldInfo), rec.layout.fields[i]? = some f → f.answersTo n →
    f.storage.kind.isInteger →
    ((Setter.runAll c ⟨some r, some mid, addr⟩ h calls).2.filter
      (fun s => f.answersTo s.name)).getLast? = some (.uint n' x) →
    View.getUnsigned c (Setter.runAll c ⟨some r, some mid, addr⟩ h calls).1
      ⟨some r, some mid, addr⟩ n = .ok x.toNat
  /-- After a run of calls none of whose successful ones named a field, the field reads as it
  did before. -/
  unnamed : ∀ (h : Heap) (calls : List Setter) (n : String) (i : Nat) (f : FieldInfo),
    rec.layout.fields[i]? = some f → f.answersTo n →
    (Setter.runAll c ⟨some r, some mid, addr⟩ h calls).2.all (fun s => !f.answersTo s.name) →
    View.getUnsigned c (Setter.runAll c ⟨some r, some mid, addr⟩ h calls).1
      ⟨some r, some mid, addr⟩ n = View.getUnsigned c h ⟨some r, some mid, addr⟩ n

/-- **The setters of a declared record act field by field.**  For a record that a declaration
returned, in a catalog built through the builder interface with storage types that fit, whose
placement ends a byte below 2^64, and for any catalog that holds it and any view of it in a
memory: a call that succeeds changes only the bits of the field it names, the unsigned setter
overflows exactly on a value the field's bits cannot hold, and a run of calls leaves each integer
field reading the value of the last call that set it unsigned, or what it read before when no
call named it.  A call that fails gives no heap, so it changes nothing. -/
theorem setters_fieldwise {c c' : Catalog} {b : BuilderId} {name : String}
    {bases : List (Option RecordId)} {decls : List Declaration} {r : RecordId} {rec : Record}
    (hbuilt : Built c) (hfits : ∀ d ∈ decls, ∀ s, d.storage = some s → s.Fits c (c.abiOf b))
    (hdecl : c.declare b name bases decls = .ok (c', r) ∨
      ∃ p, c.declareFor b p name bases decls = .ok (c', r))
    (hrec : c'.record? r = some rec)
    (hend : refEnd 0 false (rec.layout.fields.map (·.slot)) + 8 ≤ bitLimit) {d : Catalog}
    (hd : d.record? r = some rec) (mid : MemoryId) (addr : Nat) : FieldWise d r rec mid addr := by
  -- the declaration keeps the catalog built, and its record resolves names
  obtain ⟨hbuilt', rec', hrec', hres⟩ :
      Built c' ∧ ∃ rec', c'.record? r = some rec' ∧ ResolvesNames c' r rec' := by
    rcases hdecl with hdecl | ⟨p, hdecl⟩
    · exact ⟨.declare hbuilt hfits hdecl, declare_resolves hdecl⟩
    · exact ⟨.declareFor hbuilt hfits hdecl, declareFor_resolves hdecl⟩
  rw [hrec] at hrec'
  cases hrec'
  have halign := hbuilt'.wellStored.one_le_field_align hrec
  have hresd : ResolvesNames d r rec := hres.of_same_record (hd.trans hrec.symm)
  have hapart := hres.fields_apart halign hend
  refine ⟨fun h h' s hs => ?_, fun h n i f x hmem hf hn hint => ?_,
    fun h calls n n' x i f hf hn hint hlast => ?_, fun h calls n i f hf hn hall => ?_⟩
  · exact Setter.run_changes_only hresd hd rfl rfl hs
  · obtain ⟨mem, hmem⟩ := Option.isSome_iff_exists.mp hmem
    exact Setter.setUnsigned_overflow_iff hresd hd rfl rfl hmem hf hn hint x
  · exact Setter.getUnsigned_runAll_of_last hresd hd rfl hapart hf hn hint n' x calls h hlast
  · exact Setter.getUnsigned_runAll_of_not_named hresd hd rfl hapart hf hn calls h hall

/-- The record of the bitfield test: a byte, bitfields of 3, 5 and 2 bits on a `uint16_t`, and a
`uint32_t`, viewed at address 0 of the first memory. -/
theorem setters_fieldwise_flags :
    ∃ c' r rec, (({} : Catalog).addBuilder Abi.native64).1.declare ⟨0⟩ "Flags" []
        [.field "a" (.scalar .uint8), .bits "x" (.scalar .uint16) 3,
          .bits "y" (.scalar .uint16) 5, .bits "z" (.scalar .uint16) 2,
          .field "b" (.scalar .uint32)] = .ok (c', r) ∧
      c'.record? r = some rec ∧ FieldWise c' r rec ⟨0⟩ 0 := by
  have hdecl : (({} : Catalog).addBuilder Abi.native64).1.declare ⟨0⟩ "Flags" []
      [.field "a" (.scalar .uint8), .bits "x" (.scalar .uint16) 3,
        .bits "y" (.scalar .uint16) 5, .bits "z" (.scalar .uint16) 2,
        .field "b" (.scalar .uint32)] = .ok (_, _) := rfl
  exact ⟨_, _, _, hdecl, rfl,
    setters_fieldwise (.newBuilder _ .empty) (by simp [Declaration.field, Declaration.bits,
      Storage.Fits]) (Or.inl hdecl) rfl (by decide) rfl ⟨0⟩ 0⟩

end RecordLayout