import Mathlib
import RecordLayout.View

/-!
# Memories as numbers

Read little-endian, the bytes of a memory are one number, and bit `p` of the memory (bit
`p % 8` of byte `p / 8`) is bit `p` of that number (`Memory.bit_eq_testBit`).  Reads and writes
of a memory are then arithmetic on it, and which bits a write keeps is a question about
`replaceBits`.

* `ofLE` and `leBytes` invert each other (`ofLE_leBytes`, `leBytes_ofLE`); bit `p` of `ofLE l`
  is bit `p % 8` of byte `p / 8` of `l` (`testBit_ofLE`).
* `replaceBits w s b v` keeps every bit of `w` outside `[s, s + b)` and holds the low `b` bits
  of `v` inside (`testBit_replaceBits`); a window of it is the window of `w` or of `v`
  (`replaceBits_window_of_le`, `replaceBits_window_self`), and replacing inside a window of
  whole bytes is replacing in the whole number (`replaceBits_replaceBits_window`).
* **`Memory.read_eq`**: reading `n` bytes at `a` answers the `n` bytes of the memory's number
  from bit `8 * a` on, or fails when they run past the end.
* **`Memory.write_eq_ok`**: a write that succeeds keeps the size and replaces the bits
  `[8 * a, 8 * (a + n))` by the bytes written.
-/

namespace RecordLayout

/-! ## Little-endian numbers -/

@[simp] lemma length_leBytes (w v : Nat) : (leBytes w v).length = w := by
  induction w generalizing v with
  | zero => rfl
  | succ w ih => simp [leBytes, ih]

@[simp] lemma ofLE_nil : ofLE [] = 0 := rfl

@[simp] lemma ofLE_cons (b : UInt8) (l : List UInt8) : ofLE (b :: l) = b.toNat + 256 * ofLE l :=
  rfl

lemma ofLE_lt (l : List UInt8) : ofLE l < 2 ^ (8 * l.length) := by
  induction l with
  | nil => simp
  | cons b l ih =>
    have hb := b.toNat_lt
    rw [ofLE_cons, List.length_cons, Nat.mul_succ, Nat.pow_add]
    -- `2 ^ 8 = 256`, so the byte fills the low place and the rest the high ones
    have h256 : (2 : Nat) ^ 8 = 256 := by norm_num
    rw [h256]
    have : 256 * ofLE l + 256 ≤ 256 * 2 ^ (8 * l.length) := by omega
    omega

lemma ofLE_append (l l' : List UInt8) :
    ofLE (l ++ l') = ofLE l + 2 ^ (8 * l.length) * ofLE l' := by
  induction l with
  | nil => simp
  | cons b l ih =>
    rw [List.cons_append, ofLE_cons, ofLE_cons, ih, List.length_cons, Nat.mul_succ, Nat.pow_add]
    ring

/-- Bit `p` of a little-endian number is bit `p % 8` of its byte `p / 8`. -/
lemma testBit_ofLE (l : List UInt8) (p : Nat) :
    (ofLE l).testBit p = ((l[p / 8]?).getD 0).toNat.testBit (p % 8) := by
  induction l generalizing p with
  | nil => simp
  | cons b l ih =>
    have hb : b.toNat < 2 ^ 8 := b.toNat_lt
    have hsplit : ofLE (b :: l) = 2 ^ 8 * ofLE l + b.toNat := by
      rw [ofLE_cons]
      norm_num
      ring
    rw [hsplit, Nat.testBit_two_pow_mul_add _ hb, ih]
    by_cases hp : p < 8
    · have h0 : p / 8 = 0 := Nat.div_eq_of_lt hp
      simp [hp, h0, Nat.mod_eq_of_lt hp]
    · have hq : (p - 8) / 8 = p / 8 - 1 := by omega
      have hr : (p - 8) % 8 = p % 8 := by omega
      have hne : p / 8 ≠ 0 := by omega
      simp [hp, hq, hr, hne, List.getElem?_cons]

lemma ofLE_leBytes (w v : Nat) : ofLE (leBytes w v) = v % 2 ^ (8 * w) := by
  induction w generalizing v with
  | zero => simp [leBytes, Nat.mod_one]
  | succ w ih =>
    have hlow : ((v % 256).toUInt8).toNat = v % 256 := by
      simp [Nat.toUInt8]
    rw [leBytes, ofLE_cons, ih, hlow, show 8 * (w + 1) = 8 + 8 * w by ring, Nat.pow_add,
      show (2 : Nat) ^ 8 = 256 by norm_num, Nat.mod_mul]

/-- The first `n` bytes of a list are the `n` little-endian bytes of its number. -/
lemma leBytes_ofLE (l : List UInt8) {n : Nat} (h : n ≤ l.length) : leBytes n (ofLE l) = l.take n := by
  induction l generalizing n with
  | nil => simp at h; simp [h, leBytes]
  | cons b l ih =>
    cases n with
    | zero => rfl
    | succ n =>
      have hb := b.toNat_lt
      have hdiv : (b.toNat + 256 * ofLE l) / 256 = ofLE l := by omega
      have hmod : ((b.toNat + 256 * ofLE l) % 256).toUInt8 = b := by
        rw [Nat.add_mul_mod_self_left, Nat.mod_eq_of_lt hb]
        simp [Nat.toUInt8]
      simp only [leBytes, ofLE_cons, hdiv, hmod, List.take_succ_cons,
        ih (Nat.le_of_succ_le_succ h)]

lemma ofLE_take (l : List UInt8) (a : Nat) : ofLE (l.take a) = ofLE l % 2 ^ (8 * a) := by
  apply Nat.eq_of_testBit_eq
  intro p
  rw [testBit_ofLE, Nat.testBit_mod_two_pow, testBit_ofLE, List.getElem?_take]
  by_cases hp : p < 8 * a
  · simp [hp, show p / 8 < a by omega]
  · simp [hp, show ¬ p / 8 < a by omega]

lemma ofLE_drop (l : List UInt8) (a : Nat) : ofLE (l.drop a) = ofLE l / 2 ^ (8 * a) := by
  apply Nat.eq_of_testBit_eq
  intro p
  rw [testBit_ofLE, Nat.testBit_div_two_pow, testBit_ofLE, List.getElem?_drop,
    show (p + 8 * a) / 8 = a + p / 8 by omega, show (p + 8 * a) % 8 = p % 8 by omega]

/-- A window inside a window of a number is a window of the number. -/
lemma window_window (w : Nat) {s B t b : Nat} (h : t + b ≤ B) :
    w / 2 ^ s % 2 ^ B / 2 ^ t % 2 ^ b = w / 2 ^ (s + t) % 2 ^ b := by
  apply Nat.eq_of_testBit_eq
  intro p
  simp only [Nat.testBit_mod_two_pow, Nat.testBit_div_two_pow]
  by_cases hp : p < b
  · simp [hp, show p + t < B by omega, show p + t + s = p + (s + t) by omega]
  · simp [hp]

/-! ## Replacing bits -/

namespace Live

lemma replaceBits_eq (w s b v : Nat) :
    replaceBits w s b v = w / 2 ^ (s + b) * 2 ^ (s + b) + v % 2 ^ b * 2 ^ s + w % 2 ^ s := rfl

/-- **Which bits `replaceBits` keeps**: those of `w` outside `[s, s + b)`, those of `v` inside. -/
lemma testBit_replaceBits (w s b v p : Nat) :
    (replaceBits w s b v).testBit p =
      if s ≤ p ∧ p < s + b then v.testBit (p - s) else w.testBit p := by
  -- the three parts sit one above the other: the low `s` bits, `b` bits of `v`, the rest
  have hlow : w % 2 ^ s < 2 ^ s := Nat.mod_lt _ (Nat.two_pow_pos s)
  have hmid : v % 2 ^ b < 2 ^ b := Nat.mod_lt _ (Nat.two_pow_pos b)
  have hsplit : replaceBits w s b v =
      2 ^ s * (2 ^ b * (w / 2 ^ (s + b)) + v % 2 ^ b) + w % 2 ^ s := by
    rw [replaceBits_eq, Nat.pow_add]
    ring
  rw [hsplit, Nat.testBit_two_pow_mul_add _ hlow, Nat.testBit_two_pow_mul_add _ hmid,
    Nat.testBit_mod_two_pow, Nat.testBit_mod_two_pow, Nat.testBit_div_two_pow]
  by_cases h1 : p < s
  · simp [h1, show ¬ (s ≤ p) by omega]
  · by_cases h2 : p - s < b
    · simp [h1, h2, show s ≤ p ∧ p < s + b by omega]
    · simp [h1, h2, show ¬ (s ≤ p ∧ p < s + b) by omega, show p - s - b + (s + b) = p by omega]

/-- Only the low `b` bits of the value count. -/
lemma replaceBits_mod (w s b v : Nat) : replaceBits w s b (v % 2 ^ b) = replaceBits w s b v := by
  rw [replaceBits_eq, replaceBits_eq, Nat.mod_mod]

/-- The window that was replaced holds the low bits of the value. -/
lemma replaceBits_window_self (w s b v : Nat) : replaceBits w s b v / 2 ^ s % 2 ^ b = v % 2 ^ b := by
  apply Nat.eq_of_testBit_eq
  intro p
  rw [Nat.testBit_mod_two_pow, Nat.testBit_div_two_pow, testBit_replaceBits,
    Nat.testBit_mod_two_pow]
  by_cases hp : p < b
  · simp [hp, show s ≤ p + s ∧ p + s < s + b by omega]
  · simp [hp]

/-- A window apart from the one replaced is kept. -/
lemma replaceBits_window_of_apart (w v : Nat) {s b s' b' : Nat} (h : s' + b' ≤ s ∨ s + b ≤ s') :
    replaceBits w s b v / 2 ^ s' % 2 ^ b' = w / 2 ^ s' % 2 ^ b' := by
  apply Nat.eq_of_testBit_eq
  intro p
  rw [Nat.testBit_mod_two_pow, Nat.testBit_div_two_pow, testBit_replaceBits,
    Nat.testBit_mod_two_pow, Nat.testBit_div_two_pow]
  by_cases hp : p < b'
  · simp [hp, show ¬ (s ≤ p + s' ∧ p + s' < s + b) by omega]
  · simp [hp]

/-- Replacing bits inside a window and putting the window back is replacing them in the whole
number. -/
lemma replaceBits_replaceBits_window (w v : Nat) {s B t b : Nat} (h : t + b ≤ B) :
    replaceBits w s B (replaceBits (w / 2 ^ s % 2 ^ B) t b v) = replaceBits w (s + t) b v := by
  apply Nat.eq_of_testBit_eq
  intro p
  rw [testBit_replaceBits, testBit_replaceBits, testBit_replaceBits, Nat.testBit_mod_two_pow,
    Nat.testBit_div_two_pow]
  by_cases hin : s ≤ p ∧ p < s + B
  · by_cases hfield : s + t ≤ p ∧ p < s + t + b
    · simp [hin, hfield, show t ≤ p - s ∧ p - s < t + b by omega, show p - s - t = p - (s + t) by omega]
    · simp [hin, hfield, show ¬ (t ≤ p - s ∧ p - s < t + b) by omega, show p - s < B by omega,
        show p - s + s = p by omega]
  · simp [hin, show ¬ (s + t ≤ p ∧ p < s + t + b) by omega]

end Live

/-! ## Memories -/

/-- The loop that lists a byte array conses each byte onto what it has and reverses at the end. -/
lemma byteArray_toList_loop (bs : ByteArray) (i : Nat) (r : List UInt8) :
    ByteArray.toList.loop bs i r = r.reverse ++ bs.data.toList.drop i := by
  fun_induction ByteArray.toList.loop bs i r with
  | case1 i r hi ih =>
    rw [ih, List.reverse_cons, List.append_assoc, List.singleton_append]
    congr 1
    have hi' : i < bs.data.toList.length := by simpa using hi
    rw [List.drop_eq_getElem_cons hi']
    simp [ByteArray.get!, hi]
  | case2 i r hi =>
    have hi' : bs.data.toList.length ≤ i := by simpa using hi
    simp [List.drop_eq_nil_of_le hi']

lemma byteArray_toList (bs : ByteArray) : bs.toList = bs.data.toList := by
  simp [ByteArray.toList, byteArray_toList_loop]

namespace Memory

/-- The bytes of a memory, read little-endian, as one number. -/
def toNat (m : Memory) : Nat := ofLE m.bytes.data.toList

/-- Bit `p` of a memory: bit `p % 8` of byte `p / 8`, and 0 past the end. -/
def bit (m : Memory) (p : Nat) : Bool := ((m.bytes.data[p / 8]?).getD 0).toNat.testBit (p % 8)

/-- **The bits of a memory are the bits of its number.** -/
lemma bit_eq_testBit (m : Memory) (p : Nat) : m.bit p = m.toNat.testBit p := by
  rw [toNat, testBit_ofLE, Array.getElem?_toList, bit]

lemma length_bytes (m : Memory) : m.bytes.data.toList.length = m.size := by
  rw [Array.length_toList]
  rfl

/-- **Reading** `n` bytes at `a` answers the `n` bytes of the memory's number from bit `8 * a`
on, when they lie inside the memory. -/
lemma read_eq (m : Memory) (a n : Nat) :
    m.read a n = if a + n ≤ m.size then .ok (leBytes n (m.toNat / 2 ^ (8 * a)))
      else .error (Failure.outOfBounds .memory [] a n) := by
  unfold read fits
  by_cases hfit : a + n ≤ m.size
  · have hlen : n ≤ (m.bytes.data.toList.drop a).length := by
      rw [List.length_drop, length_bytes]
      omega
    simp only [hfit, decide_true, if_true, toNat, ← ofLE_drop,
      leBytes_ofLE _ hlen, byteArray_toList, ByteArray.data_extract, Array.toList_extract,
      List.extract_eq_take_drop, Nat.add_sub_cancel_left]
  · simp [hfit]

/-- Storing bytes inside the array puts them in place of as many bytes. -/
lemma toList_store (bytes : ByteArray) (a : Nat) (data : List UInt8)
    (h : a + data.length ≤ bytes.size) :
    (store bytes a data).data.toList =
      bytes.data.toList.take a ++ data ++ bytes.data.toList.drop (a + data.length) := by
  induction data generalizing bytes a with
  | nil => simp [store]
  | cons b rest ih =>
    have hset : (bytes.set! a b).size = bytes.size := by
      show (bytes.data.set! a b).size = bytes.data.size
      simp
    have ha : a < bytes.data.toList.length := by
      simp only [List.length_cons] at h
      simp only [Array.length_toList]
      exact Nat.lt_of_lt_of_le (by omega) h
    rw [store, ih _ _ (by rw [hset]; simp only [List.length_cons] at h; omega)]
    have hdata : (bytes.set! a b).data.toList = bytes.data.toList.set a b := by
      simp [ByteArray.set!]
    rw [hdata, List.set_eq_take_append_cons_drop, if_pos ha]
    have hmin : min a bytes.size = a := Nat.min_eq_left (by simp at ha; omega)
    simp [List.take_append, List.drop_append, hmin, List.drop_drop, List.take_take,
      List.drop_take, Nat.add_comm 1, Nat.add_assoc]

/-- **Writing** bytes that fit keeps the size and puts the bytes in place of the bits
`[8 * a, 8 * (a + n))` of the memory's number. -/
lemma write_eq_ok {m m' : Memory} {a : Nat} {data : List UInt8} (h : m.write a data = .ok m') :
    a + data.length ≤ m.size ∧ m'.size = m.size ∧
      m'.toNat = Live.replaceBits m.toNat (8 * a) (8 * data.length) (ofLE data) := by
  unfold write fits at h
  by_cases hfit : a + data.length ≤ m.size
  · simp only [hfit, decide_true, if_true, Except.ok.injEq] at h
    subst h
    have hlist := toList_store m.bytes a data hfit
    have hL := length_bytes m
    refine ⟨hfit, ?_, ?_⟩
    · -- the size is the length of the list of bytes, which the write keeps
      show (store m.bytes a data).data.toList.length = m.bytes.data.toList.length
      rw [hlist]
      simp only [List.length_append, List.length_take, List.length_drop]
      rw [hL]
      omega
    · have hD : ofLE data % 2 ^ (8 * data.length) = ofLE data := Nat.mod_eq_of_lt (ofLE_lt data)
      have hT : (m.bytes.data.toList.take a).length = a := by
        rw [List.length_take, hL]
        omega
      show ofLE (store m.bytes a data).data.toList = _
      rw [hlist, ofLE_append, ofLE_append, List.length_append, hT, ofLE_take, ofLE_drop,
        Live.replaceBits_eq, hD]
      rw [show 8 * (a + data.length) = 8 * a + 8 * data.length by ring, Nat.pow_add]
      simp only [toNat]
      ring
  · simp [hfit] at h

/-- **Written bytes read back**: after a write, the memory's number holds the bytes at their
place. -/
lemma window_write_self {m m' : Memory} {a : Nat} {data : List UInt8}
    (h : m.write a data = .ok m') : m'.toNat / 2 ^ (8 * a) % 2 ^ (8 * data.length) = ofLE data := by
  obtain ⟨-, -, hnat⟩ := write_eq_ok h
  rw [hnat, Live.replaceBits_window_self, Nat.mod_eq_of_lt (ofLE_lt data)]

/-- A read fails only past the end of the memory. -/
lemma read_error {m : Memory} {a n : Nat} {e : Failure} (h : m.read a n = .error e) :
    e.kind = .outOfBounds := by
  rw [read_eq] at h
  split at h
  · cases h
  · cases h
    rfl

/-- A write fails only past the end of the memory. -/
lemma write_error {m : Memory} {a : Nat} {data : List UInt8} {e : Failure}
    (h : m.write a data = .error e) : e.kind = .outOfBounds := by
  unfold write at h
  split at h
  · cases h
  · cases h
    rfl

end Memory

end RecordLayout
