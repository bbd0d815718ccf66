import Mathlib
import RecordLayout.Proofs.Declare
import RecordLayout.Catalog.Report

/-!
# Names of the fields of a record

A field answers to its physical name and to that name with one leading `_` removed.  Declaring
a record checks that no two of its fields answer to a common name, and every way of finding a
field by name then agrees.

**No declaration succeeds with colliding fields** (`declaration_names_resolve`): when a record's
bases and declarations flatten to fields two of which answer to a common name, declaring it
fails with an invalid declaration.  **A declared record resolves every name one way**: its
layout is what placing its own fields compiles to; the field lookup, the offset query (which
places the fields again) and the pointer-field lookup all find the one field answering to the
name, and the offset query answers the offset stored for it.

* `checkNames_eq_ok_iff` says what the name check accepts: fields whose names are pairwise
  `NamesApart`.
* `startOf?_of_placeFrom` says that walking the placement steps again finds the offset the
  placement gave.
* `find?_eq_some_iff` says that the field lookup, which keeps the last field a name finds,
  finds the only one.
-/

namespace RecordLayout

/-! ## Names a field answers to -/

/-- A physical name `x` answers to `n` when `n` is `x`, or `x` without one leading `_`. -/
def Answers (x n : String) : Prop := x = n ∨ stripSlotPrefix x = n

/-- Two physical names answer to no common name. -/
def NamesApart (x y : String) : Prop := ∀ n, Answers x n → Answers y n → False

lemma FieldInfo.answersTo_iff (f : FieldInfo) (n : String) :
    f.answersTo n = true ↔ Answers f.name n := by
  simp [FieldInfo.answersTo, Answers]

/-- Two names are apart when the second answers neither to the first nor to its bare form. -/
lemma namesApart_iff {x y : String} :
    NamesApart x y ↔ ¬ Answers y x ∧ ¬ Answers y (stripSlotPrefix x) := by
  constructor
  · intro h
    exact ⟨h x (Or.inl rfl), h _ (Or.inr rfl)⟩
  · rintro ⟨hx, hs⟩ n (rfl | rfl) hy
    · exact hx hy
    · exact hs hy

/-! ## The name check -/

section Check

variable {seen : List (String × Nat × String)} {i : Nat}

/-- Against names taken by earlier fields only, a name clashes exactly when it was taken. -/
lemma clash_eq_none_iff (hlt : ∀ e ∈ seen, e.2.1 < i) (n : String) :
    Catalog.clash seen i n = none ↔ ∀ e ∈ seen, e.1 ≠ n := by
  unfold Catalog.clash
  cases hf : seen.find? (·.1 == n) with
  | none =>
    simp only [true_iff]
    intro e he heq
    have hne := List.find?_eq_none.mp hf e he
    simp [heq] at hne
  | some e =>
    obtain ⟨k, j, other⟩ := e
    have hmem := List.mem_of_find?_eq_some hf
    have hkey : k = n := by simpa using List.find?_some hf
    have hj : j ≠ i := Nat.ne_of_lt (hlt _ hmem)
    show (if j ≠ i then some other else none) = none ↔ _
    rw [if_pos hj]
    constructor
    · intro h
      cases h
    · intro h
      exact absurd hkey (h _ hmem)

/-- Right after the field's own name is taken, a name clashes unless it is that name or was
free. -/
lemma clash_self_eq_none_iff (hlt : ∀ e ∈ seen, e.2.1 < i) (x n : String) :
    Catalog.clash ((x, i, x) :: seen) i n = none ↔ x = n ∨ ∀ e ∈ seen, e.1 ≠ n := by
  by_cases hx : x = n
  · subst hx
    simp [Catalog.clash]
  · have hfind : ((x, i, x) :: seen).find? (·.1 == n) = seen.find? (·.1 == n) := by
      simp [hx]
    rw [← clash_eq_none_iff hlt n]
    simp only [Catalog.clash, hfind, hx, false_or]

/-- **Checking names field by field** accepts exactly the fields whose names answer to nothing
taken before them and that are pairwise apart. -/
lemma checkNamesFrom_eq_ok_iff (rec : String) (fields : List FieldSpec)
    (hlt : ∀ e ∈ seen, e.2.1 < i) :
    Catalog.checkNamesFrom rec seen i fields = .ok () ↔
      (∀ f ∈ fields, ∀ e ∈ seen, ¬ Answers f.name e.1) ∧
        (fields.map (·.name)).Pairwise NamesApart := by
  induction fields generalizing seen i with
  | nil => simp [Catalog.checkNamesFrom]
  | cons f rest ih =>
    have hlt' : ∀ e ∈ (stripSlotPrefix f.name, i, f.name) :: (f.name, i, f.name) :: seen,
        e.2.1 < i + 1 := by
      intro e he
      rcases List.mem_cons.mp he with rfl | he
      · exact Nat.lt_succ_self i
      rcases List.mem_cons.mp he with rfl | he
      · exact Nat.lt_succ_self i
      · exact Nat.lt_succ_of_lt (hlt e he)
    have hname := clash_eq_none_iff hlt f.name
    have hbare := clash_self_eq_none_iff hlt f.name (stripSlotPrefix f.name)
    simp only [Catalog.checkNamesFrom]
    cases h₁ : Catalog.clash seen i f.name with
    | some other =>
      -- the physical name was taken by an earlier field
      obtain ⟨e, he, heq⟩ : ∃ e ∈ seen, e.1 = f.name := by
        by_contra hno
        rw [hname.mpr fun e he heq => hno ⟨e, he, heq⟩] at h₁
        cases h₁
      simp only [reduceCtorEq, false_iff, not_and]
      exact fun hfree _ => hfree f List.mem_cons_self e he (Or.inl heq.symm)
    | none =>
      cases h₂ : Catalog.clash ((f.name, i, f.name) :: seen) i (stripSlotPrefix f.name) with
      | some other =>
        -- the bare name was taken by an earlier field
        obtain ⟨hne, e, he, heq⟩ : f.name ≠ stripSlotPrefix f.name ∧
            ∃ e ∈ seen, e.1 = stripSlotPrefix f.name := by
          by_contra hno
          have hfree : f.name = stripSlotPrefix f.name ∨
              ∀ e ∈ seen, e.1 ≠ stripSlotPrefix f.name := by
            by_cases hs : f.name = stripSlotPrefix f.name
            · exact Or.inl hs
            · exact Or.inr fun e he heq => hno ⟨hs, e, he, heq⟩
          rw [hbare.mpr hfree] at h₂
          cases h₂
        simp only [reduceCtorEq, false_iff, not_and]
        exact fun hfree _ => hfree f List.mem_cons_self e he (Or.inr heq.symm)
      | none =>
        rw [ih hlt']
        have hfree : ∀ e ∈ seen, ¬ Answers f.name e.1 := by
          intro e he hans
          rcases hans with heq | heq
          · exact hname.mp h₁ e he heq.symm
          · rcases hbare.mp h₂ with hsame | hnot
            · exact hname.mp h₁ e he (hsame.trans heq).symm
            · exact hnot e he heq.symm
        simp only [List.mem_cons, forall_eq_or_imp, List.map_cons, List.pairwise_cons,
          List.mem_map, forall_exists_index, and_imp, forall_apply_eq_imp_iff₂, namesApart_iff]
        constructor
        · rintro ⟨hrest, hpair⟩
          exact ⟨⟨hfree, fun g hg => (hrest g hg).2.2⟩,
            fun g hg => ⟨(hrest g hg).2.1, (hrest g hg).1⟩, hpair⟩
        · rintro ⟨⟨-, hrest⟩, happ, hpair⟩
          exact ⟨fun g hg => ⟨(happ g hg).2, (happ g hg).1, hrest g hg⟩, hpair⟩

/-- Every failure of the name check is an invalid declaration of the record. -/
lemma checkNamesFrom_error (rec : String) (fields : List FieldSpec) {e : Failure}
    (h : Catalog.checkNamesFrom rec seen i fields = .error e) :
    e.kind = .invalidDeclaration := by
  induction fields generalizing seen i with
  | nil => cases h
  | cons f rest ih =>
    simp only [Catalog.checkNamesFrom] at h
    split at h
    · cases h
      rfl
    · split at h
      · cases h
        rfl
      · exact ih h

end Check

/-- **The name check accepts exactly the fields whose names are pairwise apart.** -/
lemma checkNames_eq_ok_iff (rec : String) (fields : List FieldSpec) :
    Catalog.checkNames rec fields = .ok () ↔ (fields.map (·.name)).Pairwise NamesApart := by
  rw [Catalog.checkNames, checkNamesFrom_eq_ok_iff rec fields (by simp)]
  simp

/-! ## Placing the fields again -/

section Replace

variable {bits : Nat} {prev : Bool} {m : Nat} {slots : List Slot} {offs : List Nat} {used a : Nat}

/-- **Walking the placement steps again** finds, for the first slot `hit` accepts, the offset
the placement gave it: the running sums are the same, and placement let none of them wrap. -/
lemma startOf?_of_placeFrom (hit : Slot → Bool) (h : placeFrom bits prev m slots = .ok (offs, used, a)) :
    startOf? hit bits prev slots = (slots.findIdx? hit).bind fun i => offs[i]? := by
  induction slots generalizing bits prev m offs with
  | nil => rfl
  | cons s rest ih =>
    simp only [placeFrom] at h
    split at h
    · cases h
    · rename_i hfit
      split at h
      · rename_i offs' used' a' hrest
        cases h
        have hwrap : (s.start prev bits + s.bits) % bitLimit = s.start prev bits + s.bits :=
          Nat.mod_eq_of_lt (by omega)
        rw [startOf?, List.findIdx?_cons]
        by_cases hs : hit s
        · simp [hs]
        · simp only [hs, if_false, Bool.false_eq_true, hwrap, ih hrest, Option.bind_map]
          rfl
      · cases h

/-- A successful placement is a successful `placeFrom` from the start. -/
lemma placeFrom_of_place {p : Placement} (h : place slots = .ok p) :
    ∃ used, placeFrom 0 false 1 slots = .ok (p.offsets, used, p.align) := by
  unfold place at h
  split at h
  · cases h
  · rename_i offs used a hplace
    dsimp only at h
    split at h
    · cases h
    · cases h
      exact ⟨used, hplace⟩

end Replace

/-! ## One field for each name -/

lemma NamesApart.symm {x y : String} (h : NamesApart x y) : NamesApart y x :=
  fun n hy hx => h n hx hy

section Unique

variable {fields : List FieldInfo} (happ : (fields.map (·.name)).Pairwise NamesApart)
include happ

/-- **At most one field answers to a name.** -/
lemma answers_unique {n : String} {i j : Nat} {f g : FieldInfo} (hf : fields[i]? = some f)
    (hg : fields[j]? = some g) (hfn : f.answersTo n) (hgn : g.answersTo n) : i = j := by
  have hpair := List.pairwise_iff_getElem.mp happ
  obtain ⟨hi, rfl⟩ := List.getElem?_eq_some_iff.mp hf
  obtain ⟨hj, rfl⟩ := List.getElem?_eq_some_iff.mp hg
  rw [FieldInfo.answersTo_iff] at hfn hgn
  rcases Nat.lt_trichotomy i j with hij | hij | hij
  · exact (hpair i j (by simpa using hi) (by simpa using hj) hij n (by simpa using hfn)
      (by simpa using hgn)).elim
  · exact hij
  · exact (hpair j i (by simpa using hj) (by simpa using hi) hij n (by simpa using hgn)
      (by simpa using hfn)).elim

end Unique

/-- The field lookup keeps, from `k` on, the last field answering to `n`, or what it had. -/
lemma foldl_lastHit {n : String} (xs : List FieldInfo)
    (happ : (xs.map (·.name)).Pairwise NamesApart) (k : Nat) (acc : Option (Nat × FieldInfo))
    (i : Nat) (f : FieldInfo) :
    (xs.zipIdx k).foldl (fun acc (x : FieldInfo × Nat) =>
        if x.1.answersTo n then some (x.2, x.1) else acc) acc = some (i, f) ↔
      (k ≤ i ∧ xs[i - k]? = some f ∧ f.answersTo n) ∨
        (acc = some (i, f) ∧ ∀ g ∈ xs, g.answersTo n = false) := by
  induction xs generalizing k acc with
  | nil => simp
  | cons x rest ih =>
    rw [List.map_cons, List.pairwise_cons] at happ
    obtain ⟨hx, hrest⟩ := happ
    have hshift : ∀ i, k + 1 ≤ i → (x :: rest)[i - k]? = rest[i - (k + 1)]? := by
      intro i hi
      rw [show i - k = (i - (k + 1)) + 1 by omega]
      rfl
    rw [List.zipIdx_cons, List.foldl_cons, ih hrest]
    by_cases hxn : x.answersTo n
    · -- `x` answers to `n`, so no later field does
      have hnone : ∀ g ∈ rest, g.answersTo n = false := by
        intro g hg
        rw [Bool.eq_false_iff]
        intro hgn
        rw [FieldInfo.answersTo_iff] at hxn hgn
        exact hx g.name (List.mem_map_of_mem hg) n hxn hgn
      simp only [hxn, if_true, Option.some.injEq, Prod.mk.injEq, List.mem_cons,
        forall_eq_or_imp, Bool.true_eq_false, false_and, and_false, or_false]
      constructor
      · rintro (⟨hk, hf, hfn⟩ | ⟨⟨rfl, rfl⟩, -⟩)
        · obtain ⟨g, hg⟩ : ∃ g, rest[i - (k + 1)]? = some g := ⟨f, hf⟩
          exact absurd hfn (by rw [hnone f (List.mem_of_getElem? hf)]; decide)
        · exact ⟨Nat.le_refl _, by simp, hxn⟩
      · rintro ⟨hk, hf, hfn⟩
        by_cases hik : i = k
        · subst hik
          simp only [Nat.sub_self, List.getElem?_cons_zero, Option.some.injEq] at hf
          exact Or.inr ⟨⟨rfl, hf⟩, hnone⟩
        · rw [hshift i (by omega)] at hf
          exact absurd hfn (by rw [hnone f (List.mem_of_getElem? hf)]; decide)
    · -- `x` does not answer to `n`: the lookup goes on with what it had
      have hxf : x.answersTo n = false := by simpa using hxn
      simp only [hxf, if_false, Bool.false_eq_true, List.mem_cons, forall_eq_or_imp, true_and]
      constructor
      · rintro (⟨hk, hf, hfn⟩ | ⟨hacc, hnone⟩)
        · exact Or.inl ⟨by omega, by rw [hshift i hk]; exact hf, hfn⟩
        · exact Or.inr ⟨hacc, hnone⟩
      · rintro (⟨hk, hf, hfn⟩ | ⟨hacc, hnone⟩)
        · by_cases hik : i = k
          · subst hik
            simp only [Nat.sub_self, List.getElem?_cons_zero, Option.some.injEq] at hf
            subst hf
            rw [hxf] at hfn
            cases hfn
          · exact Or.inl ⟨by omega, by rw [← hshift i (by omega)]; exact hf, hfn⟩
        · exact Or.inr ⟨hacc, hnone⟩

/-- **The field lookup finds the field answering to a name**, when the names are apart. -/
lemma find?_eq_some_iff {l : Layout} (happ : (l.fields.map (·.name)).Pairwise NamesApart)
    (n : String) (i : Nat) (f : FieldInfo) :
    l.find? n = some (i, f) ↔ l.fields[i]? = some f ∧ f.answersTo n := by
  have h := foldl_lastHit l.fields happ 0 none i f (n := n)
  simp only [Nat.zero_le, Nat.sub_zero, true_and, reduceCtorEq, false_and, or_false] at h
  exact h

lemma find?_eq_none_iff {l : Layout} (happ : (l.fields.map (·.name)).Pairwise NamesApart)
    (n : String) : l.find? n = none ↔ ∀ f ∈ l.fields, f.answersTo n = false := by
  constructor
  · intro h f hf
    rw [Bool.eq_false_iff]
    intro hfn
    obtain ⟨i, hi⟩ := List.mem_iff_getElem?.mp hf
    rw [(find?_eq_some_iff happ n i f).mpr ⟨hi, hfn⟩] at h
    cases h
  · intro h
    cases hfind : l.find? n with
    | none => rfl
    | some x =>
      obtain ⟨hf, hfn⟩ := (find?_eq_some_iff happ n x.1 x.2).mp hfind
      rw [h _ (List.mem_of_getElem? hf)] at hfn
      cases hfn

/-- **The offset query answers the stored offset of the field the lookup finds**, when the
stored offsets are those placement gives the fields: it places the fields again up to the first
one answering to the name, which is the only one. -/
lemma offsetOf?_eq {l : Layout} (happ : (l.fields.map (·.name)).Pairwise NamesApart) {used : Nat}
    (hplace : placeFrom 0 false 1 (l.fields.map (·.slot)) =
      .ok (l.fields.map (·.offset), used, l.align)) (n : String) :
    l.offsetOf? n = (l.find? n).map (·.2.offset) := by
  have hhit : ((fun s : Slot => s.name == n || stripSlotPrefix s.name == n) ∘ FieldInfo.slot) =
      fun f => f.answersTo n := rfl
  rw [Layout.offsetOf?, startOf?_of_placeFrom _ hplace, List.findIdx?_map, hhit]
  cases hfind : l.find? n with
  | some x =>
    obtain ⟨i, f⟩ := x
    obtain ⟨hf, hfn⟩ := (find?_eq_some_iff happ n i f).mp hfind
    obtain ⟨hi, rfl⟩ := List.getElem?_eq_some_iff.mp hf
    -- the first field answering to the name is the only one
    have hidx : l.fields.findIdx? (fun f => f.answersTo n) = some i := by
      rw [List.findIdx?_eq_some_iff_getElem]
      refine ⟨hi, hfn, fun j hji hj => ?_⟩
      have := answers_unique happ (List.getElem?_eq_getElem (Nat.lt_trans hji hi)) hf hj hfn
      omega
    simp [hidx, hi]
  | none =>
    rw [List.findIdx?_eq_none_iff.mpr ((find?_eq_none_iff happ n).mp hfind)]
    rfl

/-! ## The record a declaration enters -/

/-- A field about to be placed, at its offset, as the layout stores it. -/
def placedInfo (x : FieldSpec × Nat) : FieldInfo := ⟨x.1.name, x.1.storage, x.1.width, x.2⟩

section Committed

variable {c : Catalog} {b : BuilderId} {name : String} {bases : List (Option RecordId)}
  {fields : List FieldSpec} {placed : Placement}

lemma committed_fields :
    (c.committedRecord b name bases fields placed).layout.fields =
      (fields.zip placed.offsets).map placedInfo := rfl

variable (hlen : placed.offsets.length = fields.length)
include hlen

lemma committed_names :
    (c.committedRecord b name bases fields placed).layout.fields.map (·.name) =
      fields.map (·.name) := by
  rw [committed_fields, List.map_map]
  change (fields.zip placed.offsets).map ((·.name) ∘ Prod.fst) = _
  rw [← List.map_map, List.map_fst_zip (by omega)]

lemma committed_slots :
    (c.committedRecord b name bases fields placed).layout.fields.map (·.slot) =
      fields.map (·.slot) := by
  rw [committed_fields, List.map_map]
  change (fields.zip placed.offsets).map ((·.slot) ∘ Prod.fst) = _
  rw [← List.map_map, List.map_fst_zip (by omega)]

lemma committed_offsets :
    (c.committedRecord b name bases fields placed).layout.fields.map (·.offset) =
      placed.offsets := by
  rw [committed_fields, List.map_map]
  change (fields.zip placed.offsets).map Prod.snd = _
  rw [List.map_snd_zip (by omega)]

end Committed

/-- The fields about to be entered are numbered by their position. -/
lemma mem_placedItems {fields : List FieldSpec} {placed : Placement}
    {x : FieldSpec × Nat × Nat} (h : x ∈ Catalog.placedItems fields placed) :
    ∃ k, fields[k]? = some x.1 ∧ x.2.1 = k ∧ placed.offsets[k]? = some x.2.2 := by
  obtain ⟨k, hk⟩ := List.mem_iff_getElem?.mp h
  obtain ⟨hf, hrest⟩ := List.getElem?_zip_eq_some.mp hk
  obtain ⟨hr, ho⟩ := List.getElem?_zip_eq_some.mp hrest
  have hlt : k < fields.length := (List.getElem?_eq_some_iff.mp hf).1
  rw [List.getElem?_range hlt, Option.some.injEq] at hr
  exact ⟨k, hf, hr.symm, ho⟩

lemma placedItems_ordered (fields : List FieldSpec) (placed : Placement) :
    (Catalog.placedItems fields placed).Pairwise fun x y => x.2.1 < y.2.1 := by
  rw [List.pairwise_iff_getElem]
  intro i j hi hj hij
  simp only [Catalog.placedItems, List.getElem_zip, List.getElem_range]
  exact hij

section Pointers

variable {c : Catalog} {b : BuilderId} {name : String} {bases : List (Option RecordId)}
  {fields : List FieldSpec} {placed : Placement}

/-- The pointer fields of a new record are the fields with a link, numbered by position. -/
lemma committed_pointer {pf : PointerField}
    (hpf : pf ∈ (c.committedRecord b name bases fields placed).pointers) :
    ∃ x ∈ Catalog.placedItems fields placed, x.1.link.isSome ∧ pf.slot = x.1.name ∧
      pf.index = x.2.1 ∧ pf.offset = x.2.2 := by
  have hmem : (pf.name, pf.slot, pf.index, pf.offset) ∈ (Catalog.placedItems fields placed).filterMap
      fun x => x.1.link.map fun _ => (stripSlotPrefix x.1.name, x.1.name, x.2) := by
    rw [← Catalog.attach_fields]
    exact List.mem_map_of_mem hpf
  obtain ⟨x, hx, hxe⟩ := List.mem_filterMap.mp hmem
  obtain ⟨l, hl, heq⟩ := Option.map_eq_some_iff.mp hxe
  simp only [Prod.mk.injEq] at heq
  exact ⟨x, hx, by simp [hl], heq.2.1.symm, by simp [heq.2.2]⟩

/-- The pointer fields of a new record sit at distinct positions. -/
lemma committed_pointer_indices :
    ((c.committedRecord b name bases fields placed).pointers.map (·.index)).Nodup := by
  have hmap : (c.committedRecord b name bases fields placed).pointers.map (·.index) =
      ((c.committedRecord b name bases fields placed).pointers.map
        fun pf => (pf.name, pf.slot, pf.index, pf.offset)).map (·.2.2.1) := by
    rw [List.map_map]
    rfl
  rw [hmap, Catalog.committedRecord, Catalog.attach_fields, List.map_filterMap]
  refine (List.Pairwise.filterMap _ ?_ (placedItems_ordered fields placed)).imp Nat.ne_of_lt
  intro x y hxy u hu v hv
  obtain ⟨-, -, rfl⟩ := Option.map_eq_some_iff.mp (Option.map_map .. ▸ hu)
  obtain ⟨-, -, rfl⟩ := Option.map_eq_some_iff.mp (Option.map_map .. ▸ hv)
  exact hxy

end Pointers

/-! ## Looking pointer fields up -/

/-- **The pointer-field lookup** finds a pointer field exactly when it sits at the position of
the field answering to the name. -/
lemma pointerField_eq_ok_iff {c : Catalog} {r : RecordId} {rec : Record}
    (h : c.record? r = some rec) (happ : (rec.layout.fields.map (·.name)).Pairwise NamesApart)
    (hidx : (rec.pointers.map (·.index)).Nodup) (n : String) (pf : PointerField) :
    c.pointerField r n = .ok pf ↔
      pf ∈ rec.pointers ∧ ∃ f, rec.layout.fields[pf.index]? = some f ∧ f.answersTo n := by
  simp only [Catalog.pointerField, h]
  constructor
  · intro hp
    cases hfind : rec.layout.find? n with
    | none => simp [hfind] at hp
    | some x =>
      obtain ⟨i, f⟩ := x
      obtain ⟨hf, hfn⟩ := (find?_eq_some_iff happ n i f).mp hfind
      cases hpf : rec.pointers.find? (·.index == i) with
      | none => simp [hfind, hpf] at hp
      | some pf' =>
        simp only [hfind, hpf, Except.ok.injEq] at hp
        subst hp
        have hi : pf'.index = i := by simpa using List.find?_some hpf
        exact ⟨List.mem_of_find?_eq_some hpf, f, hi ▸ hf, hfn⟩
  · rintro ⟨hpf, f, hf, hfn⟩
    rw [(find?_eq_some_iff happ n pf.index f).mpr ⟨hf, hfn⟩]
    -- the pointer field at that position is `pf`: positions of pointer fields are distinct
    obtain ⟨pf', hpf'⟩ : ∃ pf', rec.pointers.find? (·.index == pf.index) = some pf' := by
      cases hfind : rec.pointers.find? (·.index == pf.index) with
      | some pf' => exact ⟨pf', rfl⟩
      | none => exact absurd (List.find?_eq_none.mp hfind pf hpf) (by simp)
    have hsame : pf' = pf := List.inj_on_of_nodup_map hidx (List.mem_of_find?_eq_some hpf') hpf
      (by simpa using List.find?_some hpf')
    simp only [hpf', hsame]

/-- The pointer-field lookup of a record reads nothing of the catalog but that record. -/
lemma pointerField_congr {c d : Catalog} {r : RecordId} (h : d.record? r = c.record? r)
    (n : String) : d.pointerField r n = c.pointerField r n := by
  simp only [Catalog.pointerField, h]

/-! ## Every declared record resolves names one way -/

/-- **How a record resolves names.** -/
structure ResolvesNames (c : Catalog) (r : RecordId) (rec : Record) : Prop where
  /-- No two fields answer to a common name. -/
  apart : (rec.layout.fields.map (·.name)).Pairwise NamesApart
  /-- The stored offsets, size and alignment are what placing the fields compiles to. -/
  compiled : place (rec.layout.fields.map (·.slot)) =
    .ok ⟨rec.layout.fields.map (·.offset), rec.layout.size, rec.layout.align⟩
  /-- The field lookup finds exactly the field answering to the name. -/
  find : ∀ (n : String) (i : Nat) (f : FieldInfo), rec.layout.find? n = some (i, f) ↔
    rec.layout.fields[i]? = some f ∧ f.answersTo n
  /-- The offset query answers the stored offset of the field answering to the name, ... -/
  offset : ∀ (n : String) (i : Nat) (f : FieldInfo), rec.layout.fields[i]? = some f →
    f.answersTo n →
    Catalog.offsetOf (some rec.layout) n = .ok f.offset
  /-- ... and fails when no field answers to it. -/
  offset_missing : ∀ n, (∀ f ∈ rec.layout.fields, f.answersTo n = false) →
    Catalog.offsetOf (some rec.layout) n = .error (Failure.fieldNotFound .query rec.name n)
  /-- The pointer-field lookup finds the pointer field at the position of the field answering
  to the name. -/
  pointer : ∀ (n : String) (pf : PointerField), c.pointerField r n = .ok pf ↔
    pf ∈ rec.pointers ∧ ∃ f, rec.layout.fields[pf.index]? = some f ∧ f.answersTo n
  /-- A pointer field is the slot at its position, at that slot's offset. -/
  pointer_slot : ∀ pf ∈ rec.pointers, ∃ f, rec.layout.fields[pf.index]? = some f ∧
    f.name = pf.slot ∧ f.offset = pf.offset

/-- A catalog holding the same record at the same place resolves its names the same way. -/
lemma ResolvesNames.of_same_record {c d : Catalog} {r : RecordId} {rec : Record}
    (h : ResolvesNames c r rec) (hd : d.record? r = c.record? r) : ResolvesNames d r rec :=
  { h with pointer := fun n pf => by rw [pointerField_congr hd]; exact h.pointer n pf }

section Commit

variable {c : Catalog} {b : BuilderId} {name : String} {bases : List (Option RecordId)}
  {fields : List FieldSpec} {placed : Placement}

/-- **The record a declaration enters resolves names one way**, its names having passed the
check and its fields having been placed. -/
lemma resolvesNames_commit (hnames : Catalog.checkNames name fields = .ok ())
    (hplace : place (fields.map (·.slot)) = .ok placed) :
    ResolvesNames (c.commit b name bases fields placed).1 ⟨c.records.size⟩
      (c.committedRecord b name bases fields placed) := by
  obtain ⟨used, hfrom⟩ := placeFrom_of_place hplace
  have hlen : placed.offsets.length = fields.length := by
    simpa using placeFrom_length hfrom
  have happ : ((c.committedRecord b name bases fields placed).layout.fields.map (·.name)).Pairwise
      NamesApart := by
    rw [committed_names hlen]
    exact (checkNames_eq_ok_iff name fields).mp hnames
  have hcompiled : place ((c.committedRecord b name bases fields placed).layout.fields.map
      (·.slot)) = .ok ⟨(c.committedRecord b name bases fields placed).layout.fields.map (·.offset),
        (c.committedRecord b name bases fields placed).layout.size,
        (c.committedRecord b name bases fields placed).layout.align⟩ := by
    rw [committed_slots hlen, committed_offsets hlen, hplace]
    rfl
  obtain ⟨used', hfrom'⟩ := placeFrom_of_place hcompiled
  have hrec : (c.commit b name bases fields placed).1.record? ⟨c.records.size⟩ =
      some (c.committedRecord b name bases fields placed) := by
    rw [Catalog.record?_commit, if_pos rfl]
  refine ⟨happ, hcompiled, find?_eq_some_iff happ, ?_, ?_,
    pointerField_eq_ok_iff hrec happ committed_pointer_indices, ?_⟩
  · intro n i f hf hfn
    rw [Catalog.offsetOf, offsetOf?_eq happ hfrom', (find?_eq_some_iff happ n i f).mpr ⟨hf, hfn⟩]
    rfl
  · intro n hnone
    rw [Catalog.offsetOf, offsetOf?_eq happ hfrom', (find?_eq_none_iff happ n).mpr hnone]
    rfl
  · -- a pointer field comes from the field at its position, placed at its offset
    intro pf hpf
    obtain ⟨x, hx, -, hslot, hindex, hoffset⟩ := committed_pointer hpf
    obtain ⟨k, hfk, hk, hok⟩ := mem_placedItems hx
    have hz : (fields.zip placed.offsets)[k]? = some (x.1, x.2.2) :=
      List.getElem?_zip_eq_some.mpr ⟨hfk, hok⟩
    refine ⟨placedInfo (x.1, x.2.2), ?_, hslot.symm, hoffset.symm⟩
    rw [hindex, hk, committed_fields, List.getElem?_map, hz]
    rfl

end Commit

/-! ## Colliding fields -/

lemma Abi.validate_error {abi : Abi} {e : Failure} (h : abi.validate = .error e) :
    e.kind = .invalidDeclaration := by
  unfold Abi.validate at h
  split at h
  · cases h
    rfl
  · split at h
    · cases h
      rfl
    · cases h

/-- A valid ABI has pointers of four or eight bytes. -/
lemma Abi.pointerSize_of_validate {abi : Abi} (h : abi.validate = .ok ()) :
    abi.pointerSize = 4 ∨ abi.pointerSize = 8 := by
  unfold Abi.validate at h
  split at h
  · cases h
  · omega

/-- **A declaration whose fields fail the name check fails**, as an invalid declaration: every
check that comes before it fails that way too. -/
lemma declare_error_of_checkNames {c : Catalog} {b : BuilderId} {name : String}
    {bases : List (Option RecordId)} {decls : List Declaration} {inh own : List FieldSpec}
    {e₀ : Failure} (hinh : c.inherit (c.abiOf b) name 0 bases = .ok inh)
    (hown : decls.mapM (c.lower b (c.abiOf b) name) = .ok own)
    (hnames : Catalog.checkNames name (inh ++ own) = .error e₀) :
    ∃ e, c.declare b name bases decls = .error e ∧ e.kind = .invalidDeclaration := by
  by_cases hname : name = ""
  · exact ⟨_, by simp [Catalog.declare_eq, Catalog.precheck, hname]; rfl, rfl⟩
  by_cases hdup : (c.lookup b name).isSome
  · exact ⟨_, by simp [Catalog.declare_eq, Catalog.precheck, hname, hdup]; rfl, rfl⟩
  cases hv : (c.abiOf b).validate with
  | error ev => exact ⟨ev, by simp [Catalog.declare_eq, Catalog.precheck, hname, hdup, hv], Abi.validate_error hv⟩
  | ok u =>
    exact ⟨e₀, by simp [Catalog.declare_eq, Catalog.precheck, hname, hdup, hv, hinh, hown, hnames],
      checkNamesFrom_error name (inh ++ own) hnames⟩

/-! ## Declarations and names -/

/-- **What declaring does with names.** -/
structure DeclarationNames (c : Catalog) (b : BuilderId) (name : String)
    (bases : List (Option RecordId)) (decls : List Declaration) : Prop where
  /-- When the bases and declarations flatten to fields two of which answer to a common name,
  declaring fails as an invalid declaration. -/
  rejects : ∀ inh own, c.inherit (c.abiOf b) name 0 bases = .ok inh →
    decls.mapM (c.lower b (c.abiOf b) name) = .ok own →
    ¬ ((inh ++ own).map (·.name)).Pairwise NamesApart →
    ∃ e, c.declare b name bases decls = .error e ∧ e.kind = .invalidDeclaration
  /-- Declaring for a placeholder fails then too, as an invalid declaration once the
  placeholder is one the builder may resolve. -/
  rejects_for : ∀ p inh own, c.inherit (c.abiOf b) name 0 bases = .ok inh →
    decls.mapM (c.lower b (c.abiOf b) name) = .ok own →
    ¬ ((inh ++ own).map (·.name)).Pairwise NamesApart →
    ∃ e, c.declareFor b p name bases decls = .error e ∧
      ((∃ ph, c.checkResolvable b p = .ok ph) → e.kind = .invalidDeclaration)
  /-- A declared record resolves every name one way. -/
  resolves : ∀ c' r, c.declare b name bases decls = .ok (c', r) →
    ∃ rec, c'.record? r = some rec ∧ ResolvesNames c' r rec
  /-- So does a record declared for a placeholder. -/
  resolves_for : ∀ p c' r, c.declareFor b p name bases decls = .ok (c', r) →
    ∃ rec, c'.record? r = some rec ∧ ResolvesNames c' r rec

section Declaration

variable {c : Catalog} {b : BuilderId} {name : String} {bases : List (Option RecordId)}
  {decls : List Declaration}

lemma declare_resolves {c' : Catalog} {r : RecordId}
    (h : c.declare b name bases decls = .ok (c', r)) :
    ∃ rec, c'.record? r = some rec ∧ ResolvesNames c' r rec := by
  obtain ⟨inh, own, placed, -, -, -, -, -, hnames, hplace, hc⟩ := Catalog.declare_eq_ok h
  have hc' : c' = (c.commit b name bases (inh ++ own) placed).1 := congrArg Prod.fst hc
  have hr : r = ⟨c.records.size⟩ := congrArg Prod.snd hc
  subst hc' hr
  exact ⟨_, by rw [Catalog.record?_commit, if_pos rfl], resolvesNames_commit hnames hplace⟩

lemma declareFor_resolves {c' : Catalog} {r : RecordId} {p : Option PlaceholderId}
    (h : c.declareFor b p name bases decls = .ok (c', r)) :
    ∃ rec, c'.record? r = some rec ∧ ResolvesNames c' r rec := by
  obtain ⟨q, ph, c₁, -, -, -, -, hdecl, rfl⟩ := Catalog.declareFor_eq_ok h
  obtain ⟨rec, hrec, hres⟩ := declare_resolves hdecl
  have hsame : (c₁.settle b q r).record? r = c₁.record? r := by rw [Catalog.record?_settle]
  exact ⟨rec, hsame.trans hrec, hres.of_same_record hsame⟩

lemma declare_rejects {inh own : List FieldSpec}
    (hinh : c.inherit (c.abiOf b) name 0 bases = .ok inh)
    (hown : decls.mapM (c.lower b (c.abiOf b) name) = .ok own)
    (hcol : ¬ ((inh ++ own).map (·.name)).Pairwise NamesApart) :
    ∃ e, c.declare b name bases decls = .error e ∧ e.kind = .invalidDeclaration := by
  cases hnames : Catalog.checkNames name (inh ++ own) with
  | error e₀ => exact declare_error_of_checkNames hinh hown hnames
  | ok u => exact absurd ((checkNames_eq_ok_iff name _).mp hnames) hcol

end Declaration

/-- **Declaring checks names, and every way of finding a field by name agrees on what it
declared.** -/
theorem declaration_names_resolve (c : Catalog) (b : BuilderId) (name : String)
    (bases : List (Option RecordId)) (decls : List Declaration) :
    DeclarationNames c b name bases decls where
  rejects _ _ hinh hown hcol := declare_rejects hinh hown hcol
  rejects_for p _ _ hinh hown hcol := by
    cases hres : c.checkResolvable b p with
    | error e₀ =>
      refine ⟨e₀, by simp [Catalog.declareFor_eq, hres], ?_⟩
      rintro ⟨ph, hph⟩
      cases hph
    | ok ph =>
      obtain ⟨e, he, hkind⟩ := declare_rejects hinh hown hcol
      exact ⟨e, by simp [Catalog.declareFor_eq, hres, he], fun _ => hkind⟩
  resolves _ _ h := declare_resolves h
  resolves_for _ _ _ h := declareFor_resolves h

end RecordLayout
