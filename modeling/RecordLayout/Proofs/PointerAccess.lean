import Mathlib
import RecordLayout.Proofs.IntegerAccess
import RecordLayout.Proofs.Linking

/-!
# Following and setting pointer fields

A pointer field of record `R` reads and writes the slot it owns in an instance of `R`, and only
in an instance of `R`: an instance of any other record is refused however alike the two layouts
are.  While the field's binding aims at an open placeholder, both accessors fail naming it and
write nothing.  Once the binding has a target `T`, the slot holds the address of an instance of
`T` in the instance's own memory, zero standing for no instance.

* `Reachable.forall_record` packages the induction over the catalogs the builder interface
  reaches, for a property each declaration gives the record it enters.
* `Record.PointerSlots`: every pointer field sits on a full-width pointer slot of its record's
  ABI, four or eight bytes wide, with the slot's name and offset.  Declared pointer fields are
  lowered to such slots; inherited ones keep their base's slot, and a base shares only an ABI
  whose pointers agree (`pointerSlots_of_reachable`).
* `Live.slot_write_read`: a pointer slot inside its memory holds every 32-bit address.
* **`pointer_access`** puts these together for every pointer field of every record of a
  reachable catalog, on every instance whose slot lies inside its memory (`PointerAccess`).
-/

namespace RecordLayout

/-! ## Every record of a reachable catalog -/

section Reachable

variable {P : Catalog → RecordId → Record → Prop}

/-- A property that holds of every record of `c` holds of every record of a catalog with the same
records, when it reads the catalog only through the record's own entry. -/
lemma forall_record_congr
    (hsame : ∀ {c d r rec}, d.record? r = c.record? r → P c r rec → P d r rec)
    {c d : Catalog} (heq : ∀ t, d.record? t = c.record? t)
    (hP : ∀ t rec, c.record? t = some rec → P c t rec) :
    ∀ t rec, d.record? t = some rec → P d t rec := by
  intro t rec ht
  rw [heq] at ht
  exact hsame (heq t) (hP t rec ht)

/-- A declaration keeps a property of every record, when it gives it the record it enters. -/
lemma forall_record_declare
    (hsame : ∀ {c d r rec}, d.record? r = c.record? r → P c r rec → P d r rec)
    {c c' : Catalog} {b : BuilderId} {name : String} {bases : List (Option RecordId)}
    {decls : List Declaration} {r : RecordId} (h : c.declare b name bases decls = .ok (c', r))
    (hnew : ∃ rec, c'.record? r = some rec ∧ P c' r rec)
    (hP : ∀ t rec, c.record? t = some rec → P c t rec) :
    ∀ t rec, c'.record? t = some rec → P c' t rec := by
  intro t rec ht
  obtain ⟨fields, placed, rfl, rfl⟩ := Catalog.commit_of_declare_eq_ok h
  by_cases hr : t = ⟨c.records.size⟩
  · -- the record the declaration enters
    subst hr
    obtain ⟨rec', hrec', hP'⟩ := hnew
    rw [ht, Option.some.injEq] at hrec'
    exact hrec' ▸ hP'
  · -- a record that was there before
    have hold : (c.commit b name bases fields placed).1.record? t = c.record? t := by
      rw [Catalog.record?_commit, if_neg (fun hi => hr (by cases t; simp_all))]
    exact hsame hold (hP t rec (hold ▸ ht))

/-- **A property each declaration gives the record it enters holds of every record of a
reachable catalog**, when it reads the catalog only through the record's own entry. -/
lemma Reachable.forall_record
    (hsame : ∀ {c d r rec}, d.record? r = c.record? r → P c r rec → P d r rec)
    (hdeclare : ∀ {c c' b name bases decls r}, (∀ t rec, c.record? t = some rec → P c t rec) →
      c.declare b name bases decls = .ok (c', r) → ∃ rec, c'.record? r = some rec ∧ P c' r rec)
    {c : Catalog} (hc : Reachable c) : ∀ r rec, c.record? r = some rec → P c r rec := by
  induction hc with
  | empty => simp [Catalog.record?]
  | newBuilder abi _ ih => exact forall_record_congr @hsame (Catalog.record?_addBuilder abi) ih
  | forward name _ _ ih =>
    exact forall_record_congr @hsame (Catalog.record?_forwardDeclare _ name) ih
  | declare _ _ hdecl ih => exact forall_record_declare @hsame hdecl (hdeclare ih hdecl) ih
  | declareFor _ _ hdecl ih =>
    obtain ⟨q, ph, c₁, -, -, -, -, hdecl₁, rfl⟩ := Catalog.declareFor_eq_ok hdecl
    exact forall_record_congr @hsame (Catalog.record?_settle _ _ _)
      (forall_record_declare @hsame hdecl₁ (hdeclare ih hdecl₁) ih)
  | resolve _ hres ih =>
    obtain ⟨q, ph, t, rec, -, -, -, -, -, -, rfl⟩ := Catalog.resolve_eq_ok hres
    exact forall_record_congr @hsame (Catalog.record?_settle _ _ _) ih

end Reachable

/-- **Every record of a reachable catalog resolves names one way.** -/
lemma resolvesNames_of_reachable {c : Catalog} (hc : Reachable c) :
    ∀ r rec, c.record? r = some rec → ResolvesNames c r rec :=
  Reachable.forall_record (fun hd h => h.of_same_record hd) (fun _ h => declare_resolves h) hc

/-! ## Pointer slots -/

/-- Two ABIs whose pointers agree have the same pointer slot. -/
lemma Abi.slot_eq_of_compatible {a b : Abi} (h : a.compatible b = true) : a.slot = b.slot := by
  simp only [Abi.compatible, Bool.and_eq_true, beq_iff_eq] at h
  simp [Abi.slot, h.1, h.2]

/-- **A record's pointer slots**: its ABI is valid, and each pointer field sits at its position on
a full-width pointer slot of that ABI, with the slot's name and offset. -/
structure Record.PointerSlots (rec : Record) : Prop where
  abi : rec.abi.validate = .ok ()
  slot : ∀ pf ∈ rec.pointers,
    rec.layout.fields[pf.index]? = some ⟨pf.slot, rec.abi.slot, 0, pf.offset⟩

namespace Catalog

variable {c : Catalog}

/-- A declared field with a link is a full-width pointer slot of the ABI. -/
lemma lower_linked {b : BuilderId} {abi : Abi} {rec : String} {d : Declaration} {f : FieldSpec}
    (h : c.lower b abi rec d = .ok f) (hl : f.link.isSome) : f.storage = abi.slot ∧ f.width = 0 := by
  unfold lower at h
  split at h
  · cases h
  · split at h
    · cases h
    · cases h
    · -- a pointer declaration
      split at h
      · cases h
      · split at h
        · cases h
        · cases h
          exact ⟨rfl, rfl⟩
    · -- a storage declaration has no link
      repeat' (split at h)
      all_goals cases h
      all_goals simp at hl

/-- **An inherited field with a link** has the storage type and width of the field at the
position of a pointer field of a base, a record of the catalog whose ABI agrees with the
builder's. -/
lemma inherit_linked {abi : Abi} {rec : String} {i : Nat} {bases : List (Option RecordId)}
    {inh : List FieldSpec} (h : c.inherit abi rec i bases = .ok inh) {f : FieldSpec} (hf : f ∈ inh)
    (hl : f.link.isSome) :
    ∃ t br pf g, c.record? t = some br ∧ br.abi.compatible abi = true ∧ pf ∈ br.pointers ∧
      br.layout.fields[pf.index]? = some g ∧ f.storage = g.storage ∧ f.width = g.width := by
  induction bases generalizing i inh with
  | nil =>
    cases h
    cases hf
  | cons base rest ih =>
    cases hb : base.bind c.record? with
    | none => simp [inherit, hb] at h
    | some br =>
      obtain ⟨t, -, ht⟩ := Option.bind_eq_some_iff.mp hb
      simp only [inherit, hb] at h
      split at h
      · cases h
      · rename_i hcompat
        split at h
        · cases h
        · rename_i more hmore
          cases h
          rcases List.mem_append.mp hf with hf | hf
          · -- a field of this base, linked by the base's pointer field at its position
            obtain ⟨⟨g, j⟩, hg, rfl⟩ := List.mem_map.mp hf
            obtain ⟨pf, hpf⟩ : ∃ pf, br.pointers.find? (·.index == j) = some pf :=
              Option.isSome_iff_exists.mp (by simpa using hl)
            have hidx : pf.index = j := by simpa using List.find?_some hpf
            refine ⟨t, br, pf, g, ht, by simpa using hcompat, List.mem_of_find?_eq_some hpf, ?_,
              rfl, rfl⟩
            rw [hidx]
            exact List.mk_mem_zipIdx_iff_getElem?.mp hg
          · exact ih hmore hf

end Catalog

/-- **The record a declaration enters has its pointer slots**, when every record before it has. -/
lemma pointerSlots_declare {c c' : Catalog} {b : BuilderId} {name : String}
    {bases : List (Option RecordId)} {decls : List Declaration} {r : RecordId}
    (hP : ∀ t rec, c.record? t = some rec → rec.PointerSlots)
    (h : c.declare b name bases decls = .ok (c', r)) :
    ∃ rec, c'.record? r = some rec ∧ rec.PointerSlots := by
  obtain ⟨inh, own, placed, -, -, hvalid, hinh, hown, -, -, hc⟩ := Catalog.declare_eq_ok h
  have hc' : c' = (c.commit b name bases (inh ++ own) placed).1 := congrArg Prod.fst hc
  have hr : r = ⟨c.records.size⟩ := congrArg Prod.snd hc
  subst hc' hr
  -- every linked field about to be placed is a full-width slot of the builder's ABI
  have hlinked : ∀ g ∈ inh ++ own, g.link.isSome → g.storage = (c.abiOf b).slot ∧ g.width = 0 := by
    intro g hg hl
    rcases List.mem_append.mp hg with hg | hg
    · obtain ⟨t, br, pf, g', ht, hcompat, hpf, hg', hstorage, hwidth⟩ :=
        Catalog.inherit_linked hinh hg hl
      have hslot := (hP t br ht).slot pf hpf
      rw [hg', Option.some.injEq] at hslot
      rw [hstorage, hwidth, hslot]
      exact ⟨Abi.slot_eq_of_compatible hcompat, rfl⟩
    · obtain ⟨d, -, hlower⟩ := exists_of_mapM_eq_ok hown g hg
      exact Catalog.lower_linked hlower hl
  refine ⟨_, by rw [Catalog.record?_commit, if_pos rfl], ⟨hvalid, ?_⟩⟩
  intro pf hpf
  obtain ⟨x, hx, hl, hslot, hindex, hoffset⟩ := committed_pointer hpf
  obtain ⟨k, hk, hxk, hoff⟩ := mem_placedItems hx
  obtain ⟨hstorage, hwidth⟩ := hlinked x.1 (List.mem_of_getElem? hk) hl
  have hzip : ((inh ++ own).zip placed.offsets)[k]? = some (x.1, x.2.2) :=
    List.getElem?_zip_eq_some.mpr ⟨hk, hoff⟩
  rw [committed_fields, hindex, hxk, List.getElem?_map, hzip]
  simp [placedInfo, hslot, hoffset, hstorage, hwidth, Catalog.committedRecord]

/-- **Every record of a reachable catalog has its pointer slots.** -/
lemma pointerSlots_of_reachable {c : Catalog} (hc : Reachable c) :
    ∀ r rec, c.record? r = some rec → rec.PointerSlots :=
  @Reachable.forall_record (fun _ _ rec => rec.PointerSlots) (fun _ h => h)
    (fun hP h => pointerSlots_declare hP h) c hc

/-! ## The slot of a pointer field -/

lemma throw_eq_error {ε α : Type} (e : ε) : (throw e : Except ε α) = .error e := rfl

/-- **A pointer slot inside its memory holds every 32-bit address**: writing one succeeds, and
the slot then reads it back. -/
lemma Live.slot_write_read {l : Live} {s : FieldInfo} {abi : Abi} (habi : abi.validate = .ok ())
    (hs : s.storage = abi.slot) (hw : s.width = 0) (hal : s.offset % 8 = 0)
    (hin : l.addr + s.offset / 8 + abi.pointerSize ≤ min l.memory.size addressSpace)
    {y : Nat} (hy : y < addressSpace) :
    ∃ m, l.writeRaw s y = .ok m ∧ { l with memory := m }.readRaw s = .ok y := by
  have hsize := Abi.pointerSize_of_validate habi
  have hbits : s.bits = 8 * abi.pointerSize := by
    rw [FieldInfo.bits_of_width_zero hw, hs]
    rfl
  have hinb : l.InBounds s := by
    unfold Live.InBounds
    rw [hbits]
    omega
  have hscalar : Live.scalarSize s.storage.size := by
    rw [hs]
    rcases hsize with h | h <;> simp [Abi.slot, Storage.size, Live.scalarSize, h]
  obtain ⟨m, hm⟩ := Live.writeRaw_ok hinb (by omega) (.inr hscalar) y
  refine ⟨m, hm, ?_⟩
  rw [Live.readRaw_writeRaw hm, Nat.mod_eq_of_lt]
  -- a slot of four or eight bytes holds 32 bits at least
  calc y < 2 ^ 32 := hy
    _ ≤ 2 ^ s.bits := Nat.pow_le_pow_right (by norm_num) (by omega)

namespace PointerField

variable {c : Catalog} {h : Heap} {R : RecordId} {rec : Record} {pf : PointerField}
  {mid : MemoryId} {mem : Memory} {a : Nat}

/-- The instance of a record at an address of a memory of the heap is live. -/
lemma live_instance (hR : c.record? R = some rec) (hmem : h.get? mid = some mem) :
    View.live c h ⟨some R, some mid, a⟩ = .ok ⟨R, rec, mid, mem, a⟩ := by
  simp [View.live, hR, hmem]

/-- A pointer field of `R` takes every live instance of `R` ... -/
lemma check_instance (hR : c.record? R = some rec) (hmem : h.get? mid = some mem) :
    check c h R pf (some ⟨some R, some mid, a⟩) = .ok ⟨R, rec, mid, mem, a⟩ := by
  simp [check, live_instance hR hmem]

/-- ... and refuses a live instance of any other record, naming that record and its own. -/
lemma check_other {R' : RecordId} {rec' : Record} (hR' : c.record? R' = some rec')
    (hmem : h.get? mid = some mem) (hne : R' ≠ R) :
    check c h R pf (some ⟨some R', some mid, a⟩) =
      .error (Failure.typeMismatch .access [pf.name] rec'.name (c.recordName R)) := by
  simp [check, live_instance hR' hmem, hne]

/-- While the binding aims at a placeholder, the target is unknown. -/
lemma aimed_forward {bd : Binding} {q : PlaceholderId} (hbd : c.binding? pf.binding = some bd)
    (hq : bd.aim = .forward q) :
    pf.aimed c =
      .error (Failure.unresolvedTarget (c.recordName bd.owner) bd.field (c.placeholderName q)) := by
  simp [aimed, hbd, Catalog.target, hq]

section Checked

variable {v : Option View} {l : Live}

lemma get_of_check_error {e : Failure} (he : check c h R pf v = .error e) :
    pf.get c h R v = .error e := by
  simp [get, he]

lemma set_of_check_error {e : Failure} (he : check c h R pf v = .error e) (value : Option View) :
    pf.set c h R v value = .error e := by
  simp [set, he]

variable (hcheck : check c h R pf v = .ok l)
include hcheck

lemma get_of_aimed_error {e : Failure} (he : pf.aimed c = .error e) : pf.get c h R v = .error e := by
  simp [get, hcheck, he]

lemma set_of_aimed_error {e : Failure} (he : pf.aimed c = .error e) (value : Option View) :
    pf.set c h R v value = .error e := by
  simp [set, hcheck, he]

variable {T : RecordId} (haimed : pf.aimed c = .ok T)
include haimed

/-- A zero slot follows to no instance. -/
lemma get_null (hread : l.readRaw (slotField l pf) = .ok 0) : pf.get c h R v = .ok none := by
  simp [get, hcheck, haimed, hread]
  rfl

/-- A nonzero 32-bit address in the slot follows to the target at that address, in the same
memory. -/
lemma get_linked {addr : Nat} (hread : l.readRaw (slotField l pf) = .ok addr) (hpos : 0 < addr)
    (haddr : addr < addressSpace) :
    pf.get c h R v = .ok (some ⟨some T, some l.memId, addr⟩) := by
  simp [get, hcheck, haimed, hread, Nat.pos_iff_ne_zero.mp hpos, Nat.not_le.mpr haddr]
  rfl

/-- Setting no instance writes zero to the slot. -/
lemma set_none {m : Memory} (hw : l.writeRaw (slotField l pf) 0 = .ok m) :
    pf.set c h R v none = .ok (View.store h l m) := by
  simp [set, hcheck, haimed, hw]

/-- Setting an instance of the target in the same memory writes its address to the slot. -/
lemma set_linked {addr : Nat} {m : Memory} (hw : l.writeRaw (slotField l pf) addr = .ok m) :
    pf.set c h R v (some ⟨some T, some l.memId, addr⟩) = .ok (View.store h l m) := by
  simp [set, hcheck, haimed, hw]

/-- Setting an instance of another record fails. -/
lemma set_other_record {r : RecordId} {mid' : MemoryId} {addr : Nat} (hne : r ≠ T) :
    pf.set c h R v (some ⟨some r, some mid', addr⟩) =
      .error (Failure.typeMismatch .access [l.record.name, pf.name] (c.recordName r)
        (c.recordName T)) := by
  simp [set, hcheck, haimed, hne, throw_eq_error]

/-- Setting an instance of the target in another memory fails. -/
lemma set_other_memory {mid' : MemoryId} {addr : Nat} (hne : mid' ≠ l.memId) :
    ∃ e, pf.set c h R v (some ⟨some T, some mid', addr⟩) = .error e ∧ e.kind = .typeMismatch := by
  simp [set, hcheck, haimed, hne, throw_eq_error]

/-- Setting an instance without a record or a memory fails. -/
lemma set_zero_value {w : View} (hw : w.record = none ∨ w.memory = none) :
    pf.set c h R v (some w) =
      .error (Failure.nilPointer .access [l.record.name, pf.name] "pointee instance") := by
  rcases w with ⟨_ | r, _ | mid', addr⟩ <;> simp_all [set, throw_eq_error]

end Checked

/-- In a catalog with the invariant, a pointer field's binding has a target or aims at a
placeholder. -/
lemma aimed_or_forward (hi : Inv c) (hR : c.record? R = some rec) (hpf : pf ∈ rec.pointers) :
    (∃ T, pf.aimed c = .ok T) ∨ ∃ bd q, c.binding? pf.binding = some bd ∧ bd.aim = .forward q := by
  obtain ⟨bd, hbd⟩ := Option.isSome_iff_exists.mp (hi.pointerBinding R rec hR pf hpf)
  cases haim : bd.aim with
  | record t => exact .inl ⟨t, by simp [aimed, hbd, Catalog.target, haim]⟩
  | self t => exact .inl ⟨t, by simp [aimed, hbd, Catalog.target, haim]⟩
  | forward q => exact .inr ⟨bd, q, hbd, haim⟩

/-- **What a pointer field does once its target is `T`**, on instance `inst` of its record `R`. -/
structure Resolved (c : Catalog) (h : Heap) (R : RecordId) (pf : PointerField) (inst : View)
    (T : RecordId) : Prop where
  /-- Setting a view of `T` in the instance's memory at a nonzero 32-bit address succeeds; the
  field then follows to that view, and the slot reads its address. -/
  linked : ∀ addr, 0 < addr → addr < addressSpace →
    ∃ h', pf.set c h R (some inst) (some ⟨some T, inst.memory, addr⟩) = .ok h' ∧
      pf.get c h' R (some inst) = .ok (some ⟨some T, inst.memory, addr⟩) ∧
      View.getUnsigned c h' inst pf.slot = .ok addr
  /-- Setting no instance succeeds, and the field then follows to none. -/
  cleared : ∃ h', pf.set c h R (some inst) none = .ok h' ∧ pf.get c h' R (some inst) = .ok none
  /-- Setting an instance of another record fails as a type mismatch, ... -/
  other_record : ∀ r mid addr, r ≠ T →
    ∃ e, pf.set c h R (some inst) (some ⟨some r, some mid, addr⟩) = .error e ∧
      e.kind = .typeMismatch
  /-- ... so does setting one of `T` in another memory, ... -/
  other_memory : ∀ mid addr, some mid ≠ inst.memory →
    ∃ e, pf.set c h R (some inst) (some ⟨some T, some mid, addr⟩) = .error e ∧
      e.kind = .typeMismatch
  /-- ... and setting one without a record or a memory fails as a nil pointer. -/
  zero_value : ∀ w : View, w.record = none ∨ w.memory = none →
    ∃ e, pf.set c h R (some inst) (some w) = .error e ∧ e.kind = .nilPointer

/-- **A resolved pointer field on an instance of its record**, whose slot lies inside the
instance's memory. -/
lemma resolved_instance (hR : c.record? R = some rec) (hres : ResolvesNames c R rec)
    (hslots : rec.PointerSlots) (hpf : pf ∈ rec.pointers) (hmem : h.get? mid = some mem)
    (hin : a + pf.offset / 8 + rec.abi.pointerSize ≤ min mem.size addressSpace) {T : RecordId}
    (haimed : pf.aimed c = .ok T) : pf.Resolved c h R ⟨some R, some mid, a⟩ T := by
  -- the slot is the full-width pointer field at the pointer field's position
  have hfield := hslots.slot pf hpf
  have hslot : ∀ m : Memory, slotField ⟨R, rec, mid, m, a⟩ pf =
      ⟨pf.slot, rec.abi.slot, 0, pf.offset⟩ := by
    intro m
    simp [slotField, List.getD_eq_getElem?_getD, hfield]
  have hal := hres.byte_aligned hfield rfl
  have hcheck : check c h R pf (some ⟨some R, some mid, a⟩) = .ok ⟨R, rec, mid, mem, a⟩ :=
    check_instance hR hmem
  -- what the slot holds after a write, read through the heap that keeps it
  have hstored : ∀ y, y < addressSpace → ∃ m, Live.writeRaw ⟨R, rec, mid, mem, a⟩
      (slotField ⟨R, rec, mid, mem, a⟩ pf) y = .ok m ∧
      check c (View.store h ⟨R, rec, mid, mem, a⟩ m) R pf (some ⟨some R, some mid, a⟩) =
        .ok ⟨R, rec, mid, m, a⟩ ∧
      Live.readRaw ⟨R, rec, mid, m, a⟩ (slotField ⟨R, rec, mid, m, a⟩ pf) = .ok y := by
    intro y hy
    obtain ⟨m, hw, hr⟩ : ∃ m, Live.writeRaw ⟨R, rec, mid, mem, a⟩
        ⟨pf.slot, rec.abi.slot, 0, pf.offset⟩ y = .ok m ∧
        Live.readRaw ⟨R, rec, mid, m, a⟩ ⟨pf.slot, rec.abi.slot, 0, pf.offset⟩ = .ok y :=
      Live.slot_write_read hslots.abi rfl rfl hal hin hy
    refine ⟨m, by rw [hslot]; exact hw, check_instance hR (Heap.get?_set_self hmem m), ?_⟩
    rw [hslot]
    exact hr
  refine ⟨fun addr hpos haddr => ?_, ?_, fun r mid' addr hne => ?_, fun mid' addr hne => ?_,
    fun w hw => ?_⟩
  · -- linked
    obtain ⟨m, hw, hcheck', hr⟩ := hstored addr haddr
    refine ⟨_, set_linked hcheck haimed hw, get_linked hcheck' haimed hr hpos haddr, ?_⟩
    -- the slot's own name finds the slot, a pointer field that reads unsigned
    have hfind : rec.layout.find? pf.slot = some (pf.index, ⟨pf.slot, rec.abi.slot, 0, pf.offset⟩) :=
      (hres.find _ _ _).mpr ⟨hfield, by simp [FieldInfo.answersTo]⟩
    have hlive : View.live c (View.store h ⟨R, rec, mid, mem, a⟩ m) ⟨some R, some mid, a⟩ =
        .ok ⟨R, rec, mid, m, a⟩ := live_instance hR (Heap.get?_set_self hmem m)
    have hname : Live.field ⟨R, rec, mid, m, a⟩ pf.slot =
        .ok ⟨pf.slot, rec.abi.slot, 0, pf.offset⟩ := by
      simp [Live.field, hfind]
    have hptr : (⟨pf.slot, rec.abi.slot, 0, pf.offset⟩ : FieldInfo).isPointer := by
      simp [FieldInfo.isPointer, Abi.slot, Storage.kind]
    rw [hslot] at hr
    simp [View.getUnsigned, hlive, hname, hptr, hr]
  · -- cleared
    obtain ⟨m, hw, hcheck', hr⟩ := hstored 0 (by decide)
    exact ⟨_, set_none hcheck haimed hw, get_null hcheck' haimed hr⟩
  · exact ⟨_, set_other_record hcheck haimed hne, rfl⟩
  · exact set_other_memory hcheck haimed fun heq => hne (by rw [heq])
  · exact ⟨_, set_zero_value hcheck haimed hw, rfl⟩

end PointerField

open PointerField in
/-- **What a pointer field of record `R` does** on instance `inst` of `R`, and on instances of
other records. -/
structure PointerAccess (c : Catalog) (h : Heap) (R : RecordId) (pf : PointerField)
    (inst : View) : Prop where
  /-- The field's binding has a target or aims at a placeholder. -/
  bound : (∃ T, pf.aimed c = .ok T) ∨
    ∃ bd q, c.binding? pf.binding = some bd ∧ bd.aim = .forward q
  /-- While it aims at a placeholder, following and setting fail naming the binding's field and
  the placeholder. -/
  unresolved : ∀ bd q, c.binding? pf.binding = some bd → bd.aim = .forward q →
    pf.get c h R (some inst) =
        .error (Failure.unresolvedTarget (c.recordName bd.owner) bd.field (c.placeholderName q)) ∧
      ∀ value, pf.set c h R (some inst) value =
        .error (Failure.unresolvedTarget (c.recordName bd.owner) bd.field (c.placeholderName q))
  /-- Once it has a target, the slot holds instances of that target in the instance's memory. -/
  resolved : ∀ T, pf.aimed c = .ok T → pf.Resolved c h R inst T
  /-- A live instance of any other record is refused, whatever its layout. -/
  foreign : ∀ R' rec' mid' mem' a', R' ≠ R → c.record? R' = some rec' → h.get? mid' = some mem' →
    (∃ e, pf.get c h R (some ⟨some R', some mid', a'⟩) = .error e ∧ e.kind = .typeMismatch) ∧
      ∀ value, ∃ e, pf.set c h R (some ⟨some R', some mid', a'⟩) value = .error e ∧
        e.kind = .typeMismatch

open PointerField in
/-- **Pointer fields follow and set instances of their target.**  For every pointer field of every
record `R` of a catalog the builder interface reaches, declared or inherited, and every instance
of `R` whose slot lies inside its memory: while the field's binding aims at a placeholder, both
accessors fail and write nothing; once it has a target `T`, an instance of `T` in the same memory
at a nonzero address is stored and followed back, the slot reading its address, no instance is
stored as zero and followed back as none, and an instance of another record, in another memory
or without a record or memory is refused; and an instance of any record other than `R` is
refused. -/
theorem pointer_access {c : Catalog} (hc : Reachable c) {R : RecordId} {rec : Record}
    (hR : c.record? R = some rec) {pf : PointerField} (hpf : pf ∈ rec.pointers) {h : Heap}
    {mid : MemoryId} {mem : Memory} (hmem : h.get? mid = some mem) {a : Nat}
    (hin : a + pf.offset / 8 + rec.abi.pointerSize ≤ min mem.size addressSpace) :
    PointerAccess c h R pf ⟨some R, some mid, a⟩ where
  bound := aimed_or_forward (Inv.of_reachable hc) hR hpf
  unresolved _ _ hbd hq :=
    ⟨get_of_aimed_error (check_instance hR hmem) (aimed_forward hbd hq),
      set_of_aimed_error (check_instance hR hmem) (aimed_forward hbd hq)⟩
  resolved _ haimed := resolved_instance hR (resolvesNames_of_reachable hc R rec hR)
    (pointerSlots_of_reachable hc R rec hR) hpf hmem hin haimed
  foreign _ _ _ _ _ hne hR' hmem' :=
    ⟨⟨_, get_of_check_error (check_other hR' hmem' hne), rfl⟩,
      fun value => ⟨_, set_of_check_error (check_other hR' hmem' hne) value, rfl⟩⟩

/-- A list node, a `uint32_t` and a pointer to the next node, at address 0 of a memory of sixteen
bytes. -/
theorem pointer_access_list_node :
    ∃ c R rec pf mem, (({} : Catalog).addBuilder Abi.native64).1.declare ⟨0⟩ "Node" []
        [.field "value" (.scalar .uint32), .pointer "next" .self] = .ok (c, R) ∧
      Reachable c ∧ c.record? R = some rec ∧ pf ∈ rec.pointers ∧
      Heap.get? ⟨#[⟨⟨#[0, 0, 0, 0, 0, 0, 0, 0, 0, 0, 0, 0, 0, 0, 0, 0]⟩, 16⟩]⟩ ⟨0⟩ = some mem ∧
      0 + pf.offset / 8 + rec.abi.pointerSize ≤ min mem.size addressSpace ∧
      PointerAccess c ⟨#[⟨⟨#[0, 0, 0, 0, 0, 0, 0, 0, 0, 0, 0, 0, 0, 0, 0, 0]⟩, 16⟩]⟩ R pf
        ⟨some R, some ⟨0⟩, 0⟩ := by
  have hdecl : (({} : Catalog).addBuilder Abi.native64).1.declare ⟨0⟩ "Node" []
      [.field "value" (.scalar .uint32), .pointer "next" .self] = .ok (_, _) := rfl
  have hc : Reachable _ := .declare (.newBuilder Abi.native64 .empty) rfl hdecl
  refine ⟨_, _, _, _, _, hdecl, hc, rfl, List.mem_cons_self, rfl, by decide, ?_⟩
  exact pointer_access hc rfl List.mem_cons_self rfl (by decide)

end RecordLayout
