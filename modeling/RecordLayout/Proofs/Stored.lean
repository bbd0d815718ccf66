import Mathlib
import RecordLayout.Proofs.Names
import RecordLayout.Proofs.Registry

/-!
# What a built catalog stores

A record held by value is stored with the name, size and alignment it was declared with: the
storage type a record hands out carries its own, but the catalog takes whatever storage type a
declaration gives.  `Built` is the catalogs a caller reaches through the builder interface when
every storage type it declares fits: a record held by value with that record's size and
alignment (`Storage.Fits`).

**`Built.wellStored`**: every record of a built catalog is stored as its declaration compiled it
(`Record.Stored`): its offsets, size and alignment are what placing its fields gives, each record
it holds by value is held with that record's size and alignment, each pointer slot has its ABI's
pointer size and alignment, and its ABI is valid.  Inherited fields keep their storage types,
and a base shares only an ABI whose pointers agree, so they fit the new record too.
-/

namespace RecordLayout

/-- A storage type that fits a catalog and an ABI: a record held by value with that record's
size and alignment, a pointer slot with the ABI's pointer size and alignment. -/
def Storage.Fits (c : Catalog) (abi : Abi) : Storage → Prop
  | .scalar _ => True
  | .record t _ size align => ∃ rec, c.record? t = some rec ∧ size = rec.size ∧ align = rec.align
  | .slot size align => size = abi.pointerSize ∧ align = abi.pointerAlign

/-- **A record as a built catalog stores it.** -/
structure Record.Stored (c : Catalog) (rec : Record) : Prop where
  /-- The stored offsets, size and alignment are what placing the fields compiles to. -/
  compiled : place (rec.layout.fields.map (·.slot)) =
    .ok ⟨rec.layout.fields.map (·.offset), rec.size, rec.align⟩
  /-- Every field's storage type fits the catalog and the record's ABI. -/
  fits : ∀ f ∈ rec.layout.fields, f.storage.Fits c rec.abi
  /-- The record's ABI is valid. -/
  abi : rec.abi.validate = .ok ()

/-- Every record of the catalog is stored as its declaration compiled it. -/
def Catalog.WellStored (c : Catalog) : Prop :=
  ∀ r rec, c.record? r = some rec → rec.Stored c

/-- **The catalogs a caller builds** through the builder interface, declaring only storage types
that fit: each record held by value with that record's own size and alignment. -/
inductive Built : Catalog → Prop
  | empty : Built {}
  | newBuilder {c : Catalog} (abi : Abi) : Built c → Built (c.addBuilder abi).1
  | forward {c : Catalog} {b : BuilderId} (name : String) : Built c →
      Built (c.forwardDeclare b name).1
  | declare {c c' : Catalog} {b : BuilderId} {name : String} {bases : List (Option RecordId)}
      {decls : List Declaration} {r : RecordId} : Built c →
      (∀ d ∈ decls, ∀ s, d.storage = some s → s.Fits c (c.abiOf b)) →
      c.declare b name bases decls = .ok (c', r) → Built c'
  | declareFor {c c' : Catalog} {b : BuilderId} {p : Option PlaceholderId} {name : String}
      {bases : List (Option RecordId)} {decls : List Declaration} {r : RecordId} : Built c →
      (∀ d ∈ decls, ∀ s, d.storage = some s → s.Fits c (c.abiOf b)) →
      c.declareFor b p name bases decls = .ok (c', r) → Built c'
  | resolve {c c' : Catalog} {b : BuilderId} {p : Option PlaceholderId} {r : Option RecordId} :
      Built c → c.resolve b p r = .ok c' → Built c'

/-- Record `t` is `r`, or is held by value in a record that `r` holds by value, at any depth. -/
inductive HeldBy (c : Catalog) (r : RecordId) : RecordId → Prop
  | refl : HeldBy c r r
  | field {s t : RecordId} {rec : Record} {f : FieldInfo} : HeldBy c r s → c.record? s = some rec →
      f ∈ rec.layout.fields → f.storage.record? = some t → HeldBy c r t

/-- A record whose ABI aligns pointers to their size. -/
def NaturalPointers (c : Catalog) (r : RecordId) : Prop :=
  ∀ rec, c.record? r = some rec → rec.abi.pointerAlign = rec.abi.pointerSize

variable {c c' : Catalog}

lemma HeldBy.trans {r s t : RecordId} (h₁ : HeldBy c r s) (h₂ : HeldBy c s t) : HeldBy c r t := by
  induction h₂ with
  | refl => exact h₁
  | field _ hrec hf ht ih => exact .field ih hrec hf ht

/-! ## Fitting storage types -/

/-- A storage type keeps fitting a catalog that keeps every record. -/
lemma Storage.Fits.mono {abi : Abi} {s : Storage} (h : s.Fits c abi)
    (hkeep : ∀ t rec, c.record? t = some rec → c'.record? t = some rec) : s.Fits c' abi := by
  cases s with
  | scalar => trivial
  | record t n size align =>
    obtain ⟨rec, hrec, hsize, halign⟩ := h
    exact ⟨rec, hkeep t rec hrec, hsize, halign⟩
  | slot => exact h

/-- A storage type fits every ABI whose pointers agree. -/
lemma Storage.Fits.of_compatible {abi abi' : Abi} {s : Storage} (h : s.Fits c abi)
    (hcompat : abi.compatible abi' = true) : s.Fits c abi' := by
  simp only [Abi.compatible, Bool.and_eq_true, beq_iff_eq] at hcompat
  cases s with
  | scalar => trivial
  | record => exact h
  | slot size align =>
    obtain ⟨hsize, halign⟩ := h
    exact ⟨hsize.trans hcompat.1, halign.trans hcompat.2⟩

lemma Record.Stored.mono {rec : Record} (h : rec.Stored c)
    (hkeep : ∀ t rec, c.record? t = some rec → c'.record? t = some rec) : rec.Stored c' :=
  { h with fits := fun f hf => (h.fits f hf).mono hkeep }

lemma Catalog.WellStored.of_record?_eq (h : c.WellStored) (heq : ∀ t, c'.record? t = c.record? t) :
    c'.WellStored := by
  intro r rec hrec
  rw [heq] at hrec
  exact (h r rec hrec).mono fun t rec' ht => (heq t).trans ht

/-! ## The fields of a declaration -/

namespace Catalog

/-- **An inherited field** has the storage type of a field of a base, a record of the catalog
whose ABI agrees with the builder's. -/
lemma inherit_storage {abi : Abi} {rec : String} {i : Nat} {bases : List (Option RecordId)}
    {inh : List FieldSpec} (h : c.inherit abi rec i bases = .ok inh) :
    ∀ f ∈ inh, ∃ t br g, c.record? t = some br ∧ br.abi.compatible abi = true ∧
      g ∈ br.layout.fields ∧ f.storage = g.storage := by
  induction bases generalizing i inh with
  | nil =>
    cases h
    simp
  | cons base rest ih =>
    cases hb : base.bind c.record? with
    | none => simp [inherit, hb] at h
    | some br =>
      obtain ⟨t, -, ht⟩ := Option.bind_eq_some_iff.mp hb
      simp only [inherit, hb] at h
      split at h
      · cases h
      · rename_i hcompat
        split at h
        · cases h
        · rename_i more hmore
          cases h
          intro f hf
          rcases List.mem_append.mp hf with hf | hf
          · -- a field of this base, with its storage type
            obtain ⟨⟨g, j⟩, hg, rfl⟩ := List.mem_map.mp hf
            exact ⟨t, br, g, ht, by simpa using hcompat, List.fst_mem_of_mem_zipIdx hg, rfl⟩
          · exact ih hmore f hf

/-- **A declared field** is a pointer slot of the ABI, or has the storage type declared. -/
lemma lower_storage {b : BuilderId} {abi : Abi} {rec : String} {d : Declaration}
    {f : FieldSpec} (h : c.lower b abi rec d = .ok f) :
    f.storage = abi.slot ∨ d.storage = some f.storage := by
  unfold lower at h
  split at h
  · cases h
  · split at h
    · cases h
    · cases h
    · -- a pointer declaration
      split at h
      · cases h
      · split at h
        · cases h
        · cases h
          exact .inl rfl
    · -- a storage declaration
      rename_i s _ hs _
      repeat' (split at h)
      all_goals cases h
      all_goals exact .inr hs

end Catalog

/-! ## Every record of a built catalog is stored as compiled -/

section Commit

variable {b : BuilderId} {name : String} {bases : List (Option RecordId)} {fields : List FieldSpec}
  {placed : Placement}

/-- The fields a declaration enters have the storage types of the fields declared. -/
lemma mem_committed_fields {f : FieldInfo}
    (hf : f ∈ (c.committedRecord b name bases fields placed).layout.fields) :
    ∃ g ∈ fields, f.storage = g.storage := by
  rw [committed_fields] at hf
  obtain ⟨⟨g, off⟩, hg, rfl⟩ := List.mem_map.mp hf
  exact ⟨g, (List.of_mem_zip hg).1, rfl⟩

/-- **The record a declaration enters is stored as compiled**, when every field it places fits
the catalog and the builder's ABI. -/
lemma stored_commit (hvalid : (c.abiOf b).validate = .ok ())
    (hnames : Catalog.checkNames name fields = .ok ())
    (hplace : place (fields.map (·.slot)) = .ok placed)
    (hfits : ∀ g ∈ fields, g.storage.Fits c (c.abiOf b)) :
    (c.committedRecord b name bases fields placed).Stored (c.commit b name bases fields placed).1 where
  compiled := (resolvesNames_commit hnames hplace).compiled
  fits f hf := by
    obtain ⟨g, hg, hstorage⟩ := mem_committed_fields hf
    rw [hstorage]
    exact (hfits g hg).mono fun t rec ht => by
      rw [record?_commit_of_lt (Catalog.record?_lt ht)]
      exact ht
  abi := hvalid

end Commit

/-- **A declaration keeps every record stored as compiled**, when the storage types it declares
fit. -/
lemma Catalog.WellStored.declare (hw : c.WellStored) {b : BuilderId} {name : String}
    {bases : List (Option RecordId)} {decls : List Declaration} {r : RecordId}
    (hdecls : ∀ d ∈ decls, ∀ s, d.storage = some s → s.Fits c (c.abiOf b))
    (h : c.declare b name bases decls = .ok (c', r)) : c'.WellStored := by
  obtain ⟨inh, own, placed, -, -, hvalid, hinh, hown, hnames, hplace, hc⟩ :=
    Catalog.declare_eq_ok h
  have hc' : c' = (c.commit b name bases (inh ++ own) placed).1 := congrArg Prod.fst hc
  subst hc'
  -- inherited fields fit as their bases' fields do; declared ones by the declaration
  have hfits : ∀ g ∈ inh ++ own, g.storage.Fits c (c.abiOf b) := by
    intro g hg
    rcases List.mem_append.mp hg with hg | hg
    · obtain ⟨t, br, g', ht, hcompat, hg', hstorage⟩ := Catalog.inherit_storage hinh g hg
      rw [hstorage]
      exact ((hw t br ht).fits g' hg').of_compatible hcompat
    · obtain ⟨d, hd, hlower⟩ := exists_of_mapM_eq_ok hown g hg
      rcases Catalog.lower_storage hlower with hslot | hdecl
      · rw [hslot]
        exact ⟨rfl, rfl⟩
      · exact hdecls d hd g.storage hdecl
  intro t rec ht
  rw [Catalog.record?_commit] at ht
  split at ht
  · cases ht
    exact stored_commit hvalid hnames hplace hfits
  · exact (hw t rec ht).mono fun t' rec' ht' => by
      rw [record?_commit_of_lt (Catalog.record?_lt ht')]
      exact ht'

/-! ## Every field of a stored record is aligned -/

/-- Placement's alignment is at least the one it starts from. -/
lemma placeFrom_align_ge {bits : Nat} {prev : Bool} {m : Nat} {slots : List Slot}
    {offs : List Nat} {used a : Nat} (h : placeFrom bits prev m slots = .ok (offs, used, a)) :
    m ≤ a := by
  induction slots generalizing bits prev m offs with
  | nil =>
    cases h
    exact le_rfl
  | cons s rest ih =>
    simp only [placeFrom] at h
    split at h
    · cases h
    · split at h
      · rename_i offs' used' a' hrest
        cases h
        exact le_trans (le_max_left m s.align) (ih hrest)
      · cases h

/-- A placed layout is aligned to a byte at least. -/
lemma place_align_pos {slots : List Slot} {placed : Placement} (h : place slots = .ok placed) :
    1 ≤ placed.align := by
  unfold place at h
  split at h
  · cases h
  · rename_i offs used a hfrom
    dsimp only at h
    split at h
    · cases h
    · cases h
      exact placeFrom_align_ge hfrom

lemma Scalar.one_le_size (s : Scalar) : 1 ≤ s.size := by
  cases s <;> decide

/-- A valid ABI aligns pointers to a power of two, so to a byte at least. -/
lemma Abi.one_le_pointerAlign {abi : Abi} (h : abi.validate = .ok ()) : 1 ≤ abi.pointerAlign := by
  unfold Abi.validate at h
  split at h
  · cases h
  · split at h
    · cases h
    · rename_i hpow
      simp only [Abi.isPowerOfTwo, Bool.or_eq_true, Bool.not_eq_eq_eq_not, Bool.not_true,
        Bool.and_eq_false_imp, decide_eq_true_eq, gt_iff_lt, not_or] at hpow
      by_contra hzero
      simp_all

/-- **Every field of a stored record is aligned to a byte at least**: its type fits, so it is a
scalar aligned to its size, a record held with that record's placed alignment, or a pointer slot
with the valid ABI's pointer alignment. -/
lemma Catalog.WellStored.one_le_field_align (hw : c.WellStored) {r : RecordId} {rec : Record}
    (hrec : c.record? r = some rec) : ∀ f ∈ rec.layout.fields, 1 ≤ f.storage.align := by
  intro f hf
  have hfit := (hw r rec hrec).fits f hf
  cases hs : f.storage with
  | scalar s => exact Scalar.one_le_size s
  | record t n size align =>
    rw [hs] at hfit
    obtain ⟨held, hheld, -, rfl⟩ := hfit
    exact place_align_pos (hw t held hheld).compiled
  | slot size align =>
    rw [hs] at hfit
    obtain ⟨-, rfl⟩ := hfit
    exact Abi.one_le_pointerAlign (hw r rec hrec).abi

/-- **Every record of a built catalog is stored as its declaration compiled it.** -/
lemma Built.wellStored (h : Built c) : c.WellStored := by
  induction h with
  | empty => intro r rec hrec; simp [Catalog.record?] at hrec
  | newBuilder abi _ ih => exact ih.of_record?_eq fun t => Catalog.record?_addBuilder abi t
  | forward name _ ih => exact ih.of_record?_eq fun t => Catalog.record?_forwardDeclare _ name t
  | declare _ hdecls hdecl ih => exact ih.declare hdecls hdecl
  | declareFor _ hdecls hdecl ih =>
    obtain ⟨q, ph, c₁, -, -, -, -, hdecl₁, rfl⟩ := Catalog.declareFor_eq_ok hdecl
    exact (ih.declare hdecls hdecl₁).of_record?_eq fun t => Catalog.record?_settle _ _ _ t
  | resolve _ hres ih =>
    obtain ⟨q, ph, t, rec, -, -, -, -, -, -, rfl⟩ := Catalog.resolve_eq_ok hres
    exact ih.of_record?_eq fun t' => Catalog.record?_settle _ _ _ t'

end RecordLayout
