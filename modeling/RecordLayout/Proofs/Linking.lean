import Mathlib
import RecordLayout.Proofs.Names
import RecordLayout.Proofs.Registry

/-!
# Linking pointer fields: what a declaration does to them and their bindings

A pointer field of a record is linked through a binding: the record's own pointer declarations
get new bindings, aimed where their targets were bound, and the pointer fields of its bases are
taken over with the bases' bindings.  Resolving a placeholder re-aims exactly the bindings
waiting on it.

* `Catalog.declare_pointer`: a declared pointer field binds where its target was bound.
* `Catalog.declare_inherited_pointer`: the name of a base's pointer field finds a pointer field
  of the new record with the same binding.
* `Catalog.binding?_settle_of_open`: resolving an open placeholder moves the bindings aiming at
  it, and no other.
* The frame of a declaration: what it leaves of the builder's names, records, bindings and
  placeholders (`Catalog.lookup_declare`, `Catalog.record?_declare_of_lt`, ...).
-/

namespace RecordLayout

/-- A slot's physical name loses its leading `_`. -/
lemma stripSlotPrefix_slot (n : String) : stripSlotPrefix ("_" ++ n) = n := by
  simp [stripSlotPrefix, String.toList_append]

/-- Each element of a list that `mapM` succeeds on has its result among the results. -/
lemma exists_mem_of_mapM_eq_ok {ε α β : Type} {f : α → Except ε β} {l : List α} {ys : List β}
    (h : l.mapM f = .ok ys) {x : α} (hx : x ∈ l) : ∃ y ∈ ys, f x = .ok y := by
  induction l generalizing ys with
  | nil => cases hx
  | cons a rest ih =>
    rw [List.mapM_cons, bind_eq_ok_iff] at h
    obtain ⟨y₀, hy₀, h⟩ := h
    rw [bind_eq_ok_iff] at h
    obtain ⟨ys', hys', h⟩ := h
    cases h
    rcases List.mem_cons.mp hx with rfl | hx
    · exact ⟨y₀, List.mem_cons_self, hy₀⟩
    · obtain ⟨y, hy, hfy⟩ := ih hys' hx
      exact ⟨y, List.mem_cons_of_mem _ hy, hfy⟩

/-- What the field lookup finds answers to the name, at its position. -/
lemma Layout.getElem?_of_find? {l : Layout} {n : String} {i : Nat} {f : FieldInfo}
    (h : l.find? n = some (i, f)) : l.fields[i]? = some f ∧ f.answersTo n := by
  -- the fold keeps what it had or takes a field answering to the name
  have hfold : ∀ (xs : List (FieldInfo × Nat)) (acc : Option (Nat × FieldInfo)),
      xs.foldl (fun acc x => if x.1.answersTo n then some (x.2, x.1) else acc) acc =
        some (i, f) → acc = some (i, f) ∨ ((f, i) ∈ xs ∧ f.answersTo n) := by
    intro xs
    induction xs with
    | nil => exact fun acc h => .inl h
    | cons x rest ih =>
      intro acc h
      rcases ih _ h with h | ⟨hmem, hans⟩
      · dsimp only at h
        split at h
        · rename_i hx
          cases h
          exact .inr ⟨List.mem_cons_self, hx⟩
        · exact .inl h
      · exact .inr ⟨List.mem_cons_of_mem _ hmem, hans⟩
  rcases hfold _ none h with h | ⟨hmem, hans⟩
  · cases h
  · exact ⟨List.mk_mem_zipIdx_iff_getElem?.mp hmem, hans⟩

namespace Catalog

variable {c c' : Catalog} {b : BuilderId}

/-- A pointer declaration lowers to a slot of the ABI, linked to where its target is bound. -/
lemma lower_pointer_eq_ok {abi : Abi} {rec n : String} {t : Target} {f : FieldSpec}
    (h : c.lower b abi rec (.pointer n t) = .ok f) :
    ∃ aim, c.bind b rec n t = .ok aim ∧ f = ⟨"_" ++ n, abi.slot, 0, some (.fresh n aim)⟩ := by
  by_cases hn : n = ""
  · simp [lower, Declaration.pointer, hn] at h
  · cases hb : c.bind b rec n t with
    | error e => simp [lower, Declaration.pointer, hn, hb] at h
    | ok aim =>
      simp only [lower, Declaration.pointer, hn, hb, if_false, Bool.false_eq_true, ne_eq,
        not_true_eq_false, or_self, Except.ok.injEq] at h
      exact ⟨aim, rfl, h.symm⟩

/-- **Attaching a field declared now** gives it a pointer field at its position, with a new
binding owned by the record and aiming where the field was bound. -/
lemma attach_fresh (r : RecordId) {items : List (FieldSpec × Nat × Nat)}
    {x : FieldSpec × Nat × Nat} (hx : x ∈ items) {field : String} {aim : FreshAim}
    (hl : x.1.link = some (.fresh field aim)) :
    ∃ pf ∈ (c.attach r items).2, pf.index = x.2.1 ∧
      (c.attach r items).1.binding? pf.binding = some ⟨r, field, aim.toAim r⟩ := by
  induction items generalizing c with
  | nil => cases hx
  | cons y rest ih =>
    obtain ⟨f, i, off⟩ := y
    rcases List.mem_cons.mp hx with rfl | hx
    · -- the field itself takes the next binding; the fields after it only add bindings
      change f.link = _ at hl
      simp only [attach, hl]
      refine ⟨_, List.mem_cons_self, rfl, ?_⟩
      rw [binding?_attach_of_lt _ _ (by simp)]
      simp [binding?]
    · cases hlf : f.link with
      | none =>
        simp only [attach, hlf]
        exact ih hx
      | some l =>
        cases l with
        | inherited bd =>
          obtain ⟨pf, hpf, hidx, hbd⟩ := ih hx
          simp only [attach, hlf]
          exact ⟨pf, List.mem_cons_of_mem _ hpf, hidx, hbd⟩
        | fresh fld a =>
          simp only [attach, hlf]
          obtain ⟨pf, hpf, hidx, hbd⟩ := ih hx
          exact ⟨pf, List.mem_cons_of_mem _ hpf, hidx, hbd⟩

/-- A field that a placement placed sits at some position, with its offset, among the items
that attaching walks. -/
lemma exists_placedItem {fields : List FieldSpec} {placed : Placement}
    (hplace : place (fields.map (·.slot)) = .ok placed) {f : FieldSpec} (hf : f ∈ fields) :
    ∃ k off, fields[k]? = some f ∧ placed.offsets[k]? = some off ∧
      (f, k, off) ∈ placedItems fields placed := by
  obtain ⟨k, hk⟩ := List.mem_iff_getElem?.mp hf
  obtain ⟨used, hfrom⟩ := placeFrom_of_place hplace
  have hlen : placed.offsets.length = fields.length := by
    simpa using placeFrom_length hfrom
  have hlt : k < placed.offsets.length := hlen ▸ (List.getElem?_eq_some_iff.mp hk).1
  refine ⟨k, placed.offsets[k], hk, List.getElem?_eq_getElem hlt,
    List.mem_iff_getElem?.mpr ⟨k, ?_⟩⟩
  simp [placedItems, List.getElem?_zip_eq_some, hk, List.getElem?_range
    (show k < fields.length by omega), hlt]

/-- **Each field of a base is inherited**, a pointer field of the base with the base's
binding. -/
lemma mem_inherit {abi : Abi} {rec : String} {i : Nat} {bases : List (Option RecordId)}
    {inh : List FieldSpec} (h : c.inherit abi rec i bases = .ok inh) {t : RecordId}
    (ht : some t ∈ bases) {br : Record} (hbr : c.record? t = some br) {j : Nat} {info : FieldInfo}
    (hj : br.layout.fields[j]? = some info) :
    ⟨info.name, info.storage, info.width,
      (br.pointers.find? (·.index == j)).map fun pf => .inherited pf.binding⟩ ∈ inh := by
  induction bases generalizing i inh with
  | nil => cases ht
  | cons base rest ih =>
    cases hb : base.bind c.record? with
    | none => simp [inherit, hb] at h
    | some br' =>
      simp only [inherit, hb] at h
      split at h
      · cases h
      · split at h
        · cases h
        · rename_i more hmore
          cases h
          rcases List.mem_cons.mp ht with hbase | ht
          · -- the fields of this base come first
            subst hbase
            rw [Option.bind_some, hbr] at hb
            cases hb
            refine List.mem_append_left _ (List.mem_map.mpr ⟨(info, j), ?_, rfl⟩)
            exact List.mk_mem_zipIdx_iff_getElem?.mpr hj
          · exact List.mem_append_right _ (ih hmore ht)

/-- **Attaching a field inherited** gives it a pointer field at its position with the binding it
inherited. -/
lemma attach_inherited (r : RecordId) {items : List (FieldSpec × Nat × Nat)}
    {x : FieldSpec × Nat × Nat} (hx : x ∈ items) {bd : BindingId}
    (hl : x.1.link = some (.inherited bd)) :
    ∃ pf ∈ (c.attach r items).2, pf.index = x.2.1 ∧ pf.binding = bd := by
  induction items generalizing c with
  | nil => cases hx
  | cons y rest ih =>
    obtain ⟨f, i, off⟩ := y
    rcases List.mem_cons.mp hx with rfl | hx
    · change f.link = _ at hl
      simp only [attach, hl]
      exact ⟨_, List.mem_cons_self, rfl, rfl⟩
    · cases hlf : f.link with
      | none =>
        simp only [attach, hlf]
        exact ih hx
      | some l =>
        cases l with
        | inherited bd' =>
          obtain ⟨pf, hpf, hidx, hbd⟩ := ih hx
          simp only [attach, hlf]
          exact ⟨pf, List.mem_cons_of_mem _ hpf, hidx, hbd⟩
        | fresh fld a =>
          simp only [attach, hlf]
          obtain ⟨pf, hpf, hidx, hbd⟩ := ih hx
          exact ⟨pf, List.mem_cons_of_mem _ hpf, hidx, hbd⟩

/-- **The name of a linked field placed at position `k` finds the pointer field at `k`** of the
record a declaration enters. -/
lemma pointerField_commit_of_index {name : String} {bases : List (Option RecordId)}
    {fields : List FieldSpec} {placed : Placement}
    (hres : ResolvesNames (c.commit b name bases fields placed).1 ⟨c.records.size⟩
      (c.committedRecord b name bases fields placed))
    {k : Nat} {spec : FieldSpec} {off : Nat} (hk : fields[k]? = some spec)
    (hoff : placed.offsets[k]? = some off) {pf : PointerField}
    (hpf : pf ∈ (c.committedRecord b name bases fields placed).pointers) (hidx : pf.index = k)
    {n : String} (hn : Answers spec.name n) :
    (c.commit b name bases fields placed).1.pointerField ⟨c.records.size⟩ n = .ok pf := by
  have hz : (fields.zip placed.offsets)[k]? = some (spec, off) :=
    List.getElem?_zip_eq_some.mpr ⟨hk, hoff⟩
  refine (hres.pointer n pf).mpr ⟨hpf, placedInfo (spec, off), ?_, ?_⟩
  · rw [hidx, committed_fields, List.getElem?_map, hz]
    rfl
  · rw [FieldInfo.answersTo_iff]
    exact hn

/-- **A declared pointer field binds where its target was bound**: after a declaration, the
name of a pointer declaration finds a pointer field of the new record whose binding is its own,
owned by the record and aiming where the target was bound. -/
lemma declare_pointer {name n : String} {bases : List (Option RecordId)}
    {decls : List Declaration} {t : Target} {r : RecordId}
    (h : c.declare b name bases decls = .ok (c', r)) (hd : Declaration.pointer n t ∈ decls) :
    ∃ aim pf, c.bind b name n t = .ok aim ∧ c'.pointerField r n = .ok pf ∧
      c'.binding? pf.binding = some ⟨r, n, aim.toAim r⟩ := by
  obtain ⟨inh, own, placed, -, -, -, -, hown, hnames, hplace, hc⟩ := declare_eq_ok h
  obtain ⟨spec, hspec, hlow⟩ := exists_mem_of_mapM_eq_ok hown hd
  obtain ⟨aim, hbind, rfl⟩ := lower_pointer_eq_ok hlow
  have hc' : c' = (c.commit b name bases (inh ++ own) placed).1 := congrArg Prod.fst hc
  have hr : r = ⟨c.records.size⟩ := congrArg Prod.snd hc
  subst hc' hr
  -- the lowered field sits at some position of the fields placed
  obtain ⟨k, off, hk, hoff, hx⟩ := exists_placedItem hplace (List.mem_append_right inh hspec)
  obtain ⟨pf, hpf, hidx, hbd⟩ := attach_fresh ⟨c.records.size⟩ hx rfl
  refine ⟨aim, pf, hbind, pointerField_commit_of_index (resolvesNames_commit hnames hplace) hk hoff
    hpf hidx (.inr (stripSlotPrefix_slot n)), ?_⟩
  rw [← binding?_attach_commit]
  exact hbd

/-- **A declared record takes over its bases' pointer fields**: the name of a pointer field of a
base finds a pointer field of the new record with the same binding, so with the same target. -/
lemma declare_inherited_pointer {name : String} {bases : List (Option RecordId)}
    {decls : List Declaration} {r : RecordId} (h : c.declare b name bases decls = .ok (c', r))
    {t : RecordId} (ht : some t ∈ bases) {n : String} {pfb : PointerField}
    (hpfb : c.pointerField t n = .ok pfb) :
    ∃ pf, c'.pointerField r n = .ok pf ∧ pf.binding = pfb.binding := by
  -- the base's pointer field sits at the position of the base's field answering to the name
  unfold pointerField at hpfb
  cases hbr : c.record? t with
  | none => simp [hbr] at hpfb
  | some br =>
    cases hfind : br.layout.find? n with
    | none => simp [hbr, hfind] at hpfb
    | some x =>
      obtain ⟨j, info⟩ := x
      cases hpj : br.pointers.find? (·.index == j) with
      | none => simp [hbr, hfind, hpj] at hpfb
      | some pf₀ =>
        simp only [hbr, hfind, hpj, Except.ok.injEq] at hpfb
        subst hpfb
        obtain ⟨hj, hans⟩ := Layout.getElem?_of_find? hfind
        obtain ⟨inh, own, placed, -, -, -, hinh, -, hnames, hplace, hc⟩ := declare_eq_ok h
        have hc' : c' = (c.commit b name bases (inh ++ own) placed).1 := congrArg Prod.fst hc
        have hr : r = ⟨c.records.size⟩ := congrArg Prod.snd hc
        subst hc' hr
        have hspec := mem_inherit hinh ht hbr hj
        rw [hpj, Option.map_some] at hspec
        -- the inherited field sits at some position of the fields placed
        obtain ⟨k, off, hk, hoff, hx⟩ := exists_placedItem hplace (List.mem_append_left own hspec)
        obtain ⟨pf, hpf, hidx, hbd⟩ := attach_inherited ⟨c.records.size⟩ hx rfl
        exact ⟨pf, pointerField_commit_of_index (resolvesNames_commit hnames hplace) hk hoff hpf
          hidx ((FieldInfo.answersTo_iff info n).mp hans), hbd⟩

/-! ### What else a declaration changes -/

section Declared

variable {name : String} {bases : List (Option RecordId)} {decls : List Declaration}
  {r : RecordId}

/-- A successful declaration commits some fields under the next record id. -/
lemma commit_of_declare_eq_ok (h : c.declare b name bases decls = .ok (c', r)) :
    ∃ fields placed, c' = (c.commit b name bases fields placed).1 ∧ r = ⟨c.records.size⟩ := by
  obtain ⟨inh, own, placed, -, -, -, -, -, -, -, hc⟩ := declare_eq_ok h
  exact ⟨inh ++ own, placed, congrArg Prod.fst hc, congrArg Prod.snd hc⟩

lemma lookup_declare (hb : (c.builder? b).isSome) (h : c.declare b name bases decls = .ok (c', r))
    (t : String) : c'.lookup b t = if t = name then some r else c.lookup b t := by
  obtain ⟨fields, placed, rfl, rfl⟩ := commit_of_declare_eq_ok h
  rw [lookup_commit hb]
  simp

lemma declared_declare (hb : (c.builder? b).isSome)
    (h : c.declare b name bases decls = .ok (c', r)) : c'.declared b = c.declared b ++ [r] := by
  obtain ⟨fields, placed, rfl, rfl⟩ := commit_of_declare_eq_ok h
  rw [declared_commit hb, if_pos rfl]

lemma pending_declare (h : c.declare b name bases decls = .ok (c', r)) (b' : BuilderId) :
    c'.pending b' = c.pending b' := by
  obtain ⟨fields, placed, rfl, rfl⟩ := commit_of_declare_eq_ok h
  exact pending_commit b'

lemma isSome_builder?_declare (h : c.declare b name bases decls = .ok (c', r)) (b' : BuilderId) :
    (c'.builder? b').isSome = (c.builder? b').isSome := by
  obtain ⟨fields, placed, rfl, rfl⟩ := commit_of_declare_eq_ok h
  exact isSome_builder?_commit b'

lemma record?_declare_of_lt (h : c.declare b name bases decls = .ok (c', r)) {r₀ : RecordId}
    (hr₀ : r₀.index < c.records.size) : c'.record? r₀ = c.record? r₀ := by
  obtain ⟨fields, placed, rfl, rfl⟩ := commit_of_declare_eq_ok h
  exact record?_commit_of_lt hr₀

lemma recordName_declare (h : c.declare b name bases decls = .ok (c', r)) :
    c'.recordName r = name := by
  obtain ⟨fields, placed, rfl, rfl⟩ := commit_of_declare_eq_ok h
  exact recordName_commit_self

lemma binding?_declare_of_lt (h : c.declare b name bases decls = .ok (c', r)) {id : BindingId}
    (hid : id.index < c.bindings.size) : c'.binding? id = c.binding? id := by
  obtain ⟨fields, placed, rfl, rfl⟩ := commit_of_declare_eq_ok h
  exact binding?_commit_of_lt hid

/-- A declaration keeps every placeholder's builder, name and resolution. -/
lemma placeholder?_declare (h : c.declare b name bases decls = .ok (c', r)) {p : PlaceholderId}
    {ph : Placeholder} (hp : c.placeholder? p = some ph) :
    ∃ ph', c'.placeholder? p = some ph' ∧ ph'.builder = ph.builder ∧ ph'.resolved = ph.resolved ∧
      ph'.name = ph.name := by
  obtain ⟨fields, placed, rfl, rfl⟩ := commit_of_declare_eq_ok h
  rw [placeholder?_commit, hp]
  exact ⟨_, rfl, rfl, rfl, rfl⟩

end Declared

/-- **Resolving an open placeholder moves exactly the bindings aiming at it**, and to the
record; every other binding stays as it was. -/
lemma binding?_settle_of_open (hi : RecordLayout.Inv c) {q : PlaceholderId} {ph : Placeholder}
    (hq : c.placeholder? q = some ph) (hres : ph.resolved = none) {id : BindingId} {x : Binding}
    (hx : c.binding? id = some x) (t : RecordId) :
    (c.settle b q t).binding? id =
      some (if x.aim = .forward q then { x with aim := .record t } else x) := by
  -- the placeholder waits on exactly the bindings aiming at it
  have hw : id ∈ ph.pending ↔ x.aim = .forward q := by
    rw [(hi.pending q ph hq hres).mem_iff id]
    constructor
    · rintro ⟨x', hx', ha⟩
      rw [hx] at hx'
      cases hx'
      exact ha
    · intro ha
      exact ⟨x, hx, ha⟩
  rw [binding?_settle, hx, hq]
  simp only [Option.map_some, Option.elim_some, hw]

end Catalog

end RecordLayout
