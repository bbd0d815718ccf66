import Mathlib
import RecordLayout.Catalog.Declare

/-!
# What each operation of the catalog does

One spec lemma for each operation on the catalog, so that later proofs never unfold them.

**Lookups after each change.**  `addBuilder`, `forwardDeclare`, `modifyBuilder`,
`addBindings`, `attach`, `enqueue` and `settle` each get lemmas saying how `builder?`,
`record?`, `placeholder?` and `binding?` answer afterwards.

**Lowering.**  Lowering makes the binding of each pointer field as it goes, so the catalog
after it, whatever its outcome, is the one before with bindings added (`lowerAll_eq_of_mapM`,
`lowerAll_eq_of_mapM_error`); lowering itself reads no binding.

**Declaring.**  `commit` is the tail of a declaration read as one step: it enters the record,
makes one binding for each pointer field declared now (`freshBindings`, numbered on from the
bindings already there, `attachedIds`), and lets each new forward binding wait on its
placeholder.  `declare_eq` says that a declaration is its checks followed by `commit`, since the
bindings lowering made are the ones `commit` makes; `declare_eq_ok` inverts a successful
declaration.

**Resolving.**  `checkResolvable_eq_ok`, `resolve_eq_ok` and `declareFor_eq_ok` invert the
other successful calls down to `settle`.
-/

namespace RecordLayout

/-! ## Results of computations that can fail -/

lemma bind_eq_ok_iff {ε α β : Type} {x : Except ε α} {f : α → Except ε β} {b : β} :
    x >>= f = .ok b ↔ ∃ a, x = .ok a ∧ f a = .ok b := by
  cases x with
  | error e => exact ⟨fun h => (nomatch h), fun ⟨_, h, _⟩ => (nomatch h)⟩
  | ok a => exact ⟨fun h => ⟨a, rfl, h⟩, fun ⟨_, h, hf⟩ => by cases h; exact hf⟩

/-- Each result of a successful `mapM` is the result of one element of the list. -/
lemma exists_of_mapM_eq_ok {ε α β : Type} {f : α → Except ε β} {l : List α} {ys : List β}
    (h : l.mapM f = .ok ys) : ∀ y ∈ ys, ∃ x ∈ l, f x = .ok y := by
  induction l generalizing ys with
  | nil =>
    cases h
    simp
  | cons a rest ih =>
    rw [List.mapM_cons, bind_eq_ok_iff] at h
    obtain ⟨y₀, hy₀, h⟩ := h
    rw [bind_eq_ok_iff] at h
    obtain ⟨ys', hys', h⟩ := h
    cases h
    intro y hy
    rcases List.mem_cons.mp hy with rfl | hy
    · exact ⟨a, List.mem_cons_self, hy₀⟩
    · obtain ⟨x, hx, hfx⟩ := ih hys' y hy
      exact ⟨x, List.mem_cons_of_mem _ hx, hfx⟩

@[simp] lemma throw_bind_eq {ε α β : Type} (e : ε) (f : α → Except ε β) :
    (throw e >>= f : Except ε β) = .error e := rfl

@[simp] lemma ok_bind_eq {ε α β : Type} (a : α) (f : α → Except ε β) :
    (Except.ok a >>= f : Except ε β) = f a := rfl

@[simp] lemma error_bind_eq {ε α β : Type} (e : ε) (f : α → Except ε β) :
    (Except.error e >>= f : Except ε β) = .error e := rfl

/-! ## Tables keyed by name -/

/-- In a list whose keys are distinct, each entry is what its key looks up. -/
lemma lookup_of_mem {α β : Type} [BEq α] [LawfulBEq α] {l : List (α × β)}
    (hkeys : (l.map Prod.fst).Nodup) {e : α × β} (he : e ∈ l) : l.lookup e.1 = some e.2 := by
  induction l with
  | nil => cases he
  | cons x rest ih =>
    simp only [List.map_cons, List.nodup_cons, List.mem_map] at hkeys
    rcases List.mem_cons.mp he with rfl | he
    · rw [List.lookup_cons, beq_self_eq_true]
    · have hne : (e.1 == x.1) = false :=
        beq_eq_false_iff_ne.mpr fun heq => hkeys.1 ⟨e, he, heq⟩
      rw [List.lookup_cons, hne]
      exact ih hkeys.2 he

lemma isSome_lookup_iff {β : Type} {l : List (String × β)} {t : String} :
    (l.lookup t).isSome ↔ t ∈ l.map Prod.fst := by
  induction l with
  | nil => simp
  | cons x rest ih =>
    rw [List.lookup_cons]
    by_cases hx : t = x.1
    · simp [hx]
    · have hne : (t == x.1) = false := beq_eq_false_iff_ne.mpr hx
      simp only [hne, List.map_cons, List.mem_cons, hx, false_or]
      exact ih

/-! ## Identifiers -/

lemma BuilderId.eq_iff {a b : BuilderId} : a = b ↔ a.index = b.index := by
  cases a; cases b; simp

lemma PlaceholderId.eq_iff {a b : PlaceholderId} : a = b ↔ a.index = b.index := by
  cases a; cases b; simp

lemma RecordId.eq_iff {a b : RecordId} : a = b ↔ a.index = b.index := by
  cases a; cases b; simp

lemma BindingId.eq_iff {a b : BindingId} : a = b ↔ a.index = b.index := by
  cases a; cases b; simp

/-! ## Placement -/

section PlaceLength

variable {bits : Nat} {prev : Bool} {m : Nat} {slots : List Slot} {offs : List Nat} {used a : Nat}

/-- Placement gives one offset to each slot. -/
lemma placeFrom_length (h : placeFrom bits prev m slots = .ok (offs, used, a)) :
    offs.length = slots.length := by
  induction slots generalizing bits prev m offs with
  | nil =>
    cases h
    rfl
  | cons s rest ih =>
    simp only [placeFrom] at h
    split at h
    · cases h
    · split at h
      · rename_i offs' used' a' hrest
        cases h
        simp [ih hrest]
      · cases h

lemma place_offsets_length {placed : Placement} (h : place slots = .ok placed) :
    placed.offsets.length = slots.length := by
  unfold place at h
  split at h
  · cases h
  · rename_i offs used a hfrom
    dsimp only at h
    split at h
    · cases h
    · cases h
      exact placeFrom_length hfrom

end PlaceLength

namespace Catalog

variable {c : Catalog}

/-! ## Builders and placeholders -/

lemma builder?_modifyBuilder (b b' : BuilderId) (f : Builder → Builder) :
    (c.modifyBuilder b f).builder? b' = if b = b' then (c.builder? b').map f else c.builder? b' := by
  simp only [modifyBuilder, builder?, Array.getElem?_modify, BuilderId.eq_iff]

@[simp] lemma record?_modifyBuilder (b : BuilderId) (f : Builder → Builder) (r : RecordId) :
    (c.modifyBuilder b f).record? r = c.record? r := rfl

@[simp] lemma placeholder?_modifyBuilder (b : BuilderId) (f : Builder → Builder)
    (p : PlaceholderId) : (c.modifyBuilder b f).placeholder? p = c.placeholder? p := rfl

@[simp] lemma binding?_modifyBuilder (b : BuilderId) (f : Builder → Builder) (id : BindingId) :
    (c.modifyBuilder b f).binding? id = c.binding? id := rfl

lemma builder?_addBuilder (abi : Abi) (b : BuilderId) :
    (c.addBuilder abi).1.builder? b =
      if b.index = c.builders.size then some { abi } else c.builder? b := by
  simp only [addBuilder, builder?, Array.getElem?_push]

@[simp] lemma addBuilder_snd (abi : Abi) : (c.addBuilder abi).2 = ⟨c.builders.size⟩ := rfl

@[simp] lemma record?_addBuilder (abi : Abi) (r : RecordId) :
    (c.addBuilder abi).1.record? r = c.record? r := rfl

@[simp] lemma placeholder?_addBuilder (abi : Abi) (p : PlaceholderId) :
    (c.addBuilder abi).1.placeholder? p = c.placeholder? p := rfl

@[simp] lemma binding?_addBuilder (abi : Abi) (id : BindingId) :
    (c.addBuilder abi).1.binding? id = c.binding? id := rfl

lemma builder?_forwardDeclare (b b' : BuilderId) (name : String) :
    (c.forwardDeclare b name).1.builder? b' =
      if b = b' then (c.builder? b').map fun bl =>
        { bl with unresolved := bl.unresolved ++ [⟨c.placeholders.size⟩] }
      else c.builder? b' :=
  builder?_modifyBuilder b b' _

lemma placeholder?_forwardDeclare (b : BuilderId) (name : String) (p : PlaceholderId) :
    (c.forwardDeclare b name).1.placeholder? p =
      if p.index = c.placeholders.size then some ⟨b, name, none, []⟩ else c.placeholder? p := by
  simp only [forwardDeclare, modifyBuilder, placeholder?, Array.getElem?_push]

@[simp] lemma forwardDeclare_snd (b : BuilderId) (name : String) :
    (c.forwardDeclare b name).2 = ⟨c.placeholders.size⟩ := rfl

@[simp] lemma record?_forwardDeclare (b : BuilderId) (name : String) (r : RecordId) :
    (c.forwardDeclare b name).1.record? r = c.record? r := rfl

@[simp] lemma binding?_forwardDeclare (b : BuilderId) (name : String) (id : BindingId) :
    (c.forwardDeclare b name).1.binding? id = c.binding? id := rfl

/-! ## Adding bindings -/

/-- The catalog with bindings added after its own. -/
def addBindings (c : Catalog) (bs : List Binding) : Catalog :=
  { c with bindings := c.bindings ++ bs.toArray }

section AddBindings

variable (bs : List Binding)

@[simp] lemma addBindings_builders : (c.addBindings bs).builders = c.builders := rfl

@[simp] lemma addBindings_records : (c.addBindings bs).records = c.records := rfl

@[simp] lemma addBindings_placeholders : (c.addBindings bs).placeholders = c.placeholders := rfl

@[simp] lemma addBindings_nil : c.addBindings [] = c := by
  simp [addBindings]

@[simp] lemma size_addBindings : (c.addBindings bs).bindings.size = c.bindings.size + bs.length := by
  simp [addBindings]

lemma addBindings_append (bs' : List Binding) :
    (c.addBindings bs).addBindings bs' = c.addBindings (bs ++ bs') := by
  simp [addBindings, Array.append_assoc]

lemma push_eq_addBindings (x : Binding) :
    { c with bindings := c.bindings.push x } = c.addBindings [x] := by
  simp [addBindings]

lemma binding?_addBindings (id : BindingId) :
    (c.addBindings bs).binding? id = (c.bindings.toList ++ bs)[id.index]? := by
  simp [addBindings, binding?, ← Array.getElem?_toList]

/-- **Adding bindings keeps every binding already there.** -/
lemma binding?_addBindings_of_isSome {id : BindingId} (h : (c.binding? id).isSome) :
    (c.addBindings bs).binding? id = c.binding? id := by
  have hlt : id.index < c.bindings.toList.length := by
    simpa [binding?] using h
  rw [binding?_addBindings, List.getElem?_append_left hlt, Array.getElem?_toList]
  rfl

end AddBindings

/-! ## Attaching pointer fields -/

/-- The binding made for a field of record `r` declared now. -/
def freshBinding (r : RecordId) (f : FieldSpec) : Option Binding :=
  match f.link with
  | some (.fresh field aim) => some ⟨r, field, aim.toAim r⟩
  | _ => none

/-- The bindings made for the fields of `items` declared now, in field order. -/
def freshBindings (r : RecordId) (items : List (FieldSpec × Nat × Nat)) : List Binding :=
  items.filterMap fun x => freshBinding r x.1

/-- The bindings `attach` gives the pointer fields of `items`: an inherited field keeps its
binding, a field declared now gets the next new one, numbered from `n`. -/
def attachedIds : Nat → List (FieldSpec × Nat × Nat) → List BindingId
  | _, [] => []
  | n, (f, _, _) :: rest =>
    match f.link with
    | none => attachedIds n rest
    | some (.inherited bd) => bd :: attachedIds n rest
    | some (.fresh ..) => ⟨n⟩ :: attachedIds (n + 1) rest

/-- Enters the pointer fields of record `r` and makes their new bindings, in one step; returns
the pointer fields in field order. -/
def attach (c : Catalog) (r : RecordId) :
    List (FieldSpec × Nat × Nat) → Catalog × List PointerField
  | [] => (c, [])
  | (f, i, off) :: rest =>
    match f.link with
    | none => c.attach r rest
    | some (.inherited bd) =>
      let (c', pfs) := c.attach r rest
      (c', ⟨stripSlotPrefix f.name, f.name, i, off, bd⟩ :: pfs)
    | some (.fresh field aim) =>
      let bd : BindingId := ⟨c.bindings.size⟩
      let c := { c with bindings := c.bindings.push ⟨r, field, aim.toAim r⟩ }
      let (c', pfs) := c.attach r rest
      (c', ⟨stripSlotPrefix f.name, f.name, i, off, bd⟩ :: pfs)

section Attach

variable (r : RecordId)

/-- **`attach` adds the fresh bindings** after the bindings already there, and gives the
pointer fields the bindings `pointerFields` numbers. -/
lemma attach_eq (items : List (FieldSpec × Nat × Nat)) :
    c.attach r items = (c.addBindings (freshBindings r items), pointerFields c.bindings.size items) := by
  induction items generalizing c with
  | nil => simp [attach, freshBindings, pointerFields]
  | cons x rest ih =>
    obtain ⟨f, i, off⟩ := x
    cases hl : f.link with
    | none => simp [attach, hl, ih, freshBindings, freshBinding, pointerFields]
    | some l =>
      cases l with
      | inherited bd => simp [attach, hl, ih, freshBindings, freshBinding, pointerFields]
      | fresh field aim =>
        simp [attach, hl, ih, freshBindings, freshBinding, pointerFields, push_eq_addBindings,
          addBindings_append]

@[simp] lemma attach_records (items : List (FieldSpec × Nat × Nat)) :
    (c.attach r items).1.records = c.records := by
  rw [attach_eq]
  rfl

@[simp] lemma attach_placeholders (items : List (FieldSpec × Nat × Nat)) :
    (c.attach r items).1.placeholders = c.placeholders := by
  rw [attach_eq]
  rfl

@[simp] lemma attach_builders (items : List (FieldSpec × Nat × Nat)) :
    (c.attach r items).1.builders = c.builders := by
  rw [attach_eq]
  rfl

/-- **`attach` adds the fresh bindings**, in field order, after the bindings already there. -/
lemma attach_bindings (items : List (FieldSpec × Nat × Nat)) :
    (c.attach r items).1.bindings.toList = c.bindings.toList ++ freshBindings r items := by
  rw [attach_eq]
  simp [addBindings]

/-- **The bindings of the attached pointer fields**: inherited ones as they were, fresh ones
numbered on from the bindings already there. -/
lemma attach_ids (items : List (FieldSpec × Nat × Nat)) :
    (c.attach r items).2.map (·.binding) = attachedIds c.bindings.size items := by
  induction items generalizing c with
  | nil => rfl
  | cons x rest ih =>
    obtain ⟨f, i, off⟩ := x
    cases hl : f.link with
    | none => simp only [attach, hl, ih, attachedIds]
    | some l =>
      cases l with
      | inherited bd => simp only [attach, hl, ih, attachedIds, List.map_cons]
      | fresh field aim => simp only [attach, hl, ih, attachedIds, List.map_cons, Array.size_push]

/-- The attached pointer fields are the fields with a link, in order, each under its name
without the slot prefix, with its physical name, position and offset. -/
lemma attach_fields (items : List (FieldSpec × Nat × Nat)) :
    (c.attach r items).2.map (fun pf => (pf.name, pf.slot, pf.index, pf.offset)) =
      items.filterMap fun x => x.1.link.map fun _ => (stripSlotPrefix x.1.name, x.1.name, x.2) := by
  induction items generalizing c with
  | nil => rfl
  | cons x rest ih =>
    obtain ⟨f, i, off⟩ := x
    cases hl : f.link with
    | none => simp only [attach, hl, ih, List.filterMap_cons, Option.map_none]
    | some l =>
      cases l <;> simp only [attach, hl, ih, List.filterMap_cons, Option.map_some, List.map_cons]

/-- The bindings `attach` makes are owned by the record and aim where their fields were bound. -/
lemma mem_freshBindings {items : List (FieldSpec × Nat × Nat)} {x : Binding}
    (h : x ∈ freshBindings r items) :
    ∃ y ∈ items, ∃ aim, y.1.link = some (.fresh x.field aim) ∧ x.owner = r ∧
      x.aim = aim.toAim r := by
  obtain ⟨y, hy, hx⟩ := List.mem_filterMap.mp h
  unfold freshBinding at hx
  split at hx
  · rename_i field aim hl
    cases hx
    exact ⟨y, hy, aim, hl, rfl, rfl⟩
  · cases hx

/-- **The fresh bindings are numbered on from `n`**: when every inherited binding lies below
`m ≤ n`, the attached ids from `m` on are `n, n + 1, …`, one for each fresh binding, in order. -/
lemma attachedIds_filter {m : Nat} (items : List (FieldSpec × Nat × Nat))
    (hin : ∀ x ∈ items, ∀ bd, x.1.link = some (.inherited bd) → bd.index < m) (n : Nat)
    (hmn : m ≤ n) :
    (attachedIds n items).filter (fun id => m ≤ id.index) =
      (List.range' n (freshBindings r items).length).map BindingId.mk := by
  induction items generalizing n with
  | nil => rfl
  | cons x rest ih =>
    obtain ⟨f, i, off⟩ := x
    have hrest := ih (fun y hy => hin y (List.mem_cons_of_mem _ hy))
    cases hl : f.link with
    | none =>
      simpa [attachedIds, hl, freshBindings, freshBinding] using hrest n hmn
    | some l =>
      cases l with
      | inherited bd =>
        have hbd : bd.index < m := hin _ List.mem_cons_self bd hl
        have hskip : ¬ m ≤ bd.index := by omega
        simpa [attachedIds, hl, freshBindings, freshBinding, hskip] using hrest n hmn
      | fresh field aim =>
        simpa [attachedIds, hl, freshBindings, freshBinding, hmn, List.range'_succ] using
          hrest (n + 1) (by omega)

lemma binding?_attach (items : List (FieldSpec × Nat × Nat)) (id : BindingId) :
    (c.attach r items).1.binding? id = (c.bindings.toList ++ freshBindings r items)[id.index]? := by
  rw [← attach_bindings, Array.getElem?_toList]
  rfl

lemma binding?_attach_of_lt (items : List (FieldSpec × Nat × Nat)) {id : BindingId}
    (h : id.index < c.bindings.size) : (c.attach r items).1.binding? id = c.binding? id := by
  rw [binding?_attach, List.getElem?_append_left (by simpa using h), Array.getElem?_toList]
  rfl

end Attach

/-! ## Waiting on placeholders -/

/-- Whether binding `id` was made by record `r` and aims at placeholder `p`. -/
def waitsOn (c : Catalog) (r : RecordId) (p : PlaceholderId) (id : BindingId) : Bool :=
  match c.binding? id with
  | some x => x.owner == r && x.aim == .forward p
  | none => false

@[simp] lemma waitsOn_placeholders (ps : Array Placeholder) :
    ({ c with placeholders := ps } : Catalog).waitsOn = c.waitsOn := rfl

section Enqueue

variable (r : RecordId)

@[simp] lemma enqueue_bindings (pfs : List PointerField) : (c.enqueue r pfs).bindings = c.bindings := by
  unfold enqueue
  induction pfs generalizing c with
  | nil => rfl
  | cons pf rest ih =>
    rw [List.foldl_cons, ih]
    split
    · split <;> rfl
    · rfl

@[simp] lemma enqueue_records (pfs : List PointerField) : (c.enqueue r pfs).records = c.records := by
  unfold enqueue
  induction pfs generalizing c with
  | nil => rfl
  | cons pf rest ih =>
    rw [List.foldl_cons, ih]
    split
    · split <;> rfl
    · rfl

@[simp] lemma enqueue_builders (pfs : List PointerField) :
    (c.enqueue r pfs).builders = c.builders := by
  unfold enqueue
  induction pfs generalizing c with
  | nil => rfl
  | cons pf rest ih =>
    rw [List.foldl_cons, ih]
    split
    · split <;> rfl
    · rfl

lemma placeholder?_modify (q p : PlaceholderId) (f : Placeholder → Placeholder) :
    ({ c with placeholders := c.placeholders.modify q.index f } : Catalog).placeholder? p =
      if q = p then (c.placeholder? p).map f else c.placeholder? p := by
  simp only [placeholder?, Array.getElem?_modify, PlaceholderId.eq_iff]

/-- **`enqueue` appends to each placeholder**, in order, the bindings of `pfs` that record `r`
made and that aim at it. -/
lemma placeholder?_enqueue (pfs : List PointerField) (p : PlaceholderId) :
    (c.enqueue r pfs).placeholder? p = (c.placeholder? p).map fun ph =>
      { ph with pending := ph.pending ++ (pfs.map (·.binding)).filter (c.waitsOn r p) } := by
  unfold enqueue
  induction pfs generalizing c with
  | nil => cases h : c.placeholder? p <;> simp [h]
  | cons pf rest ih =>
    rw [List.foldl_cons, ih]
    cases hb : c.binding? pf.binding with
    | none =>
      have hw : c.waitsOn r p pf.binding = false := by simp [waitsOn, hb]
      simp only [List.map_cons, List.filter_cons, hw]
      rfl
    | some x =>
      obtain ⟨owner, field, aim⟩ := x
      cases aim with
      | forward q =>
        by_cases ho : owner = r
        · subst ho
          by_cases hq : q = p
          · -- the binding waits on `p`: it is appended now
            subst hq
            cases h : c.placeholder? q <;> simp [hb, placeholder?_modify, h, waitsOn]
          · simp [hb, placeholder?_modify, hq, waitsOn]
        · have hw : c.waitsOn r p pf.binding = false := by simp [waitsOn, hb, ho]
          simp only [ho, if_false, List.map_cons, List.filter_cons, hw]
          rfl
      | record t =>
        have hw : c.waitsOn r p pf.binding = false := by simp [waitsOn, hb]
        simp only [List.map_cons, List.filter_cons, hw]
        rfl
      | self t =>
        have hw : c.waitsOn r p pf.binding = false := by simp [waitsOn, hb]
        simp only [List.map_cons, List.filter_cons, hw]
        rfl

end Enqueue

/-! ## Declaring -/

/-- The fields of a record about to be entered, each with its position and bit offset. -/
def placedItems (fields : List FieldSpec) (placed : Placement) : List (FieldSpec × Nat × Nat) :=
  fields.zip (List.range fields.length |>.zip placed.offsets)

/-- The record a declaration enters. -/
def committedRecord (c : Catalog) (b : BuilderId) (name : String)
    (bases : List (Option RecordId)) (fields : List FieldSpec) (placed : Placement) : Record :=
  { builder := b,
    layout := ⟨name, (fields.zip placed.offsets).map fun (f, off) =>
      FieldInfo.mk f.name f.storage f.width off, placed.size, placed.align⟩,
    bases := bases.filterMap id, abi := c.abiOf b,
    pointers := (c.attach ⟨c.records.size⟩ (placedItems fields placed)).2 }

/-- **The catalog after a declaration** of record `name` in builder `b`, with its fields and
their placement: the tail of `declare`, after every check has passed. -/
def commit (c : Catalog) (b : BuilderId) (name : String) (bases : List (Option RecordId))
    (fields : List FieldSpec) (placed : Placement) : Catalog × RecordId :=
  let abi := c.abiOf b
  let r : RecordId := ⟨c.records.size⟩
  let (c, pfs) := c.attach r (fields.zip (List.range fields.length |>.zip placed.offsets))
  let infos := (fields.zip placed.offsets).map fun (f, off) =>
    FieldInfo.mk f.name f.storage f.width off
  let record : Record :=
    { builder := b, layout := ⟨name, infos, placed.size, placed.align⟩,
      bases := bases.filterMap id, abi, pointers := pfs }
  let c := { c with records := c.records.push record }
  let c := c.modifyBuilder b fun bl =>
    { bl with byName := (name, r) :: bl.byName, declared := bl.declared ++ [r] }
  (c.enqueue r pfs, r)

/-- **An inherited field's link** is the binding of a pointer field of a record of the
catalog. -/
lemma inherit_link {abi : Abi} {rec : String} {i : Nat} {bases : List (Option RecordId)}
    {inh : List FieldSpec} (h : c.inherit abi rec i bases = .ok inh) :
    ∀ f ∈ inh, ∀ l, f.link = some l →
      ∃ t br pf, l = .inherited pf.binding ∧ c.record? t = some br ∧ pf ∈ br.pointers := by
  induction bases generalizing i inh with
  | nil =>
    cases h
    simp
  | cons base rest ih =>
    cases hb : base.bind c.record? with
    | none => simp [inherit, hb] at h
    | some br =>
      obtain ⟨t, -, ht⟩ := Option.bind_eq_some_iff.mp hb
      simp only [inherit, hb] at h
      split at h
      · cases h
      · split at h
        · cases h
        · rename_i more hmore
          cases h
          intro f hf l hl
          rcases List.mem_append.mp hf with hf | hf
          · -- a field of this base: its link is the base's pointer field at its position
            obtain ⟨⟨g, j⟩, -, rfl⟩ := List.mem_map.mp hf
            obtain ⟨pf, hpf, rfl⟩ := Option.map_eq_some_iff.mp hl
            exact ⟨t, br, pf, rfl, ht, List.mem_of_find?_eq_some hpf⟩
          · exact ih hmore f hf l hl

/-- **A declared field's link** is fresh, with the aim its target was bound to. -/
lemma lower_link {b : BuilderId} {abi : Abi} {rec : String} {d : Declaration} {f : FieldSpec}
    (h : c.lower b abi rec d = .ok f) :
    ∀ l, f.link = some l → ∃ t aim, l = .fresh d.name aim ∧ c.bind b rec d.name t = .ok aim := by
  intro l hl
  unfold lower at h
  split at h
  · cases h
  · split at h
    · cases h
    · cases h
    · -- a pointer declaration
      rename_i t _ _
      split at h
      · cases h
      · split at h
        · cases h
        · rename_i aim haim
          cases h
          cases hl
          exact ⟨t, aim, rfl, haim⟩
    · -- a storage declaration has no link
      repeat' (split at h)
      all_goals cases h
      all_goals cases hl

/-- A record takes over no fresh binding from its bases. -/
lemma inherit_filterMap_freshBinding {abi : Abi} {rec : String} {i : Nat}
    {bases : List (Option RecordId)} {inh : List FieldSpec} (h : c.inherit abi rec i bases = .ok inh)
    (r : RecordId) : inh.filterMap (freshBinding r) = [] := by
  rw [List.filterMap_eq_nil_iff]
  intro f hf
  cases hl : f.link with
  | none => simp [freshBinding, hl]
  | some l =>
    obtain ⟨t, br, pf, rfl, -, -⟩ := inherit_link h f hf l hl
    simp [freshBinding, hl]

/-- Once every field has its offset, the fresh bindings of the placed fields are those of the
fields. -/
lemma freshBindings_placedItems (r : RecordId) {fields : List FieldSpec} {placed : Placement}
    (hlen : placed.offsets.length = fields.length) :
    freshBindings r (placedItems fields placed) = fields.filterMap (freshBinding r) := by
  have hfst : (placedItems fields placed).map Prod.fst = fields :=
    List.map_fst_zip (by simp [hlen])
  calc freshBindings r (placedItems fields placed)
      = ((placedItems fields placed).map Prod.fst).filterMap (freshBinding r) := by
        rw [List.filterMap_map]
        rfl
    _ = fields.filterMap (freshBinding r) := by rw [hfst]

/-! ## Lowering, binding by binding -/

section Lowering

variable (b : BuilderId) (abi : Abi) (rec : String) (r : RecordId)

lemma makeBinding_eq (f : FieldSpec) : c.makeBinding r f = c.addBindings (freshBinding r f).toList := by
  cases hl : f.link with
  | none => simp [makeBinding, freshBinding, hl]
  | some l => cases l <;> simp [makeBinding, freshBinding, hl, push_eq_addBindings]

/-- Lowering reads no binding. -/
lemma lower_addBindings (bs : List Binding) : (c.addBindings bs).lower b abi rec = c.lower b abi rec :=
  rfl

lemma lower_makeBinding (f : FieldSpec) : (c.makeBinding r f).lower b abi rec = c.lower b abi rec := by
  rw [makeBinding_eq, lower_addBindings]

/-- **Lowering that succeeds** lowers every declaration as `lower` does, and adds the bindings of
the fields declared now, in field order. -/
lemma lowerAll_eq_of_mapM {ds : List Declaration} {own : List FieldSpec}
    (h : ds.mapM (c.lower b abi rec) = .ok own) :
    lowerAll b abi rec r ds c = (.ok own, c.addBindings (own.filterMap (freshBinding r))) := by
  induction ds generalizing c own with
  | nil =>
    cases h
    simp [lowerAll]
  | cons d ds ih =>
    rw [List.mapM_cons, bind_eq_ok_iff] at h
    obtain ⟨f, hf, h⟩ := h
    rw [bind_eq_ok_iff] at h
    obtain ⟨fs, hfs, h⟩ := h
    cases h
    -- the rest is lowered in the catalog with the binding of `f`, which lowers the same way
    rw [← lower_makeBinding b abi rec r f] at hfs
    simp only [lowerAll, hf, ih hfs]
    rw [makeBinding_eq, addBindings_append, List.filterMap_cons]
    cases freshBinding r f <;> rfl

/-- **Lowering that fails** fails as `lower` does on the first declaration it rejects, and leaves
the catalog with bindings added. -/
lemma lowerAll_eq_of_mapM_error {ds : List Declaration} {e : Failure}
    (h : ds.mapM (c.lower b abi rec) = .error e) :
    ∃ bs, lowerAll b abi rec r ds c = (.error e, c.addBindings bs) := by
  induction ds generalizing c with
  | nil => cases h
  | cons d ds ih =>
    rw [List.mapM_cons] at h
    cases hf : c.lower b abi rec d with
    | error e' =>
      rw [hf] at h
      cases h
      exact ⟨[], by simp [lowerAll, hf]⟩
    | ok f =>
      rw [hf, ok_bind_eq] at h
      cases hfs : ds.mapM (c.lower b abi rec) with
      | ok fs =>
        rw [hfs] at h
        cases h
      | error e' =>
        rw [hfs] at h
        cases h
        rw [← lower_makeBinding b abi rec r f] at hfs
        obtain ⟨bs, hbs⟩ := ih hfs
        refine ⟨(freshBinding r f).toList ++ bs, ?_⟩
        simp only [lowerAll, hf, hbs]
        rw [makeBinding_eq, addBindings_append]

end Lowering

/-! ## Declaring, check by check -/

/-- The checks before lowering passed: the record has a name not yet used in the builder, the
ABI is valid, and the bases gave their fields. -/
lemma precheck_eq_ok {b : BuilderId} {name : String} {bases : List (Option RecordId)}
    {inh : List FieldSpec} (h : c.precheck b name bases = .ok inh) :
    name ≠ "" ∧ (c.lookup b name).isSome = false ∧ (c.abiOf b).validate = .ok () ∧
      c.inherit (c.abiOf b) name 0 bases = .ok inh := by
  have hname : ¬ name = "" := by
    intro hn
    simp [precheck, hn] at h
  have hdup : (c.lookup b name).isSome = false := by
    cases hl : (c.lookup b name).isSome
    · rfl
    · simp [precheck, hname, hl] at h
  simp only [precheck, hname, hdup, if_false, Bool.false_eq_true, bind_eq_ok_iff] at h
  obtain ⟨⟨⟩, hv, hinh⟩ := h
  exact ⟨hname, hdup, hv, hinh⟩

/-- **A declaration is its checks, then `commit`**: the bindings lowering made before the later
checks are the ones `commit` makes, so a declaration that succeeds hands back the catalog
`commit` builds from the catalog before lowering. -/
lemma declare_eq (b : BuilderId) (name : String) (bases : List (Option RecordId))
    (decls : List Declaration) :
    c.declare b name bases decls = (do
      let inh ← c.precheck b name bases
      let own ← decls.mapM (c.lower b (c.abiOf b) name)
      checkNames name (inh ++ own)
      let placed ← place ((inh ++ own).map (·.slot))
      pure (c.commit b name bases (inh ++ own) placed)) := by
  unfold declare declareRun
  cases hpre : c.precheck b name bases with
  | error e => rfl
  | ok inh =>
    have hinh := (precheck_eq_ok hpre).2.2.2
    cases hown : decls.mapM (c.lower b (c.abiOf b) name) with
    | error e =>
      obtain ⟨bs, hl⟩ := lowerAll_eq_of_mapM_error b (c.abiOf b) name ⟨c.records.size⟩ hown
      simp only [hl, ok_bind_eq, error_bind_eq]
    | ok own =>
      simp only [lowerAll_eq_of_mapM b (c.abiOf b) name ⟨c.records.size⟩ hown, ok_bind_eq]
      cases hnames : checkNames name (inh ++ own) with
      | error e => rfl
      | ok u =>
        cases hplace : place ((inh ++ own).map (·.slot)) with
        | error e => simp
        | ok placed =>
          have hlen : placed.offsets.length = (inh ++ own).length := by
            simpa using place_offsets_length hplace
          -- the bindings lowering made are the fresh bindings of the placed fields
          have hfresh : own.filterMap (freshBinding ⟨c.records.size⟩) =
              freshBindings ⟨c.records.size⟩ (placedItems (inh ++ own) placed) := by
            rw [freshBindings_placedItems _ hlen, List.filterMap_append,
              inherit_filterMap_freshBinding hinh, List.nil_append]
          simp only [ok_bind_eq, commit, attach_eq, hfresh, placedItems]
          rfl

/-- **A successful declaration** passed every check, and its catalog is the one `commit` builds
from the fields and their placement. -/
lemma declare_eq_ok {c' : Catalog} {b : BuilderId} {name : String}
    {bases : List (Option RecordId)} {decls : List Declaration} {r : RecordId}
    (h : c.declare b name bases decls = .ok (c', r)) :
    ∃ inh own placed, name ≠ "" ∧ (c.lookup b name).isSome = false ∧
      (c.abiOf b).validate = .ok () ∧ c.inherit (c.abiOf b) name 0 bases = .ok inh ∧
      decls.mapM (c.lower b (c.abiOf b) name) = .ok own ∧ checkNames name (inh ++ own) = .ok () ∧
      place ((inh ++ own).map (·.slot)) = .ok placed ∧
      (c', r) = c.commit b name bases (inh ++ own) placed := by
  simp only [declare_eq, bind_eq_ok_iff] at h
  obtain ⟨inh, hpre, own, hown, ⟨⟩, hnames, placed, hplace, hc⟩ := h
  obtain ⟨hname, hdup, hv, hinh⟩ := precheck_eq_ok hpre
  cases hc
  exact ⟨inh, own, placed, hname, hdup, hv, hinh, hown, hnames, hplace, rfl⟩

/-- The bindings of the pointer fields of a new record that wait on placeholder `p`: those the
record made and that aim at `p`, in field order. -/
def commitWaiting (c : Catalog) (fields : List FieldSpec) (placed : Placement)
    (p : PlaceholderId) : List BindingId :=
  (attachedIds c.bindings.size (placedItems fields placed)).filter
    ((c.attach ⟨c.records.size⟩ (placedItems fields placed)).1.waitsOn ⟨c.records.size⟩ p)

section Commit

variable (b : BuilderId) (name : String) (bases : List (Option RecordId)) (fields : List FieldSpec)
  (placed : Placement)

@[simp] lemma commit_snd : (c.commit b name bases fields placed).2 = ⟨c.records.size⟩ := rfl

lemma record?_commit (r : RecordId) :
    (c.commit b name bases fields placed).1.record? r =
      if r.index = c.records.size then some (c.committedRecord b name bases fields placed)
      else c.record? r := by
  simp only [commit, record?, enqueue_records, modifyBuilder, Array.getElem?_push, attach_records]
  rfl

lemma builder?_commit (b' : BuilderId) :
    (c.commit b name bases fields placed).1.builder? b' =
      if b = b' then (c.builder? b').map fun bl =>
        { bl with byName := (name, ⟨c.records.size⟩) :: bl.byName,
                  declared := bl.declared ++ [⟨c.records.size⟩] }
      else c.builder? b' := by
  simp only [commit, builder?, enqueue_builders, modifyBuilder, Array.getElem?_modify,
    attach_builders, BuilderId.eq_iff]

lemma binding?_commit (id : BindingId) :
    (c.commit b name bases fields placed).1.binding? id =
      (c.bindings.toList ++ freshBindings ⟨c.records.size⟩ (placedItems fields placed))[id.index]? := by
  rw [← binding?_attach]
  simp only [commit, binding?, enqueue_bindings, modifyBuilder]
  rfl

/-- **After a declaration each placeholder waits**, after what it waited for, on the new
bindings that aim at it, in field order. -/
lemma placeholder?_commit (p : PlaceholderId) :
    (c.commit b name bases fields placed).1.placeholder? p = (c.placeholder? p).map fun ph =>
      { ph with pending := ph.pending ++ c.commitWaiting fields placed p } := by
  simp only [commit]
  rw [placeholder?_enqueue, attach_ids]
  simp only [placeholder?, modifyBuilder, attach_placeholders]
  rfl

end Commit

/-! ## Resolving -/

section Settle

variable (b : BuilderId) (p : PlaceholderId) (r : RecordId)

/-- Pointing the bindings of a list at `r`, one after another, points each binding of the list
at `r` and leaves the others alone. -/
lemma bindings_aimAt (waiting : List BindingId) (i : Nat) :
    (waiting.foldl (fun c bd =>
        { c with bindings := c.bindings.modify bd.index fun x => { x with aim := .record r } }) c
      ).bindings[i]? =
      c.bindings[i]?.map fun x => if ⟨i⟩ ∈ waiting then { x with aim := .record r } else x := by
  induction waiting generalizing c with
  | nil => simp
  | cons bd rest ih =>
    rw [List.foldl_cons, ih]
    simp only [Array.getElem?_modify, List.mem_cons, BindingId.eq_iff]
    by_cases hi : bd.index = i
    · cases c.bindings[i]? <;> simp [hi]
    · cases c.bindings[i]? <;> simp [hi, Ne.symm hi]

/-- **Settling points every waiting binding at the record**, and no other. -/
lemma binding?_settle (id : BindingId) :
    (c.settle b p r).binding? id = (c.binding? id).map fun x =>
      if id ∈ (c.placeholder? p).elim [] (·.pending) then { x with aim := .record r } else x := by
  simp only [settle, binding?, modifyBuilder, bindings_aimAt]

/-- Settling marks the placeholder resolved with nothing waiting. -/
lemma placeholder?_settle (q : PlaceholderId) :
    (c.settle b p r).placeholder? q =
      if p = q then (c.placeholder? q).map fun ph => { ph with resolved := some r, pending := [] }
      else c.placeholder? q := by
  have hfold : ∀ (waiting : List BindingId) (c : Catalog), (waiting.foldl (fun c bd =>
      { c with bindings := c.bindings.modify bd.index fun x => { x with aim := .record r } }) c
      ).placeholders = c.placeholders := by
    intro waiting
    induction waiting with
    | nil => intro c; rfl
    | cons bd rest ih => intro c; rw [List.foldl_cons, ih]
  simp only [settle, placeholder?, modifyBuilder, Array.getElem?_modify, hfold,
    PlaceholderId.eq_iff]

lemma record?_settle (t : RecordId) : (c.settle b p r).record? t = c.record? t := by
  have hfold : ∀ (waiting : List BindingId) (c : Catalog), (waiting.foldl (fun c bd =>
      { c with bindings := c.bindings.modify bd.index fun x => { x with aim := .record r } }) c
      ).records = c.records := by
    intro waiting
    induction waiting with
    | nil => intro c; rfl
    | cons bd rest ih => intro c; rw [List.foldl_cons, ih]
  simp only [settle, record?, modifyBuilder, hfold]

/-- Settling closes the placeholder in its builder. -/
lemma builder?_settle (b' : BuilderId) :
    (c.settle b p r).builder? b' =
      if b = b' then (c.builder? b').map fun bl => { bl with unresolved := bl.unresolved.erase p }
      else c.builder? b' := by
  have hfold : ∀ (waiting : List BindingId) (c : Catalog), (waiting.foldl (fun c bd =>
      { c with bindings := c.bindings.modify bd.index fun x => { x with aim := .record r } }) c
      ).builders = c.builders := by
    intro waiting
    induction waiting with
    | nil => intro c; rfl
    | cons bd rest ih => intro c; rw [List.foldl_cons, ih]
  simp only [settle, builder?, modifyBuilder, Array.getElem?_modify, hfold, BuilderId.eq_iff]

end Settle

/-- A placeholder that builder `b` may resolve exists, belongs to `b` and is not resolved. -/
lemma checkResolvable_eq_ok {b : BuilderId} {p : Option PlaceholderId} {ph : Placeholder}
    (h : c.checkResolvable b p = .ok ph) :
    ∃ q, p = some q ∧ c.placeholder? q = some ph ∧ ph.builder = b ∧ ph.resolved = none := by
  cases p with
  | none => cases h
  | some q =>
    cases hq : c.placeholder? q with
    | none => simp [checkResolvable, hq] at h
    | some ph' =>
      simp only [checkResolvable, hq] at h
      split at h
      · cases h
      · split at h
        · cases h
        · rename_i hb _ hres
          cases h
          exact ⟨q, rfl, hq, by simpa using hb, hres⟩

/-- **A successful resolution** settles an open placeholder of the builder with a record of
the catalog. -/
lemma resolve_eq_ok {b : BuilderId} {p : Option PlaceholderId} {r : Option RecordId} {c' : Catalog}
    (h : c.resolve b p r = .ok c') :
    ∃ q ph t rec, p = some q ∧ r = some t ∧ c.placeholder? q = some ph ∧ ph.builder = b ∧
      ph.resolved = none ∧ c.record? t = some rec ∧ c' = c.settle b q t := by
  simp only [resolve, bind_eq_ok_iff] at h
  obtain ⟨ph, hph, h⟩ := h
  obtain ⟨q, rfl, hq, hb, hres⟩ := checkResolvable_eq_ok hph
  cases r with
  | none => cases h
  | some t =>
    cases ht : c.record? t with
    | none => simp [ht] at h
    | some rec =>
      simp only [ht, Option.bind_some, Option.map_some] at h
      cases h
      exact ⟨q, ph, t, rec, rfl, rfl, hq, hb, hres, ht, rfl⟩

/-- **A declaration for a placeholder** checks the placeholder, declares the record, then
settles the placeholder with it. -/
lemma declareFor_eq (b : BuilderId) (p : Option PlaceholderId) (name : String)
    (bases : List (Option RecordId)) (decls : List Declaration) :
    c.declareFor b p name bases decls = (do
      let _ ← c.checkResolvable b p
      let (c', r) ← c.declare b name bases decls
      match p with
      | some p => pure (c'.settle b p r, r)
      | none => pure (c', r)) := by
  unfold declareFor declareForRun declare
  cases c.checkResolvable b p with
  | error e => rfl
  | ok ph =>
    rcases c.declareRun b name bases decls with ⟨res, c'⟩
    cases res <;> cases p <;> rfl

/-- **A successful declaration for a placeholder** declares the record, then settles the
placeholder, which was open in the builder, with it. -/
lemma declareFor_eq_ok {b : BuilderId} {p : Option PlaceholderId} {name : String}
    {bases : List (Option RecordId)} {decls : List Declaration} {c' : Catalog} {r : RecordId}
    (h : c.declareFor b p name bases decls = .ok (c', r)) :
    ∃ q ph c₁, p = some q ∧ c.placeholder? q = some ph ∧ ph.builder = b ∧ ph.resolved = none ∧
      c.declare b name bases decls = .ok (c₁, r) ∧ c' = c₁.settle b q r := by
  simp only [declareFor_eq, bind_eq_ok_iff] at h
  obtain ⟨ph, hph, ⟨c₁, r₁⟩, hdecl, h⟩ := h
  obtain ⟨q, rfl, hq, hb, hres⟩ := checkResolvable_eq_ok hph
  cases h
  exact ⟨q, ph, c₁, rfl, hq, hb, hres, hdecl, rfl⟩

/-! ## Calls and their runs -/

section Runs

variable {b : BuilderId} {name : String} {bases : List (Option RecordId)} {decls : List Declaration}

/-- A declaration whose run succeeds hands back the catalog the run leaves. -/
lemma declare_of_declareRun {r : RecordId} (h : (c.declareRun b name bases decls).1 = .ok r) :
    c.declare b name bases decls = .ok ((c.declareRun b name bases decls).2, r) := by
  unfold declare
  rcases hrun : c.declareRun b name bases decls with ⟨res, c'⟩
  rw [hrun] at h
  cases h
  rfl

/-- A declaration for a placeholder whose run succeeds hands back the catalog the run leaves. -/
lemma declareFor_of_declareForRun {p : Option PlaceholderId} {r : RecordId}
    (h : (c.declareForRun b p name bases decls).1 = .ok r) :
    c.declareFor b p name bases decls = .ok ((c.declareForRun b p name bases decls).2, r) := by
  unfold declareFor
  rcases hrun : c.declareForRun b p name bases decls with ⟨res, c'⟩
  rw [hrun] at h
  cases h
  rfl

/-- **A resolution succeeds** when the placeholder may be resolved and the record is there. -/
lemma resolve_eq_settle {p : PlaceholderId} {r : RecordId} {ph : Placeholder} {rec : Record}
    (hph : c.checkResolvable b (some p) = .ok ph) (hr : c.record? r = some rec) :
    c.resolve b (some p) (some r) = .ok (c.settle b p r) := by
  simp [resolve, hph, hr]

end Runs

end Catalog

end RecordLayout
