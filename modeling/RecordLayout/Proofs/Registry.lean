import Mathlib
import RecordLayout.Proofs.Declare

/-!
# The registry of every builder

Calls of the builder interface (new builders, forward declarations, declarations, declarations
for a placeholder, resolutions) take the catalog from one state to the next; a call that fails
hands back no catalog, and its caller goes on with the one it had.  `Reachable` collects the
catalogs such calls reach from the empty one.

**The registry holds in every reachable catalog** (`registry_of_reachable`): a builder lists
its records in declaration order, with distinct names, and finds each by its name; it lists its
open placeholders in creation order, and finishing fails exactly while one is open, naming
them; a resolved placeholder has nobody waiting, and an open one waits, in creation order, on
exactly the bindings that aim at it; and every pointer field of a record aims at its own
declaring record, at a record of the catalog, or at an open placeholder that waits on it.

The proof is an invariant, `Inv`, shown for the empty catalog and kept by each operation:

* `InOrder` says that a list holds, in increasing index, exactly the entries of a kind.
* `FieldsFit` is what the fields of a successful declaration promise: inherited bindings exist,
  and fresh ones aim at the record itself, at a record, or at an open placeholder of the builder.
* `inv_addBuilder`, `inv_forwardDeclare`, `inv_commit` and `inv_settle` keep `Inv`; the inversion
  lemmas of the operations reduce every call to them.
-/

namespace RecordLayout

open Catalog (attachedIds freshBindings placedItems)

/-- `l` lists, in increasing `index`, exactly the entries that satisfy `q`. -/
structure InOrder {β : Type} (index : β → Nat) (l : List β) (q : β → Prop) : Prop where
  ordered : l.Pairwise fun a b => index a < index b
  mem_iff : ∀ x, x ∈ l ↔ q x

namespace InOrder

variable {β : Type} {index : β → Nat} {l l₁ l₂ : List β} {q q₁ q₂ : β → Prop}

lemma nodup (h : InOrder index l q) : l.Nodup :=
  h.ordered.imp fun hlt heq => by subst heq; omega

lemma nil (hq : ∀ x, ¬ q x) : InOrder index [] q :=
  ⟨List.Pairwise.nil, fun x => by simp [hq x]⟩

lemma congr (h : InOrder index l q₁) (hq : ∀ x, q₁ x ↔ q₂ x) : InOrder index l q₂ :=
  ⟨h.ordered, fun x => (h.mem_iff x).trans (hq x)⟩

lemma singleton (a : β) : InOrder index [a] fun x => x = a :=
  ⟨List.pairwise_singleton _ _, fun _ => List.mem_singleton⟩

/-- Two ordered lists, the second after the first, make one. -/
lemma append (h₁ : InOrder index l₁ q₁) (h₂ : InOrder index l₂ q₂)
    (hlt : ∀ a ∈ l₁, ∀ b ∈ l₂, index a < index b) :
    InOrder index (l₁ ++ l₂) fun x => q₁ x ∨ q₂ x :=
  ⟨List.pairwise_append.mpr ⟨h₁.ordered, h₂.ordered, hlt⟩,
    fun x => by rw [List.mem_append, h₁.mem_iff, h₂.mem_iff]⟩

/-- Erasing an entry keeps the order and drops that entry only. -/
lemma erase [DecidableEq β] (h : InOrder index l q) (a : β) :
    InOrder index (l.erase a) fun x => x ≠ a ∧ q x :=
  ⟨h.ordered.sublist List.erase_sublist,
    fun x => by rw [h.nodup.mem_erase_iff, h.mem_iff]⟩

end InOrder

namespace Catalog

variable {c : Catalog}

/-! ## Entries present in the catalog -/

lemma isSome_record?_iff {r : RecordId} : (c.record? r).isSome ↔ r.index < c.records.size := by
  simp [record?, Option.isSome_iff_ne_none]

lemma isSome_placeholder?_iff {p : PlaceholderId} :
    (c.placeholder? p).isSome ↔ p.index < c.placeholders.size := by
  simp [placeholder?, Option.isSome_iff_ne_none]

lemma isSome_binding?_iff {id : BindingId} : (c.binding? id).isSome ↔ id.index < c.bindings.size := by
  simp [binding?, Option.isSome_iff_ne_none]

lemma isSome_builder?_iff {b : BuilderId} : (c.builder? b).isSome ↔ b.index < c.builders.size := by
  simp [builder?, Option.isSome_iff_ne_none]

lemma record?_lt {r : RecordId} {rec : Record} (h : c.record? r = some rec) :
    r.index < c.records.size :=
  isSome_record?_iff.mp (by simp [h])

lemma placeholder?_lt {p : PlaceholderId} {ph : Placeholder} (h : c.placeholder? p = some ph) :
    p.index < c.placeholders.size :=
  isSome_placeholder?_iff.mp (by simp [h])

lemma binding?_lt {id : BindingId} {x : Binding} (h : c.binding? id = some x) :
    id.index < c.bindings.size :=
  isSome_binding?_iff.mp (by simp [h])

end Catalog

/-! ## Calls of the builder interface -/

/-- **The catalogs the builder interface reaches** from the empty one.  Each step is a call that
succeeded; the caller of a call that fails keeps the catalog it had, since what the failed call
made (bindings of pointer fields lowered before a later check failed) is seen by nothing the
builder shows (`Catalog.shown_addBindings`).  A builder is named by the caller, so a call names
one that exists. -/
inductive Reachable : Catalog → Prop
  | empty : Reachable {}
  | newBuilder {c : Catalog} (abi : Abi) : Reachable c → Reachable (c.addBuilder abi).1
  | forward {c : Catalog} {b : BuilderId} (name : String) :
      Reachable c → (c.builder? b).isSome → Reachable (c.forwardDeclare b name).1
  | declare {c c' : Catalog} {b : BuilderId} {name : String} {bases : List (Option RecordId)}
      {decls : List Declaration} {r : RecordId} :
      Reachable c → (c.builder? b).isSome → c.declare b name bases decls = .ok (c', r) →
      Reachable c'
  | declareFor {c c' : Catalog} {b : BuilderId} {p : Option PlaceholderId} {name : String}
      {bases : List (Option RecordId)} {decls : List Declaration} {r : RecordId} :
      Reachable c → (c.builder? b).isSome → c.declareFor b p name bases decls = .ok (c', r) →
      Reachable c'
  | resolve {c c' : Catalog} {b : BuilderId} {p : Option PlaceholderId} {r : Option RecordId} :
      Reachable c → c.resolve b p r = .ok c' → Reachable c'

/-! ## The invariant -/

/-- Where a binding may aim: `self` at its owner, at a record of the catalog, or at an open
placeholder of its owner's builder. -/
def Binding.AimOk (c : Catalog) (x : Binding) : Prop :=
  match x.aim with
  | .self o => o = x.owner
  | .record t => (c.record? t).isSome
  | .forward p => ∃ ph rec, c.placeholder? p = some ph ∧ ph.resolved = none ∧
      c.record? x.owner = some rec ∧ rec.builder = ph.builder

/-- An aim stays allowed in a catalog that keeps every record, and keeps open, in its builder,
an open placeholder the binding aims at. -/
lemma Binding.AimOk.mono {c c' : Catalog} {x : Binding} (h : x.AimOk c)
    (hrec : ∀ r rec, c.record? r = some rec → c'.record? r = some rec)
    (hph : ∀ p, x.aim = .forward p → ∀ ph, c.placeholder? p = some ph → ph.resolved = none →
      ∃ ph', c'.placeholder? p = some ph' ∧ ph'.resolved = none ∧ ph'.builder = ph.builder) :
    x.AimOk c' := by
  unfold Binding.AimOk at h ⊢
  cases ha : x.aim with
  | self o => simpa [ha] using h
  | record t =>
    simp only [ha] at h ⊢
    obtain ⟨rec, hr⟩ := Option.isSome_iff_exists.mp h
    simp [hrec t rec hr]
  | forward p =>
    simp only [ha] at h ⊢
    obtain ⟨ph, rec, hp, hres, hr, hb⟩ := h
    obtain ⟨ph', hp', hres', hb'⟩ := hph p ha ph hp hres
    exact ⟨ph', rec, hp', hres', hrec _ rec hr, hb.trans hb'.symm⟩

/-- The invariant of reachable catalogs. -/
structure Inv (c : Catalog) : Prop where
  /-- Every record belongs to a builder of the catalog. -/
  recordBuilder : ∀ r rec, c.record? r = some rec → (c.builder? rec.builder).isSome
  /-- Every pointer field of a record has its binding in the catalog. -/
  pointerBinding : ∀ r rec, c.record? r = some rec → ∀ pf ∈ rec.pointers,
    (c.binding? pf.binding).isSome
  /-- A binding's owner is a record of the catalog holding a pointer field with it. -/
  bindingOwner : ∀ id x, c.binding? id = some x →
    ∃ rec, c.record? x.owner = some rec ∧ ∃ pf ∈ rec.pointers, pf.binding = id
  /-- Every binding aims where it may. -/
  bindingAim : ∀ id x, c.binding? id = some x → x.AimOk c
  /-- Every placeholder belongs to a builder of the catalog. -/
  placeholderBuilder : ∀ p ph, c.placeholder? p = some ph → (c.builder? ph.builder).isSome
  /-- A resolved placeholder names a record of the catalog and has nobody waiting. -/
  resolved : ∀ p ph r, c.placeholder? p = some ph → ph.resolved = some r →
    (c.record? r).isSome ∧ ph.pending = []
  /-- An open placeholder waits on exactly the bindings aiming at it, in creation order. -/
  pending : ∀ p ph, c.placeholder? p = some ph → ph.resolved = none →
    InOrder BindingId.index ph.pending fun id => ∃ x, c.binding? id = some x ∧ x.aim = .forward p
  /-- A builder lists its records in creation order. -/
  declared : ∀ b, InOrder RecordId.index (c.declared b) fun r =>
    ∃ rec, c.record? r = some rec ∧ rec.builder = b
  /-- The records of a builder have distinct names. -/
  names : ∀ b, ((c.declared b).map c.recordName).Nodup
  /-- A builder finds its records by their names. -/
  lookup : ∀ b n r, c.lookup b n = some r ↔ r ∈ c.declared b ∧ c.recordName r = n
  /-- A builder lists its open placeholders in creation order. -/
  unresolved : ∀ b, InOrder PlaceholderId.index (c.pending b) fun p =>
    ∃ ph, c.placeholder? p = some ph ∧ ph.builder = b ∧ ph.resolved = none

/-- The empty catalog has nothing to hold. -/
lemma inv_empty : Inv {} where
  recordBuilder := by simp [Catalog.record?]
  pointerBinding := by simp [Catalog.record?]
  bindingOwner := by simp [Catalog.binding?]
  bindingAim := by simp [Catalog.binding?]
  placeholderBuilder := by simp [Catalog.placeholder?]
  resolved := by simp [Catalog.placeholder?]
  pending := by simp [Catalog.placeholder?]
  declared b := InOrder.nil (by simp [Catalog.record?])
  names b := by simp [Catalog.declared, Catalog.builder?]
  lookup b n r := by simp [Catalog.lookup, Catalog.declared, Catalog.builder?]
  unresolved b := InOrder.nil (by simp [Catalog.placeholder?])

namespace Inv

variable {c : Catalog}

/-- A record's builder lies below the number of builders. -/
lemma record_builder_lt (hi : Inv c) {r : RecordId} {rec : Record} (h : c.record? r = some rec) :
    rec.builder.index < c.builders.size :=
  Catalog.isSome_builder?_iff.mp (hi.recordBuilder r rec h)

lemma placeholder_builder_lt (hi : Inv c) {p : PlaceholderId} {ph : Placeholder}
    (h : c.placeholder? p = some ph) : ph.builder.index < c.builders.size :=
  Catalog.isSome_builder?_iff.mp (hi.placeholderBuilder p ph h)

/-- A binding's owner lies below the number of records. -/
lemma owner_lt (hi : Inv c) {id : BindingId} {x : Binding} (h : c.binding? id = some x) :
    x.owner.index < c.records.size := by
  obtain ⟨rec, hrec, -⟩ := hi.bindingOwner id x h
  exact Catalog.record?_lt hrec

/-- A binding aiming at an open placeholder waits on it. -/
lemma mem_pending (hi : Inv c) {id : BindingId} {x : Binding} {p : PlaceholderId}
    {ph : Placeholder} (hx : c.binding? id = some x) (hp : x.aim = .forward p)
    (hph : c.placeholder? p = some ph) (hres : ph.resolved = none) : id ∈ ph.pending :=
  ((hi.pending p ph hph hres).mem_iff id).mpr ⟨x, hx, hp⟩

end Inv

/-! ## A new builder -/

section AddBuilder

variable {c : Catalog} (abi : Abi)

lemma declared_addBuilder (b : BuilderId) :
    (c.addBuilder abi).1.declared b = if b.index = c.builders.size then [] else c.declared b := by
  simp only [Catalog.declared, Catalog.builder?_addBuilder]
  split <;> rfl

lemma pending_addBuilder (b : BuilderId) :
    (c.addBuilder abi).1.pending b = if b.index = c.builders.size then [] else c.pending b := by
  simp only [Catalog.pending, Catalog.builder?_addBuilder]
  split <;> rfl

lemma lookup_addBuilder (b : BuilderId) (n : String) :
    (c.addBuilder abi).1.lookup b n = if b.index = c.builders.size then none else c.lookup b n := by
  simp only [Catalog.lookup, Catalog.builder?_addBuilder]
  split <;> rfl

lemma isSome_builder?_addBuilder {b : BuilderId} (h : (c.builder? b).isSome) :
    ((c.addBuilder abi).1.builder? b).isSome := by
  rw [Catalog.isSome_builder?_iff] at h ⊢
  simp only [Catalog.addBuilder, Array.size_push]
  omega

@[simp] lemma recordName_addBuilder : (c.addBuilder abi).1.recordName = c.recordName := rfl

/-- **A new builder keeps the invariant**: it has no records and no placeholders yet. -/
lemma inv_addBuilder (hi : Inv c) : Inv (c.addBuilder abi).1 where
  recordBuilder r rec h := isSome_builder?_addBuilder abi (hi.recordBuilder r rec h)
  pointerBinding := hi.pointerBinding
  bindingOwner := hi.bindingOwner
  bindingAim := hi.bindingAim
  placeholderBuilder p ph h := isSome_builder?_addBuilder abi (hi.placeholderBuilder p ph h)
  resolved := hi.resolved
  pending := hi.pending
  declared b := by
    rw [declared_addBuilder]
    split
    · -- the new builder: no record names it
      rename_i hnew
      refine InOrder.nil fun r ⟨rec, hrec, hb⟩ => ?_
      have := hi.record_builder_lt (by simpa using hrec)
      rw [hb] at this
      omega
    · simpa using hi.declared b
  names b := by
    rw [declared_addBuilder]
    split
    · simp
    · simpa using hi.names b
  lookup b n r := by
    rw [lookup_addBuilder, declared_addBuilder]
    split
    · simp
    · simpa using hi.lookup b n r
  unresolved b := by
    rw [pending_addBuilder]
    split
    · rename_i hnew
      refine InOrder.nil fun p ⟨ph, hph, hb, _⟩ => ?_
      have := hi.placeholder_builder_lt (by simpa using hph)
      rw [hb] at this
      omega
    · simpa using hi.unresolved b

end AddBuilder

/-! ## A forward declaration -/

section ForwardDeclare

variable {c : Catalog} {b : BuilderId} (name : String)

lemma declared_forwardDeclare (b' : BuilderId) :
    (c.forwardDeclare b name).1.declared b' = c.declared b' := by
  simp only [Catalog.declared, Catalog.builder?_forwardDeclare]
  split
  · cases c.builder? b' <;> rfl
  · rfl

lemma lookup_forwardDeclare (b' : BuilderId) (n : String) :
    (c.forwardDeclare b name).1.lookup b' n = c.lookup b' n := by
  simp only [Catalog.lookup, Catalog.builder?_forwardDeclare]
  split
  · cases c.builder? b' <;> rfl
  · rfl

lemma pending_forwardDeclare (hb : (c.builder? b).isSome) (b' : BuilderId) :
    (c.forwardDeclare b name).1.pending b' =
      if b = b' then c.pending b' ++ [⟨c.placeholders.size⟩] else c.pending b' := by
  simp only [Catalog.pending, Catalog.builder?_forwardDeclare]
  split
  · rename_i h
    subst h
    obtain ⟨bl, hbl⟩ := Option.isSome_iff_exists.mp hb
    simp [hbl]
  · rfl

@[simp] lemma recordName_forwardDeclare :
    (c.forwardDeclare b name).1.recordName = c.recordName := rfl

lemma isSome_builder?_forwardDeclare {b' : BuilderId} (h : (c.builder? b').isSome) :
    ((c.forwardDeclare b name).1.builder? b').isSome := by
  rw [Catalog.builder?_forwardDeclare]
  split <;> simpa using h

/-- An entry of the catalog before a forward declaration is one after it. -/
lemma placeholder?_forwardDeclare_of_lt {p : PlaceholderId} (h : p.index < c.placeholders.size) :
    (c.forwardDeclare b name).1.placeholder? p = c.placeholder? p := by
  rw [Catalog.placeholder?_forwardDeclare, if_neg (by omega)]

/-- **A forward declaration keeps the invariant**: the new placeholder is open, belongs to the
builder and has nobody waiting, and the builder lists it last. -/
lemma inv_forwardDeclare (hi : Inv c) (hb : (c.builder? b).isSome) :
    Inv (c.forwardDeclare b name).1 where
  recordBuilder r rec h :=
    isSome_builder?_forwardDeclare name (hi.recordBuilder r rec (by simpa using h))
  pointerBinding r rec h pf hpf := by simpa using hi.pointerBinding r rec (by simpa using h) pf hpf
  bindingOwner id x h := by simpa using hi.bindingOwner id x (by simpa using h)
  bindingAim id x h :=
    (hi.bindingAim id x (by simpa using h)).mono (fun r rec hr => by simpa using hr)
      fun p _ ph hph hres => ⟨ph, by
        rw [placeholder?_forwardDeclare_of_lt name (Catalog.placeholder?_lt hph), hph], hres, rfl⟩
  placeholderBuilder p ph h := by
    rw [Catalog.placeholder?_forwardDeclare] at h
    split at h
    · cases h
      exact isSome_builder?_forwardDeclare name hb
    · exact isSome_builder?_forwardDeclare name (hi.placeholderBuilder p ph h)
  resolved p ph r h hr := by
    rw [Catalog.placeholder?_forwardDeclare] at h
    split at h
    · cases h
      cases hr
    · simpa using hi.resolved p ph r h hr
  pending p ph h hr := by
    rw [Catalog.placeholder?_forwardDeclare] at h
    split at h
    · -- the new placeholder: no binding aims at it yet
      cases h
      refine InOrder.nil fun id ⟨x, hx, hp⟩ => ?_
      have hok := hi.bindingAim id x (by simpa using hx)
      simp only [Binding.AimOk, hp] at hok
      obtain ⟨ph', -, hph', -⟩ := hok
      have := Catalog.placeholder?_lt hph'
      omega
    · simpa using hi.pending p ph h hr
  declared b' := by simpa [declared_forwardDeclare] using hi.declared b'
  names b' := by simpa [declared_forwardDeclare] using hi.names b'
  lookup b' n r := by simpa [declared_forwardDeclare, lookup_forwardDeclare] using hi.lookup b' n r
  unresolved b' := by
    rw [pending_forwardDeclare name hb]
    have hold : ∀ p, (∃ ph, c.placeholder? p = some ph ∧ ph.builder = b' ∧ ph.resolved = none) →
        p.index < c.placeholders.size := fun p ⟨ph, hph, _⟩ => Catalog.placeholder?_lt hph
    split
    · -- the builder of the declaration lists the new placeholder last
      rename_i hbb
      subst hbb
      refine (hi.unresolved b).append (InOrder.singleton _) ?_ |>.congr ?_
      · intro p hp p' hp'
        rw [List.mem_singleton.mp hp']
        exact hold p (((hi.unresolved b).mem_iff p).mp hp)
      · intro p
        rw [Catalog.placeholder?_forwardDeclare]
        by_cases hp : p.index = c.placeholders.size
        · have hpp : p = ⟨c.placeholders.size⟩ := by cases p; simpa using hp
          simp [hpp]
        · have hpp : p ≠ ⟨c.placeholders.size⟩ := by
            intro he
            subst he
            exact hp rfl
          simp [hp, hpp]
    · refine (hi.unresolved b').congr fun p => ?_
      rw [Catalog.placeholder?_forwardDeclare]
      split
      · rename_i hp
        constructor
        · intro ⟨ph, hph, _⟩
          have := Catalog.placeholder?_lt hph
          omega
        · rintro ⟨ph, hph, hb', -⟩
          cases hph
          contradiction
      · rfl

end ForwardDeclare

/-! ## A declaration -/

/-- Where a pointer field declared now may aim: the record itself, a record of the catalog, or
an open placeholder of the builder. -/
def FreshAim.Valid (c : Catalog) (b : BuilderId) : FreshAim → Prop
  | .self => True
  | .record t => (c.record? t).isSome
  | .forward p => ∃ ph, c.placeholder? p = some ph ∧ ph.builder = b ∧ ph.resolved = none

/-- What the fields of a declaration in builder `b` promise the catalog. -/
structure FieldsFit (c : Catalog) (b : BuilderId) (fields : List FieldSpec) : Prop where
  /-- An inherited pointer field keeps a binding of the catalog. -/
  inherited : ∀ f ∈ fields, ∀ bd, f.link = some (.inherited bd) → (c.binding? bd).isSome
  /-- A pointer field declared now aims where it may. -/
  fresh : ∀ f ∈ fields, ∀ field aim, f.link = some (.fresh field aim) → aim.Valid c b

namespace Inv

variable {c : Catalog}

/-- **Binding a pointer declaration** aims it where it may; a resolved placeholder is followed
to its record. -/
lemma bind_valid (hi : Inv c) {b : BuilderId} {rec field : String} {t : Target} {aim : FreshAim}
    (h : c.bind b rec field t = .ok aim) : aim.Valid c b := by
  cases t with
  | self =>
    cases h
    trivial
  | placeholder p =>
    cases p with
    | none => cases h
    | some p =>
      cases hph : c.placeholder? p with
      | none => simp [Catalog.bind, hph] at h
      | some ph =>
        simp only [Catalog.bind, hph] at h
        split at h
        · cases h
        · rename_i hb
          cases hres : ph.resolved with
          | some r =>
            simp only [hres] at h
            cases h
            exact (hi.resolved p ph r hph hres).1
          | none =>
            simp only [hres] at h
            cases h
            exact ⟨ph, hph, by simpa using hb, hres⟩
  | record r =>
    cases r with
    | none => cases h
    | some r =>
      simp only [Catalog.bind] at h
      split at h
      · cases h
        assumption
      · cases h

/-- **The fields of a successful declaration fit the catalog**: inherited pointer fields bring
bindings of the catalog, and declared ones are bound where they may aim. -/
lemma fieldsFit (hi : Inv c) {b : BuilderId} {name : String} {bases : List (Option RecordId)}
    {decls : List Declaration} {inh own : List FieldSpec}
    (hinh : c.inherit (c.abiOf b) name 0 bases = .ok inh)
    (hown : decls.mapM (c.lower b (c.abiOf b) name) = .ok own) : FieldsFit c b (inh ++ own) where
  inherited f hf bd hl := by
    rcases List.mem_append.mp hf with hf | hf
    · obtain ⟨t, br, pf, hl', ht, hpf⟩ := Catalog.inherit_link hinh f hf _ hl
      cases hl'
      exact hi.pointerBinding t br ht pf hpf
    · obtain ⟨d, -, hd⟩ := exists_of_mapM_eq_ok hown f hf
      obtain ⟨t, aim, hl', -⟩ := Catalog.lower_link hd _ hl
      cases hl'
  fresh f hf field aim hl := by
    rcases List.mem_append.mp hf with hf | hf
    · obtain ⟨t, br, pf, hl', -⟩ := Catalog.inherit_link hinh f hf _ hl
      cases hl'
    · obtain ⟨d, -, hd⟩ := exists_of_mapM_eq_ok hown f hf
      obtain ⟨t, aim', hl', hbind⟩ := Catalog.lower_link hd _ hl
      cases hl'
      exact hi.bind_valid hbind

end Inv

section Commit

variable {c : Catalog} {b : BuilderId} {name : String} {bases : List (Option RecordId)}
  {fields : List FieldSpec} {placed : Placement}

lemma record?_commit_of_lt {r : RecordId} (h : r.index < c.records.size) :
    (c.commit b name bases fields placed).1.record? r = c.record? r := by
  rw [Catalog.record?_commit, if_neg (by omega)]

lemma record?_commit_self :
    (c.commit b name bases fields placed).1.record? ⟨c.records.size⟩ =
      some (c.committedRecord b name bases fields placed) := by
  rw [Catalog.record?_commit, if_pos rfl]

/-- A record after a declaration is an earlier record or the one entered. -/
lemma record?_commit_eq_some {r : RecordId} {rec : Record}
    (h : (c.commit b name bases fields placed).1.record? r = some rec) :
    (r.index < c.records.size ∧ c.record? r = some rec) ∨
      (r = ⟨c.records.size⟩ ∧ rec = c.committedRecord b name bases fields placed) := by
  rw [Catalog.record?_commit] at h
  split at h
  · rename_i hr
    cases h
    exact Or.inr ⟨by cases r; simpa using hr, rfl⟩
  · exact Or.inl ⟨Catalog.record?_lt h, h⟩

lemma recordName_commit_of_lt {r : RecordId} (h : r.index < c.records.size) :
    (c.commit b name bases fields placed).1.recordName r = c.recordName r := by
  simp only [Catalog.recordName, record?_commit_of_lt h]

lemma recordName_commit_self :
    (c.commit b name bases fields placed).1.recordName ⟨c.records.size⟩ = name := by
  simp only [Catalog.recordName, record?_commit_self]
  rfl

lemma isSome_builder?_commit (b' : BuilderId) :
    ((c.commit b name bases fields placed).1.builder? b').isSome = (c.builder? b').isSome := by
  rw [Catalog.builder?_commit]
  split <;> simp

lemma declared_commit (hb : (c.builder? b).isSome) (b' : BuilderId) :
    (c.commit b name bases fields placed).1.declared b' =
      if b = b' then c.declared b' ++ [⟨c.records.size⟩] else c.declared b' := by
  simp only [Catalog.declared, Catalog.builder?_commit]
  split
  · rename_i h
    subst h
    obtain ⟨bl, hbl⟩ := Option.isSome_iff_exists.mp hb
    simp [hbl]
  · rfl

lemma lookup_commit (hb : (c.builder? b).isSome) (b' : BuilderId) (n : String) :
    (c.commit b name bases fields placed).1.lookup b' n =
      if b = b' ∧ n = name then some ⟨c.records.size⟩ else c.lookup b' n := by
  simp only [Catalog.lookup, Catalog.builder?_commit]
  split
  · rename_i h
    subst h
    obtain ⟨bl, hbl⟩ := Option.isSome_iff_exists.mp hb
    by_cases hn : n = name
    · simp [hbl, hn]
    · have hne : (n == name) = false := by simpa using hn
      simp only [hbl, Option.map_some, Option.bind_some, List.lookup_cons, hne, hn, and_false,
        if_false]
  · rename_i h
    simp [h]

lemma pending_commit (b' : BuilderId) :
    (c.commit b name bases fields placed).1.pending b' = c.pending b' := by
  simp only [Catalog.pending, Catalog.builder?_commit]
  split
  · cases c.builder? b' <;> rfl
  · rfl

/-- A placeholder keeps its builder and its resolution through a declaration. -/
lemma placeholder?_commit_of_eq (b : BuilderId) (name : String) (bases : List (Option RecordId))
    (fields : List FieldSpec) (placed : Placement) {p : PlaceholderId} {ph : Placeholder}
    (h : c.placeholder? p = some ph) :
    ∃ ph', (c.commit b name bases fields placed).1.placeholder? p = some ph' ∧
      ph'.resolved = ph.resolved ∧ ph'.builder = ph.builder :=
  ⟨{ ph with pending := ph.pending ++ c.commitWaiting fields placed p },
    by rw [Catalog.placeholder?_commit, h]; rfl, rfl, rfl⟩

lemma binding?_commit_of_lt {id : BindingId} (h : id.index < c.bindings.size) :
    (c.commit b name bases fields placed).1.binding? id = c.binding? id := by
  rw [Catalog.binding?_commit, List.getElem?_append_left (by simpa using h), Array.getElem?_toList]
  rfl

lemma binding?_commit_of_le {id : BindingId} (h : c.bindings.size ≤ id.index) :
    (c.commit b name bases fields placed).1.binding? id =
      (freshBindings ⟨c.records.size⟩ (placedItems fields placed))[id.index - c.bindings.size]? := by
  rw [Catalog.binding?_commit, List.getElem?_append_right (by simpa using h), Array.length_toList]

lemma isSome_binding?_commit {id : BindingId} :
    ((c.commit b name bases fields placed).1.binding? id).isSome ↔
      id.index < c.bindings.size +
        (freshBindings ⟨c.records.size⟩ (placedItems fields placed)).length := by
  rw [Catalog.binding?_commit, Option.isSome_iff_ne_none, ne_eq, List.getElem?_eq_none_iff]
  simp

/-- A binding after a declaration is an earlier binding or one the declaration made. -/
lemma binding?_commit_eq_some {id : BindingId} {x : Binding}
    (h : (c.commit b name bases fields placed).1.binding? id = some x) :
    (id.index < c.bindings.size ∧ c.binding? id = some x) ∨
      (c.bindings.size ≤ id.index ∧ x ∈ freshBindings ⟨c.records.size⟩ (placedItems fields placed)) := by
  by_cases hlt : id.index < c.bindings.size
  · exact Or.inl ⟨hlt, by rwa [binding?_commit_of_lt hlt] at h⟩
  · rw [binding?_commit_of_le (by omega)] at h
    exact Or.inr ⟨by omega, List.mem_of_getElem? h⟩

lemma binding?_attach_commit (b : BuilderId) (name : String) (bases : List (Option RecordId))
    (id : BindingId) :
    (c.attach ⟨c.records.size⟩ (placedItems fields placed)).1.binding? id =
      (c.commit b name bases fields placed).1.binding? id := by
  rw [Catalog.binding?_attach, Catalog.binding?_commit]

namespace FieldsFit

variable (hfit : FieldsFit c b fields)
include hfit

/-- The inherited bindings lie below the first binding a declaration makes. -/
lemma inherited_lt : ∀ x ∈ placedItems fields placed, ∀ bd, x.1.link = some (.inherited bd) →
    bd.index < c.bindings.size :=
  fun x hx bd hl => Catalog.isSome_binding?_iff.mp (hfit.inherited x.1 (List.of_mem_zip hx).1 bd hl)

/-- The bindings a declaration makes are numbered on from the bindings there. -/
lemma fresh_ids :
    (attachedIds c.bindings.size (placedItems fields placed)).filter
        (fun id => c.bindings.size ≤ id.index) =
      (List.range' c.bindings.size
        (freshBindings ⟨c.records.size⟩ (placedItems fields placed)).length).map BindingId.mk :=
  Catalog.attachedIds_filter _ _ hfit.inherited_lt _ (Nat.le_refl _)

/-- Every binding a declaration makes belongs to a pointer field of the new record. -/
lemma mem_attachedIds {id : BindingId} (hle : c.bindings.size ≤ id.index)
    (hsome : ((c.commit b name bases fields placed).1.binding? id).isSome) :
    id ∈ attachedIds c.bindings.size (placedItems fields placed) := by
  rw [isSome_binding?_commit] at hsome
  have hmem : id ∈ (List.range' c.bindings.size
      (freshBindings ⟨c.records.size⟩ (placedItems fields placed)).length).map BindingId.mk :=
    List.mem_map.mpr ⟨id.index, List.mem_range'_1.mpr ⟨hle, hsome⟩, rfl⟩
  rw [← hfit.fresh_ids] at hmem
  exact (List.mem_filter.mp hmem).1

/-- Every pointer field of the new record has its binding in the catalog after it. -/
lemma isSome_binding?_of_mem {id : BindingId}
    (h : id ∈ attachedIds c.bindings.size (placedItems fields placed)) :
    ((c.commit b name bases fields placed).1.binding? id).isSome := by
  rw [isSome_binding?_commit]
  by_cases hlt : id.index < c.bindings.size
  · omega
  · have hmem : id ∈ (attachedIds c.bindings.size (placedItems fields placed)).filter
        (fun id => c.bindings.size ≤ id.index) := List.mem_filter.mpr ⟨h, by simpa using hlt⟩
    rw [hfit.fresh_ids] at hmem
    obtain ⟨i, hi, rfl⟩ := List.mem_map.mp hmem
    exact (List.mem_range'_1.mp hi).2

/-- A binding a declaration makes is owned by the new record and aims where its field was
bound. -/
lemma fresh_aim {x : Binding} (hx : x ∈ freshBindings ⟨c.records.size⟩ (placedItems fields placed)) :
    x.owner = ⟨c.records.size⟩ ∧
      ∃ aim : FreshAim, aim.Valid c b ∧ x.aim = aim.toAim ⟨c.records.size⟩ := by
  obtain ⟨y, hy, aim, hl, ho, ha⟩ := Catalog.mem_freshBindings _ hx
  exact ⟨ho, aim, hfit.fresh y.1 (List.of_mem_zip hy).1 _ aim hl, ha⟩

end FieldsFit

/-- Records and open placeholders outlive a declaration, so an allowed aim stays allowed. -/
lemma Binding.AimOk.commit {x : Binding} (h : x.AimOk c) :
    x.AimOk (c.commit b name bases fields placed).1 :=
  h.mono (fun r rec hr => by rw [record?_commit_of_lt (Catalog.record?_lt hr)]; exact hr)
    fun _ _ _ hph hres => (placeholder?_commit_of_eq b name bases fields placed hph).imp fun _ ⟨h, hr, hb⟩ =>
      ⟨h, hr.trans hres, hb⟩

/-- Only the bindings a declaration makes wait on its account: an earlier binding is owned by
an earlier record. -/
lemma Inv.le_of_mem_commitWaiting (hi : Inv c) {p : PlaceholderId} {id : BindingId}
    (h : id ∈ c.commitWaiting fields placed p) : c.bindings.size ≤ id.index := by
  simp only [Catalog.commitWaiting, List.mem_filter, Catalog.waitsOn] at h
  obtain ⟨-, hw⟩ := h
  refine Nat.le_of_not_lt fun hlt => ?_
  rw [Catalog.binding?_attach_of_lt _ _ hlt] at hw
  cases hx : c.binding? id with
  | none => simp [hx] at hw
  | some x =>
    simp only [hx, Bool.and_eq_true, beq_iff_eq] at hw
    have hown := hi.owner_lt hx
    rw [hw.1] at hown
    exact Nat.lt_irrefl _ hown

namespace Inv

variable (hi : Inv c) (hfit : FieldsFit c b fields)
include hi hfit

/-- **The bindings a declaration makes wait on `p`** are exactly the new bindings aiming at
`p`. -/
lemma mem_commitWaiting (name : String) (bases : List (Option RecordId)) (p : PlaceholderId)
    (id : BindingId) :
    id ∈ c.commitWaiting fields placed p ↔ c.bindings.size ≤ id.index ∧
      ∃ x, (c.commit b name bases fields placed).1.binding? id = some x ∧ x.aim = .forward p := by
  constructor
  · intro h
    have hle := hi.le_of_mem_commitWaiting h
    simp only [Catalog.commitWaiting, List.mem_filter, Catalog.waitsOn,
      binding?_attach_commit b name bases] at h
    obtain ⟨-, hw⟩ := h
    cases hx : (c.commit b name bases fields placed).1.binding? id with
    | none => simp [hx] at hw
    | some x =>
      simp only [hx, Bool.and_eq_true, beq_iff_eq] at hw
      exact ⟨hle, x, rfl, hw.2⟩
  · rintro ⟨hle, x, hx, ha⟩
    have hmem := hfit.mem_attachedIds hle (Option.isSome_iff_exists.mpr ⟨x, hx⟩)
    rcases binding?_commit_eq_some hx with ⟨hlt, -⟩ | ⟨-, hfresh⟩
    · omega
    · obtain ⟨ho, -⟩ := hfit.fresh_aim hfresh
      simp only [Catalog.commitWaiting, List.mem_filter, Catalog.waitsOn,
        binding?_attach_commit b name bases]
      exact ⟨hmem, by simp [hx, ho, ha]⟩

/-- The bindings a declaration makes wait in creation order. -/
lemma commitWaiting_ordered (p : PlaceholderId) :
    (c.commitWaiting fields placed p).Pairwise fun a a' => a.index < a'.index := by
  have hfresh : c.commitWaiting fields placed p =
      ((attachedIds c.bindings.size (placedItems fields placed)).filter
        (fun id => c.bindings.size ≤ id.index)).filter
        ((c.attach ⟨c.records.size⟩ (placedItems fields placed)).1.waitsOn ⟨c.records.size⟩ p) := by
    rw [List.filter_filter]
    refine List.filter_congr fun id hid => ?_
    cases hw : (c.attach ⟨c.records.size⟩ (placedItems fields placed)).1.waitsOn ⟨c.records.size⟩ p id
    · rfl
    · have hle := hi.le_of_mem_commitWaiting (List.mem_filter.mpr ⟨hid, hw⟩)
      simp [hle]
  rw [hfresh, hfit.fresh_ids]
  refine List.Pairwise.filter _ ?_
  rw [List.pairwise_map]
  exact List.pairwise_lt_range'

lemma bindingAim_commit (id : BindingId) (x : Binding)
    (h : (c.commit b name bases fields placed).1.binding? id = some x) :
    x.AimOk (c.commit b name bases fields placed).1 := by
  rcases binding?_commit_eq_some h with ⟨-, hx⟩ | ⟨-, hfresh⟩
  · exact (hi.bindingAim id x hx).commit
  · -- a new binding aims where its field was bound
    obtain ⟨ho, aim, hv, ha⟩ := hfit.fresh_aim hfresh
    unfold Binding.AimOk
    rw [ha]
    cases aim with
    | self => exact ho.symm
    | record t =>
      obtain ⟨rec, hr⟩ := Option.isSome_iff_exists.mp hv
      simp [FreshAim.toAim, record?_commit_of_lt (Catalog.record?_lt hr), hr]
    | forward p =>
      obtain ⟨ph, hph, hpb, hres⟩ := hv
      obtain ⟨ph', hph', hres', hb'⟩ := placeholder?_commit_of_eq b name bases fields placed hph
      exact ⟨ph', _, hph', hres'.trans hres, by rw [ho, record?_commit_self], (hb'.trans hpb).symm⟩

lemma bindingOwner_commit (id : BindingId) (x : Binding)
    (h : (c.commit b name bases fields placed).1.binding? id = some x) :
    ∃ rec, (c.commit b name bases fields placed).1.record? x.owner = some rec ∧
      ∃ pf ∈ rec.pointers, pf.binding = id := by
  rcases binding?_commit_eq_some h with ⟨-, hx⟩ | ⟨hle, hfresh⟩
  · obtain ⟨rec, hrec, hpf⟩ := hi.bindingOwner id x hx
    exact ⟨rec, by rw [record?_commit_of_lt (Catalog.record?_lt hrec)]; exact hrec, hpf⟩
  · -- a new binding belongs to a pointer field of the new record
    obtain ⟨ho, -⟩ := hfit.fresh_aim hfresh
    have hmem := hfit.mem_attachedIds hle (Option.isSome_iff_exists.mpr ⟨x, h⟩)
    rw [← Catalog.attach_ids] at hmem
    obtain ⟨pf, hpf, rfl⟩ := List.mem_map.mp hmem
    exact ⟨_, by rw [ho, record?_commit_self], pf, hpf, rfl⟩

lemma pointerBinding_commit (r : RecordId) (rec : Record)
    (h : (c.commit b name bases fields placed).1.record? r = some rec) :
    ∀ pf ∈ rec.pointers, ((c.commit b name bases fields placed).1.binding? pf.binding).isSome := by
  intro pf hpf
  rcases record?_commit_eq_some h with ⟨-, hrec⟩ | ⟨-, rfl⟩
  · have hsome := hi.pointerBinding r rec hrec pf hpf
    rwa [binding?_commit_of_lt (Catalog.isSome_binding?_iff.mp hsome)]
  · apply hfit.isSome_binding?_of_mem
    rw [← Catalog.attach_ids]
    exact List.mem_map_of_mem hpf

lemma resolved_commit (p : PlaceholderId) (ph : Placeholder) (r : RecordId)
    (h : (c.commit b name bases fields placed).1.placeholder? p = some ph)
    (hr : ph.resolved = some r) :
    ((c.commit b name bases fields placed).1.record? r).isSome ∧ ph.pending = [] := by
  rw [Catalog.placeholder?_commit] at h
  obtain ⟨ph₀, hph, rfl⟩ := Option.map_eq_some_iff.mp h
  obtain ⟨hrec, hnil⟩ := hi.resolved p ph₀ r hph hr
  refine ⟨by rwa [record?_commit_of_lt (Catalog.isSome_record?_iff.mp hrec)], ?_⟩
  -- no new binding aims at a resolved placeholder
  have hnone : c.commitWaiting fields placed p = [] := by
    refine List.eq_nil_iff_forall_not_mem.mpr fun id hid => ?_
    obtain ⟨hle, x, hx, ha⟩ := (hi.mem_commitWaiting hfit name bases p id).mp hid
    rcases binding?_commit_eq_some hx with ⟨hlt, -⟩ | ⟨-, hfresh⟩
    · omega
    · obtain ⟨-, aim, hv, hxa⟩ := hfit.fresh_aim hfresh
      rw [ha] at hxa
      cases aim with
      | forward q =>
        simp only [FreshAim.toAim, Aim.forward.injEq] at hxa
        subst hxa
        obtain ⟨ph₁, hph₁, -, hres₁⟩ := hv
        rw [hph, Option.some.injEq] at hph₁
        subst hph₁
        rw [hr] at hres₁
        cases hres₁
      | self => simp [FreshAim.toAim] at hxa
      | record t => simp [FreshAim.toAim] at hxa
  simp [hnil, hnone]

/-- **An open placeholder waits after a declaration** on the bindings it waited on, then on the
new bindings aiming at it: exactly the bindings aiming at it, in creation order. -/
lemma pendingInOrder_commit (p : PlaceholderId) (ph : Placeholder)
    (h : (c.commit b name bases fields placed).1.placeholder? p = some ph)
    (hr : ph.resolved = none) :
    InOrder BindingId.index ph.pending fun id =>
      ∃ x, (c.commit b name bases fields placed).1.binding? id = some x ∧ x.aim = .forward p := by
  rw [Catalog.placeholder?_commit] at h
  obtain ⟨ph₀, hph, rfl⟩ := Option.map_eq_some_iff.mp h
  have hold := hi.pending p ph₀ hph hr
  have hnew : InOrder BindingId.index (c.commitWaiting fields placed p) fun id =>
      c.bindings.size ≤ id.index ∧
        ∃ x, (c.commit b name bases fields placed).1.binding? id = some x ∧ x.aim = .forward p :=
    ⟨hi.commitWaiting_ordered hfit p, hi.mem_commitWaiting hfit name bases p⟩
  refine (hold.append hnew ?_).congr fun id => ?_
  · intro a ha a' ha'
    obtain ⟨x, hx, -⟩ := (hold.mem_iff a).mp ha
    have hlt := Catalog.binding?_lt hx
    have hle := ((hnew.mem_iff a').mp ha').1
    omega
  · -- split on whether the binding was there before the declaration
    by_cases hlt : id.index < c.bindings.size
    · rw [binding?_commit_of_lt hlt]
      constructor
      · rintro (h | ⟨hle, -⟩)
        · exact h
        · omega
      · exact Or.inl
    · constructor
      · rintro (⟨x, hx, -⟩ | ⟨-, h⟩)
        · exact absurd (Catalog.binding?_lt hx) hlt
        · exact h
      · exact fun h => Or.inr ⟨by omega, h⟩

end Inv

lemma placeholderBuilder_commit (hi : Inv c) (p : PlaceholderId) (ph : Placeholder)
    (h : (c.commit b name bases fields placed).1.placeholder? p = some ph) :
    ((c.commit b name bases fields placed).1.builder? ph.builder).isSome := by
  rw [Catalog.placeholder?_commit] at h
  obtain ⟨ph₀, hph, rfl⟩ := Option.map_eq_some_iff.mp h
  rw [isSome_builder?_commit]
  exact hi.placeholderBuilder p ph₀ hph

lemma recordBuilder_commit (hi : Inv c) (hb : (c.builder? b).isSome) (r : RecordId) (rec : Record)
    (h : (c.commit b name bases fields placed).1.record? r = some rec) :
    ((c.commit b name bases fields placed).1.builder? rec.builder).isSome := by
  rw [isSome_builder?_commit]
  rcases record?_commit_eq_some h with ⟨-, hrec⟩ | ⟨-, rfl⟩
  · exact hi.recordBuilder r rec hrec
  · exact hb

/-- The records of a builder before a declaration are earlier records. -/
lemma Inv.declared_lt (hi : Inv c) {b' : BuilderId} {r : RecordId} (h : r ∈ c.declared b') :
    r.index < c.records.size := by
  obtain ⟨rec, hrec, -⟩ := ((hi.declared b').mem_iff r).mp h
  exact Catalog.record?_lt hrec

/-- **A declaration lists its record last** in its builder. -/
lemma declared_commit_inOrder (hi : Inv c) (hb : (c.builder? b).isSome) (b' : BuilderId) :
    InOrder RecordId.index ((c.commit b name bases fields placed).1.declared b') fun r =>
      ∃ rec, (c.commit b name bases fields placed).1.record? r = some rec ∧ rec.builder = b' := by
  have hq : ∀ r, (∃ rec, (c.commit b name bases fields placed).1.record? r = some rec ∧
      rec.builder = b') ↔
      (∃ rec, c.record? r = some rec ∧ rec.builder = b') ∨ (r = ⟨c.records.size⟩ ∧ b = b') := by
    intro r
    constructor
    · rintro ⟨rec, h, hb'⟩
      rcases record?_commit_eq_some h with ⟨-, hrec⟩ | ⟨rfl, rfl⟩
      · exact Or.inl ⟨rec, hrec, hb'⟩
      · exact Or.inr ⟨rfl, hb'⟩
    · rintro (⟨rec, hrec, hb'⟩ | ⟨rfl, rfl⟩)
      · exact ⟨rec, by rw [record?_commit_of_lt (Catalog.record?_lt hrec)]; exact hrec, hb'⟩
      · exact ⟨_, record?_commit_self, rfl⟩
  rw [declared_commit hb]
  split
  · rename_i hbb
    refine ((hi.declared b').append (InOrder.singleton _)
      fun r hr r' hr' => ?_).congr fun r => ?_
    · rw [List.mem_singleton.mp hr']
      exact hi.declared_lt hr
    · rw [hq]
      simp [hbb]
  · rename_i hbb
    exact (hi.declared b').congr fun r => by rw [hq]; simp [hbb]

/-- **A declaration keeps the names of a builder's records distinct**, its name being new. -/
lemma names_commit (hi : Inv c) (hb : (c.builder? b).isSome)
    (hnew : ∀ r ∈ c.declared b, c.recordName r ≠ name) (b' : BuilderId) :
    (((c.commit b name bases fields placed).1.declared b').map
      (c.commit b name bases fields placed).1.recordName).Nodup := by
  have hold : ∀ b', (c.declared b').map (c.commit b name bases fields placed).1.recordName =
      (c.declared b').map c.recordName :=
    fun b' => List.map_congr_left fun r hr => recordName_commit_of_lt (hi.declared_lt hr)
  rw [declared_commit hb]
  split
  · rename_i hbb
    subst hbb
    rw [List.map_append, hold, List.map_singleton, recordName_commit_self]
    refine List.nodup_append.mpr ⟨hi.names b, by simp, fun n hn n' hn' => ?_⟩
    rw [List.mem_singleton.mp hn']
    obtain ⟨r, hr, rfl⟩ := List.mem_map.mp hn
    exact hnew r hr
  · rw [hold]
    exact hi.names b'

/-- **After a declaration a builder finds the new record by its name**, and every other record
as before. -/
lemma lookup_commit_iff (hi : Inv c) (hb : (c.builder? b).isSome)
    (hnew : ∀ r ∈ c.declared b, c.recordName r ≠ name) (b' : BuilderId) (n : String)
    (r : RecordId) :
    (c.commit b name bases fields placed).1.lookup b' n = some r ↔
      r ∈ (c.commit b name bases fields placed).1.declared b' ∧
        (c.commit b name bases fields placed).1.recordName r = n := by
  rw [lookup_commit hb, declared_commit hb]
  by_cases hbb : b = b'
  · subst hbb
    by_cases hn : n = name
    · -- the new name finds the new record only
      subst hn
      simp only [and_self, if_true, Option.some.injEq, List.mem_append, List.mem_singleton]
      constructor
      · rintro rfl
        exact ⟨Or.inr rfl, recordName_commit_self⟩
      · rintro ⟨hr | rfl, hname⟩
        · rw [recordName_commit_of_lt (hi.declared_lt hr)] at hname
          exact absurd hname (hnew r hr)
        · rfl
    · simp only [hn, and_false, if_false, if_true, hi.lookup, List.mem_append, List.mem_singleton]
      constructor
      · rintro ⟨hr, hname⟩
        exact ⟨Or.inl hr, by rw [recordName_commit_of_lt (hi.declared_lt hr)]; exact hname⟩
      · rintro ⟨hr | rfl, hname⟩
        · exact ⟨hr, by rwa [recordName_commit_of_lt (hi.declared_lt hr)] at hname⟩
        · rw [recordName_commit_self] at hname
          exact absurd hname.symm hn
  · simp only [hbb, false_and, if_false, hi.lookup]
    constructor
    · rintro ⟨hr, hname⟩
      exact ⟨hr, by rw [recordName_commit_of_lt (hi.declared_lt hr)]; exact hname⟩
    · rintro ⟨hr, hname⟩
      exact ⟨hr, by rwa [recordName_commit_of_lt (hi.declared_lt hr)] at hname⟩

lemma unresolved_commit (hi : Inv c) (b' : BuilderId) :
    InOrder PlaceholderId.index ((c.commit b name bases fields placed).1.pending b') fun p =>
      ∃ ph, (c.commit b name bases fields placed).1.placeholder? p = some ph ∧ ph.builder = b' ∧
        ph.resolved = none := by
  rw [pending_commit]
  refine (hi.unresolved b').congr fun p => ?_
  rw [Catalog.placeholder?_commit]
  cases c.placeholder? p <;> simp

/-- **A declaration keeps the invariant**, when its builder exists, its fields fit the catalog
and its name is new in the builder. -/
lemma inv_commit (hi : Inv c) (hb : (c.builder? b).isSome) (hfit : FieldsFit c b fields)
    (hnew : ∀ r ∈ c.declared b, c.recordName r ≠ name) :
    Inv (c.commit b name bases fields placed).1 where
  recordBuilder := recordBuilder_commit hi hb
  pointerBinding := hi.pointerBinding_commit hfit
  bindingOwner := hi.bindingOwner_commit hfit
  bindingAim := hi.bindingAim_commit hfit
  placeholderBuilder := placeholderBuilder_commit hi
  resolved := hi.resolved_commit hfit
  pending := hi.pendingInOrder_commit hfit
  declared := declared_commit_inOrder hi hb
  names := names_commit hi hb hnew
  lookup := lookup_commit_iff hi hb hnew
  unresolved := unresolved_commit hi

end Commit

/-- **A successful declaration keeps the invariant.** -/
lemma Inv.declare {c c' : Catalog} {b : BuilderId} {name : String}
    {bases : List (Option RecordId)} {decls : List Declaration} {r : RecordId} (hi : Inv c)
    (hb : (c.builder? b).isSome) (h : c.declare b name bases decls = .ok (c', r)) : Inv c' := by
  obtain ⟨inh, own, placed, -, hdup, -, hinh, hown, -, -, hc⟩ := Catalog.declare_eq_ok h
  -- the name is new: the builder would have found a record under it
  have hnew : ∀ r ∈ c.declared b, c.recordName r ≠ name := by
    intro r hr hname
    have hfound := (hi.lookup b name r).mpr ⟨hr, hname⟩
    simp [hfound] at hdup
  rw [show c' = (c.commit b name bases (inh ++ own) placed).1 from congrArg Prod.fst hc]
  exact inv_commit hi hb (hi.fieldsFit hinh hown) hnew

/-! ## A resolution -/

section Settle

variable {c : Catalog} {b : BuilderId} {q : PlaceholderId} {t : RecordId}

lemma declared_settle (b' : BuilderId) : (c.settle b q t).declared b' = c.declared b' := by
  simp only [Catalog.declared, Catalog.builder?_settle]
  split
  · cases c.builder? b' <;> rfl
  · rfl

lemma lookup_settle (b' : BuilderId) (n : String) : (c.settle b q t).lookup b' n = c.lookup b' n := by
  simp only [Catalog.lookup, Catalog.builder?_settle]
  split
  · cases c.builder? b' <;> rfl
  · rfl

lemma pending_settle (b' : BuilderId) :
    (c.settle b q t).pending b' = if b = b' then (c.pending b').erase q else c.pending b' := by
  simp only [Catalog.pending, Catalog.builder?_settle]
  split
  · cases c.builder? b' <;> rfl
  · rfl

lemma recordName_settle : (c.settle b q t).recordName = c.recordName := by
  funext r
  simp only [Catalog.recordName, Catalog.record?_settle]

lemma isSome_builder?_settle (b' : BuilderId) :
    ((c.settle b q t).builder? b').isSome = (c.builder? b').isSome := by
  rw [Catalog.builder?_settle]
  split <;> simp

lemma isSome_binding?_settle (id : BindingId) :
    ((c.settle b q t).binding? id).isSome = (c.binding? id).isSome := by
  rw [Catalog.binding?_settle]
  cases c.binding? id <;> rfl

/-- A binding after a resolution is the binding before, its aim moved to the record when it
waited on the placeholder. -/
lemma binding?_settle_eq_some {id : BindingId} {x : Binding}
    (h : (c.settle b q t).binding? id = some x) :
    ∃ x₀, c.binding? id = some x₀ ∧ x.owner = x₀.owner ∧
      x.aim = if id ∈ (c.placeholder? q).elim [] (·.pending) then .record t else x₀.aim := by
  rw [Catalog.binding?_settle] at h
  obtain ⟨x₀, hx₀, rfl⟩ := Option.map_eq_some_iff.mp h
  refine ⟨x₀, hx₀, ?_, ?_⟩ <;> split <;> rfl

namespace Inv

variable (hi : Inv c) {phq : Placeholder} (hq : c.placeholder? q = some phq)
include hi hq

lemma bindingAim_settle (hqres : phq.resolved = none) (ht : (c.record? t).isSome) (id : BindingId)
    (x : Binding) (h : (c.settle b q t).binding? id = some x) : x.AimOk (c.settle b q t) := by
  obtain ⟨x₀, hx₀, ho, ha⟩ := binding?_settle_eq_some h
  simp only [hq, Option.elim_some] at ha
  by_cases hw : id ∈ phq.pending
  · -- a waiting binding now aims at the record
    simp only [hw, if_true] at ha
    unfold Binding.AimOk
    rw [ha]
    simpa [Catalog.record?_settle] using ht
  · -- any other binding aims where it did, never at the placeholder being resolved
    simp only [hw, if_false] at ha
    have hok : x.AimOk c := by
      unfold Binding.AimOk
      rw [ha, ho]
      exact hi.bindingAim id x₀ hx₀
    refine hok.mono (fun r rec hr => by rw [Catalog.record?_settle]; exact hr) ?_
    intro p hp ph hph hres
    have hpq : q ≠ p := by
      rintro rfl
      exact hw (hi.mem_pending hx₀ (ha ▸ hp) hq hqres)
    exact ⟨ph, by rw [Catalog.placeholder?_settle, if_neg hpq, hph], hres, rfl⟩

lemma resolved_settle (ht : (c.record? t).isSome) (p : PlaceholderId) (ph : Placeholder)
    (r : RecordId) (h : (c.settle b q t).placeholder? p = some ph) (hr : ph.resolved = some r) :
    ((c.settle b q t).record? r).isSome ∧ ph.pending = [] := by
  rw [Catalog.record?_settle]
  rw [Catalog.placeholder?_settle] at h
  split at h
  · -- the placeholder just resolved
    rename_i hpq
    subst hpq
    rw [hq] at h
    cases h
    cases hr
    exact ⟨ht, rfl⟩
  · exact hi.resolved p ph r h hr

/-- **An open placeholder other than the resolved one waits as before**: the bindings that
moved aimed at the resolved placeholder, not at it. -/
lemma pendingInOrder_settle (hqres : phq.resolved = none) (p : PlaceholderId) (ph : Placeholder)
    (h : (c.settle b q t).placeholder? p = some ph) (hr : ph.resolved = none) :
    InOrder BindingId.index ph.pending fun id =>
      ∃ x, (c.settle b q t).binding? id = some x ∧ x.aim = .forward p := by
  rw [Catalog.placeholder?_settle] at h
  split at h
  · obtain ⟨ph₀, -, rfl⟩ := Option.map_eq_some_iff.mp h
    cases hr
  · rename_i hpq
    refine (hi.pending p ph h hr).congr fun id => ?_
    rw [Catalog.binding?_settle, hq, Option.elim_some]
    constructor
    · rintro ⟨x, hx, ha⟩
      refine ⟨_, by rw [hx]; rfl, ?_⟩
      -- a binding aiming at `p` does not wait on `q`
      have hnw : id ∉ phq.pending := by
        intro hw
        obtain ⟨x', hx', ha'⟩ := ((hi.pending q phq hq hqres).mem_iff id).mp hw
        rw [hx] at hx'
        cases hx'
        rw [ha] at ha'
        exact hpq (Aim.forward.inj ha').symm
      simp [hnw, ha]
    · rintro ⟨x, hx, ha⟩
      obtain ⟨x₀, hx₀, rfl⟩ := Option.map_eq_some_iff.mp hx
      split at ha
      · cases ha
      · exact ⟨x₀, hx₀, ha⟩

/-- **Resolving closes the placeholder** in its builder and nowhere else. -/
lemma unresolved_settle (hqb : phq.builder = b) (b' : BuilderId) :
    InOrder PlaceholderId.index ((c.settle b q t).pending b') fun p =>
      ∃ ph, (c.settle b q t).placeholder? p = some ph ∧ ph.builder = b' ∧ ph.resolved = none := by
  have hq' : ∀ p, (∃ ph, (c.settle b q t).placeholder? p = some ph ∧ ph.builder = b' ∧
      ph.resolved = none) ↔
      p ≠ q ∧ ∃ ph, c.placeholder? p = some ph ∧ ph.builder = b' ∧ ph.resolved = none := by
    intro p
    rw [Catalog.placeholder?_settle]
    by_cases hpq : q = p
    · subst hpq
      simp [hq]
    · simp [hpq, Ne.symm hpq]
  rw [pending_settle]
  split
  · exact ((hi.unresolved b').erase q).congr fun p => (hq' p).symm
  · rename_i hbb
    refine (hi.unresolved b').congr fun p => ?_
    rw [hq']
    constructor
    · intro hp
      refine ⟨?_, hp⟩
      rintro rfl
      obtain ⟨ph, hph, hb', -⟩ := hp
      rw [hq] at hph
      cases hph
      exact hbb (hqb.symm.trans hb')
    · exact fun hp => hp.2

/-- **A resolution keeps the invariant**: the waiting bindings move to the record, the
placeholder is marked resolved with nobody waiting, and its builder closes it. -/
lemma settle (hqres : phq.resolved = none) (hqb : phq.builder = b) (ht : (c.record? t).isSome) :
    Inv (c.settle b q t) where
  recordBuilder r rec h := by
    rw [isSome_builder?_settle]
    exact hi.recordBuilder r rec (by rwa [Catalog.record?_settle] at h)
  pointerBinding r rec h pf hpf := by
    rw [isSome_binding?_settle]
    exact hi.pointerBinding r rec (by rwa [Catalog.record?_settle] at h) pf hpf
  bindingOwner id x h := by
    obtain ⟨x₀, hx₀, ho, -⟩ := binding?_settle_eq_some h
    obtain ⟨rec, hrec, hpf⟩ := hi.bindingOwner id x₀ hx₀
    exact ⟨rec, by rw [Catalog.record?_settle, ho]; exact hrec, hpf⟩
  bindingAim := hi.bindingAim_settle hq hqres ht
  placeholderBuilder p ph h := by
    rw [isSome_builder?_settle]
    rw [Catalog.placeholder?_settle] at h
    split at h
    · obtain ⟨ph₀, hph, rfl⟩ := Option.map_eq_some_iff.mp h
      exact hi.placeholderBuilder p ph₀ hph
    · exact hi.placeholderBuilder p ph h
  resolved := hi.resolved_settle hq ht
  pending := hi.pendingInOrder_settle hq hqres
  declared b' := by
    simpa [declared_settle, Catalog.record?_settle] using hi.declared b'
  names b' := by
    simpa [declared_settle, recordName_settle] using hi.names b'
  lookup b' n r := by
    simpa [declared_settle, lookup_settle, recordName_settle] using hi.lookup b' n r
  unresolved := hi.unresolved_settle hq hqb

end Inv

end Settle

namespace Inv

variable {c c' : Catalog}

/-- **A successful resolution keeps the invariant.** -/
lemma resolve {b : BuilderId} {p : Option PlaceholderId} {r : Option RecordId} (hi : Inv c)
    (h : c.resolve b p r = .ok c') : Inv c' := by
  obtain ⟨q, ph, t, rec, -, -, hq, hb, hres, ht, rfl⟩ := Catalog.resolve_eq_ok h
  exact hi.settle hq hres hb (by simp [ht])

/-- **A successful declaration for a placeholder keeps the invariant**: the declaration keeps
it, and the placeholder is still open, in its builder, when it is resolved with the new
record. -/
lemma declareFor {b : BuilderId} {p : Option PlaceholderId} {name : String}
    {bases : List (Option RecordId)} {decls : List Declaration} {r : RecordId} (hi : Inv c)
    (hb : (c.builder? b).isSome) (h : c.declareFor b p name bases decls = .ok (c', r)) :
    Inv c' := by
  obtain ⟨q, ph, c₁, -, hq, hqb, hres, hdecl, rfl⟩ := Catalog.declareFor_eq_ok h
  obtain ⟨inh, own, placed, -, -, -, -, -, -, -, hc⟩ := Catalog.declare_eq_ok hdecl
  have hc₁ : c₁ = (c.commit b name bases (inh ++ own) placed).1 := congrArg Prod.fst hc
  have hr : r = ⟨c.records.size⟩ := congrArg Prod.snd hc
  obtain ⟨ph₁, hq₁, hres₁, hb₁⟩ := placeholder?_commit_of_eq b name bases (inh ++ own) placed hq
  subst hc₁ hr
  exact (hi.declare hb hdecl).settle hq₁ (hres₁.trans hres) (hb₁.trans hqb)
    (by rw [record?_commit_self]; rfl)

/-- **Every reachable catalog satisfies the invariant.** -/
lemma of_reachable {c : Catalog} (h : Reachable c) : Inv c := by
  induction h with
  | empty => exact inv_empty
  | newBuilder abi _ ih => exact inv_addBuilder abi ih
  | forward name _ hb ih => exact inv_forwardDeclare name ih hb
  | declare _ hb hd ih => exact ih.declare hb hd
  | declareFor _ hb hd ih => exact ih.declareFor hb hd
  | resolve _ hr ih => exact ih.resolve hr

end Inv

/-! ## The registry of every reachable catalog -/

/-- **What the builder interface promises** of a catalog, builder by builder. -/
structure Registry (c : Catalog) : Prop where
  /-- A builder lists exactly the records declared in it, in declaration order. -/
  records : ∀ b, InOrder RecordId.index (c.declared b) fun r =>
    ∃ rec, c.record? r = some rec ∧ rec.builder = b
  /-- The records of a builder have distinct names. -/
  names : ∀ b, ((c.declared b).map c.recordName).Nodup
  /-- A builder's lookup of a name answers its record of that name. -/
  lookup : ∀ b n r, c.lookup b n = some r ↔ r ∈ c.declared b ∧ c.recordName r = n
  /-- A builder lists exactly its placeholders not yet resolved, in creation order. -/
  pending : ∀ b, InOrder PlaceholderId.index (c.pending b) fun p =>
    ∃ ph, c.placeholder? p = some ph ∧ ph.builder = b ∧ ph.resolved = none
  /-- Finishing a builder succeeds exactly when all its placeholders are resolved. -/
  finish_ok : ∀ b, c.finish b = .ok () ↔
    ∀ p ph, c.placeholder? p = some ph → ph.builder = b → ph.resolved.isSome
  /-- Otherwise it fails naming the open placeholders, in creation order. -/
  finish_error : ∀ b e, c.finish b = .error e →
    e = Failure.danglingForward ((c.pending b).map c.placeholderName)
  /-- A resolved placeholder has nobody waiting. -/
  resolved_waiting : ∀ p ph r, c.placeholder? p = some ph → ph.resolved = some r →
    ph.pending = [] ∧ c.waiting ph = []
  /-- An open placeholder waits, once each and in creation order, on exactly the bindings that
  aim at it. -/
  open_waiting : ∀ p ph, c.placeholder? p = some ph → ph.resolved = none →
    InOrder BindingId.index ph.pending fun id => ∃ x, c.binding? id = some x ∧ x.aim = .forward p
  /-- Every binding belongs to a pointer field of the record that declared it. -/
  owner : ∀ id x, c.binding? id = some x →
    ∃ rec, c.record? x.owner = some rec ∧ ∃ pf ∈ rec.pointers, pf.binding = id
  /-- Every pointer field of a record aims at the record that declared it, at a record of the
  catalog, or at an open placeholder that waits on its binding. -/
  pointers : ∀ r rec, c.record? r = some rec → ∀ pf ∈ rec.pointers, ∃ x,
    c.binding? pf.binding = some x ∧
      (x.aim = .self x.owner ∨ (∃ t, x.aim = .record t ∧ (c.record? t).isSome) ∨
        ∃ p ph, x.aim = .forward p ∧ c.placeholder? p = some ph ∧ ph.resolved = none ∧
          pf.binding ∈ ph.pending)
  /-- Once a builder finishes, every pointer field of its records has a target, unless the
  field was inherited from a record of another builder whose placeholder is still open there. -/
  finished : ∀ b, c.finish b = .ok () → ∀ r rec, c.record? r = some rec → rec.builder = b →
    ∀ pf ∈ rec.pointers, ∃ x, c.binding? pf.binding = some x ∧
      ((∃ t, c.target x = .ok t ∧ (c.record? t).isSome) ∨
        ∃ p ph, x.aim = .forward p ∧ c.placeholder? p = some ph ∧ ph.resolved = none ∧
          ph.builder ≠ b ∧ x.owner ≠ r)

namespace Catalog

variable {c : Catalog}

lemma finish_eq_ok_iff {b : BuilderId} : c.finish b = .ok () ↔ c.pending b = [] := by
  unfold finish
  split
  · rename_i h
    simp [h]
  · rename_i h
    simpa using h

lemma finish_eq_error {b : BuilderId} {e : Failure} (h : c.finish b = .error e) :
    e = Failure.danglingForward ((c.pending b).map c.placeholderName) := by
  unfold finish at h
  split at h
  · cases h
  · cases h
    rfl

end Catalog

namespace Inv

variable {c : Catalog} (hi : Inv c)
include hi

/-- Finishing succeeds exactly when every placeholder of the builder is resolved. -/
lemma finish_ok (b : BuilderId) : c.finish b = .ok () ↔
    ∀ p ph, c.placeholder? p = some ph → ph.builder = b → ph.resolved.isSome := by
  rw [Catalog.finish_eq_ok_iff, List.eq_nil_iff_forall_not_mem]
  refine forall_congr' fun p => ?_
  rw [(hi.unresolved b).mem_iff]
  constructor
  · intro h ph hph hb
    cases hres : ph.resolved with
    | none => exact absurd ⟨ph, hph, hb, hres⟩ h
    | some r => rfl
  · rintro h ⟨ph, hph, hb, hres⟩
    simpa [hres] using h ph hph hb

/-- A pointer field's binding aims at the record that declared it, at a record, or at an open
placeholder that waits on it. -/
lemma pointer_aim {r : RecordId} {rec : Record} (h : c.record? r = some rec) {pf : PointerField}
    (hpf : pf ∈ rec.pointers) : ∃ x, c.binding? pf.binding = some x ∧
      (x.aim = .self x.owner ∨ (∃ t, x.aim = .record t ∧ (c.record? t).isSome) ∨
        ∃ p ph, x.aim = .forward p ∧ c.placeholder? p = some ph ∧ ph.resolved = none ∧
          pf.binding ∈ ph.pending) := by
  obtain ⟨x, hx⟩ := Option.isSome_iff_exists.mp (hi.pointerBinding r rec h pf hpf)
  refine ⟨x, hx, ?_⟩
  have hok := hi.bindingAim _ x hx
  unfold Binding.AimOk at hok
  cases ha : x.aim with
  | self o =>
    rw [ha] at hok
    exact Or.inl (by rw [hok])
  | record t =>
    rw [ha] at hok
    exact Or.inr (Or.inl ⟨t, rfl, hok⟩)
  | forward p =>
    rw [ha] at hok
    obtain ⟨ph, -, hph, hres, -⟩ := hok
    exact Or.inr (Or.inr ⟨p, ph, rfl, hph, hres, hi.mem_pending hx ha hph hres⟩)

/-- Once a builder finishes, only an inherited field can still aim at an open placeholder, one
of another builder. -/
lemma finished (b : BuilderId) (hfin : c.finish b = .ok ()) {r : RecordId} {rec : Record}
    (h : c.record? r = some rec) (hb : rec.builder = b) {pf : PointerField}
    (hpf : pf ∈ rec.pointers) : ∃ x, c.binding? pf.binding = some x ∧
      ((∃ t, c.target x = .ok t ∧ (c.record? t).isSome) ∨
        ∃ p ph, x.aim = .forward p ∧ c.placeholder? p = some ph ∧ ph.resolved = none ∧
          ph.builder ≠ b ∧ x.owner ≠ r) := by
  obtain ⟨x, hx, _⟩ := hi.pointer_aim h hpf
  refine ⟨x, hx, ?_⟩
  have hok := hi.bindingAim _ x hx
  unfold Binding.AimOk at hok
  cases ha : x.aim with
  | self o =>
    rw [ha] at hok
    -- a field aimed at its declaring record: the owner is a record of the catalog
    obtain ⟨orec, horec, -⟩ := hi.bindingOwner _ x hx
    refine Or.inl ⟨o, by simp [Catalog.target, ha], ?_⟩
    rw [hok, horec]
    rfl
  | record t =>
    rw [ha] at hok
    exact Or.inl ⟨t, by simp [Catalog.target, ha], hok⟩
  | forward p =>
    rw [ha] at hok
    obtain ⟨ph, orec, hph, hres, horec, hob⟩ := hok
    -- the placeholder is open, so it is not one of the finished builder's
    have hpb : ph.builder ≠ b := by
      intro hpb
      have hsome := (hi.finish_ok b).mp hfin p ph hph hpb
      rw [hres] at hsome
      cases hsome
    refine Or.inr ⟨p, ph, rfl, hph, hres, hpb, ?_⟩
    rintro hown
    rw [hown, h] at horec
    cases horec
    exact hpb (hob.symm.trans hb)

/-- The invariant gives the registry. -/
lemma registry : Registry c where
  records := hi.declared
  names := hi.names
  lookup := hi.lookup
  pending := hi.unresolved
  finish_ok := hi.finish_ok
  finish_error _ _ h := Catalog.finish_eq_error h
  resolved_waiting p ph r hph hr := by
    have hnil := (hi.resolved p ph r hph hr).2
    exact ⟨hnil, by simp [Catalog.waiting, hnil]⟩
  open_waiting := hi.pending
  owner := hi.bindingOwner
  pointers _ _ h _ hpf := hi.pointer_aim h hpf
  finished b hfin _ _ h hb _ hpf := hi.finished b hfin h hb hpf

end Inv

/-- **The registry holds after every sequence of calls of the builder interface.** -/
theorem registry_of_reachable {c : Catalog} (h : Reachable c) : Registry c :=
  (Inv.of_reachable h).registry

/-- The registry after a run through every kind of call: two forward declarations, `Node` and
`Tree`; a record `List` whose pointer fields wait on both; `Tree` declared for its placeholder,
with a pointer field to itself and one waiting on `Node`; a record `Node`; and the resolution of
`Node` with it. -/
theorem registry_of_reachable_run :
    Registry
      (((((((({} : Catalog).addBuilder Abi.native64).1.forwardDeclare ⟨0⟩ "Node").1.forwardDeclare
        ⟨0⟩ "Tree").1.declareRun ⟨0⟩ "List" []
          [.pointer "head" (.placeholder (some ⟨0⟩)), .pointer "tree" (.placeholder (some ⟨1⟩))]).2
        |>.declareForRun ⟨0⟩ (some ⟨1⟩) "Tree" []
          [.pointer "left" .self, .pointer "up" (.placeholder (some ⟨0⟩))]).2
        |>.declareRun ⟨0⟩ "Node" [] [.field "value" (.scalar .uint32)]).2
        |>.settle ⟨0⟩ ⟨0⟩ ⟨2⟩) :=
  registry_of_reachable
    (.resolve
      (.declare
        (.declareFor
          (.declare (.forward "Tree" (.forward "Node" (.newBuilder Abi.native64 .empty) rfl) rfl)
            rfl (Catalog.declare_of_declareRun rfl))
          rfl (Catalog.declareFor_of_declareForRun rfl))
        rfl (Catalog.declare_of_declareRun rfl))
      (Catalog.resolve_eq_settle rfl rfl))

end RecordLayout
