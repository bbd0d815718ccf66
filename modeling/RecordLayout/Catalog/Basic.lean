import RecordLayout.Abi
import RecordLayout.Layout.Basic

/-!
# The catalog of records

Records are declared through *builders*; each builder has a target ABI, a table of its records
by name, the list of its records in declaration order, and the forward references
(*placeholders*) that are still open.

A pointer field is tied to its target through a **binding**.  A binding aims at a record, at
the record that declared the field (`self`), or at a placeholder that has not been resolved
yet.  A record that takes a base inherits the base's pointer fields *with their bindings*:
both records share one binding, so resolving a placeholder later is seen through every record
that holds the field.  This sharing, together with records that point at themselves, is why the
catalog keeps records, bindings and placeholders in arrays and refers to them by index.

* `Catalog.record?`, `Catalog.placeholder?`, `Catalog.binding?` look entries up; a missing
  index answers `none`, which the operations treat like an absent entry.
* `Catalog.target` answers the record a binding points at, or the failure of an unresolved
  forward reference; `Catalog.targetName` names the target in either case.
-/

namespace RecordLayout

/-- A builder, by the order of its creation. -/
structure BuilderId where
  index : Nat
  deriving DecidableEq, Repr, Inhabited, Hashable

/-- A placeholder, by the order of its creation. -/
structure PlaceholderId where
  index : Nat
  deriving DecidableEq, Repr, Inhabited, Hashable

/-- A binding, by the order of its creation. -/
structure BindingId where
  index : Nat
  deriving DecidableEq, Repr, Inhabited, Hashable

/-- What a pointer field points at. -/
inductive Aim where
  /-- A record named at declaration or reached by resolving a placeholder. -/
  | record (id : RecordId)
  /-- The record that declared the field. -/
  | self (id : RecordId)
  /-- A placeholder not resolved yet. -/
  | forward (p : PlaceholderId)
  deriving DecidableEq, Repr, Inhabited

/-- The name of an aim's kind. -/
def Aim.kindName : Aim → String
  | .record _ => "concrete"
  | .self _ => "self"
  | .forward _ => "forward"

/-- The tie between a pointer field and its target, shared by every record holding the field. -/
structure Binding where
  /-- The record that declared the field. -/
  owner : RecordId
  /-- The field's declared name. -/
  field : String
  aim : Aim
  deriving DecidableEq, Repr, Inhabited

/-- A pointer field of a record. -/
structure PointerField where
  /-- The declared name (the physical name without its leading `_`). -/
  name : String
  /-- The physical name of the slot. -/
  slot : String
  /-- The position of the slot among the record's fields. -/
  index : Nat
  /-- The bit offset of the slot. -/
  offset : Nat
  binding : BindingId
  deriving DecidableEq, Repr, Inhabited

/-- A declared record. -/
structure Record where
  builder : BuilderId
  layout : Layout
  bases : List RecordId
  abi : Abi
  pointers : List PointerField
  deriving Repr, Inhabited

namespace Record

/-- The record's name. -/
def name (r : Record) : String := r.layout.name

/-- The record's size in bytes. -/
def size (r : Record) : Nat := r.layout.size

/-- The record's alignment in bytes. -/
def align (r : Record) : Nat := r.layout.align

/-- The storage type of this record held by value elsewhere. -/
def storage (r : Record) (id : RecordId) : Storage := .record id r.name r.size r.align

end Record

/-- A forward reference to a record declared later. -/
structure Placeholder where
  builder : BuilderId
  name : String
  resolved : Option RecordId
  /-- Bindings waiting for this placeholder, in the order they were made. -/
  pending : List BindingId
  deriving DecidableEq, Repr, Inhabited

/-- The text of a placeholder: its name and whether it is resolved. -/
def Placeholder.render (p : Placeholder) : String :=
  p.name ++ (if p.resolved.isSome then " (resolved)" else " (forward)")

/-- A builder: target ABI, its records by name and in order, and its open placeholders. -/
structure Builder where
  abi : Abi
  byName : List (String × RecordId) := []
  declared : List RecordId := []
  unresolved : List PlaceholderId := []
  deriving Repr, Inhabited

/-- All builders, records, placeholders and bindings made so far. -/
structure Catalog where
  builders : Array Builder := #[]
  records : Array Record := #[]
  placeholders : Array Placeholder := #[]
  bindings : Array Binding := #[]
  deriving Inhabited

namespace Catalog

/-- The builder with an id. -/
def builder? (c : Catalog) (b : BuilderId) : Option Builder := c.builders[b.index]?

/-- The record with an id. -/
def record? (c : Catalog) (r : RecordId) : Option Record := c.records[r.index]?

/-- The placeholder with an id. -/
def placeholder? (c : Catalog) (p : PlaceholderId) : Option Placeholder := c.placeholders[p.index]?

/-- The binding with an id. -/
def binding? (c : Catalog) (b : BindingId) : Option Binding := c.bindings[b.index]?

/-- The name of a record, empty for a missing one. -/
def recordName (c : Catalog) (r : RecordId) : String :=
  (c.record? r).elim "" (·.name)

/-- The name of a placeholder, empty for a missing one. -/
def placeholderName (c : Catalog) (p : PlaceholderId) : String :=
  (c.placeholder? p).elim "" (·.name)

/-- A new builder with an ABI. -/
def addBuilder (c : Catalog) (abi : Abi) : Catalog × BuilderId :=
  ({ c with builders := c.builders.push { abi } }, ⟨c.builders.size⟩)

/-- Changes one builder. -/
def modifyBuilder (c : Catalog) (b : BuilderId) (f : Builder → Builder) : Catalog :=
  { c with builders := c.builders.modify b.index f }

/-- **A forward reference** to a record named `name`, open in builder `b`. -/
def forwardDeclare (c : Catalog) (b : BuilderId) (name : String) : Catalog × PlaceholderId :=
  let p : PlaceholderId := ⟨c.placeholders.size⟩
  let c := { c with placeholders := c.placeholders.push ⟨b, name, none, []⟩ }
  (c.modifyBuilder b fun bl => { bl with unresolved := bl.unresolved ++ [p] }, p)

/-- The record a builder holds under a name. -/
def lookup (c : Catalog) (b : BuilderId) (name : String) : Option RecordId :=
  (c.builder? b).bind fun bl => bl.byName.lookup name

/-- The records of a builder in declaration order. -/
def declared (c : Catalog) (b : BuilderId) : List RecordId :=
  (c.builder? b).elim [] (·.declared)

/-- The open placeholders of a builder, in the order they were made. -/
def pending (c : Catalog) (b : BuilderId) : List PlaceholderId :=
  (c.builder? b).elim [] (·.unresolved)

/-- The ABI of a builder. -/
def abiOf (c : Catalog) (b : BuilderId) : Abi :=
  (c.builder? b).elim Abi.native64 (·.abi)

/-- **The target of a binding**, or the failure of a forward reference not yet resolved. -/
def target (c : Catalog) (bd : Binding) : Except Failure RecordId :=
  match bd.aim with
  | .record r | .self r => .ok r
  | .forward p => .error (Failure.unresolvedTarget (c.recordName bd.owner) bd.field
      (c.placeholderName p))

/-- The name of a binding's target: the record's name, or the placeholder's while open. -/
def targetName (c : Catalog) (bd : Binding) : String :=
  match bd.aim with
  | .record r | .self r => c.recordName r
  | .forward p => c.placeholderName p

/-- The fields waiting for a placeholder, as `Owner.field`. -/
def waiting (c : Catalog) (p : Placeholder) : List String :=
  p.pending.filterMap fun b => (c.binding? b).map fun bd => c.recordName bd.owner ++ "." ++ bd.field

/-- **The pointer field** a name finds in a record: the name must find a field of the layout,
and that field must be a pointer slot. -/
def pointerField (c : Catalog) (r : RecordId) (name : String) : Except Failure PointerField :=
  match c.record? r with
  | none => .error (Failure.fieldNotFound .access "" name)
  | some rec =>
    match rec.layout.find? name with
    | some (i, _) =>
      match rec.pointers.find? (·.index == i) with
      | some pf => .ok pf
      | none => .error (Failure.fieldNotFound .access rec.name name)
    | none => .error (Failure.fieldNotFound .access rec.name name)

end Catalog

end RecordLayout
