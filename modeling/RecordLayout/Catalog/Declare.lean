import RecordLayout.Catalog.Basic

/-!
# Declaring records

A record is declared from bases and field declarations.  Its fields are the fields of each
base in turn (pointer fields keep their bindings), then the declared fields.  A declaration
names either a storage type, optionally with a bit width, or a pointer target; a pointer field
is stored in a slot named after the field with a leading `_`.

Declaring checks, in this order, and stops at the first failure: the record has a name not yet
used in the builder; the builder's ABI is valid; every base is present and shares the ABI's
pointer size and alignment; each declaration in turn is well formed and its target can be
bound; no two fields answer to the same name; the layout can be placed.

The binding of a pointer field is made as the field is lowered, before the later checks run,
so a declaration that fails after lowering leaves bindings behind; nothing else changes before
the record is committed.

* `Catalog.declareRun` makes every effect of a declaration in that order and hands back the
  catalog as the call leaves it, also when it fails.  At commit the record enters the builder's
  table and its list of records, and each of its new forward bindings waits on its placeholder.
* `Catalog.declare` and `Catalog.declareFor` hand back the catalog of a call that succeeds, or
  its failure; `declareFor` declares a record for a placeholder and resolves the placeholder with
  it, and `Catalog.resolve` resolves a placeholder with a record declared earlier.
* `Catalog.finish` fails while a builder has placeholders open.
-/

namespace RecordLayout

/-- Where a declared pointer field points; a missing placeholder or record is `none`. -/
inductive Target where
  | self
  | placeholder (p : Option PlaceholderId)
  | record (r : Option RecordId)
  deriving DecidableEq, Repr, Inhabited

/-- A field declaration: a storage type (with a bit width for a bitfield) or a pointer target. -/
structure Declaration where
  name : String
  storage : Option Storage := none
  target : Option Target := none
  width : Int := 0
  bitfield : Bool := false
  deriving DecidableEq, Repr, Inhabited

namespace Declaration

/-- A full-width field. -/
def field (name : String) (t : Storage) : Declaration := { name, storage := some t }

/-- A bitfield of `width` bits. -/
def bits (name : String) (t : Storage) (width : Int) : Declaration :=
  { name, storage := some t, width, bitfield := true }

/-- A pointer field. -/
def pointer (name : String) (t : Target) : Declaration := { name, target := some t }

end Declaration

/-- The aim of a pointer field bound while its record is being declared. -/
inductive FreshAim where
  | self
  | record (r : RecordId)
  | forward (p : PlaceholderId)
  deriving DecidableEq, Repr, Inhabited

/-- The aim of a binding made now for the record `r`. -/
def FreshAim.toAim (r : RecordId) : FreshAim → Aim
  | .self => .self r
  | .record t => .record t
  | .forward p => .forward p

/-- How a field about to be placed is tied to a target, if it is a pointer field. -/
inductive Link where
  /-- A pointer field inherited from a base, with the base's binding. -/
  | inherited (b : BindingId)
  /-- A pointer field declared now, with the field's declared name. -/
  | fresh (field : String) (aim : FreshAim)
  deriving DecidableEq, Repr, Inhabited

/-- A field about to be placed. -/
structure FieldSpec where
  name : String
  storage : Storage
  width : Nat
  link : Option Link
  deriving DecidableEq, Repr, Inhabited

/-- What placement knows of a field about to be placed. -/
def FieldSpec.slot (f : FieldSpec) : Slot := ⟨f.name, f.storage.size, f.storage.align, f.width⟩

namespace Catalog

/-- Binds a pointer declaration of record `rec` in builder `b` to its target. -/
def bind (c : Catalog) (b : BuilderId) (rec field : String) : Target → Except Failure FreshAim
  | .self => .ok .self
  | .placeholder none => .error (Failure.invalidDeclaration rec [field] "nil placeholder")
  | .placeholder (some p) =>
    match c.placeholder? p with
    | none => .error (Failure.invalidDeclaration rec [field] "nil placeholder")
    | some ph =>
      if ph.builder ≠ b then
        .error { phase := .bind, kind := .unknownPlaceholder, record := rec, path := [field],
                 detail := "placeholder " ++ Text.quote ph.name ++ " belongs to another builder" }
      else match ph.resolved with
        | some r => .ok (.record r)
        | none => .ok (.forward p)
  | .record none => .error (Failure.invalidDeclaration rec [field] "nil target record")
  | .record (some r) =>
    if (c.record? r).isSome then .ok (.record r)
    else .error (Failure.invalidDeclaration rec [field] "nil target record")

/-- **Lowers one declaration** of record `rec` to a field about to be placed. -/
def lower (c : Catalog) (b : BuilderId) (abi : Abi) (rec : String) (d : Declaration) :
    Except Failure FieldSpec :=
  let path := [d.name]
  if d.name = "" then .error (Failure.invalidDeclaration rec [] "field without a name")
  else match d.storage, d.target with
  | none, none => .error (Failure.invalidDeclaration rec path
      "declaration has neither a storage type nor a pointer target")
  | some _, some _ => .error (Failure.invalidDeclaration rec path
      "declaration has both a storage type and a pointer target")
  | none, some t =>
    if d.bitfield ∨ d.width ≠ 0 then
      .error (Failure.invalidDeclaration rec path "pointer fields cannot carry a bit width")
    else match c.bind b rec d.name t with
      | .error e => .error e
      | .ok aim => .ok ⟨"_" ++ d.name, abi.slot, 0, some (.fresh d.name aim)⟩
  | some s, none =>
    if ¬d.bitfield ∧ d.width ≠ 0 then
      .error (Failure.invalidDeclaration rec path
        ("bit width " ++ toString d.width ++ " given for a full-width field"))
    else if s.kind = .pointer then
      .error (Failure.invalidDeclaration rec path "opaque pointer slots are declared with Ptr")
    else if ¬d.bitfield then .ok ⟨d.name, s, 0, none⟩
    else if ¬s.kind.isInteger then
      .error { phase := .declare, kind := .invalidDeclaration, record := rec, path,
               expected := "integer storage type",
               detail := "bit width " ++ toString d.width ++ " on " ++ s.name }
    else if d.width ≤ 0 ∨ d.width > s.bits then
      .error (Failure.invalidDeclaration rec path
        ("bit width " ++ toString d.width ++ " out of range 1.." ++ toString s.bits ++ " for " ++
          s.name))
    else .ok ⟨d.name, s, d.width.toNat, none⟩

/-- The fields a record takes over from its bases, pointer fields with their bindings; `i` is
the position of the first base in the list of bases. -/
def inherit (c : Catalog) (abi : Abi) (rec : String) (i : Nat) :
    List (Option RecordId) → Except Failure (List FieldSpec)
  | [] => .ok []
  | base :: rest =>
    match base.bind c.record? with
    | none => .error (Failure.invalidDeclaration rec [] ("base record " ++ toString i ++ " is nil"))
    | some br =>
      if !br.abi.compatible abi then
        .error (Failure.invalidDeclaration rec []
          ("base " ++ br.name ++ " uses ABI " ++ br.abi.name ++ ", builder uses " ++ abi.name))
      else
        let own := br.layout.fields.zipIdx.map fun (f, j) =>
          FieldSpec.mk f.name f.storage f.width
            ((br.pointers.find? (·.index == j)).map fun pf => .inherited pf.binding)
        match c.inherit abi rec (i + 1) rest with
        | .error e => .error e
        | .ok more => .ok (own ++ more)

/-- The field that an earlier field `j ≠ i` named `n` belongs to, in a table of names seen. -/
def clash (seen : List (String × Nat × String)) (i : Nat) (n : String) : Option String :=
  match seen.find? (·.1 == n) with
  | some (_, j, other) => if j ≠ i then some other else none
  | none => none

/-- Checks, field by field, that neither a field's name nor that name without a leading `_`
was taken by an earlier field. -/
def checkNamesFrom (rec : String) (seen : List (String × Nat × String)) (i : Nat) :
    List FieldSpec → Except Failure Unit
  | [] => .ok ()
  | f :: rest =>
    let collide := fun (other : String) => Except.error
      { phase := .declare, kind := .invalidDeclaration, record := rec, path := [f.name],
        detail := "field name collides with " ++ Text.quote other : Failure }
    match clash seen i f.name with
    | some other => collide other
    | none =>
      let seen := (f.name, i, f.name) :: seen
      let bare := stripSlotPrefix f.name
      match clash seen i bare with
      | some other => collide other
      | none => checkNamesFrom rec ((bare, i, f.name) :: seen) (i + 1) rest

/-- **No two fields answer to the same name.** -/
def checkNames (rec : String) (fields : List FieldSpec) : Except Failure Unit :=
  checkNamesFrom rec [] 0 fields

/-- Makes the binding of a field lowered for the record to be committed as `r`: a pointer field
declared now gets one, added after the bindings already there. -/
def makeBinding (c : Catalog) (r : RecordId) (f : FieldSpec) : Catalog :=
  match f.link with
  | some (.fresh field aim) => { c with bindings := c.bindings.push ⟨r, field, aim.toAim r⟩ }
  | _ => c

/-- **Lowers the declarations** of record `rec`, to be committed as `r`, one after another, and
makes the binding of each field as it is lowered.  The first failure stops the loop; the
bindings made before it stay. -/
def lowerAll (b : BuilderId) (abi : Abi) (rec : String) (r : RecordId) :
    List Declaration → Catalog → Except Failure (List FieldSpec) × Catalog
  | [], c => (.ok [], c)
  | d :: ds, c =>
    match c.lower b abi rec d with
    | .error e => (.error e, c)
    | .ok f =>
      match lowerAll b abi rec r ds (c.makeBinding r f) with
      | (.ok fs, c') => (.ok (f :: fs), c')
      | (.error e, c') => (.error e, c')

/-- The pointer fields of a record among its fields, each with its position and bit offset: an
inherited field keeps its base's binding, and the fields declared now take the bindings made
for them while lowering, numbered from `next` in field order. -/
def pointerFields (next : Nat) : List (FieldSpec × Nat × Nat) → List PointerField
  | [] => []
  | (f, i, off) :: rest =>
    match f.link with
    | none => pointerFields next rest
    | some (.inherited bd) => ⟨stripSlotPrefix f.name, f.name, i, off, bd⟩ :: pointerFields next rest
    | some (.fresh ..) =>
      ⟨stripSlotPrefix f.name, f.name, i, off, ⟨next⟩⟩ :: pointerFields (next + 1) rest

/-- Makes each new forward binding of a record wait on its placeholder. -/
def enqueue (c : Catalog) (r : RecordId) (pfs : List PointerField) : Catalog :=
  pfs.foldl (fun c pf =>
    match c.binding? pf.binding with
    | some { owner, aim := .forward p, .. } =>
      if owner = r then
        { c with placeholders := c.placeholders.modify p.index fun ph =>
            { ph with pending := ph.pending ++ [pf.binding] } }
      else c
    | _ => c) c

/-- The checks of a declaration made before its fields are lowered, and the fields it takes
over from its bases. -/
def precheck (c : Catalog) (b : BuilderId) (name : String) (bases : List (Option RecordId)) :
    Except Failure (List FieldSpec) := do
  if name = "" then throw (Failure.invalidDeclaration "" [] "record without a name")
  if (c.lookup b name).isSome then
    throw (Failure.invalidDeclaration name [] ("record " ++ Text.quote name ++ " already declared"))
  let abi := c.abiOf b
  abi.validate
  c.inherit abi name 0 bases

/-- **Declares a record** in builder `b`, making each effect when the call makes it: the checks
before lowering change nothing, lowering makes the bindings of the pointer fields declared now,
and only after the names are checked and the layout placed is the record committed.  Hands back
the record or the failure, with the catalog as the call leaves it. -/
def declareRun (c : Catalog) (b : BuilderId) (name : String) (bases : List (Option RecordId))
    (decls : List Declaration) : Except Failure RecordId × Catalog :=
  match c.precheck b name bases with
  | .error e => (.error e, c)
  | .ok inherited =>
    let abi := c.abiOf b
    let r : RecordId := ⟨c.records.size⟩
    match lowerAll b abi name r decls c with
    | (.error e, c₁) => (.error e, c₁)
    | (.ok own, c₁) =>
      let fields := inherited ++ own
      match checkNames name fields >>= fun _ => place (fields.map (·.slot)) with
      | .error e => (.error e, c₁)
      | .ok placed =>
        let pfs := pointerFields c.bindings.size
          (fields.zip (List.range fields.length |>.zip placed.offsets))
        let infos := (fields.zip placed.offsets).map fun (f, off) =>
          FieldInfo.mk f.name f.storage f.width off
        let record : Record :=
          { builder := b, layout := ⟨name, infos, placed.size, placed.align⟩,
            bases := bases.filterMap id, abi, pointers := pfs }
        let c₂ := { c₁ with records := c₁.records.push record }
        let c₂ := c₂.modifyBuilder b fun bl =>
          { bl with byName := (name, r) :: bl.byName, declared := bl.declared ++ [r] }
        (.ok r, c₂.enqueue r pfs)

/-- **Declares a record** in builder `b` and commits it: the catalog after the call and the
record, or the failure. -/
def declare (c : Catalog) (b : BuilderId) (name : String) (bases : List (Option RecordId))
    (decls : List Declaration) : Except Failure (Catalog × RecordId) :=
  match c.declareRun b name bases decls with
  | (.ok r, c') => .ok (c', r)
  | (.error e, _) => .error e

/-- The placeholder that builder `b` may resolve, or why it may not. -/
def checkResolvable (c : Catalog) (b : BuilderId) : Option PlaceholderId → Except Failure Placeholder
  | none => .error (Failure.nilPointer .resolve [] "placeholder")
  | some p =>
    match c.placeholder? p with
    | none => .error (Failure.nilPointer .resolve [] "placeholder")
    | some ph =>
      if ph.builder ≠ b then
        .error { phase := .resolve, kind := .unknownPlaceholder,
                 detail := "placeholder " ++ Text.quote ph.name ++ " belongs to another builder" }
      else match ph.resolved with
        | some r => .error (Failure.alreadyResolved ph.name (c.recordName r))
        | none => .ok ph

/-- Points every binding waiting on `p` at `r`, marks `p` resolved and closes it in `b`. -/
def settle (c : Catalog) (b : BuilderId) (p : PlaceholderId) (r : RecordId) : Catalog :=
  let waiting := (c.placeholder? p).elim [] (·.pending)
  let c := waiting.foldl (fun c bd =>
    { c with bindings := c.bindings.modify bd.index fun x => { x with aim := .record r } }) c
  let c := { c with placeholders := c.placeholders.modify p.index fun ph =>
    { ph with resolved := some r, pending := [] } }
  c.modifyBuilder b fun bl => { bl with unresolved := bl.unresolved.erase p }

/-- **Resolves a placeholder** of builder `b` with a record. -/
def resolve (c : Catalog) (b : BuilderId) (p : Option PlaceholderId) (r : Option RecordId) :
    Except Failure Catalog := do
  let ph ← c.checkResolvable b p
  match p, r.bind fun r => (c.record? r).map fun _ => r with
  | some p, some r => pure (c.settle b p r)
  | _, _ => throw (Failure.nilPointer .resolve [ph.name] "record")

/-- **Declares a record for a placeholder**, then resolves the placeholder with it; the placeholder
is checked before anything else.  Hands back the record or the failure, with the catalog as the
call leaves it. -/
def declareForRun (c : Catalog) (b : BuilderId) (p : Option PlaceholderId) (name : String)
    (bases : List (Option RecordId)) (decls : List Declaration) : Except Failure RecordId × Catalog :=
  match c.checkResolvable b p with
  | .error e => (.error e, c)
  | .ok _ =>
    match c.declareRun b name bases decls, p with
    | (.error e, c'), _ => (.error e, c')
    | (.ok r, c'), some p => (.ok r, c'.settle b p r)
    | (.ok r, c'), none => (.ok r, c')

/-- **Declares a record for a placeholder** and resolves the placeholder with it: the catalog
after the call and the record, or the failure. -/
def declareFor (c : Catalog) (b : BuilderId) (p : Option PlaceholderId) (name : String)
    (bases : List (Option RecordId)) (decls : List Declaration) :
    Except Failure (Catalog × RecordId) :=
  match c.declareForRun b p name bases decls with
  | (.ok r, c') => .ok (c', r)
  | (.error e, _) => .error e

/-- **Finishing** a builder fails while any of its placeholders is open. -/
def finish (c : Catalog) (b : BuilderId) : Except Failure Unit :=
  match c.pending b with
  | [] => .ok ()
  | ps => .error (Failure.danglingForward (ps.map c.placeholderName))

end Catalog

end RecordLayout
