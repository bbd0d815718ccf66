import RecordLayout.Catalog.Declare
import RecordLayout.Catalog.Report
import RecordLayout.Render.Enum
import RecordLayout.Render.Flags
import RecordLayout.Render.Dump
import RecordLayout.Wit.Canonical

/-!
# Scripted sessions

A session drives the library through a script of steps that name builders, placeholders,
records, memories and views by handles.  It starts with one builder, `b`, for the script's ABI.

* A record that a step uses (to describe, place, project or follow) is found by name among all
  records the session declared, the latest declaration of a name winning, and failing that in
  the step's builder.  A record that a declaration or a resolution names is found in the step's
  builder first, and failing that among all records of the session.
* A view handle `zero` always stands for the view with neither record nor memory; a missing
  handle (`none`) stands for no view at all.
* A step that fails leaves the session as it was, with one exception: a `wit` step projects its
  records in turn, and keeps the projections made before a name it cannot find.  A handle that
  names nothing is bad input.

`Session.run` carries out one step: it answers a `Reply` or the error of the step, and the
session after it.
-/

namespace RecordLayout

/-- Why a step could not be carried out: a failure of the library, or a step that names
something the session does not have. -/
inductive StepError where
  | failure (f : Failure)
  | badInput (message : String)

/-- The storage type of a field declaration: a scalar or record name, or the type of a field
of an existing record. -/
inductive TypeRef where
  | named (name : String)
  | slotOf (record field : String)

/-- The pointer target of a field declaration. -/
inductive PointerRef where
  | self
  | named (name : String)
  | placeholder (id : Option String)
  | record (name : Option String)

/-- A field declaration of a step. -/
structure FieldDecl where
  name : String
  type : Option TypeRef := none
  pointer : Option PointerRef := none
  bits : Option Int := none
  width : Option Int := none

/-- What an offset is asked of: a record by name, or the record of a view. -/
inductive OffsetSubject where
  | record (name : Option String)
  | view (id : Option String)

/-- One step of a script. -/
inductive Step where
  | builder (id : String) (abi : Abi)
  | forward (b name id : String)
  | declare (b name : String) (bases : List (Option String)) (fields : List FieldDecl)
      (target : Option (Option String))
  | resolve (b : String) (placeholder record : Option String)
  | finish (b : String)
  | pending (b : String)
  | placeholder (id : String)
  | lookup (b name : String)
  | records (b : String)
  | describe (b record : String)
  | pointerInfo (b record field : String)
  | offsetOf (b : String) (subject : OffsetSubject) (field : String) (bytes : Bool)
  | memory (id : String) (pages : Nat)
  | alloc (mem : String) (size align : Nat)
  | free (mem : String) (ptr size align : Nat)
  | memInfo (mem : String)
  | memRead (mem : String) (offset len : Nat)
  | memWrite (mem : String) (offset : Nat) (data : List UInt8)
  | memReadUnsigned (mem : String) (offset width : Nat)
  | memWriteUnsigned (mem : String) (offset width value : Nat)
  | place (b record : String) (mem : Option String) (addr : Nat) (id : String)
  | create (b record mem id : String)
  | getUnsigned (view : Option String) (field : String)
  | getSigned (view : Option String) (field : String)
  | setUnsigned (view : Option String) (field : String) (value : Nat)
  | setSigned (view : Option String) (field : String) (value : Int)
  | getBool (view : Option String) (field : String)
  | setBool (view : Option String) (field : String) (value : Bool)
  | getFloat (view : Option String) (field : String)
  | setFloat (view : Option String) (field : String) (bits : Nat)
  | field (view : Option String) (field : String) (as : Option String)
  | getPointer (view : Option String) (field : String) (as : Option String)
  | setPointer (view : Option String) (field : String) (value : Option String)
  | pointerGet (b record field : String) (view : Option String) (as : Option String)
  | pointerSet (b record field : String) (view value : Option String)
  | bytes (view : Option String)
  | zero (view : Option String)
  | sameAddress (view other : Option String)
  | dump (view : Option String)
  | flags (view : Option String)
  | enumField (view : Option String) (field enum : String) (entries : List EnumEntry)
  | wit (b : String) (records : List String) (fresh : Bool)

/-- The answer to a step. -/
inductive Reply where
  | abi (a : Abi)
  | forwarded (name text : String)
  | record (r : RecordReport)
  | ok
  | pending (items : List (String × List String × String))
  | placeholder (name : String) (waiting : List String) (text : String) (resolved : Option String)
  | found (size : Option Nat)
  | names (records : List String)
  | pointer (p : PointerReport)
  | bits (n : Nat)
  | bytes (n : Nat)
  | memory (size used : Nat)
  | allocated (addr used size : Nat)
  | used (n : Nat)
  | hex (data : List UInt8)
  | value (text : String)
  | truth (b : Bool)
  | view (record : String) (addr : Nat)
  | null
  | wit (results : List Wit.Outcome) (render : String)

/-- The state of a session: the library's catalog and heap, and the handles of the script. -/
structure Session where
  catalog : Catalog := {}
  heap : Heap := {}
  builders : List (String × BuilderId) := []
  placeholders : List (String × PlaceholderId) := []
  records : List (String × RecordId) := []
  memories : List (String × MemoryId) := []
  views : List (String × Option View) := []
  projector : Wit.Projector := {}

namespace Session

/-- A session with builder `b` for an ABI. -/
def start (abi : Abi) : Session :=
  let (c, b) := ({} : Catalog).addBuilder abi
  { catalog := c, builders := [("b", b)] }

/-- A library failure as a step error. -/
def lift {α : Type} (r : Except Failure α) : Except StepError α := r.mapError .failure

/-- Bad input. -/
def bad {α : Type} (msg : String) : Except StepError α := .error (.badInput msg)

/-- The builder a handle names. -/
def builder (s : Session) (b : String) : Except StepError BuilderId :=
  match s.builders.lookup b with
  | some id => .ok id
  | none => bad ("unknown builder " ++ Text.quote b)

/-- The record a step uses under a name: the latest the session declared under it, else the
builder's. -/
def record (s : Session) (b : BuilderId) (name : String) : Except StepError RecordId :=
  match s.records.lookup name with
  | some r => .ok r
  | none =>
    match s.catalog.lookup b name with
    | some r => .ok r
    | none => bad ("unknown record " ++ Text.quote name)

/-- The record a declaration names: the builder's own first, else the latest the session
declared under the name. -/
def recordIn (s : Session) (b : BuilderId) (name : String) : Except StepError RecordId :=
  match s.catalog.lookup b name with
  | some r => .ok r
  | none =>
    match s.records.lookup name with
    | some r => .ok r
    | none => bad ("unknown record " ++ Text.quote name)

/-- A record a declaration names, or no record. -/
def recordInOrNone (s : Session) (b : BuilderId) : Option String → Except StepError (Option RecordId)
  | none => .ok none
  | some n => (s.recordIn b n).map some

/-- A placeholder by handle, or no placeholder. -/
def placeholderOrNone (s : Session) : Option String → Except StepError (Option PlaceholderId)
  | none => .ok none
  | some id =>
    match s.placeholders.lookup id with
    | some p => .ok (some p)
    | none => bad ("unknown placeholder " ++ Text.quote id)

/-- The memory a handle names. -/
def memory (s : Session) (m : String) : Except StepError (MemoryId × Memory) :=
  match s.memories.lookup m with
  | some id =>
    match s.heap.get? id with
    | some mem => .ok (id, mem)
    | none => bad ("unknown memory " ++ Text.quote m)
  | none => bad ("unknown memory " ++ Text.quote m)

/-- The view a handle names: `zero` is the empty view, a missing handle no view. -/
def view (s : Session) : Option String → Except StepError (Option View)
  | none => .ok none
  | some "zero" => .ok (some View.empty)
  | some id =>
    match s.views.lookup id with
    | some v => .ok v
    | none => bad ("unknown instance " ++ Text.quote id)

/-- The view a handle names, with no view standing as the empty one. -/
def view! (s : Session) (id : Option String) : Except StepError View :=
  (s.view id).map (·.getD View.empty)

/-- Stores a view under a handle, if one is given. -/
def keep (s : Session) (as : Option String) (v : Option View) : Session :=
  match as with
  | some n => { s with views := (n, v) :: s.views }
  | none => s

/-- Stores a followed pointer under a handle; a null pointer leaves the handle as it was. -/
def keepFound (s : Session) (as : Option String) : Option View → Session
  | some v => s.keep as (some v)
  | none => s

/-- The storage type a field declaration names. -/
def storageOf (s : Session) (b : BuilderId) : TypeRef → Except StepError Storage
  | .named n =>
    match Scalar.named? n with
    | some sc => .ok (.scalar sc)
    | none =>
      match s.recordIn b n with
      | .ok r =>
        match s.catalog.record? r with
        | some rec => .ok (rec.storage r)
        | none => bad ("unknown type " ++ Text.quote n)
      | .error _ => bad ("unknown type " ++ Text.quote n)
  | .slotOf recName fieldName => do
    let r ← s.recordIn b recName
    match (s.catalog.record? r).bind fun rec => rec.layout.fields.find? (·.name == fieldName) with
    | some f => .ok f.storage
    | none => bad ("unknown field " ++ Text.quote fieldName)

/-- The pointer target a field declaration names. -/
def targetOf (s : Session) (b : BuilderId) : PointerRef → Except StepError Target
  | .self => .ok .self
  | .named n => (s.recordIn b n).map fun r => .record (some r)
  | .placeholder id => (s.placeholderOrNone id).map .placeholder
  | .record n => (s.recordInOrNone b n).map .record

/-- The library declaration of a step's field declaration. -/
def declaration (s : Session) (b : BuilderId) (d : FieldDecl) : Except StepError Declaration := do
  let storage ← match d.type with
    | none => pure none
    | some t => (s.storageOf b t).map some
  let target ← match d.pointer with
    | none => pure none
    | some p => (s.targetOf b p).map some
  let width := (d.width.orElse fun _ => d.bits).getD 0
  pure { name := d.name, storage, target, width, bitfield := d.bits.isSome }

/-- The report on a record of the catalog. -/
def reportOn (s : Session) (r : RecordId) : Except StepError RecordReport :=
  match s.catalog.record? r with
  | some rec => .ok (s.catalog.report rec)
  | none => bad "unknown record"

/-- The name of a view's record. -/
def viewReply (s : Session) (v : View) : Reply :=
  .view ((v.record.map s.catalog.recordName).getD "") v.addr

/-- Projects named records in turn with projector `p`.  Answers the projector, the outcome of
each record projected, and the error of the first name that finds no record, which stops the
projection. -/
def projectNamed (s : Session) (b : BuilderId) :
    Wit.Projector → List String → Wit.Projector × List Wit.Outcome × Option StepError
  | p, [] => (p, [], none)
  | p, n :: rest =>
    match s.record b n with
    | .error e => (p, [], some e)
    | .ok r =>
      let (p, outcomes) := Wit.projectEach s.catalog p [r]
      let (p, more, stop) := s.projectNamed b p rest
      (p, outcomes ++ more, stop)

/-- A `wit` step: projects the named records with the session's projector (a new one when
`fresh`), which keeps what it projected even when a name stops the step. -/
def projectStep (s : Session) (bn : String) (names : List String) (fresh : Bool) :
    Session × Except StepError Reply :=
  match s.builder bn with
  | .error e => (s, .error e)
  | .ok b =>
    let (p, results, stop) := s.projectNamed b (if fresh then {} else s.projector) names
    let s := { s with projector := p }
    match stop with
    | some e => (s, .error e)
    | none => (s, .ok (.wit results (Wit.render p.defs)))

/-- Carries out one step that either completes or fails with no effect on the session. -/
def attempt (s : Session) : Step → Except StepError (Session × Reply)
  | .builder id abi =>
    let (c, b) := s.catalog.addBuilder abi
    .ok ({ s with catalog := c, builders := (id, b) :: s.builders }, .abi abi)
  | .forward bn name id => do
    let b ← s.builder bn
    let (c, p) := s.catalog.forwardDeclare b name
    let text := (c.placeholder? p).elim "" (·.render)
    pure ({ s with catalog := c, placeholders := (id, p) :: s.placeholders }, .forwarded name text)
  | .declare bn name bases fields target => do
    let b ← s.builder bn
    let bases ← bases.mapM (s.recordInOrNone b)
    let decls ← fields.mapM (s.declaration b)
    let (c, r) ← match target with
      | none => lift (s.catalog.declare b name bases decls)
      | some p => do
        let p ← s.placeholderOrNone p
        lift (s.catalog.declareFor b p name bases decls)
    let s := { s with catalog := c, records := (name, r) :: s.records }
    let rep ← s.reportOn r
    pure (s, .record rep)
  | .resolve bn p r => do
    let b ← s.builder bn
    let p ← s.placeholderOrNone p
    let r ← s.recordInOrNone b r
    let c ← lift (s.catalog.resolve b p r)
    pure ({ s with catalog := c }, .ok)
  | .finish bn => do
    let b ← s.builder bn
    lift (s.catalog.finish b)
    pure (s, .ok)
  | .pending bn => do
    let b ← s.builder bn
    let items := (s.catalog.pending b).filterMap fun p =>
      (s.catalog.placeholder? p).map fun ph => (ph.name, s.catalog.waiting ph, ph.render)
    pure (s, .pending items)
  | .placeholder id => do
    match s.placeholders.lookup id with
    | none => bad ("unknown placeholder " ++ Text.quote id)
    | some p =>
      match s.catalog.placeholder? p with
      | none => bad ("unknown placeholder " ++ Text.quote id)
      | some ph =>
        pure (s, .placeholder ph.name (s.catalog.waiting ph) ph.render
          (ph.resolved.map s.catalog.recordName))
  | .lookup bn name => do
    let b ← s.builder bn
    pure (s, .found ((s.catalog.lookup b name).map fun r =>
      (s.catalog.record? r).elim 0 (·.size)))
  | .records bn => do
    let b ← s.builder bn
    pure (s, .names ((s.catalog.declared b).map s.catalog.recordName))
  | .describe bn name => do
    let b ← s.builder bn
    let r ← s.record b name
    let rep ← s.reportOn r
    pure (s, .record rep)
  | .pointerInfo bn name field => do
    let b ← s.builder bn
    let r ← s.record b name
    let pf ← lift (s.catalog.pointerField r field)
    pure (s, .pointer (s.catalog.pointerReport pf))
  | .offsetOf bn subject field bytes => do
    let b ← s.builder bn
    let r ← match subject with
      | .record n => n.mapM (s.record b)
      | .view id => (s.view id).map fun v => v.bind (·.record)
    let l := r.bind fun r => (s.catalog.record? r).map (·.layout)
    if bytes then
      let n ← lift (Catalog.byteOffsetOf l field)
      pure (s, .bytes n)
    else
      let n ← lift (Catalog.offsetOf l field)
      pure (s, .bits n)
  | .memory id pages => do
    let m ← lift (Memory.create pages)
    let (h, mid) := s.heap.add m
    pure ({ s with heap := h, memories := (id, mid) :: s.memories }, .memory m.size m.next)
  | .alloc mn size align => do
    let (mid, m) ← s.memory mn
    let (addr, m) ← lift (m.alloc size align)
    pure ({ s with heap := s.heap.set mid m }, .allocated addr m.next m.size)
  | .free mn ptr size _ => do
    let (mid, m) ← s.memory mn
    let m := m.free ptr size
    pure ({ s with heap := s.heap.set mid m }, .used m.next)
  | .memInfo mn => do
    let (_, m) ← s.memory mn
    pure (s, .memory m.size m.next)
  | .memRead mn offset len => do
    let (_, m) ← s.memory mn
    let data ← lift (m.read offset len)
    pure (s, .hex data)
  | .memWrite mn offset data => do
    let (mid, m) ← s.memory mn
    let m ← lift (m.write offset data)
    pure ({ s with heap := s.heap.set mid m }, .ok)
  | .memReadUnsigned mn offset width => do
    let (_, m) ← s.memory mn
    let v ← lift (m.readLE offset (width / 8))
    pure (s, .value (toString v))
  | .memWriteUnsigned mn offset width value => do
    let (mid, m) ← s.memory mn
    let m ← lift (m.writeLE offset (width / 8) value)
    pure ({ s with heap := s.heap.set mid m }, .ok)
  | .place bn name mem addr id => do
    let b ← s.builder bn
    let r ← s.record b name
    let mid ← match mem with
      | none => pure none
      | some mn => (s.memory mn).map fun (mid, _) => some mid
    let v : View := ⟨some r, mid, addr⟩
    pure (s.keep (some id) (some v), s.viewReply v)
  | .create bn name mn id => do
    let b ← s.builder bn
    let r ← s.record b name
    let (mid, m) ← s.memory mn
    let rec ← match s.catalog.record? r with
      | some rec => pure rec
      | none => bad ("unknown record " ++ Text.quote name)
    let (addr, m) ← lift (m.alloc rec.size rec.align)
    let v : View := ⟨some r, some mid, addr⟩
    pure (({ s with heap := s.heap.set mid m }).keep (some id) (some v), s.viewReply v)
  | .getUnsigned id field => do
    let v ← s.view! id
    let x ← lift (v.getUnsigned s.catalog s.heap field)
    pure (s, .value (toString x))
  | .getSigned id field => do
    let v ← s.view! id
    let x ← lift (v.getSigned s.catalog s.heap field)
    pure (s, .value (toString x))
  | .setUnsigned id field value => do
    let v ← s.view! id
    let h ← lift (v.setUnsigned s.catalog s.heap field value)
    pure ({ s with heap := h }, .ok)
  | .setSigned id field value => do
    let v ← s.view! id
    let h ← lift (v.setSigned s.catalog s.heap field value)
    pure ({ s with heap := h }, .ok)
  | .getBool id field => do
    let v ← s.view! id
    let x ← lift (v.getBool s.catalog s.heap field)
    pure (s, .truth x)
  | .setBool id field value => do
    let v ← s.view! id
    let h ← lift (v.setBool s.catalog s.heap field value)
    pure ({ s with heap := h }, .ok)
  | .getFloat id field => do
    let v ← s.view! id
    let x ← lift (v.getFloat s.catalog s.heap field)
    pure (s, .value (Decimal.Style.standard.render .binary64 x))
  | .setFloat id field bits => do
    let v ← s.view! id
    let h ← lift (v.setFloat s.catalog s.heap field bits)
    pure ({ s with heap := h }, .ok)
  | .field id field as => do
    let v ← s.view! id
    let w ← lift (v.field s.catalog s.heap field)
    pure (s.keep as (some w), s.viewReply w)
  | .getPointer id field as => do
    let v ← s.view! id
    let w ← lift (v.pointer s.catalog s.heap field)
    pure (s.keepFound as w, w.elim .null s.viewReply)
  | .setPointer id field value => do
    let v ← s.view! id
    let w ← s.view value
    let h ← lift (v.setPointer s.catalog s.heap field w)
    pure ({ s with heap := h }, .ok)
  | .pointerGet bn name field id as => do
    let b ← s.builder bn
    let r ← s.record b name
    let pf ← lift (s.catalog.pointerField r field)
    let v ← s.view id
    let w ← lift (PointerField.get s.catalog s.heap r pf v)
    pure (s.keepFound as w, w.elim .null s.viewReply)
  | .pointerSet bn name field id value => do
    let b ← s.builder bn
    let r ← s.record b name
    let pf ← lift (s.catalog.pointerField r field)
    let v ← s.view id
    let w ← s.view value
    let h ← lift (PointerField.set s.catalog s.heap r pf v w)
    pure ({ s with heap := h }, .ok)
  | .bytes id => do
    let v ← s.view! id
    let data ← lift (v.bytes s.catalog s.heap)
    pure (s, .hex data)
  | .zero id => do
    let v ← s.view! id
    let h ← lift (v.clear s.catalog s.heap)
    pure ({ s with heap := h }, .ok)
  | .sameAddress a b => do
    let va ← s.view a
    let vb ← s.view b
    pure (s, .truth (View.sameAddress va vb))
  | .dump id => do
    let v ← s.view! id
    let t ← lift (dump s.catalog s.heap v)
    pure (s, .value t)
  | .flags id => do
    let v ← s.view! id
    let t ← lift (flags s.catalog s.heap v)
    pure (s, .value t)
  | .enumField id field name entries => do
    let v ← s.view! id
    let e ← lift (Enum.make name entries)
    let t ← lift (e.fieldLabel s.catalog s.heap v field)
    pure (s, .value t)
  | .wit bn names fresh =>
    match s.projectStep bn names fresh with
    | (s, .ok r) => .ok (s, r)
    | (_, .error e) => .error e

/-- **Carries out one step**: its reply or error, and the session after it. -/
def run (s : Session) (st : Step) : Session × Except StepError Reply :=
  match st with
  | .wit bn names fresh => s.projectStep bn names fresh
  | st =>
    match s.attempt st with
    | .ok (s, r) => (s, .ok r)
    | .error e => (s, .error e)

end Session

end RecordLayout
