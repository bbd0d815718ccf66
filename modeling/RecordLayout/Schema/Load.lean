import RecordLayout.Schema.Config
import RecordLayout.Catalog.Declare

/-!
# Loading a schema

A schema file declares its records, in order, through one builder of its own.

* The ABI is the one given to the loader, unless the file has a `[target]` table: then its
  `pointer_size` (4 or 8) picks `wasm32` or `native64`, and `name` and `pointer_align`, when
  given, replace theirs.
* A field has a `type` (a scalar name, or a record declared earlier in the file) or a
  `pointer`, never both.  A pointer to `self` or to the record's own name points at the record;
  a pointer to a record not yet declared makes a forward reference, which the record of that
  name resolves when it is declared.  Pointers carry no bits.
* When every record is declared, no forward reference may be left open.

A file loaded from a path tags its failures with the path, keeping their kind.
-/

namespace RecordLayout.Schema

/-- A loaded schema: where it came from, its builder and ABI, and its records in file order. -/
structure Loaded where
  path : String
  builder : BuilderId
  abi : Abi
  records : List RecordId

/-- The ABI a `[target]` table describes. -/
def targetAbi (t : TargetConfig) : Except Failure Abi := do
  let base ← match t.pointerSize with
    | 4 => pure Abi.wasm32
    | 8 => pure Abi.native64
    | n => throw (Failure.invalidData .load ["target", "pointer_size"]
        ("pointer_size must be 4 or 8, got " ++ toString n))
  let abi := { base with name := if t.name.isEmpty then base.name else t.name,
                         pointerAlign := if t.pointerAlign = 0 then base.pointerAlign else t.pointerAlign }
  abi.validate
  pure abi

/-- A failure tagged with the file it came from (untagged without a path). -/
def tag (path : String) (f : Failure) : Failure :=
  if path.isEmpty then f else Failure.wrap .load f.kind (.inl f) path

/-- The state of a load: the catalog, the file's builder and its open forward references. -/
structure Loader where
  catalog : Catalog
  builder : BuilderId
  forwards : List (String × PlaceholderId) := []

namespace Loader

/-- The target of a pointer field of `owner` named `name`. -/
def target (l : Loader) (owner name : String) : Loader × Target :=
  if name = "self" || name = owner then (l, .self)
  else match l.catalog.lookup l.builder name with
    | some r => (l, .record (some r))
    | none =>
      match l.forwards.lookup name with
      | some p => (l, .placeholder (some p))
      | none =>
        let (c, p) := l.catalog.forwardDeclare l.builder name
        ({ l with catalog := c, forwards := (name, p) :: l.forwards }, .placeholder (some p))

/-- The storage type a field names. -/
def storage (l : Loader) (owner : String) (fc : FieldConfig) : Except Failure Storage :=
  match Scalar.named? fc.type with
  | some s => .ok (.scalar s)
  | none =>
    match (l.catalog.lookup l.builder fc.type).bind fun r => (l.catalog.record? r).map (·.storage r) with
    | some t => .ok t
    | none =>
      .error { phase := .load, kind := .invalidDeclaration, record := owner, path := [fc.name],
               expected := "fixed-width type or earlier record",
               detail := "unknown type " ++ Text.quote fc.type }

/-- The declaration of a field of `owner`. -/
def field (l : Loader) (owner : String) (fc : FieldConfig) : Except Failure (Loader × Declaration) :=
  if fc.pointer ≠ "" && fc.type ≠ "" then
    .error (Failure.invalidDeclaration owner [fc.name] "field has both type and pointer")
  else if fc.pointer ≠ "" then
    if fc.bits.isSome then .error (Failure.invalidDeclaration owner [fc.name] "pointer fields cannot carry bits")
    else
      let (l, t) := l.target owner fc.pointer
      .ok (l, .pointer fc.name t)
  else if fc.type = "" then
    .error (Failure.invalidDeclaration owner [fc.name] "field has neither type nor pointer")
  else do
    let t ← l.storage owner fc
    pure (l, match fc.bits with
      | some w => .bits fc.name t w
      | none => .field fc.name t)

/-- The declarations of fields, in order. -/
def fields (owner : String) : Loader → List FieldConfig → Except Failure (Loader × List Declaration)
  | l, [] => .ok (l, [])
  | l, fc :: rest => do
    let (l, d) ← l.field owner fc
    let (l, ds) ← fields owner l rest
    pure (l, d :: ds)

/-- Declares the `i`-th record of the file. -/
def declare (l : Loader) (i : Nat) (rc : RecordConfig) : Except Failure (Loader × RecordId) := do
  if rc.name = "" then
    throw (Failure.invalidDeclaration "" ["record"] ("record " ++ toString i ++ " has no name"))
  let bases ← rc.bases.mapM fun n =>
    match l.catalog.lookup l.builder n with
    | some r => pure (some r)
    | none => throw (Failure.invalidDeclaration rc.name ["bases"]
        ("base " ++ Text.quote n ++ " is not declared before " ++ Text.quote rc.name))
  let (l, decls) ← fields rc.name l rc.fields
  match l.forwards.lookup rc.name with
  | some p =>
    let (c, r) ← l.catalog.declareFor l.builder (some p) rc.name bases decls
    pure ({ l with catalog := c, forwards := l.forwards.filter (·.1 ≠ rc.name) }, r)
  | none =>
    let (c, r) ← l.catalog.declare l.builder rc.name bases decls
    pure ({ l with catalog := c }, r)

/-- Declares the records from the `i`-th on. -/
def declareAll (l : Loader) (i : Nat) : List RecordConfig → Except Failure (Loader × List RecordId)
  | [] => .ok (l, [])
  | rc :: rest => do
    let (l, r) ← l.declare i rc
    let (l, rs) ← declareAll l (i + 1) rest
    pure (l, r :: rs)

end Loader

/-- **Builds the records of a fitted schema file** in a new builder of the catalog. -/
def build (c : Catalog) (path : String) (abi : Abi) (fitted : Fitted) :
    Except Failure (Catalog × Loaded) := do
  if !fitted.undecoded.isEmpty then
    let keys := ", ".intercalate (fitted.undecoded.map Toml.Key.render)
    throw (tag path { phase := .load, kind := .invalidData, detail := "unknown keys: " ++ keys })
  let abi ← if fitted.hasTarget then (targetAbi fitted.config.target).mapError (tag path) else pure abi
  let (c, b) := c.addBuilder abi
  let (l, records) ← (Loader.declareAll { catalog := c, builder := b } 0 fitted.config.records).mapError
    (tag path)
  (l.catalog.finish b).mapError (tag path)
  pure (l.catalog, { path, builder := b, abi, records })

/-- Reads and fits a schema text; a failure is wrapped under `context`. -/
def readText (text : String) (context : String) : Except Failure Fitted :=
  let wrapped := fun (e : Toml.Error) => Failure.wrap .load .invalidData (.inr e.render) context
  match Toml.Document.read text with
  | .error e => .error (wrapped e)
  | .ok doc => (Config.ofDocument doc).mapError wrapped

/-- **Parses a schema text** with `abi` for a file without a `[target]` table. -/
def parse (c : Catalog) (text : String) (abi : Abi) : Except Failure (Catalog × Loaded) := do
  build c "" abi (← readText text "failed to parse TOML")

/-- **Loads a schema file** whose contents `read` answers (or the error of reading it). -/
def load (c : Catalog) (read : String → Except String String) (path : String) (abi : Abi) :
    Except Failure (Catalog × Loaded) := do
  let context := path ++ ": failed to parse TOML"
  match read path with
  | .error msg => throw (Failure.wrap .load .invalidData (.inr msg) context)
  | .ok text => build c path abi (← readText text context)

/-- Loads schema files in order; the first failure stops the load. -/
def loadAll (c : Catalog) (read : String → Except String String) (abi : Abi) :
    List String → Except Failure (Catalog × List Loaded)
  | [] => .ok (c, [])
  | p :: rest => do
    let (c, s) ← load c read p abi
    let (c, ss) ← loadAll c read abi rest
    pure (c, s :: ss)

end RecordLayout.Schema
