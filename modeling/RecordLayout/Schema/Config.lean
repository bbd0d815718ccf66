import RecordLayout.Toml.Document

/-!
# Schema configuration

A schema file is a TOML document with an optional `[target]` table and any number of
`[[record]]` tables, each with `[[record.field]]` tables:

```
[target]                      # name, pointer_size, pointer_align
[[record]]                    # name, bases
  [[record.field]]            # name, type, pointer, bits
```

`Schema.Config.ofDocument` fits a document to this shape.  A key names a setting when it
equals the setting's name, or failing that equals it up to case.  The value must have the
setting's kind: a string, an unsigned 32-bit integer, an integer, a list, or a table; a list
of tables may be written as an array of tables or as an array of inline tables.  Keys that
name no setting are collected, in document order, as **undecoded**.
-/

namespace RecordLayout.Schema

/-- A field of a record as the schema gives it. -/
structure FieldConfig where
  name : String := ""
  type : String := ""
  pointer : String := ""
  bits : Option Int := none
  deriving DecidableEq, Repr, Inhabited

/-- A record as the schema gives it. -/
structure RecordConfig where
  name : String := ""
  bases : List String := []
  fields : List FieldConfig := []
  deriving DecidableEq, Repr, Inhabited

/-- The `[target]` table: the ABI's name and pointer representation. -/
structure TargetConfig where
  name : String := ""
  pointerSize : Nat := 0
  pointerAlign : Nat := 0
  deriving DecidableEq, Repr, Inhabited

/-- A whole schema file. -/
structure Config where
  target : TargetConfig := {}
  records : List RecordConfig := []
  deriving DecidableEq, Repr, Inhabited

/-- Fitting steps: they remember the keys that named a setting. -/
abbrev Fit := StateT (List String) (Except Toml.Error)

/-- The case-folded form of a character, as far as names of settings need it: ASCII letters
and the two letters outside ASCII that fold to `s` and `k`. -/
def foldCase (c : Char) : Char :=
  if 'A' ≤ c ∧ c ≤ 'Z' then Char.ofNat (c.toNat + 32)
  else if c = '\u017F' then 's'
  else if c = '\u212A' then 'k'
  else c

/-- Whether two names are equal up to case. -/
def equalFold (a b : String) : Bool :=
  a.length == b.length && (a.toList.zip b.toList).all fun (x, y) => foldCase x == foldCase y

/-- The setting a key names: an exact match first, else the first match up to case. -/
def settingOf (settings : List String) (key : String) : Option String :=
  if settings.contains key then some key else settings.find? (equalFold · key)

/-- The line of the value a key was last given (zero when unknown). -/
def lineOf (doc : Toml.Document) (k : Toml.Key) : Nat :=
  ((doc.info.lookup (Toml.Key.render k)).map (·.line)).getD 0

/-- A value of the wrong kind at key `k`; the line is left out when the key has none (a table
made implicitly). -/
def wrongKind {α : Type} (doc : Toml.Document) (k : Toml.Key) (want : String) (v : Toml.Value) :
    Fit α :=
  throw (.misfit (lineOf doc k) (Toml.Key.render k)
    ("incompatible types: TOML value has type " ++ v.typeName ++ "; destination has type " ++ want))

/-- A string setting. -/
def fitString (doc : Toml.Document) (k : Toml.Key) : Toml.Value → Fit String
  | .string s => pure s
  | v => wrongKind doc k "string" v

/-- An integer setting. -/
def fitInt (doc : Toml.Document) (k : Toml.Key) : Toml.Value → Fit Int
  | .integer n => pure n
  | v => wrongKind doc k "integer" v

/-- An unsigned 32-bit setting. -/
def fitUInt32 (doc : Toml.Document) (k : Toml.Key) (v : Toml.Value) : Fit Nat := do
  let n ← fitInt doc k v
  if n < 0 ∨ n ≥ Int.pow 2 32 then
    throw (.atLine (lineOf doc k) (Toml.Key.render k) (toString n ++ " is out of range for uint32"))
  else pure n.toNat

/-- A list setting, each item fitted by `item`. -/
def fitList {α : Type} (doc : Toml.Document) (k : Toml.Key) (item : Toml.Value → Fit α) :
    Toml.Value → Fit (List α)
  | .array vs => vs.mapM item
  | .tables ts => ts.mapM fun t => item (.table t)
  | v => wrongKind doc k "slice" v

/-- A table setting of configuration type `typeName`: each key that names one of `settings`
is marked as used and given to `apply` with its full key. -/
def fitTable {α : Type} (doc : Toml.Document) (k : Toml.Key) (typeName : String)
    (settings : List String) (init : α) (apply : α → String → Toml.Key → Toml.Value → Fit α) :
    Toml.Value → Fit α
  | .table entries =>
    let step := fun (acc : α) (entry : String × Toml.Value) =>
      match settingOf settings entry.1 with
      | none => pure acc
      | some s => do
        modify (Toml.Key.render (k ++ [entry.1]) :: ·)
        apply acc s (k ++ [entry.1]) entry.2
    entries.foldlM step init
  | v =>
    let line := lineOf doc k
    throw (.misfit line (Toml.Key.render k)
      ("type mismatch for schema." ++ typeName ++ ": expected table but found " ++ v.typeName))

/-- A `[[record.field]]` table. -/
def fitField (doc : Toml.Document) (k : Toml.Key) : Toml.Value → Fit FieldConfig :=
  fitTable doc k "fieldConfig" ["bits", "name", "type", "pointer"] {} fun fc s key v =>
    match s with
    | "bits" => do pure { fc with bits := some (← fitInt doc key v) }
    | "name" => do pure { fc with name := ← fitString doc key v }
    | "type" => do pure { fc with type := ← fitString doc key v }
    | _ => do pure { fc with pointer := ← fitString doc key v }

/-- A `[[record]]` table. -/
def fitRecord (doc : Toml.Document) (k : Toml.Key) : Toml.Value → Fit RecordConfig :=
  fitTable doc k "recordConfig" ["name", "bases", "field"] {} fun rc s key v =>
    match s with
    | "name" => do pure { rc with name := ← fitString doc key v }
    | "bases" => do pure { rc with bases := ← fitList doc key (fitString doc key) v }
    | _ => do pure { rc with fields := ← fitList doc key (fitField doc key) v }

/-- The `[target]` table. -/
def fitTarget (doc : Toml.Document) (k : Toml.Key) : Toml.Value → Fit TargetConfig :=
  fitTable doc k "targetConfig" ["name", "pointer_size", "pointer_align"] {} fun tc s key v =>
    match s with
    | "name" => do pure { tc with name := ← fitString doc key v }
    | "pointer_size" => do pure { tc with pointerSize := ← fitUInt32 doc key v }
    | _ => do pure { tc with pointerAlign := ← fitUInt32 doc key v }

/-- A schema file with the keys that named no setting, in document order. -/
structure Fitted where
  config : Config
  undecoded : List Toml.Key
  /-- Whether the document has a key `target` at the top. -/
  hasTarget : Bool

/-- **Fits a document to the schema configuration.** -/
def Config.ofDocument (doc : Toml.Document) : Except Toml.Error Fitted := do
  let fit := fitTable doc [] "fileConfig" ["target", "record"] ({} : Config) fun cfg s key v =>
    match s with
    | "target" => do pure { cfg with target := ← fitTarget doc key v }
    | _ => do pure { cfg with records := ← fitList doc key (fitRecord doc key) v }
  let (config, used) ← (fit (.table doc.root)).run []
  let undecoded := doc.keys.toList.filter fun k => !used.contains (Toml.Key.render k)
  pure { config, undecoded, hasTarget := (doc.root.get? "target").isSome }

end RecordLayout.Schema
