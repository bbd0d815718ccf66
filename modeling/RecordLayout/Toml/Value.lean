import RecordLayout.Text.Quote

/-!
# TOML documents as values

A TOML document reads into a tree of values.  Tables keep their keys in the order the
document first gave them; an array of tables (`[[name]]`) is kept apart from an array of
values, because the reader appends to the last table of the former.

A **key** is the list of its dotted parts.  `Toml.Key.render` writes it back the way error
messages show it: a part that is empty or holds a character outside `A-Z a-z 0-9 _ -` is
double-quoted, with quotes, backslashes and control characters escaped.

`Toml.Value.typeName` names the kind of a value as the messages about mismatched types
name it.
-/

namespace RecordLayout.Toml

/-- A dotted key, part by part. -/
abbrev Key := List String

/-- Whether a character may stand in a bare key. -/
def isBareKeyChar (c : Char) : Bool :=
  ('A' ≤ c ∧ c ≤ 'Z') || ('a' ≤ c ∧ c ≤ 'z') || ('0' ≤ c ∧ c ≤ '9') || c == '_' || c == '-'

/-- The escape of one character inside a double-quoted key part. -/
def escapeKeyChar (c : Char) : String :=
  match c with
  | '"' => "\\\""
  | '\\' => "\\\\"
  | '\x08' => "\\b"
  | '\t' => "\\t"
  | '\n' => "\\n"
  | '\x0c' => "\\f"
  | '\r' => "\\r"
  | c =>
    if c.toNat < 0x20 ∨ c.toNat = 0x7f then "\\u" ++ Text.hexPadded 4 c.toNat
    else c.toString

/-- One key part as messages show it: bare when it can be, quoted otherwise. -/
def renderPart (p : String) : String :=
  if p.isEmpty then "\"\""
  else if p.all isBareKeyChar then p
  else "\"" ++ String.join (p.toList.map escapeKeyChar) ++ "\""

/-- A key as messages show it: its parts joined by dots. -/
def Key.render (k : Key) : String := ".".intercalate (k.map renderPart)

/-- A value of a TOML document. -/
inductive Value where
  | string (s : String)
  | integer (n : Int)
  /-- A float, by the bits of its binary64 encoding. -/
  | float (bits : Nat)
  | bool (b : Bool)
  /-- A date, a time or both, by its normalised text. -/
  | datetime (text : String)
  /-- An array of values, written `[ … ]`. -/
  | array (items : List Value)
  /-- A table, its entries in the order of their keys' first appearance. -/
  | table (entries : List (String × Value))
  /-- An array of tables, one `[[name]]` header each. -/
  | tables (items : List (List (String × Value)))
  deriving Inhabited

/-- The entries of a table. -/
abbrev Table := List (String × Value)

namespace Value

/-- The name of the kind of a value, as messages about mismatched types give it. -/
def typeName : Value → String
  | .string _ => "string"
  | .integer _ => "int64"
  | .float _ => "float64"
  | .bool _ => "bool"
  | .datetime _ => "time.Time"
  | .array _ => "[]interface \x7b\x7d"
  | .table _ => "map[string]interface \x7b\x7d"
  | .tables _ => "[]map[string]interface \x7b\x7d"

end Value

namespace Table

/-- The value of a key. -/
def get? (t : Table) (k : String) : Option Value := t.lookup k

/-- Sets a key: an existing entry keeps its place, a new one goes last. -/
def set (t : Table) (k : String) (v : Value) : Table :=
  if (t.lookup k).isSome then t.map fun (k', v') => if k' = k then (k', v) else (k', v')
  else t ++ [(k, v)]

end Table

/-- The table a value opens for the keys below it: a table itself, or the last table of an array
of tables.  Answers the table and how to put an updated one back. -/
def Value.opened : Value → Option (Table × (Table → Value))
  | .table t => some (t, .table)
  | .tables ts =>
    match ts.getLast? with
    | some last => some (last, fun n => .tables (ts.dropLast ++ [n]))
    | none => none
  | _ => none

/-- How a walk down a key path went wrong. -/
inductive WalkFault where
  /-- The key path has no entry at this prefix. -/
  | missing (at_ : Key)
  /-- The entry at this prefix is a value that opens no table. -/
  | closed (at_ : Key)

namespace Table

/-- **Updates the table at the end of a key path.**  Each step enters a table, or the last
table of an array of tables.  When `create` holds, a missing step becomes a new empty table,
and the prefixes made so are answered (they are implicit tables); otherwise a missing step
fails.  `f` may fail with its own error or answer a result beside the new table. -/
def updateAt {ε α : Type} (create : Bool) (fault : WalkFault → ε) (f : Table → Except ε (Table × α))
    (done : Key) : Key → Table → Except ε (Table × α × List Key)
  | [], t => do
    let (t', a) ← f t
    pure (t', a, [])
  | k :: rest, t =>
    let here := done ++ [k]
    match t.get? k with
    | none =>
      if create then do
        let (sub, a, made) ← updateAt create fault f here rest []
        pure (t.set k (.table sub), a, here :: made)
      else .error (fault (.missing here))
    | some v =>
      match v.opened with
      | some (sub, back) => do
        let (sub', a, made) ← updateAt create fault f here rest sub
        pure (t.set k (back sub'), a, made)
      | none => .error (fault (.closed here))

end Table

end RecordLayout.Toml
