import RecordLayout.Catalog.Basic
import RecordLayout.Wit.Name

/-!
# Projecting records to WIT

A record is projected to a WIT record type with one field per layout field, named by
`Wit.kebab` of the field's shown name: integers map to `s8` … `u64` (`char` to `u8`), `bool` to
`bool`, floats to `f32`/`f64`, pointers to `u32` or `u64` after the record's pointer size, and
a record held by value to the projection of that record.

A projector remembers every record type it made, in the order it finished them: a record's
nested records come before it, and each record is projected once.  A bitfield cannot be
projected, nor can two fields that get the same WIT name.  Nested records projected before a
failure stay remembered.
-/

namespace RecordLayout.Wit

/-- A WIT type of a projected field. -/
inductive WitType where
  | bool | u8 | s8 | u16 | s16 | u32 | s32 | u64 | s64 | f32 | f64
  /-- The record type made as the projector's entry with this index. -/
  | defined (index : Nat)
  deriving DecidableEq, Repr, Inhabited

/-- A projected record type. -/
structure WitRecord where
  name : String
  fields : List (String × WitType)
  deriving DecidableEq, Repr, Inhabited

/-- The record types made so far, and which record each one came from. -/
structure Projector where
  defs : Array WitRecord := #[]
  made : List (RecordId × Nat) := []
  deriving Inhabited

/-- The WIT type of a scalar kind; `none` for records and pointers. -/
def scalarType : StorageKind → Option WitType
  | .int8 => some .s8
  | .uint8 | .char => some .u8
  | .int16 => some .s16
  | .uint16 => some .u16
  | .int32 => some .s32
  | .uint32 => some .u32
  | .int64 => some .s64
  | .uint64 => some .u64
  | .bool => some .bool
  | .float32 => some .f32
  | .float64 => some .f64
  | .record | .pointer => none

namespace Projector

/-- Projects the fields of record `rec` in order, naming each and checking that no two share a
WIT name; `nested` projects a record held by value. -/
def projectFields (rec : Record) (nested : Projector → RecordId → Except Failure Nat × Projector)
    (p : Projector) (seen : List (String × String)) (acc : List (String × WitType)) :
    List FieldInfo → Except Failure (List (String × WitType)) × Projector
  | [] => (.ok acc.reverse, p)
  | f :: rest =>
    let path := [rec.name, f.name]
    if f.isBitfield then
      (.error { phase := .format, kind := .typeMismatch, record := rec.name, path,
                expected := "byte-aligned field",
                detail := "bitfield of " ++ toString f.width ++ " bits has no WIT representation" },
       p)
    else
      let name := kebab f.external
      match seen.lookup name with
      | some prev =>
        (.error (Failure.invalidData .format path ("WIT name " ++ name ++ " also used by " ++ prev)), p)
      | none =>
        let seen := (name, f.name) :: seen
        match f.storage with
        | .record r .. =>
          match nested p r with
          | (.ok i, p) => projectFields rec nested p seen ((name, .defined i) :: acc) rest
          | (.error e, p) => (.error e, p)
        | .slot .. =>
          projectFields rec nested p seen
            ((name, if rec.abi.pointerSize = 4 then .u32 else .u64) :: acc) rest
        | .scalar s =>
          projectFields rec nested p seen ((name, (scalarType s.kind).getD .u8) :: acc) rest

/-- Projects a record with `fuel` levels of nesting left; answers the index of its type. -/
def projectWith (c : Catalog) : Nat → Projector → RecordId → Except Failure Nat × Projector
  | 0, p, _ => (.error (Failure.nilPointer .format [] "record"), p)
  | fuel + 1, p, r =>
    match p.made.lookup r with
    | some i => (.ok i, p)
    | none =>
      match c.record? r with
      | none => (.error (Failure.nilPointer .format [] "record"), p)
      | some rec =>
        match projectFields rec (projectWith c fuel) p [] [] rec.layout.fields with
        | (.ok fields, p) =>
          let i := p.defs.size
          (.ok i, { defs := p.defs.push ⟨kebab rec.name, fields⟩, made := (r, i) :: p.made })
        | (.error e, p) => (.error e, p)

/-- **Projects a record**, remembering it and its nested records. -/
def project (c : Catalog) (p : Projector) (r : RecordId) : Except Failure Nat × Projector :=
  projectWith c (c.records.size + 1) p r

end Projector

/-- The name of a WIT type. -/
def WitType.render (defs : Array WitRecord) : WitType → String
  | .bool => "bool"
  | .u8 => "u8"
  | .s8 => "s8"
  | .u16 => "u16"
  | .s16 => "s16"
  | .u32 => "u32"
  | .s32 => "s32"
  | .u64 => "u64"
  | .s64 => "s64"
  | .f32 => "f32"
  | .f64 => "f64"
  | .defined i => (defs[i]?).elim "typedef" (·.name)

/-- **The WIT text of record types**: one `record name { … }` block each, separated by empty
lines. -/
def render (defs : Array WitRecord) : String :=
  "\n".intercalate (defs.toList.map fun d =>
    "record " ++ d.name ++ " \x7b\n" ++
      String.join (d.fields.map fun (n, t) => "    " ++ n ++ ": " ++ t.render defs ++ ",\n") ++
      "\x7d\n")

end RecordLayout.Wit
