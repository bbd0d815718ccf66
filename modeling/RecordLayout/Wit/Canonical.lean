import RecordLayout.Wit.Project
import RecordLayout.Layout.Placement

/-!
# The canonical ABI layout of WIT records

The canonical ABI lays a WIT record out field by field: each field starts at the next multiple
of its alignment, the record is aligned to its largest field alignment (1 when it has no
fields) and its size is rounded up to that alignment.  Sizes and alignments: `bool`, `u8`, `s8`
one byte; `u16`, `s16` two; `u32`, `s32`, `f32` four; `u64`, `s64`, `f64` eight.  Offsets are
32-bit numbers.

`check` compares a record's compiled layout with the canonical layout of its projection: first
size and alignment, then the byte offset of each field in order.
-/

namespace RecordLayout.Wit

/-- Size, alignment and the byte offset of each field, in field order. -/
structure CanonicalInfo where
  size : Nat
  align : Nat
  offsets : List (String × Nat)
  deriving DecidableEq, Repr, Inhabited

/-- Offsets wrap at 2^32. -/
def wrap32 (n : Nat) : Nat := n % Nat.pow 2 32

/-- The canonical layout of a type, given the layouts of the record types made before. -/
def typeLayout (known : Array CanonicalInfo) : WitType → CanonicalInfo
  | .bool | .u8 | .s8 => ⟨1, 1, []⟩
  | .u16 | .s16 => ⟨2, 2, []⟩
  | .u32 | .s32 | .f32 => ⟨4, 4, []⟩
  | .u64 | .s64 | .f64 => ⟨8, 8, []⟩
  | .defined i => known[i]?.getD ⟨0, 1, []⟩

/-- The canonical layout of a record type, its fields laid out in order. -/
def recordLayout (known : Array CanonicalInfo) (d : WitRecord) : CanonicalInfo :=
  if d.fields.isEmpty then ⟨0, 1, []⟩
  else
    let (off, maxAlign, offs) := d.fields.foldl (fun (off, maxAlign, offs) (n, t) =>
      let info := typeLayout known t
      let start := wrap32 (alignUp off info.align)
      (wrap32 (start + info.size), max maxAlign info.align, offs ++ [(n, start)])) (0, 1, [])
    ⟨wrap32 (alignUp off maxAlign), maxAlign, offs⟩

/-- The canonical layouts of all record types of a projector, in its order.  A record's nested
types are made before it, so each entry only needs the entries before it, and each type is laid
out once however often it is nested. -/
def layouts (defs : Array WitRecord) : Array CanonicalInfo :=
  defs.foldl (fun known d => known.push (recordLayout known d)) #[]

/-- **The canonical layout** of a projected type. -/
def canonical (defs : Array WitRecord) (t : WitType) : CanonicalInfo :=
  typeLayout (layouts defs) t

/-- The failure of a compiled layout that differs from the canonical one. -/
def mismatch (rec : String) (path : List String) (got want : String) : Failure :=
  { phase := .format, kind := .typeMismatch, record := rec, path, expected := want,
    detail := "compiled layout has " ++ got ++ ", canonical ABI " ++ want }

/-- **Checks a record against the canonical layout** of its projection, made afresh. -/
def check (c : Catalog) (r : RecordId) : Except Failure Unit :=
  match Projector.project c {} r with
  | (.error e, _) => .error e
  | (.ok i, p) =>
    match c.record? r, p.defs[i]? with
    | some rec, some d =>
      let info := canonical p.defs (.defined i)
      if info.size ≠ rec.size ∨ info.align ≠ rec.align then
        .error (mismatch rec.name []
          ("size " ++ toString rec.size ++ " align " ++ toString rec.align)
          ("size " ++ toString info.size ++ " align " ++ toString info.align))
      else
        let pairs := rec.layout.fields.zip d.fields
        match pairs.find? (fun (f, (n, _)) => wrap32 (f.offset / 8) ≠ (info.offsets.lookup n).getD 0) with
        | some (f, (n, _)) =>
          .error (mismatch rec.name [f.name] ("offset " ++ toString (wrap32 (f.offset / 8)))
            ("offset " ++ toString ((info.offsets.lookup n).getD 0)))
        | none => .ok ()
    | _, _ => .error (Failure.nilPointer .format [] "record")

/-- The outcome of projecting one record: the WIT type's name, its canonical layout and the
check of the record against it. -/
structure Outcome where
  project : Except Failure (String × CanonicalInfo × Except Failure Unit)

/-- **Projects records in order** with one projector, checking each record that projects. -/
def projectEach (c : Catalog) (p : Projector) : List RecordId → Projector × List Outcome
  | [] => (p, [])
  | r :: rest =>
    let (res, p) := Projector.project c p r
    let outcome : Outcome := match res with
      | .error e => ⟨.error e⟩
      | .ok i => ⟨.ok ((p.defs[i]?).elim "" (·.name), canonical p.defs (.defined i), check c r)⟩
    let (p, more) := projectEach c p rest
    (p, outcome :: more)

end RecordLayout.Wit
