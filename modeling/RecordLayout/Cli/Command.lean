import RecordLayout.Cli.Flags
import RecordLayout.Cli.Directory
import RecordLayout.Schema.Inspect

/-!
# The command

`structlayout -schema a.toml[,b.toml] [-record Name] [-offset field] [-wit] [-zero]` loads the
schema files, in order, each with its own builder (an ABI of `native64` unless the file has a
`[target]` table), and prints:

* with `-offset`, the bit offset of a field of the record `-record` names, and nothing else;
* else a header for each file (unless `-record` picks one record), then a table of each record's
  fields: physical name, bit offset, bits and type, a pointer slot showing its target;
* with `-wit`, a warning for each record whose WIT projection fails or differs from its compiled
  layout, then the WIT text of the projections;
* with `-zero`, a zeroed instance of each record, allocated in turn in one fresh memory.

A failure ends the run with `Error: ` and its message on the error stream and exit code 1, after
whatever was printed before it.  Standard output is not a terminal, so nothing is styled and
interactive mode is refused.
-/

namespace RecordLayout.Cli

open Schema

/-- What a run printed and the code it exited with. -/
structure Outcome where
  stdout : String := ""
  stderr : String := ""
  code : Nat := 0
  deriving DecidableEq, Repr, Inhabited

/-- The short usage printed when no schema is given. -/
def briefUsage : String :=
  "Usage: " ++ program ++ " -schema <a.toml[,b.toml]> [-record Name] [-offset field] [-wit] [-zero]\n" ++
  "       " ++ program ++ " -schema <file.toml> -i  (interactive mode)\n"

/-- Pads a text on the right with spaces to `width` characters. -/
def padRight (s : String) (width : Nat) : String :=
  s ++ String.ofList (List.replicate (width - s.length) ' ')

/-- Pads a text on the left with spaces to `width` characters. -/
def padLeft (s : String) (width : Nat) : String :=
  String.ofList (List.replicate (width - s.length) ' ') ++ s

/-- The header line of a schema file: its path, ABI and pointer representation. -/
def header (s : Loaded) : String :=
  s.path ++ " " ++ s.abi.name ++ " (pointer " ++ toString s.abi.pointerSize ++ "/" ++
    toString s.abi.pointerAlign ++ ")\n"

/-- The type a field shows: a pointer slot its target, a bitfield its width. -/
def typeLabel (c : Catalog) (r : RecordId) (f : FieldInfo) : String :=
  if f.isPointer then
    match c.pointerField r f.name with
    | .ok pf => "*" ++ (c.binding? pf.binding).elim "?" c.targetName
    | .error _ => f.storage.name
  else if f.isBitfield then f.storage.name ++ ":" ++ toString f.width
  else f.storage.name

/-- **The table of a record's fields**: a title with size and alignment, then one row per
physical field with its bit offset, bits and type. -/
def layoutTable (c : Catalog) (r : RecordId) : String :=
  match c.record? r with
  | none => ""
  | some rec =>
    let fields := rec.layout.fields
    let width := fields.foldl (fun w f => max w f.name.utf8ByteSize) 5
    let row := fun (name offset bits type : String) =>
      "  " ++ padRight name width ++ " " ++ padLeft offset 8 ++ " " ++ padLeft bits 6 ++ "  " ++
        type ++ "\n"
    rec.name ++ " size=" ++ toString rec.size ++ " align=" ++ toString rec.align ++ "\n" ++
      row "field" "offset" "bits" "type" ++
      String.join (fields.map fun f =>
        row f.name (toString f.offset) (toString f.bits) (typeLabel c r f))

/-- The warnings of a WIT projection: a record that fails to project, by name, then a record
whose compiled layout differs from the canonical one. -/
def witWarnings (c : Catalog) : List (RecordId × Wit.Outcome) → String
  | [] => ""
  | (r, o) :: rest =>
    let line := match o.project with
      | .error e => "warning: " ++ c.recordName r ++ ": " ++ e.message ++ "\n"
      | .ok (_, _, .error e) => "warning: " ++ e.message ++ "\n"
      | .ok (_, _, .ok ()) => ""
    line ++ witWarnings c rest

/-- The bit offset of a field as the command prints it. -/
def describeOffset (bits : Nat) : String :=
  if bits % 8 = 0 then "bit " ++ toString bits ++ " (byte " ++ toString (bits / 8) ++ ")"
  else "bit " ++ toString bits ++ " (byte " ++ toString (bits / 8) ++ " + " ++
    toString (bits % 8) ++ " bits)"

/-- The records a run shows: every record of every file, or the first of the name. -/
def selectRecords (c : Catalog) (schemas : List Loaded) (name : String) :
    Except String (List RecordId) :=
  if name.isEmpty then .ok (schemas.flatMap (·.records))
  else match schemas.findSome? (fun s => c.lookup s.builder name) with
    | some r => .ok [r]
    | none => .error ("record " ++ Text.quote name ++ " not found")

/-- A run that printed `out` and then failed with `message`. -/
def failed (out message : String) : Outcome :=
  { stdout := out, stderr := "Error: " ++ message ++ "\n", code := 1 }

/-- **Shows the schema files** at `paths` as the options ask. -/
def present (read : String → Except String String) (paths : List String) (o : Options) : Outcome :=
  match loadAll {} read Abi.native64 paths with
  | .error e => failed "" ("load schema: " ++ e.message)
  | .ok (c, schemas) =>
    match selectRecords c schemas o.record with
    | .error msg => failed "" msg
    | .ok recs =>
      if o.offset ≠ "" then
        if o.record = "" then failed "" "-offset requires -record"
        else
          let layout := recs.head?.bind fun r => (c.record? r).map (·.layout)
          match Catalog.offsetOf layout o.offset with
          | .error e => failed "" e.message
          | .ok bits => { stdout := describeOffset bits ++ "\n" }
      else
        let headers := if o.record = "" then String.join (schemas.map header) else ""
        let tables := String.join (recs.map (layoutTable c))
        let wit :=
          if o.wit then
            let (p, outcomes) := Wit.projectEach c {} recs
            witWarnings c (recs.zip outcomes) ++ Wit.render p.defs
          else ""
        let out := headers ++ tables ++ wit
        if o.zero then
          let (lines, stop) := zeroDumps c recs
          let out := out ++ String.join (lines.map (· ++ "\n"))
          match stop with
          | some e => failed out e.message
          | none => { stdout := out }
        else { stdout := out }

/-- **Runs the command** with its arguments, reading schema files with `read`. -/
def run (args : List String) (read : String → Except String String) : Outcome :=
  match parse {} args with
  | .help => { stderr := usage }
  | .bad msg => { stderr := msg ++ "\n" ++ usage, code := 2 }
  | .run o =>
    if o.schema = "" then { stderr := briefUsage, code := 1 }
    else if o.interactive then { stderr := "Error: interactive mode needs a terminal\n", code := 1 }
    else present read (o.schema.splitOn ",") o

end RecordLayout.Cli
