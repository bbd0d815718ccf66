import RecordLayout.Cli.Command

/-!
# The program

Reads the schema files the arguments name, runs the command on them and prints what it printed,
exiting with its code.  A file is read as bytes; a byte that starts no UTF-8 character reads as
the replacement character, which the TOML reader refuses.
-/

namespace RecordLayout.Program

/-- The character that starts at byte `i` and its width in bytes; a byte that starts no
character is the replacement character, one byte wide. -/
def charAt (b : ByteArray) (i : Nat) : Char × Nat :=
  let tries := [1, 2, 3, 4].filterMap fun n =>
    if i + n ≤ b.size then
      match String.fromUTF8? (b.extract i (i + n)) with
      | some s => if s.length = 1 then some (s.front, n) else none
      | none => none
    else none
  tries.head?.getD ('\uFFFD', 1)

/-- The text of bytes from byte `i`, with `fuel` characters at most. -/
def decodeFrom (b : ByteArray) : Nat → Nat → List Char
  | 0, _ => []
  | fuel + 1, i =>
    if i < b.size then
      let (c, n) := charAt b i
      c :: decodeFrom b fuel (i + max n 1)
    else []

/-- The text of a file's bytes. -/
def decode (b : ByteArray) : String :=
  match String.fromUTF8? b with
  | some s => s
  | none => String.ofList (decodeFrom b b.size 0)

/-- The contents of a file, or the message of a failure to open it. -/
def readFile (path : String) : IO (Except String String) := do
  try
    let bytes ← IO.FS.readBinFile path
    pure (.ok (decode bytes))
  catch e =>
    match e with
    | .noFileOrDirectory .. => pure (.error ("open " ++ path ++ ": no such file or directory"))
    | .permissionDenied .. => pure (.error ("open " ++ path ++ ": permission denied"))
    | _ => pure (.error ("read " ++ path ++ ": " ++ toString e))

/-- The schema files the arguments name. -/
def schemaPaths (args : List String) : List String :=
  match Cli.parse {} args with
  | .run o => if o.schema = "" then [] else o.schema.splitOn ","
  | _ => []

end RecordLayout.Program

open RecordLayout in
/-- Runs the command. -/
def main (args : List String) : IO UInt32 := do
  let paths := Program.schemaPaths args
  let contents ← paths.mapM fun p => do pure (p, ← Program.readFile p)
  let read := fun p => (contents.lookup p).getD (.error ("open " ++ p ++ ": no such file or directory"))
  let out := Cli.run args read
  IO.print out.stdout
  IO.eprint out.stderr
  pure out.code.toUInt32
