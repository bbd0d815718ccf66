/-!
# A directory of named files

The command reads its schema files from a working directory, given here as a list of named files
(a name holding `/` puts its file in a subdirectory).  A path resolves component by component,
the way the operating system resolves it:

* an absolute path starts at the root, a relative one at the working directory;
* an empty component or `.` stays where it is, `..` goes up, any other name goes down, and
  each of them needs a directory to stand in: after a file the path is **not a directory**;
* a name that neither a file nor a subdirectory has is **no such file or directory**;
* outside the working directory (above it, or from the root) the contents are unknown and no
  name is found there.

`readFrom` reads the file a path ends at; a path that ends at a directory opens but cannot be
read (**is a directory**).
-/

namespace RecordLayout.Cli

/-- Where a path has led so far. -/
inductive Place where
  /-- A file, with its text. -/
  | file (text : String)
  /-- A directory inside the working directory, by its components from there. -/
  | inside (dir : List String)
  /-- A directory outside the working directory. -/
  | outside
  deriving DecidableEq, Repr, Inhabited

/-- Why a path does not resolve. -/
inductive PathFault where
  /-- A component follows a file. -/
  | notDirectory
  /-- A name that the directory does not have. -/
  | missing
  deriving DecidableEq, Repr, Inhabited

/-- The system's words for a fault. -/
def PathFault.text : PathFault → String
  | .notDirectory => "not a directory"
  | .missing => "no such file or directory"

/-- The components of a file's name in the working directory. -/
def nameParts (name : String) : List String :=
  (name.splitOn "/").filter fun p => p ≠ "" && p ≠ "."

/-- One step of resolution: from `here` by one component. -/
def descend (files : List (String × String)) : Place → String → Except PathFault Place
  | .file _, _ => .error .notDirectory
  | here, "" => .ok here
  | here, "." => .ok here
  | .inside [], ".." => .ok .outside
  | .inside dir, ".." => .ok (.inside dir.dropLast)
  | .outside, ".." => .ok .outside
  | .outside, _ => .error .missing
  | .inside dir, name =>
    let path := dir ++ [name]
    match files.find? (fun (n, _) => nameParts n = path) with
    | some (_, text) => .ok (.file text)
    | none =>
      if files.any (fun (n, _) => path.isPrefixOf (nameParts n)) then .ok (.inside path)
      else .error .missing

/-- Resolves components in turn from a place. -/
def resolve (files : List (String × String)) : Place → List String → Except PathFault Place
  | here, [] => .ok here
  | here, p :: ps => (descend files here p).bind fun next => resolve files next ps

/-- **Reads a file of the directory** by its path: the file's text, or the message of the
failure to open or read it. -/
def readFrom (files : List (String × String)) (path : String) : Except String String :=
  if path.isEmpty then .error ("open " ++ path ++ ": " ++ PathFault.missing.text)
  else
    let (start, parts) := match path.splitOn "/" with
      | "" :: rest => (Place.outside, rest)
      | parts => (Place.inside [], parts)
    match resolve files start parts with
    | .error fault => .error ("open " ++ path ++ ": " ++ fault.text)
    | .ok (.file text) => .ok text
    | .ok _ => .error ("read " ++ path ++ ": is a directory")

end RecordLayout.Cli
