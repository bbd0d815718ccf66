import RecordLayout.Toml.Scanner
import RecordLayout.Toml.Value
import RecordLayout.Toml.Error
import RecordLayout.Text.Integer
import RecordLayout.Decimal.Read

/-!
# Reading a TOML document

`Toml.Document.read` turns the tokens of a text into the document's value tree.  Besides the
tree it keeps what a configuration reader needs to explain itself:

* every key in the order the text gives it (table headers and assigned keys, not the tables
  a dotted key only implies), repeats included;
* for each key, the line and the shape of the value it was last given.

**Tables.**  `[a.b]` opens table `b` inside `a`, making `a` as an implicit table if needed;
`[[a.b]]` appends a new table to the array of tables `b`.  Keys below a header go into the
table it opened, or into the last table of an array of tables.  A key may not be given twice,
but an implicit table may later be given explicitly once, and a key whose last value was an
array may be given again (it then takes the new value).

**Values.**  Strings lose their escapes; integers and floats must be well formed (digits
around underscores, no leading zeros, digits after a point) and in range; dates and times
must be real.  An inline table `{ … }` is read like a table; an array of inline tables becomes
an array whose items are the tables, each holding its keys' last parts.
-/

namespace RecordLayout.Toml

/-- The shape of the value a key was last given. -/
inductive Shape where
  | integer | float | datetime | string | bool | array | table | arrayOfTables
  deriving DecidableEq, Repr, Inhabited

/-- The line and shape of the value a key was last given. -/
structure KeyInfo where
  line : Nat
  shape : Shape
  deriving DecidableEq, Repr, Inhabited

/-- A document: its value tree, its keys in order, and what each key was last given (by the
key's rendered text, latest first). -/
structure Document where
  root : Table
  keys : Array Key
  info : List (String × KeyInfo)
  deriving Inhabited

/-- The state of a reader working through tokens. -/
structure Reader where
  tokens : Array Token
  index : Nat := 0
  root : Table := []
  /-- The key of the table the next key goes into. -/
  context : Key := []
  /-- The last part of the key being given a value. -/
  currentKey : String := ""
  /-- The line of the last key or header read. -/
  line : Nat := 0
  keys : Array Key := #[]
  info : List (String × KeyInfo) := []
  /-- The tables made only because a longer key or header needed them. -/
  implicit : List String := []

/-- Reading steps. -/
abbrev ReadM := StateT Reader (Except Error)

/-! ## Numbers, strings and dates -/

/-- Whether every underscore of a numeral stands between two digit-like characters. -/
def underscoresBetweenDigits (s : String) : Bool :=
  if ["nan", "+nan", "-nan", "inf", "-inf", "+inf"].contains s then true
  else
    let step := fun (st : Option Bool) (c : Char) =>
      match st with
      | none => none
      | some accept => if c = '_' && !accept then none else some (isHexDigit c)
    (s.toList.foldl step (some false)).getD false

/-- Whether a numeral has a leading zero that is not a lone `0` or a base prefix. -/
def hasLeadingZero (s : String) : Bool :=
  match s.toList with
  | '0' :: c :: _ => !(c = 'b' || c = 'o' || c = 'x')
  | s0 :: '0' :: _ :: _ => s0 = '-' || s0 = '+'
  | _ => false

/-- Whether every point of a numeral is followed by a digit. -/
def pointsFollowedByDigits (s : String) : Bool :=
  let step := fun (st : Option Bool) (c : Char) =>
    match st with
    | none => none
    | some afterPoint => if afterPoint && !isDigit c then none else some (c = '.')
  match s.toList.foldl step (some false) with
  | some afterPoint => !afterPoint
  | none => false

/-- The non-empty runs of characters between separators. -/
def fieldsBetween (sep : Char → Bool) (cs : List Char) : List String :=
  let (done, run) := cs.foldl (fun (acc : List String × List Char) c =>
    if sep c then (if acc.2.isEmpty then acc else (acc.1 ++ [String.ofList acc.2], []))
    else (acc.1, acc.2 ++ [c])) ([], [])
  if run.isEmpty then done else done ++ [String.ofList run]

/-- The parts of a float numeral between its points and exponent marks. -/
def floatParts (s : String) : List String :=
  fieldsBetween (fun c => c = '.' || c = 'e' || c = 'E') s.toList

/-- A signed integer numeral of any size. -/
def readInteger? (s : String) : Option Int :=
  match s.toList with
  | '+' :: r => (Text.readNatural? r).map Int.ofNat
  | '-' :: r => (Text.readNatural? r).map fun v => -(v : Int)
  | r => (Text.readNatural? r).map Int.ofNat

/-- The text after a leading line end. -/
def dropFirstNewline : List Char → List Char
  | '\n' :: rest => rest
  | '\r' :: '\n' :: rest => rest
  | cs => cs

/-- Whether a character is blank or ends a line. -/
def isSpaceOrNewline (c : Char) : Bool := isBlank c || isNewline c

/-- Drops each backslash that ends a line, with the blanks and line ends after it. -/
def dropLineEndEscapes : List Char → List Char
  | [] => []
  | '\\' :: '\\' :: rest => '\\' :: '\\' :: dropLineEndEscapes rest
  | '\\' :: rest =>
    let blank := rest.takeWhile isSpaceOrNewline
    if blank.contains '\n' then dropLineEndEscapes (rest.drop blank.length)
    else '\\' :: dropLineEndEscapes rest
  | c :: rest => c :: dropLineEndEscapes rest
termination_by cs => cs.length

/-- The code point of an escape's hexadecimal digits, if it is a Unicode scalar value. -/
def escapedChar (digits : List Char) : Option Char :=
  let v := digits.foldl (fun acc c => acc * 16 + ((Text.digitValue c).getD 0)) 0
  if v < 0xD800 ∨ (0xDFFF < v ∧ v ≤ 0x10FFFF) then some (Char.ofNat v) else none

/-- Replaces the escapes of a basic string; fails on an escape that stands for nothing. -/
def unescape : List Char → Except String (List Char)
  | [] => .ok []
  | '\\' :: c :: rest =>
    let simple := fun (r : Char) => do pure (r :: (← unescape rest))
    match c with
    | 'b' => simple '\x08'
    | 't' => simple '\t'
    | 'n' => simple '\n'
    | 'f' => simple '\x0c'
    | 'r' => simple '\r'
    | '"' => simple '"'
    | '\\' => simple '\\'
    | ' ' | '\t' => .error ("invalid escape: '\\" ++ c.toString ++ "'")
    | 'u' | 'U' =>
      let n := if c = 'u' then 4 else 8
      let digits := rest.take n
      match escapedChar digits with
      | some ch => do pure (ch :: (← unescape (rest.drop n)))
      | none => .error ("Escaped character '\\u" ++ String.ofList digits ++ "' is not valid UTF-8.")
    | _ => .error ("BUG: Expected valid escape code after \\, but got " ++ Text.quoteRune c ++ ".")
  | ['\\'] => .error "BUG: Escape sequence at end of string."
  | c :: rest => do pure (c :: (← unescape rest))
termination_by cs => cs.length

/-- The digits of a fixed-width field, read as a number. -/
def fixedNumber (cs : List Char) : Option Nat :=
  if cs.all isDigit then some (cs.foldl (fun acc c => acc * 10 + (c.toNat - '0'.toNat)) 0) else none

/-- Whether a year is a leap year. -/
def isLeapYear (y : Nat) : Bool := y % 4 = 0 && (y % 100 ≠ 0 || y % 400 = 0)

/-- The number of days of a month. -/
def daysInMonth (y m : Nat) : Nat :=
  if m = 2 then (if isLeapYear y then 29 else 28)
  else if m = 4 || m = 6 || m = 9 || m = 11 then 30 else 31

/-- Reads `YYYY-MM-DD`; answers the rest. -/
def readDate (cs : List Char) : Option (List Char) :=
  match cs with
  | y1 :: y2 :: y3 :: y4 :: '-' :: m1 :: m2 :: '-' :: d1 :: d2 :: rest => do
    let y ← fixedNumber [y1, y2, y3, y4]
    let m ← fixedNumber [m1, m2]
    let d ← fixedNumber [d1, d2]
    if 1 ≤ m ∧ m ≤ 12 ∧ 1 ≤ d ∧ d ≤ daysInMonth y m then some rest else none
  | _ => none

/-- Reads `H:MM:SS` or `HH:MM:SS` with an optional fraction of a second; answers the rest. -/
def readTime (cs : List Char) : Option (List Char) := do
  let (h, rest) ← match cs with
    | a :: b :: rest => if isDigit a && isDigit b then some ([a, b], rest)
                        else if isDigit a then some ([a], b :: rest) else none
    | [a] => if isDigit a then some ([a], []) else none
    | [] => none
  match rest with
  | ':' :: m1 :: m2 :: ':' :: s1 :: s2 :: rest => do
    let hour ← fixedNumber h
    let minute ← fixedNumber [m1, m2]
    let second ← fixedNumber [s1, s2]
    if hour < 24 ∧ minute < 60 ∧ second < 60 then
      match rest with
      | '.' :: d :: more => if isDigit d then some (more.dropWhile isDigit) else some rest
      | _ => some rest
    else none
  | _ => none

/-- Reads a zone: `Z`, or a sign with `HH:MM`. -/
def readZone (cs : List Char) : Option (List Char) :=
  match cs with
  | 'Z' :: rest => some rest
  | s :: h1 :: h2 :: ':' :: m1 :: m2 :: rest => do
    let h ← fixedNumber [h1, h2]
    let m ← fixedNumber [m1, m2]
    if (s = '+' || s = '-') && h ≤ 24 && m ≤ 60 then some rest else none
  | _ => none

/-- Whether a normalised date-time text is an offset date-time, a local date-time, a local
date or a local time. -/
def isDatetime (cs : List Char) : Bool :=
  let full := do
    let rest ← readDate cs
    match rest with
    | 'T' :: rest => readTime rest
    | _ => none
  (full.bind readZone) == some [] || full == some [] || readDate cs == some [] ||
    readTime cs == some []

/-- The text of a date-time with `z`, `t` and space written as `Z`, `T`, `T`. -/
def normaliseDatetime (s : String) : String :=
  s.map fun c => if c = 'z' then 'Z' else if c = 't' || c = ' ' then 'T' else c

namespace Reader

/-- The key that messages name as the last one read. -/
def lastKey (r : Reader) : String :=
  if r.currentKey.isEmpty then Key.render r.context
  else if r.context.isEmpty then r.currentKey
  else Key.render r.context ++ "." ++ r.currentKey

/-- Fails on a line with the last key read. -/
def failOn {α : Type} (line : Nat) (msg : String) : ReadM α := do
  throw (.atLine line (← get).lastKey msg)

/-- Fails on the line of the last key or header read. -/
def failHere {α : Type} (msg : String) : ReadM α := do
  failOn (← get).line msg

/-- The next token; an error token fails there. -/
def next : ReadM Token := do
  let r ← get
  let t := r.tokens[r.index]?.getD ⟨.eof, "", r.line⟩
  set { r with index := r.index + 1 }
  if t.kind = .error then failOn t.line t.text
  return t

/-- The next token, whose line becomes the line of the key being read. -/
def nextPos : ReadM Token := do
  let t ← next
  modify fun r => { r with line := t.line }
  return t

/-- Skips the text of a comment. -/
def skipComment : ReadM Unit := do
  let _ ← next

/-- Records the line and shape of the value of `key` in the current table (of the table
itself when `key` is empty). -/
def setShape (key : String) (shape : Shape) (line : Nat) : ReadM Unit := modify fun r =>
  let k := r.context ++ (if key.isEmpty then [] else [key])
  let k := if k.isEmpty then [""] else k
  { r with info := (Key.render k, ⟨line, shape⟩) :: r.info }

/-- Whether the value a key was last given is an array. -/
def isArray (r : Reader) (k : Key) : Bool :=
  (r.info.lookup (Key.render k)).any (·.shape == .array)

/-- Whether a key names a table made only because a longer key needed it. -/
def isImplicit (r : Reader) (k : Key) : Bool := r.implicit.contains (Key.render k)

/-- Marks a key as implicit. -/
def addImplicit (k : Key) : ReadM Unit := modify fun r => { r with implicit := Key.render k :: r.implicit }

/-- Gives `key` a value in the current table.  An existing key may only be given again when
its last value was an array or it is an implicit table (which then keeps its entries). -/
def setValue (key : String) (v : Value) : ReadM Unit := do
  let r ← get
  let full := r.context ++ [key]
  let defined := fun (k : Key) => "Key '" ++ Key.render k ++ "' has already been defined."
  let put := fun (t : Table) =>
    match t.get? key with
    | none => .ok (t.set key v, false)
    | some _ =>
      if r.isArray full then .ok (t.set key v, true)
      else if r.isImplicit full then .ok (t, true)
      else .error (defined full)
  match Table.updateAt false (fun | .missing k | .closed k => defined k) put [] r.context r.root with
  | .error msg => failHere msg
  | .ok (root, unmark, _) =>
    set { r with root,
                 implicit := if unmark then r.implicit.filter (· != Key.render full) else r.implicit }

/-- Gives `key` a value and records its line and shape. -/
def setEntry (key : String) (v : Value) (shape : Shape) (line : Nat) : ReadM Unit := do
  setValue key v
  setShape key shape line

/-- **Opens the table named by a key** for the keys that follow: an array of tables gets a new
table appended, a table is made (or an implicit one taken over).  Missing tables on the way are
made as implicit ones. -/
def openTable (key : Key) (array : Bool) : ReadM Unit := do
  let r ← get
  let parent := key.dropLast
  let last := key.getLastD ""
  let hash := fun (k : Key) => "Key '" ++ Key.render k ++ "' was already created as a hash."
  match Table.updateAt true (fun | .missing k | .closed k => hash k) (fun t => .ok (t, ())) []
      parent r.root with
  | .error msg => failHere msg
  | .ok (root, _, made) =>
    set { r with root, context := parent, implicit := made.map Key.render ++ r.implicit }
    if array then
      let append := fun (t : Table) =>
        match t.get? last with
        | none => .ok (t.set last (.tables [[]]), ())
        | some (.tables ts) => .ok (t.set last (.tables (ts ++ [[]])), ())
        | some _ =>
          .error ("Key '" ++ Key.render key ++ "' was already created and cannot be used as an array.")
      match Table.updateAt false (fun | .missing k | .closed k => hash k) append [] parent root with
      | .error msg => failHere msg
      | .ok (root, _, _) => modify fun r => { r with root }
    else setValue last (.table [])
    modify fun r => { r with context := parent ++ [last] }

/-- Marks a key as implicit and opens it as a table. -/
def openImplicit (key : Key) : ReadM Unit := do
  addImplicit key
  openTable key false

/-- The parts of a key, read from its first part up to the closing token. -/
def keyParts (part : Token → ReadM String) (close : TokenKind) : Nat → Token → ReadM Key
  | 0, _ => failHere "BUG: key too long"
  | fuel + 1, t => do
    if t.kind = close || t.kind = .eof then return []
    let p ← part t
    let rest ← keyParts part close fuel (← next)
    return p :: rest

/-- Opens the implicit tables of a dotted key's leading parts, one inside the other. -/
def openDotted : List String → ReadM Unit
  | [] => pure ()
  | p :: rest => do
    openImplicit ((← get).context ++ [p])
    openDotted rest

/-- Reads an integer token. -/
def integer (t : Token) : ReadM (Value × Shape) := do
  let s := t.text
  if !underscoresBetweenDigits s then
    failOn t.line ("Invalid integer " ++ Text.quote s ++ ": underscores must be surrounded by digits")
  if hasLeadingZero s then
    failOn t.line ("Invalid integer " ++ Text.quote s ++ ": cannot have leading zeroes")
  match readInteger? s with
  | some v =>
    if -Int.pow 2 63 ≤ v ∧ v < Int.pow 2 63 then return (.integer v, .integer)
    else failOn t.line (s ++ " is out of range for int64")
  | none => failOn t.line ("BUG: Expected integer value, but got '" ++ s ++ "'.")

/-- Reads a float token. -/
def float (t : Token) : ReadM (Value × Shape) := do
  let s := t.text
  let parts := floatParts s
  if parts.any (!underscoresBetweenDigits ·) then
    failOn t.line ("Invalid float " ++ Text.quote s ++ ": underscores must be surrounded by digits")
  if (parts.head?.map hasLeadingZero).getD false then
    failOn t.line ("Invalid float " ++ Text.quote s ++ ": cannot have leading zeroes")
  if !pointsFollowedByDigits s then
    failOn t.line ("Invalid float " ++ Text.quote s ++ ": '.' must be followed by one or more digits")
  let plain := String.ofList (s.toList.filter (· != '_'))
  let plain := if plain = "+nan" || plain = "-nan" then "nan" else plain
  match Decimal.readBinary64 plain with
  | .value bits => return (.float bits, .float)
  | .outOfRange _ => failOn t.line (s ++ " is out of range for float64")
  | .malformed => failOn t.line ("Invalid float value: " ++ Text.quote s)

/-- Reads a date-time token. -/
def datetime (t : Token) : ReadM (Value × Shape) := do
  let s := normaliseDatetime t.text
  if isDatetime s.toList then return (.datetime s, .datetime)
  else failOn t.line ("Invalid TOML Datetime: " ++ Text.quote s ++ ".")

/-- The text of a basic string token, its escapes replaced. -/
def basic (t : Token) (cs : List Char) : ReadM String :=
  match unescape cs with
  | .ok r => pure (String.ofList r)
  | .error msg => failOn t.line msg

/-- The value of a string token. -/
def stringOf (t : Token) : ReadM String :=
  match t.kind with
  | .basicString => basic t t.text.toList
  | .multilineString => basic t (dropLineEndEscapes (dropFirstNewline t.text.toList))
  | .literalString => pure t.text
  | .multilineLiteralString => pure (String.ofList (dropFirstNewline t.text.toList))
  | _ => pure t.text

/-- A part of a key. -/
def keyPart (t : Token) : ReadM String :=
  match t.kind with
  | .text => pure t.text
  | .basicString | .multilineString | .literalString | .multilineLiteralString => stringOf t
  | _ => failHere "BUG: Unexpected key type"

mutual

/-- **Reads a value** starting at token `t`; `inArray` tells whether it is an item of an
array. -/
def value : Nat → Token → Bool → ReadM (Value × Shape)
  | 0, _, _ => failHere "BUG: value nested too deeply"
  | fuel + 1, t, inArray =>
    match t.kind with
    | .basicString | .multilineString | .literalString | .multilineLiteralString => do
      return (.string (← stringOf t), .string)
    | .integer => integer t
    | .float => float t
    | .bool => return (.bool (t.text = "true"), .bool)
    | .datetime => datetime t
    | .arrayStart => do
      setShape (← get).currentKey .array t.line
      let items ← arrayItems fuel
      return (.array items, .array)
    | .inlineTableStart => do
      let r ← get
      let outerContext := r.context
      let outerKey := r.currentKey
      let context := r.context ++ [r.currentKey]
      set { r with context, currentKey := "" }
      addImplicit context
      openTable context inArray
      let entries ← inlineEntries fuel context []
      modify fun r => { r with context := outerContext, currentKey := outerKey }
      return (.table entries, .table)
    | _ => failHere "BUG: Unexpected value type"

/-- Reads the items of an array up to its closing bracket. -/
def arrayItems : Nat → ReadM (List Value)
  | 0 => failHere "BUG: array too long"
  | fuel + 1 => do
    let t ← next
    if t.kind = .arrayEnd then return []
    if t.kind = .commentStart then
      skipComment
      arrayItems fuel
    else
      let (v, _) ← value fuel t true
      return v :: (← arrayItems fuel)

/-- Reads the entries of an inline table up to its closing brace; `context` is the table's
own key, and `acc` the entries read so far by their last key part. -/
def inlineEntries : Nat → Key → Table → ReadM Table
  | 0, _, _ => failHere "BUG: inline table too long"
  | fuel + 1, context, acc => do
    let t ← next
    if t.kind = .inlineTableEnd then return acc
    if t.kind = .commentStart then
      skipComment
      inlineEntries fuel context acc
    else
      let first ← nextPos
      let key ← keyParts keyPart .keyEnd fuel first
      let last := key.getLastD ""
      modify fun r => { r with currentKey := last }
      openDotted key.dropLast
      modify fun r => { r with keys := r.keys.push (r.context ++ [last]) }
      let v ← next
      let (val, shape) ← value fuel v false
      setEntry last val shape t.line
      modify fun r => { r with context }
      inlineEntries fuel context (acc.set last val)

end

/-- Reads one top-level item: a comment, a table header or a key with its value. -/
def item (fuel : Nat) (t : Token) : ReadM Unit := do
  match t.kind with
  | .commentStart => skipComment
  | .tableStart | .arrayTableStart =>
    let array := t.kind = .arrayTableStart
    let first ← nextPos
    let key ← keyParts keyPart (if array then .arrayTableEnd else .tableEnd) fuel first
    openTable key array
    setShape "" (if array then .arrayOfTables else .table) t.line
    modify fun r => { r with keys := r.keys.push key }
  | .keyStart =>
    let outer := (← get).context
    let first ← nextPos
    let key ← keyParts keyPart .keyEnd fuel first
    let last := key.getLastD ""
    modify fun r => { r with currentKey := last }
    openDotted key.dropLast
    modify fun r => { r with keys := r.keys.push (r.context ++ [last]) }
    let v ← next
    let (val, shape) ← value fuel v false
    setEntry last val shape v.line
    modify fun r => { r with context := outer, currentKey := "" }
  | _ => failHere "BUG: Unexpected type at top level"

/-- Reads top-level items until the end of the text. -/
def items (fuel : Nat) : Nat → ReadM Unit
  | 0 => pure ()
  | n + 1 => do
    let t ← next
    if t.kind = .eof then return
    item fuel t
    items fuel n

end Reader

/-- **Reads a TOML text into a document.**  A text that starts with a byte order mark is read
without it; a NUL among its first six bytes marks a text that is not UTF-8. -/
def Document.read (text : String) : Except Error Document := do
  let text := if text.startsWith "\uFEFF" then String.ofList (text.toList.drop 1) else text
  let head := (text.toList.foldl (fun (acc : List Char × Nat) c =>
    if acc.2 < 6 then (acc.1 ++ [c], acc.2 + c.utf8Size) else acc) ([], 0)).1
  if head.contains '\x00' then
    throw (.atLine 1 "" "files cannot contain NULL bytes; probably using UTF-16; TOML files must be UTF-8")
  let tokens := scan text
  let fuel := tokens.size + 1
  let ((), r) ← (Reader.items fuel fuel).run { tokens }
  pure { root := r.root, keys := r.keys, info := r.info }

end RecordLayout.Toml
