import RecordLayout.Text.Quote
import RecordLayout.Text.Letter

/-!
# Scanning TOML text into tokens

The scanner reads TOML text one character at a time and cuts it into tokens: key parts,
table headers, values, and the brackets and separators between them.  It is a machine whose
`Toml.Mode` says what it expects next; modes that finish a piece of text return to the mode
that called them, kept on a stack.  `Toml.scan` runs it over a whole text.

Tokens record the line the scanner was on when it finished them.  The first error ends the
scan with an error token; an error found at the end of the text is put on the line before,
so that a missing closing mark is reported on the last line that has text.

Some rules of the format are left to the reader of the tokens: whether a number is well
formed, which escapes a string holds, and whether a date is real.  The scanner only decides
where each token ends.
-/

namespace RecordLayout.Toml

/-- What a token is. -/
inductive TokenKind where
  | error | eof | text
  | basicString | literalString | multilineString | multilineLiteralString
  | bool | integer | float | datetime
  | arrayStart | arrayEnd | tableStart | tableEnd | arrayTableStart | arrayTableEnd
  | keyStart | keyEnd | commentStart | inlineTableStart | inlineTableEnd
  deriving DecidableEq, Repr, Inhabited

/-- A token: its kind, its text (the message, for an error) and its line. -/
structure Token where
  kind : TokenKind
  text : String
  line : Nat
  deriving Repr, Inhabited

/-- What the scanner expects next. -/
inductive Mode where
  | top | topEnd | tableStart | tableEnd | arrayTableEnd | tableNameStart | tableNameEnd
  | bareName | quotedName | keyStart | keyNameStart | keyEnd | value
  | arrayValue | arrayValueEnd | arrayEnd | inlineTableValue | inlineTableValueEnd | inlineTableEnd
  | basicString | multilineString | literalString | multilineLiteralString
  | multilineEscape | escape | shortUnicode | longUnicode
  | numberOrDateStart | numberOrDate | datetime | hexInteger | octalInteger | binaryInteger
  | decimalNumber | signedNumber | prefixedNumber | float | bool | commentStart | comment
  deriving DecidableEq, Repr, Inhabited

/-- The character read at the end of the text. -/
def endChar : Char := '\x00'

/-- The character read in place of one that is not allowed. -/
def badChar : Char := '\uFFFD'

/-- Blanks: space and tab. -/
def isBlank (c : Char) : Bool := c == ' ' || c == '\t'

/-- Line ends. -/
def isNewline (c : Char) : Bool := c == '\n' || c == '\r'

/-- Control characters other than tab and the line ends. -/
def isControl (c : Char) : Bool :=
  c != '\t' && c != '\n' && c != '\r' && (c.toNat ≤ 0x1f || c.toNat == 0x7f)

/-- Decimal digits. -/
def isDigit (c : Char) : Bool := '0' ≤ c && c ≤ '9'

/-- Hexadecimal digits, either case. -/
def isHexDigit (c : Char) : Bool :=
  isDigit c || ('a' ≤ c && c ≤ 'f') || ('A' ≤ c && c ≤ 'F')

/-- Octal digits. -/
def isOctalDigit (c : Char) : Bool := '0' ≤ c && c ≤ '7'

/-- Binary digits. -/
def isBinaryDigit (c : Char) : Bool := c == '0' || c == '1'

/-- How a character that ends a list is named in a message: the end of the text by words,
any other character in single quotes. -/
def charOrEnd (c : Char) : String :=
  if c = endChar then "end of file" else "'" ++ c.toString ++ "'"

/-- The state of a scan. -/
structure Scanner where
  input : Array Char
  pos : Nat := 0
  start : Nat := 0
  line : Nat := 1
  /-- Whether the last read found the end of the text. -/
  atEnd : Bool := false
  stack : List Mode := []
  tokens : Array Token := #[]
  /-- Whether an error token has been made. -/
  halted : Bool := false

/-- Scanning steps. -/
abbrev ScanM := StateM Scanner

namespace Scanner

/-- The length of the run of characters from index `i` that satisfy `p`. -/
def runLength (p : Char → Bool) (input : Array Char) (i : Nat) : Nat → Nat
  | 0 => 0
  | fuel + 1 =>
    match input[i]? with
    | some c => if p c then runLength p input (i + 1) fuel + 1 else 0
    | none => 0

/-- The text of the token being read. -/
def current (s : Scanner) : String := String.ofList (s.input.extract s.start s.pos).toList

/-- Ends the scan with an error token on line `line`. -/
def failOn (line : Nat) (msg : String) : ScanM (Option Mode) := do
  modify fun s => { s with tokens := s.tokens.push ⟨.error, msg, line⟩, halted := true }
  return none

/-- Ends the scan with an error; at the end of the text it goes on the line before. -/
def fail (msg : String) : ScanM (Option Mode) := do
  let s ← get
  failOn (if s.atEnd then s.line - 1 else s.line) msg

/-- Ends the scan with an error on the line before the current one. -/
def failBefore (msg : String) : ScanM (Option Mode) := do
  let s ← get
  failOn (s.line - 1) msg

/-- Reads the next character; the end of the text reads as `endChar`.  A control character
(or a carriage return not followed by a line feed) ends the scan. -/
def next : ScanM Char := do
  let s ← get
  if s.atEnd then return endChar
  match s.input[s.pos]? with
  | none =>
    set { s with atEnd := true }
    return endChar
  | some c =>
    let line := if c = '\n' then s.line + 1 else s.line
    if c = badChar then
      set { s with line, halted := true,
                   tokens := s.tokens.push ⟨.error, "invalid UTF-8 byte: 0xef", line⟩ }
      return badChar
    else if isControl c || (c = '\r' && s.input[s.pos + 1]? ≠ some '\n') then
      let msg := "TOML files cannot contain control characters: '0x" ++ Text.hexPadded 2 c.toNat ++ "'"
      set { s with line, halted := true, tokens := s.tokens.push ⟨.error, msg, line⟩ }
      return badChar
    else
      set { s with pos := s.pos + 1, line }
      return c

/-- Steps back over the character just read. -/
def backup : ScanM Unit := modify fun s =>
  if s.atEnd then { s with atEnd := false }
  else
    let pos := s.pos - 1
    { s with pos, line := if s.input[pos]? = some '\n' then s.line - 1 else s.line }

/-- The next character, left unread. -/
def peek : ScanM Char := do
  let c ← next
  backup
  return c

/-- Reads the next character if it is `c`. -/
def accept (c : Char) : ScanM Bool := do
  let r ← next
  if r = c then return true
  backup
  return false

/-- Drops the text read so far from the next token. -/
def ignore : ScanM Unit := modify fun s => { s with start := s.pos }

/-- Skips blanks. -/
def skipBlanks : ScanM Unit := do
  modify fun s => { s with pos := s.pos + runLength isBlank s.input s.pos s.input.size }
  let _ ← next
  backup
  ignore

/-- Makes a token of the text read so far. -/
def emit (kind : TokenKind) : ScanM Unit := modify fun s =>
  { s with tokens := s.tokens.push ⟨kind, s.current, s.line⟩, start := s.pos }

/-- Makes a token of the text read so far, without its outer spaces. -/
def emitTrimmed (kind : TokenKind) : ScanM Unit := modify fun s =>
  let text := String.ofList ((s.current.toList.dropWhile (· == ' ')).reverse.dropWhile (· == ' ')).reverse
  { s with tokens := s.tokens.push ⟨kind, text, s.line⟩, start := s.pos }

/-- Remembers the mode to return to. -/
def push (m : Mode) : ScanM Unit := modify fun s => { s with stack := m :: s.stack }

/-- Returns to the mode last remembered. -/
def pop : ScanM (Option Mode) := do
  let s ← get
  match s.stack with
  | m :: rest =>
    set { s with stack := rest }
    return some m
  | [] => fail "BUG in lexer: no states to pop"

/-- Ends a token by stepping back over its last character. -/
def finish (kind : TokenKind) : ScanM (Option Mode) := do
  backup
  emit kind
  pop

/-- Reads the letters from here on. -/
def letters : ScanM String := do
  let s ← get
  let n := runLength Text.isLetter s.input s.pos s.input.size
  let word := String.ofList (s.input.extract s.pos (s.pos + n)).toList
  set { s with pos := s.pos + n }
  let _ ← next
  backup
  return word

/-- Reads `n` hexadecimal digits of an escape. -/
def hexDigits (what : String) : Nat → ScanM (Option Mode)
  | 0 => pop
  | n + 1 => do
    let r ← next
    if isHexDigit r then hexDigits what n
    else
      let s ← get
      fail ("expected " ++ what ++ " hexadecimal digits after '\\" ++
        (if what = "four" then "u" else "U") ++ "', but got " ++ Text.quote s.current ++ " instead")

/-- Reads the rest of a closing triple quote `q q q`; `escaped` tells whether a backslash
before five quotes keeps them in the text. -/
def closeTriple (q : Char) (kind : TokenKind) (self : Mode) (tooMany : String) (escaped : Bool) :
    ScanM (Option Mode) := do
  if ← accept q then
    if ← accept q then
      if (← peek) = q then
        let s ← get
        let five := String.ofList [q, q, q, q, q]
        if s.current.endsWith five && !(escaped && s.current.endsWith ("\\" ++ five)) then
          fail ("unexpected " ++ tooMany)
        else
          backup
          backup
          return some self
      else
        backup
        backup
        backup
        emit kind
        let _ ← next
        let _ ← next
        let _ ← next
        ignore
        pop
    else
      backup
      return some self
  else return some self

/-- **One step of the scanner** in a mode; answers the next mode, or none when it stops. -/
def step : Mode → ScanM (Option Mode)
  | .top => do
    let r ← next
    if isBlank r || isNewline r then
      ignore
      return some .top
    else if r = '#' then
      push .top
      return some .commentStart
    else if r = '[' then return some .tableStart
    else if r = endChar then
      let s ← get
      if s.pos > s.start then fail "unexpected EOF"
      else
        emit .eof
        return none
    else
      backup
      push .topEnd
      return some .keyStart
  | .topEnd => do
    let r ← next
    if r = '#' then
      push .top
      return some .commentStart
    else if isBlank r then return some .topEnd
    else if isNewline r then
      ignore
      return some .top
    else if r = endChar then
      emit .eof
      return none
    else
      fail ("expected a top-level item to end with a newline, comment, or EOF, but got " ++
        Text.quoteRune r ++ " instead")
  | .tableStart => do
    if (← peek) = '[' then
      let _ ← next
      emit .arrayTableStart
      push .arrayTableEnd
    else
      emit .tableStart
      push .tableEnd
    return some .tableNameStart
  | .tableEnd => do
    emit .tableEnd
    return some .topEnd
  | .arrayTableEnd => do
    let r ← next
    if r ≠ ']' then
      fail ("expected end of table array name delimiter " ++ Text.quoteRune ']' ++ ", but got " ++
        Text.quoteRune r ++ " instead")
    else
      emit .arrayTableEnd
      return some .topEnd
  | .tableNameStart => do
    skipBlanks
    let r ← peek
    if r = ']' || r = endChar then fail "unexpected end of table name (table names cannot be empty)"
    else if r = '.' then fail "unexpected table separator (table names cannot be empty)"
    else if r = '"' || r = '\'' then
      ignore
      push .tableNameEnd
      return some .quotedName
    else
      push .tableNameEnd
      return some .bareName
  | .tableNameEnd => do
    skipBlanks
    let r ← next
    if isBlank r then return some .tableNameEnd
    else if r = '.' then
      ignore
      return some .tableNameStart
    else if r = ']' then pop
    else fail ("expected '.' or ']' to end table name, but got " ++ Text.quoteRune r ++ " instead")
  | .bareName => do
    let r ← next
    if isBareKeyCharScan r then return some .bareName
    else finish .text
  | .quotedName => do
    let r ← next
    if isBlank r then
      ignore
      return some .value
    else if r = '"' then
      ignore
      return some .basicString
    else if r = '\'' then
      ignore
      return some .literalString
    else if r = endChar then fail "unexpected EOF; expected value"
    else fail ("expected value but found " ++ Text.quoteRune r ++ " instead")
  | .keyStart => do
    skipBlanks
    let r ← peek
    if r = '=' || r = endChar then fail "unexpected '=': key name appears blank"
    else if r = '.' then fail "unexpected '.': keys cannot start with a '.'"
    else
      if r = '"' || r = '\'' then ignore
      emit .keyStart
      return some .keyNameStart
  | .keyNameStart => do
    skipBlanks
    let r ← peek
    if r = '=' || r = endChar then fail "unexpected '='"
    else if r = '.' then fail "unexpected '.'"
    else if r = '"' || r = '\'' then
      ignore
      push .keyEnd
      return some .quotedName
    else
      push .keyEnd
      return some .bareName
  | .keyEnd => do
    skipBlanks
    let r ← next
    if isBlank r then
      ignore
      return some .keyEnd
    else if r = endChar then
      fail ("unexpected EOF; expected key separator " ++ Text.quoteRune '=')
    else if r = '.' then
      ignore
      return some .keyNameStart
    else if r = '=' then
      emit .keyEnd
      ignore
      return some .value
    else fail ("expected '.' or '=', but got " ++ Text.quoteRune r ++ " instead")
  | .value => do
    let r ← next
    if isBlank r then
      ignore
      return some .value
    else if isDigit r then
      backup
      return some .numberOrDateStart
    else if r = '[' then
      ignore
      emit .arrayStart
      return some .arrayValue
    else if r = '{' then
      ignore
      emit .inlineTableStart
      return some .inlineTableValue
    else if r = '"' then
      if ← accept '"' then
        if ← accept '"' then
          ignore
          return some .multilineString
        backup
      ignore
      return some .basicString
    else if r = '\'' then
      if ← accept '\'' then
        if ← accept '\'' then
          ignore
          return some .multilineLiteralString
        backup
      ignore
      return some .literalString
    else if r = '.' then fail "floats must start with a digit, not '.'"
    else if r = '-' || r = '+' then return some .signedNumber
    else
      let special ← do
        if r = 'i' || r = 'n' then
          if ← accept 'n' then
            if ← accept 'f' then pure true
            else if ← accept 'a' then accept 'n'
            else pure false
          else if ← accept 'a' then accept 'n'
          else pure false
        else pure false
      if special then
        emit .float
        pop
      else if Text.isLetter r then
        backup
        return some .bool
      else if r = endChar then fail "unexpected EOF; expected value"
      else fail ("expected value but found " ++ Text.quoteRune r ++ " instead")
  | .bool => do
    let word ← letters
    if word = "true" || word = "false" then
      emit .bool
      pop
    else fail ("expected value but found " ++ Text.quote word ++ " instead")
  | .arrayValue => do
    let r ← next
    if isBlank r || isNewline r then
      ignore
      return some .arrayValue
    else if r = '#' then
      push .arrayValue
      return some .commentStart
    else if r = ',' then fail "unexpected comma"
    else if r = ']' then return some .arrayEnd
    else
      backup
      push .arrayValueEnd
      return some .value
  | .arrayValueEnd => do
    let r ← next
    if isBlank r || isNewline r then
      ignore
      return some .arrayValueEnd
    else if r = '#' then
      push .arrayValueEnd
      return some .commentStart
    else if r = ',' then
      ignore
      return some .arrayValue
    else if r = ']' then return some .arrayEnd
    else
      fail ("expected a comma (',') or array terminator (']'), but got " ++ charOrEnd r)
  | .arrayEnd => do
    ignore
    emit .arrayEnd
    pop
  | .inlineTableValue => do
    let r ← next
    if isBlank r then
      ignore
      return some .inlineTableValue
    else if isNewline r then failBefore "newlines not allowed within inline tables"
    else if r = '#' then
      push .inlineTableValue
      return some .commentStart
    else if r = ',' then fail "unexpected comma"
    else if r = '}' then return some .inlineTableEnd
    else
      backup
      push .inlineTableValueEnd
      return some .keyStart
  | .inlineTableValueEnd => do
    let r ← next
    if isBlank r then
      ignore
      return some .inlineTableValueEnd
    else if isNewline r then failBefore "newlines not allowed within inline tables"
    else if r = '#' then
      push .inlineTableValueEnd
      return some .commentStart
    else if r = ',' then
      ignore
      skipBlanks
      if (← peek) = '}' then fail "trailing comma not allowed in inline tables"
      else return some .inlineTableValue
    else if r = '}' then return some .inlineTableEnd
    else
      fail ("expected a comma or an inline table terminator '\x7d', but got " ++ charOrEnd r ++
        " instead")
  | .inlineTableEnd => do
    ignore
    emit .inlineTableEnd
    pop
  | .basicString => do
    let r ← next
    if r = endChar then fail "unexpected EOF; expected '\"'"
    else if isNewline r then failBefore "strings cannot contain newlines"
    else if r = '\\' then
      push .basicString
      return some .escape
    else if r = '"' then
      backup
      emit .basicString
      let _ ← next
      ignore
      pop
    else return some .basicString
  | .multilineString => do
    let r ← next
    if r = endChar then fail "unexpected EOF; expected '\"\"\"'"
    else if r = '\\' then return some .multilineEscape
    else if r = '"' then
      closeTriple '"' .multilineString .multilineString "'\"\"\"\"\"\"'" true
    else return some .multilineString
  | .literalString => do
    let r ← next
    if r = endChar then fail "unexpected EOF; expected \"'\""
    else if isNewline r then failBefore "strings cannot contain newlines"
    else if r = '\'' then
      backup
      emit .literalString
      let _ ← next
      ignore
      pop
    else return some .literalString
  | .multilineLiteralString => do
    let r ← next
    if r = endChar then fail "unexpected EOF; expected \"'''\""
    else if r = '\'' then
      closeTriple '\'' .multilineLiteralString .multilineLiteralString "\"''''''\"" false
    else return some .multilineLiteralString
  | .multilineEscape => do
    if isNewline (← next) then return some .multilineString
    else
      backup
      push .multilineString
      return some .escape
  | .escape => do
    let r ← next
    if r = 'b' || r = 't' || r = 'n' || r = 'f' || r = 'r' || r = '"' || r = ' ' ||
        r = '\t' || r = '\\' then pop
    else if r = 'u' then return some .shortUnicode
    else if r = 'U' then return some .longUnicode
    else fail ("invalid escape in string '\\" ++ r.toString ++ "'")
  | .shortUnicode => hexDigits "four" 4
  | .longUnicode => hexDigits "eight" 8
  | .numberOrDateStart => do
    let r ← next
    if r = '0' then return some .prefixedNumber
    else if !isDigit r then fail ("expected a digit but got " ++ Text.quoteRune r)
    else return some .numberOrDate
  | .numberOrDate => do
    let r ← next
    if isDigit r then return some .numberOrDate
    else if r = '-' || r = ':' then return some .datetime
    else if r = '_' then return some .decimalNumber
    else if r = '.' || r = 'e' || r = 'E' then return some .float
    else finish .integer
  | .datetime => do
    let r ← next
    if isDigit r || "-:Tt .Zz+".toList.contains r then return some .datetime
    else
      backup
      emitTrimmed .datetime
      pop
  | .hexInteger => do
    let r ← next
    if isHexDigit r || r = '_' then return some .hexInteger else finish .integer
  | .octalInteger => do
    let r ← next
    if isOctalDigit r || r = '_' then return some .octalInteger else finish .integer
  | .binaryInteger => do
    let r ← next
    if isBinaryDigit r || r = '_' then return some .binaryInteger else finish .integer
  | .decimalNumber => do
    let r ← next
    if isDigit r || r = '_' then return some .decimalNumber
    else if r = '.' || r = 'e' || r = 'E' then return some .float
    else finish .integer
  | .signedNumber => do
    let r ← next
    if r = 'i' || r = 'n' then
      let (a, b) := if r = 'i' then ('n', 'f') else ('a', 'n')
      let whole ← do
        if ← accept a then accept b else pure false
      if whole then
        emit .float
        pop
      else
        let s ← get
        fail ("invalid float: '" ++ s.current ++ "'")
    else if r = '.' then fail "floats must start with a digit, not '.'"
    else
      let p ← if r = '0' then peek else pure r
      if r = '0' && (p = 'b' || p = 'o' || p = 'x') then
        let s ← get
        fail ("cannot use sign with non-decimal numbers: '" ++ s.current ++ p.toString ++ "'")
      else if isDigit r then return some .decimalNumber
      else fail ("expected a digit but got " ++ Text.quoteRune r)
  | .prefixedNumber => do
    let r ← next
    if isDigit r then return some .numberOrDate
    else if r = '_' then return some .decimalNumber
    else if r = '.' || r = 'e' || r = 'E' then return some .float
    else if r = 'b' || r = 'o' || r = 'x' then
      let (ok, name, mode) : (Char → Bool) × String × Mode :=
        if r = 'b' then (isBinaryDigit, "a binary", .binaryInteger)
        else if r = 'o' then (isOctalDigit, "an octal", .octalInteger)
        else (isHexDigit, "a hexidecimal", .hexInteger)
      let p ← peek
      if ok p then return some mode
      else
        let s ← get
        fail ("not " ++ name ++ " number: '" ++ s.current ++ p.toString ++ "'")
    else finish .integer
  | .float => do
    let r ← next
    if isDigit r || "_.-+eE".toList.contains r then return some .float else finish .float
  | .commentStart => do
    ignore
    emit .commentStart
    return some .comment
  | .comment => do
    let r ← next
    if isNewline r || r = endChar then finish .text
    else return some .comment
where
  /-- Characters of a bare key part. -/
  isBareKeyCharScan (c : Char) : Bool :=
    ('A' ≤ c && c ≤ 'Z') || ('a' ≤ c && c ≤ 'z') || isDigit c || c == '_' || c == '-'

/-- Runs the scanner from a mode for at most `fuel` steps, until it stops or fails. -/
def run : Nat → Mode → ScanM Unit
  | 0, _ => pure ()
  | fuel + 1, m => do
    let next ← step m
    if (← get).halted then return
    match next with
    | some m' => run fuel m'
    | none => pure ()

end Scanner

/-- **Scans a TOML text into tokens.**  The last token is the end of the text or an error.
Every step reads a character or moves to a mode that will, so the step bound is never met. -/
def scan (text : String) : Array Token :=
  let input := text.toList.toArray
  let s := (Scanner.run (16 * (input.size + 2)) .top).run { input } |>.2
  s.tokens

end RecordLayout.Toml
