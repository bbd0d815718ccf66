import RecordLayout.Text.Printable

/-!
# Quoted text

Names inside messages are written between double quotes, and characters between single
quotes.  Inside the quotes a character stands for itself when it is printable
(`Text.isPrintable`) and is not the quote or a backslash; the quote and the backslash get a
backslash in front; the rest is escaped:

* `\a \b \f \n \r \t \v` for the seven control characters that have a letter,
* `\xhh` for the other characters below `U+0020` and for `U+007F`,
* `\uhhhh` below `U+10000` and `\Uhhhhhhhh` above, with lower-case hexadecimal digits.

The ASCII-only variant (`quoteRuneAscii`) escapes every character above `U+007E`.
-/

namespace RecordLayout.Text

/-- The lower-case hexadecimal digits of `n`, at least `width` of them. -/
def hexPadded (width n : Nat) : String :=
  let ds := Nat.toDigits 16 n
  String.ofList (List.replicate (width - ds.length) '0' ++ ds)

/-- The escape of one character that is not written as itself. -/
def escapeChar (c : Char) : String :=
  match c with
  | '\x07' => "\\a"
  | '\x08' => "\\b"
  | '\x0c' => "\\f"
  | '\n' => "\\n"
  | '\r' => "\\r"
  | '\t' => "\\t"
  | '\x0b' => "\\v"
  | c =>
    if c.toNat < 0x20 ∨ c.toNat = 0x7F then "\\x" ++ hexPadded 2 c.toNat
    else if c.toNat < 0x10000 then "\\u" ++ hexPadded 4 c.toNat
    else "\\U" ++ hexPadded 8 c.toNat

/-- One character inside quotes `q`; `asciiOnly` escapes everything above `U+007E`. -/
def quotedChar (q : Char) (asciiOnly : Bool) (c : Char) : String :=
  if c = q ∨ c = '\\' then "\\" ++ c.toString
  else if asciiOnly then
    if c.toNat < 0x80 ∧ isPrintable c then c.toString else escapeChar c
  else if isPrintable c then c.toString
  else escapeChar c

/-- **A string between double quotes**, escaped as the module describes. -/
def quote (s : String) : String :=
  "\"" ++ String.join (s.toList.map (quotedChar '"' false)) ++ "\""

/-- A character between single quotes. -/
def quoteRune (c : Char) : String :=
  "'" ++ quotedChar '\'' false c ++ "'"

/-- A character between single quotes, with everything outside printable ASCII escaped. -/
def quoteRuneAscii (c : Char) : String :=
  "'" ++ quotedChar '\'' true c ++ "'"

/-- The lower-case hexadecimal text of a number, without a prefix. -/
def hex (n : Nat) : String :=
  String.ofList (Nat.toDigits 16 n)

end RecordLayout.Text
