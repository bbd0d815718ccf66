import RecordLayout.Text.Quote

/-!
# Command-line flags

The command takes single-dash or double-dash flags, in any order, before its other arguments:

* `-name` sets a switch; `-name=value` gives a switch a truth value (`1`, `t`, `T`, `TRUE`,
  `true`, `True` or their `0`/`f`/`false` counterparts);
* `-name=value` or `-name value` gives a text flag its value, even a value that starts with `-`;
* flags end at the first argument that is not one (a lone `-` included), or after `--`.

A malformed or unknown flag stops the parse with a message and the usage text; `-h` and
`-help`, unless defined, ask for the usage text alone.
-/

namespace RecordLayout.Cli

/-- The kind of value a flag takes. -/
inductive FlagKind where
  /-- A truth value, set by the flag alone. -/
  | switch
  /-- A text value. -/
  | text
  deriving DecidableEq, Repr, Inhabited

/-- A flag the command defines, with the help text that the usage shows. -/
structure Flag where
  name : String
  kind : FlagKind
  help : String
  deriving DecidableEq, Repr, Inhabited

/-- The command's flags, in the order of their names. -/
def flags : List Flag :=
  [⟨"i", .switch, "Interactive mode with TUI"⟩,
   ⟨"offset", .text, "Print the bit offset of this field (requires -record)"⟩,
   ⟨"record", .text, "Only show this record"⟩,
   ⟨"schema", .text, "Schema files (a.toml,b.toml)"⟩,
   ⟨"v", .switch, "Verbose logging"⟩,
   ⟨"wit", .switch, "Print the WIT projection and check it against the canonical ABI"⟩,
   ⟨"zero", .switch, "Dump a zeroed instance of each record"⟩]

/-- The name the command runs under. -/
def program : String := "structlayout"

/-- One flag's lines of the usage text: the flag, then its help on the same line after a tab
when the flag is a lone letter, else on a line of its own. -/
def Flag.usage (f : Flag) : String :=
  let head := "  -" ++ f.name ++ (if f.kind = .text then " string" else "")
  head ++ (if head.length ≤ 4 then "\t" else "\n    \t") ++ f.help ++ "\n"

/-- **The usage text.** -/
def usage : String :=
  "Usage of " ++ program ++ ":\n" ++ String.join (flags.map Flag.usage)

/-- The options the flags set. -/
structure Options where
  schema : String := ""
  record : String := ""
  offset : String := ""
  wit : Bool := false
  zero : Bool := false
  verbose : Bool := false
  interactive : Bool := false
  deriving DecidableEq, Repr, Inhabited

/-- Sets the switch `name`. -/
def Options.setSwitch (o : Options) (name : String) (b : Bool) : Options :=
  match name with
  | "i" => { o with interactive := b }
  | "v" => { o with verbose := b }
  | "wit" => { o with wit := b }
  | "zero" => { o with zero := b }
  | _ => o

/-- Sets the text flag `name`. -/
def Options.setText (o : Options) (name value : String) : Options :=
  match name with
  | "schema" => { o with schema := value }
  | "record" => { o with record := value }
  | "offset" => { o with offset := value }
  | _ => o

/-- A truth value as a switch spells it. -/
def readBool : String → Option Bool
  | "1" | "t" | "T" | "TRUE" | "true" | "True" => some true
  | "0" | "f" | "F" | "FALSE" | "false" | "False" => some false
  | _ => none

/-- The end of a parse. -/
inductive Parsed where
  /-- The flags parsed; the command runs with these options. -/
  | run (o : Options)
  /-- The usage text was asked for. -/
  | help
  /-- A flag was malformed, unknown, or lacked its value. -/
  | bad (message : String)
  deriving DecidableEq, Repr, Inhabited

/-- A flag's name and value from the text after its dashes: the value follows the first `=`
that is not the first character. -/
def splitValue (body : String) : String × Option String :=
  match body.toList with
  | [] => ("", none)
  | c :: rest =>
    match rest.findIdx? (· = '=') with
    | some i => (String.ofList (c :: rest.take i), some (String.ofList (rest.drop (i + 1))))
    | none => (body, none)

/-- **Parses the flags** from the front of the arguments, on top of `o`. -/
def parse (o : Options) : List String → Parsed
  | [] => .run o
  | s :: rest =>
    match s.toList with
    | '-' :: c :: more =>
      let body := if c = '-' then more else c :: more
      if c = '-' && more.isEmpty then .run o
      else if body.head? = some '-' || body.head? = some '=' || body.isEmpty then
        .bad ("bad flag syntax: " ++ s)
      else
        let (name, value) := splitValue (String.ofList body)
        match flags.find? (·.name = name) with
        | none =>
          if name = "help" || name = "h" then .help
          else .bad ("flag provided but not defined: -" ++ name)
        | some f =>
          match f.kind, value with
          | .switch, none => parse (o.setSwitch name true) rest
          | .switch, some v =>
            match readBool v with
            | some b => parse (o.setSwitch name b) rest
            | none => .bad ("invalid boolean value " ++ Text.quote v ++ " for -" ++ name ++ ": parse error")
          | .text, some v => parse (o.setText name v) rest
          | .text, none =>
            match rest with
            | v :: after => parse (o.setText name v) after
            | [] => .bad ("flag needs an argument: -" ++ name)
    | _ => .run o

end RecordLayout.Cli
