import RecordLayout.Text.Quote

/-!
# Errors of TOML documents

A TOML document can fail to read (a fault in its text, found on a line while a key was being
read) or fail to fit the configuration it is read into (a value of the wrong kind or out of
range, found at a key).  Both name the line and the last key when they know them:

* `toml: line 3 (last key "a.b"): message`, or `toml: line 3: message` without a key;
* a misfit with no line known drops the line: `toml: (last key "a"): message`.
-/

namespace RecordLayout.Toml

/-- A failure to read TOML text or to fit it to a configuration. -/
inductive Error where
  /-- A fault on a line, found with `lastKey` the last key read (empty when none). -/
  | atLine (line : Nat) (lastKey : String) (message : String)
  /-- A misfit at a key whose line may be unknown (zero). -/
  | misfit (line : Nat) (key : String) (message : String)
  deriving DecidableEq, Repr, Inhabited

/-- **The text of an error.** -/
def Error.render : Error → String
  | .atLine line key msg =>
    if key.isEmpty then "toml: line " ++ toString line ++ ": " ++ msg
    else "toml: line " ++ toString line ++ " (last key " ++ Text.quote key ++ "): " ++ msg
  | .misfit line key msg =>
    if key.isEmpty then "toml: " ++ msg
    else if line = 0 then "toml: (last key " ++ Text.quote key ++ "): " ++ msg
    else "toml: line " ++ toString line ++ " (last key " ++ Text.quote key ++ "): " ++ msg

end RecordLayout.Toml
