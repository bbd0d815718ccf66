import RecordLayout.Text.Quote

/-!
# Failures

Every operation of the library that can go wrong answers with a `Failure`: the **phase** of
work it belongs to (declaring, binding, resolving, compiling, accessing, …), the **kind** of
failure, and where it happened — a dotted path, the record involved, what was expected and a
free detail text.  A failure may wrap the failure that caused it.

* `Failure.message` renders a failure in one line: `[phase] kind at a.b: record R, expected E -
  detail (caused by: …)`.  Every part but phase and kind is left out when empty.
* `Failure.answers` decides whether a failure is of the kind (and phase) of a target failure; a
  target without a phase matches on the kind alone, which is how the six `Failure.sentinels` are
  used.  `Failure.isA` asks the same of the failure and every failure it wraps.
* The named constructors (`Failure.fieldNotFound`, `Failure.overflow`, …) fix the wording of the
  failures the library raises, so that each text is written in exactly one place.
-/

namespace RecordLayout

/-- The stage of work a failure belongs to. -/
inductive Phase where
  | declare | bind | resolve | compile | access | query | load | format | memory
  /-- A phase named outside the nine above: failures built by hand may carry any name. -/
  | named (name : String)
  deriving DecidableEq, Repr, Inhabited

namespace Phase

/-- The name of a phase as it appears between the brackets of a message. -/
def name : Phase → String
  | declare => "declare"
  | bind => "bind"
  | resolve => "resolve"
  | compile => "compile"
  | access => "access"
  | query => "query"
  | load => "load"
  | format => "format"
  | memory => "memory"
  | named s => s

/-- Reads a phase back from its name; every name reads back to a phase with that name. -/
def ofName (s : String) : Phase :=
  match s with
  | "declare" => declare
  | "bind" => bind
  | "resolve" => resolve
  | "compile" => compile
  | "access" => access
  | "query" => query
  | "load" => load
  | "format" => format
  | "memory" => memory
  | s => named s

end Phase

/-- What went wrong. -/
inductive Kind where
  | invalidDeclaration | unresolvedTarget | typeMismatch | alreadyResolved | fieldNotFound
  | danglingForward | unknownPlaceholder | outOfBounds | allocation | overflow | nilPointer
  | invalidEnum | invalidData
  /-- A kind named outside the thirteen above. -/
  | named (name : String)
  deriving DecidableEq, Repr, Inhabited

namespace Kind

/-- The name of a kind, in snake case. -/
def name : Kind → String
  | invalidDeclaration => "invalid_declaration"
  | unresolvedTarget => "unresolved_target"
  | typeMismatch => "type_mismatch"
  | alreadyResolved => "already_resolved"
  | fieldNotFound => "field_not_found"
  | danglingForward => "dangling_forward"
  | unknownPlaceholder => "unknown_placeholder"
  | outOfBounds => "out_of_bounds"
  | allocation => "allocation"
  | overflow => "overflow"
  | nilPointer => "nil_pointer"
  | invalidEnum => "invalid_enum"
  | invalidData => "invalid_data"
  | named s => s

/-- Reads a kind back from its name. -/
def ofName (s : String) : Kind :=
  match s with
  | "invalid_declaration" => invalidDeclaration
  | "unresolved_target" => unresolvedTarget
  | "type_mismatch" => typeMismatch
  | "already_resolved" => alreadyResolved
  | "field_not_found" => fieldNotFound
  | "dangling_forward" => danglingForward
  | "unknown_placeholder" => unknownPlaceholder
  | "out_of_bounds" => outOfBounds
  | "allocation" => allocation
  | "overflow" => overflow
  | "nil_pointer" => nilPointer
  | "invalid_enum" => invalidEnum
  | "invalid_data" => invalidData
  | s => named s

end Kind

/-- A failure: phase and kind, where it happened, and what caused it.  The cause is either
another failure of the library or the text of a failure reported by a reader or the host
(a schema text that does not parse, a file that is missing, a number out of range). -/
structure Failure where
  phase : Phase
  kind : Kind
  path : List String := []
  record : String := ""
  expected : String := ""
  detail : String := ""
  cause : Option (Failure ⊕ String) := none
  deriving Inhabited

namespace Failure

/-- The part of a message after the location: the record and what was expected. -/
def subject (f : Failure) : String :=
  if f.record ≠ "" ∧ f.expected ≠ "" then ": record " ++ f.record ++ ", expected " ++ f.expected
  else if f.record ≠ "" then ": record " ++ f.record
  else if f.expected ≠ "" then ": expected " ++ f.expected
  else ""

/-- The detail, set off by a dash after a subject and by a colon otherwise. -/
def detailText (f : Failure) : String :=
  if f.detail = "" then ""
  else if f.record ≠ "" ∨ f.expected ≠ "" then " - " ++ f.detail
  else ": " ++ f.detail

/-- The message of a failure without its cause. -/
def headline (f : Failure) : String :=
  "[" ++ f.phase.name ++ "] " ++ f.kind.name ++
    (if f.path.isEmpty then "" else " at " ++ ".".intercalate f.path) ++
    f.subject ++ f.detailText

/-- **The one-line message** of a failure, its causes included. -/
def message (f : Failure) : String :=
  match _h : f.cause with
  | none => f.headline
  | some (.inl c) => f.headline ++ " (caused by: " ++ c.message ++ ")"
  | some (.inr t) => f.headline ++ " (caused by: " ++ t ++ ")"
termination_by f
decreasing_by cases f; subst _h; simp; omega

/-- Whether `f` itself is of the kind of `target`, and of its phase when the target names one. -/
def answers (f target : Failure) : Bool :=
  if target.phase.name = "" then f.kind.name == target.kind.name
  else f.phase.name == target.phase.name && f.kind.name == target.kind.name

/-- Whether `f` or a failure it wraps answers to `target`. -/
def isA (f target : Failure) : Bool :=
  f.answers target ||
    match _h : f.cause with
    | some (.inl c) => c.isA target
    | _ => false
termination_by f
decreasing_by cases f; subst _h; simp; omega

/-- The six kinds that callers test for without naming a phase. -/
def sentinels : List Kind :=
  [.invalidDeclaration, .unresolvedTarget, .typeMismatch, .alreadyResolved, .fieldNotFound,
    .danglingForward]

/-- The sentinel kinds that `f` itself answers to, in the order of `sentinels`; the failures it
wraps are not consulted. -/
def sentinelKinds (f : Failure) : List Kind :=
  sentinels.filter fun k => f.answers { phase := .named "", kind := k }

/-! ## The failures the library raises -/

/-- A declaration that cannot be accepted. -/
def invalidDeclaration (record : String) (path : List String) (detail : String) : Failure :=
  { phase := .declare, kind := .invalidDeclaration, record, path, detail }

/-- A pointer field whose forward reference has not been resolved yet. -/
def unresolvedTarget (record field placeholder : String) : Failure :=
  { phase := .access, kind := .unresolvedTarget, record, path := [field],
    detail := "forward reference " ++ Text.quote placeholder ++ " is not resolved" }

/-- A value of type `got` where `expected` was needed. -/
def typeMismatch (phase : Phase) (path : List String) (got expected : String) : Failure :=
  { phase, kind := .typeMismatch, path, record := got, expected }

/-- A forward reference resolved a second time. -/
def alreadyResolved (placeholder target : String) : Failure :=
  { phase := .resolve, kind := .alreadyResolved, record := target,
    detail := "forward reference " ++ Text.quote placeholder ++ " already resolved" }

/-- A field name that the record does not have. -/
def fieldNotFound (phase : Phase) (record field : String) : Failure :=
  { phase, kind := .fieldNotFound, record, detail := "field " ++ Text.quote field ++ " not found" }

/-- Forward references still open when a builder is finished. -/
def danglingForward (names : List String) : Failure :=
  { phase := .resolve, kind := .danglingForward,
    detail := "unresolved forward references: " ++ ", ".intercalate names }

/-- An address range outside a memory; `addr` is written in hexadecimal. -/
def outOfBounds (phase : Phase) (path : List String) (addr size : Nat) : Failure :=
  { phase, kind := .outOfBounds, path,
    detail := "address 0x" ++ Text.hex addr ++ " (size " ++ toString size ++
      ") out of bounds" }

/-- An allocation that does not fit. -/
def allocationFailed (phase : Phase) (size align : Nat) : Failure :=
  { phase, kind := .allocation,
    detail := "failed to allocate " ++ toString size ++ " bytes (align " ++ toString align ++ ")" }

/-- A value that does not fit its target; `value` is the value's decimal text. -/
def overflow (phase : Phase) (path : List String) (value target : String) : Failure :=
  { phase, kind := .overflow, path, expected := target,
    detail := "value " ++ value ++ " overflows " ++ target }

/-- Something missing that was needed: an instance, a record, a layout. -/
def nilPointer (phase : Phase) (path : List String) (what : String) : Failure :=
  { phase, kind := .nilPointer, path, detail := "nil " ++ what }

/-- A number that no label of an enumeration stands for; `value` is its decimal text. -/
def invalidEnum (phase : Phase) (value : String) (enum : String) : Failure :=
  { phase, kind := .invalidEnum, expected := enum,
    detail := "invalid enum value " ++ value ++ " for " ++ enum }

/-- Data that cannot be used. -/
def invalidData (phase : Phase) (path : List String) (detail : String) : Failure :=
  { phase, kind := .invalidData, path, detail }

/-- A failure that wraps its cause under a detail text. -/
def wrap (phase : Phase) (kind : Kind) (cause : Failure ⊕ String) (detail : String) : Failure :=
  { phase, kind, detail, cause := some cause }

end Failure

end RecordLayout
