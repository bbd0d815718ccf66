import RecordLayout.View

/-!
# Enumerations

An enumeration gives labels to 64-bit signed values.  An entry either carries its value or
takes the value after the previous entry's (the first one 0), wrapping from the largest 64-bit
value to the smallest.  Labels must be non-empty and distinct; several labels may share a value,
and a value is then shown by its first label.
-/

namespace RecordLayout

/-- An entry of an enumeration as declared: a label and, possibly, its value. -/
structure EnumEntry where
  name : String
  value : Option Int := none
  deriving DecidableEq, Repr, Inhabited

/-- An enumeration with each label's value fixed. -/
structure Enum where
  name : String
  entries : List (String × Int)
  deriving DecidableEq, Repr, Inhabited

/-- A value brought into the 64-bit signed range by wrapping. -/
def wrapInt64 (x : Int) : Int := (x + Int.pow 2 63) % Int.pow 2 64 - Int.pow 2 63

namespace Enum

/-- Fixes the values of entries, the next automatic value being `next`. -/
def settle (enum : String) (seen : List (String × Int)) (next : Int) :
    List EnumEntry → Except Failure (List (String × Int))
  | [] => .ok seen.reverse
  | e :: rest =>
    if e.name = "" then .error (Failure.invalidDeclaration enum [] "enum entry without a name")
    else if (seen.lookup e.name).isSome then
      .error (Failure.invalidDeclaration enum [e.name] "duplicate enum label")
    else
      let v := e.value.getD next
      settle enum ((e.name, v) :: seen) (wrapInt64 (v + 1)) rest

/-- **Makes an enumeration**; fails on an empty or repeated label. -/
def make (name : String) (entries : List EnumEntry) : Except Failure Enum :=
  (settle name [] 0 entries).map (⟨name, ·⟩)

/-- The first label of a value. -/
def label? (e : Enum) (v : Int) : Option String :=
  (e.entries.find? (·.2 == v)).map (·.1)

/-- The first label of a value, or the failure of a value without one. -/
def label (e : Enum) (v : Int) : Except Failure String :=
  match e.label? v with
  | some l => .ok l
  | none => .error (Failure.invalidEnum .format (toString v) e.name)

/-- The value of a label. -/
def value? (e : Enum) (l : String) : Option Int := e.entries.lookup l

/-- The label of the value an integer field holds. -/
def fieldLabel (e : Enum) (c : Catalog) (h : Heap) (v : View) (name : String) :
    Except Failure String :=
  (View.getSigned c h v name).bind e.label

end Enum

end RecordLayout
