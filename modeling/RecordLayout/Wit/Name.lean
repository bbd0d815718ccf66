/-!
# WIT identifiers

Names are carried into WIT in kebab case.  Leading and trailing underscores are dropped; an
underscore or dash becomes one dash (never at the start, never doubled); an ASCII capital
becomes its small letter, with a dash in front when it follows a character that is neither a
capital nor a separator.  Every other character is kept.
-/

namespace RecordLayout.Wit

/-- Drops leading and trailing underscores. -/
def trimUnderscores (cs : List Char) : List Char :=
  ((cs.dropWhile (· = '_')).reverse.dropWhile (· = '_')).reverse

/-- The state of the conversion: characters written so far (last first), and whether the
previous character counts as lower case. -/
def kebabStep (st : List Char × Bool) (c : Char) : List Char × Bool :=
  let (out, prevLower) := st
  if c = '_' ∨ c = '-' then
    (match out with
      | [] => []
      | '-' :: _ => out
      | _ => '-' :: out, false)
  else if 'A' ≤ c ∧ c ≤ 'Z' then
    let out := if prevLower then '-' :: out else out
    (Char.ofNat (c.toNat + 32) :: out, false)
  else (c :: out, true)

/-- **The WIT identifier** of a name. -/
def kebab (s : String) : String :=
  String.ofList ((trimUnderscores s.toList).foldl kebabStep ([], false)).1.reverse

end RecordLayout.Wit
