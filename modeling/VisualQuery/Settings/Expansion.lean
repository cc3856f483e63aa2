import VisualQuery.Environment
import VisualQuery.Text.Alphanumeric

/-!
# Variables in texts

A text may refer to variables of the environment, as `$name` or as `${name}`. It is first split into
segments and then each segment is replaced by its value, so the value of a variable is never
expanded again. A `$` in front of anything else stands for itself. A reference without its closing
brace goes to the end of the text.
-/

namespace VisualQuery

/-- A part of a text that may refer to variables. -/
inductive Segment where
  /-- A character that stands for itself. -/
  | plain (c : Char)
  /-- A dollar sign that starts no reference. -/
  | dollar
  /-- A reference by the characters of a name. -/
  | bare (name : List Char)
  /-- A reference between braces. -/
  | braced (name : List Char)
deriving DecidableEq, Repr

namespace Segment

/-- Whether a character belongs to a name that stands without braces. -/
def isNameChar (c : Char) : Bool := Text.isAlphanumeric c || c == '_'

/-- Whether a character belongs to a name that stands between braces. -/
def isBracedChar (c : Char) : Bool := c != '\x7d'

/-- The segments of a text, from left to right. -/
def split : (cs : List Char) → List Segment
  | [] => []
  | '$' :: '\x7b' :: cs =>
    .braced (cs.takeWhile isBracedChar) :: split ((cs.dropWhile isBracedChar).drop 1)
  | '$' :: cs =>
    -- the dollar sign alone is passed, so a second one may start a reference
    if (cs.takeWhile isNameChar).isEmpty then .dollar :: split cs
    else .bare (cs.takeWhile isNameChar) :: split (cs.dropWhile isNameChar)
  | c :: cs => .plain c :: split cs
termination_by cs => cs.length
decreasing_by
  · have := (List.dropWhile_sublist (l := cs) isBracedChar).length_le
    simp only [List.length_cons, List.length_drop]
    omega
  · simp
  · have := (List.dropWhile_sublist (l := cs) isNameChar).length_le
    simp only [List.length_cons]
    omega
  · simp

/-- The variable that a segment refers to. -/
def variableName? : Segment → Option String
  | .plain _ => none
  | .dollar => none
  | .bare name => some (String.ofList name)
  | .braced name => some (String.ofList name)

/-- What stands for a segment in the result, or the name of the variable that has no value. -/
def value (env : Environment) : Segment → Except String (List Char)
  | .plain c => .ok [c]
  | .dollar => .ok ['$']
  | .bare name => valueOf (String.ofList name)
  | .braced name => valueOf (String.ofList name)
where
  /-- The value of a variable. -/
  valueOf (name : String) : Except String (List Char) :=
    match env name with
    | some v => .ok v.toList
    | none => .error name

/-- The values of segments in a row, or the first name without a value. -/
def values (env : Environment) : List Segment → Except String (List Char)
  | [] => .ok []
  | s :: rest => do
    let here ← s.value env
    return here ++ (← values env rest)

end Segment

namespace Environment

/-- The text with the values of the variables it refers to, or the name of the first one that has
none. -/
def expand (env : Environment) (text : String) : Except String String :=
  (Segment.values env (Segment.split text.toList)).map String.ofList

/-- The names of the variables that a text refers to. -/
def namesIn (text : String) : List String :=
  (Segment.split text.toList).filterMap Segment.variableName?

end Environment

end VisualQuery
