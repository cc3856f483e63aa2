import VisualQuery.Json.Reader

/-!
# Reading records

A record is read from an object with one member per field, or from a list with one element per
field, in the order of the fields. A field that is missing keeps the value of a blank record, unless
it is required; a member that is no field is skipped; a member that comes twice is a mismatch, which
is noticed before its value is read.
-/

namespace VisualQuery.Json

/-- A field of a record. -/
structure RecordField (σ : Type) where
  /-- The name of the member. -/
  name : String
  /-- Whether the field has to be there. -/
  required : Bool
  /-- Reads the value, nested at most so deep, into the record. -/
  read : (depth : Nat) → σ → Reader σ

namespace Reader

variable {α σ : Type}

/-! ### Values of one shape -/

/-- A text. -/
def text : Reader String := do
  match ← peek with
  | some '"' => advance; textBody
  | _ => mismatch

/-- A truth value. -/
def bool : Reader Bool := do
  match ← peek with
  | some 't' => advance; expectWord ['r', 'u', 'e']; return true
  | some 'f' => advance; expectWord ['a', 'l', 's', 'e']; return false
  | _ => mismatch

/-- The value `null`, or a value of the given shape. -/
def nullable (inner : Reader α) : Reader (Option α) := do
  match ← peek with
  | some 'n' => advance; expectWord ['u', 'l', 'l']; return none
  | _ => return some (← inner)

/-- A whole number from `low` up to, but not including, `high`. -/
def wholeIn (low high : Int) : Reader Int := do
  match ← peek with
  | some c =>
    if c = '-' ∨ Decimal.isDigit c = true then
      match ← number with
      | .whole n => if low ≤ n.val ∧ n.val < high then return n.val else throw .mismatched
      | .double _ => throw .mismatched
    else mismatch
  | none => mismatch

/-- A text of which `parse` makes a value. -/
def parsed (parse : String → Option α) : Reader α := do
  match parse (← text) with
  | some a => return a
  | none => throw .mismatched

/-- The name of a member, of which `parse` makes a value. -/
def memberName (parse : String → Option α) : Reader α := do
  match ← peek with
  | some '"' => parsed parse
  | some _ => throw .malformed
  | none => throw .truncated

/-- One of a few words; or an object whose only member has the word for its name and the value
`null`. Where a word is due, only the start of a text or of an object is not malformed, and in the
object only the start of a text. -/
def word (table : List (String × α)) (depth : Nat) : Reader α := do
  match ← peek with
  | none => throw .truncated
  | some c =>
    if c = '"' then parsed fun s => List.lookup s table
    else if c = '\x7b' then
      if depth = 0 then throw .malformed
      advance
      let a ← memberName fun s => List.lookup s table
      colon
      match ← peek with
      | some 'n' => advance; expectWord ['u', 'l', 'l']
      | _ => mismatch
      endObject
      return a
    else throw .malformed

/-- A list of values. -/
def list (inner : (depth : Nat) → Reader α) (depth : Nat) : Reader (List α) := do
  match ← peek with
  | some '[' =>
    match depth with
    | 0 => throw .malformed
    | depth + 1 => advance; elements (inner depth)
  | _ => mismatch

/-! ### Records -/

/-- A record under construction, and the names of the fields it has. -/
structure Draft (σ : Type) where
  /-- The record. -/
  record : σ
  /-- The names of the fields that were read. -/
  seen : List String

/-- Reads what follows the name of a member. -/
def member (fields : List (RecordField σ)) (depth : Nat) (name : String) (d : Draft σ) :
    Reader (Draft σ) := do
  match fields.find? (·.name = name) with
  | none =>
    colon
    skip
    return d
  | some f =>
    if name ∈ d.seen then throw .mismatched
    colon
    return ⟨← f.read depth d.record, name :: d.seen⟩

/-- Reads the elements of a list into the fields in their order. -/
def inOrder (depth : Nat) : (first : Bool) → List (RecordField σ) → Draft σ → Reader (Draft σ)
  | _, [], d => return d
  | first, f :: fields, d => do
    if ← nextElement first then
      inOrder depth false fields ⟨← f.read depth d.record, f.name :: d.seen⟩
    else return d

/-- The record, if every required field was read. -/
def complete (fields : List (RecordField σ)) (d : Draft σ) : Reader σ :=
  if fields.all fun f => !f.required || d.seen.contains f.name then return d.record
  else throw .mismatched

/-- A record with the given fields, from a blank one. -/
def record (fields : List (RecordField σ)) (blank : σ) : (depth : Nat) → Reader σ
  | depth => do
    match ← peek, depth with
    | some '\x7b', depth + 1 =>
      advance
      let r ← complete fields (← foldMembers (member fields depth) ⟨blank, []⟩)
      endObject
      return r
    | some '[', depth + 1 =>
      advance
      let r ← complete fields (← inOrder depth true fields ⟨blank, []⟩)
      endList
      return r
    | some '\x7b', 0 => throw .malformed
    | some '[', 0 => throw .malformed
    | _, _ => mismatch

end Reader

/-- A field whose value does not depend on the depth. -/
def RecordField.flat {α σ : Type} (name : String) (required : Bool) (reader : Reader α)
    (set : α → σ → σ) : RecordField σ :=
  ⟨name, required, fun _ r => return set (← reader) r⟩

/-- A field whose value may be nested. -/
def RecordField.nested {α σ : Type} (name : String) (required : Bool) (reader : Nat → Reader α)
    (set : α → σ → σ) : RecordField σ :=
  ⟨name, required, fun depth r => return set (← reader depth) r⟩

end VisualQuery.Json
