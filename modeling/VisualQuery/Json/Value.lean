import VisualQuery.Json.Number

/-!
# JSON values

A value as a tree. The members of an object are a list: a record is written in the order of its
fields, while a free-form value kept in the model has its members in the order of their names, each
name once (`Json.sorted`). Two values are the same (`Json.same`) when they agree as data, where the
two zeros of the doubles are one number.
-/

namespace VisualQuery

/-- A JSON value. -/
inductive Json where
  /-- The value `null`. -/
  | null
  /-- A truth value. -/
  | bool (b : Bool)
  /-- A number. -/
  | number (n : Json.Number)
  /-- A text. -/
  | text (s : String)
  /-- A list of values. -/
  | array (elements : List Json)
  /-- Named members. -/
  | object (members : List (String × Json))

namespace Json

/-- A whole number as a value; one that does not fit a word becomes `null`. -/
def ofInt (n : Int) : Json :=
  match Whole.ofInt? n with
  | some w => .number (.whole w)
  | none => .null

/-- A natural number as a value. -/
def ofNat (n : Nat) : Json := ofInt n

/-- An optional value, with `null` for none. -/
def ofOption {α : Type} (f : α → Json) : Option α → Json
  | none => .null
  | some a => f a

/-- An optional text. -/
def ofText? : Option String → Json := ofOption .text

/-! ### Members in order -/

/-- Puts a member into a list that is sorted by name, in place of one with the same name. -/
def insertMember (name : String) (value : Json) : List (String × Json) → List (String × Json)
  | [] => [(name, value)]
  | (n, v) :: rest =>
    if name = n then (name, value) :: rest
    else if name < n then (name, value) :: (n, v) :: rest
    else (n, v) :: insertMember name value rest

mutual

/-- The value with the members of every object in the order of their names; of several members
with one name the last one stays. -/
def sorted : Json → Json
  | .array elements => .array (sortedElements elements)
  | .object members => .object (sortedMembers members [])
  | v => v

/-- Sorts the values of a list. -/
def sortedElements : List Json → List Json
  | [] => []
  | v :: rest => v.sorted :: sortedElements rest

/-- Moves members into a sorted list, one after the other. -/
def sortedMembers : List (String × Json) → (into : List (String × Json)) → List (String × Json)
  | [], into => into
  | (name, v) :: rest, into => sortedMembers rest (insertMember name v.sorted into)

end

/-! ### Sameness -/

mutual

/-- Whether two values agree as data. -/
def same : Json → Json → Bool
  | .null, .null => true
  | .bool a, .bool b => a == b
  | .number a, .number b => a.same b
  | .text a, .text b => a == b
  | .array a, .array b => sameElements a b
  | .object a, .object b => sameMembers a b
  | _, _ => false

/-- Whether two lists agree value by value. -/
def sameElements : List Json → List Json → Bool
  | [], [] => true
  | a :: as, b :: bs => a.same b && sameElements as bs
  | _, _ => false

/-- Whether two lists agree member by member. -/
def sameMembers : List (String × Json) → List (String × Json) → Bool
  | [], [] => true
  | (m, a) :: as, (n, b) :: bs => m == n && a.same b && sameMembers as bs
  | _, _ => false

end

/-! ### Access -/

/-- The member of an object with the given name; `null` if there is none. -/
def member (v : Json) (name : String) : Json :=
  match v with
  | .object members => (members.lookup name).getD .null
  | _ => .null

/-- Whether an object has a member with the given name. -/
def hasMember (v : Json) (name : String) : Bool :=
  match v with
  | .object members => members.any (·.1 == name)
  | _ => false

end Json

end VisualQuery
