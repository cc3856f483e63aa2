import VisualQuery.Text.Hexadecimal

/-!
# Universally unique identifiers

A UUID is a word of 128 bits. It is written as 32 lower-case hexadecimal digits in groups of 8, 4,
4, 4 and 12. Four spellings are read, in either letter case: the digits alone, in groups, in groups
between braces, and in groups behind `urn:uuid:`.

Fresh identifiers come from an `IdSupply`: a sequence and a place in it. Nothing is said here about
the sequence; that its members differ is a hypothesis of the theorems that need it.
-/

namespace VisualQuery

/-- A universally unique identifier. -/
structure Uuid where
  /-- The 128 bits. -/
  bits : BitVec 128
deriving DecidableEq, Repr, Inhabited

namespace Uuid

/-- The identifier with the given number, modulo `2^128`. -/
def ofNat (n : Nat) : Uuid := ⟨BitVec.ofNat 128 n⟩

/-- The number of an identifier. -/
def toNat (u : Uuid) : Nat := u.bits.toNat

/-- The text of an identifier: five groups of digits between hyphens. -/
def text (u : Uuid) : List Char :=
  let ds := Text.hexDigits 32 u.toNat
  ds.take 8 ++ '-' :: (ds.drop 8).take 4 ++ '-' :: (ds.drop 12).take 4 ++
    '-' :: (ds.drop 16).take 4 ++ '-' :: ds.drop 20

/-- The identifier with the given 32 digits. -/
def ofDigits? (cs : List Char) : Option Uuid :=
  if cs.length = 32 then (Text.ofHexDigits? cs).map ofNat else none

/-- The digits of five groups between hyphens. -/
def ungroup? (cs : List Char) : Option (List Char) :=
  if cs.length = 36 ∧ cs[8]? = some '-' ∧ cs[13]? = some '-' ∧ cs[18]? = some '-' ∧
      cs[23]? = some '-' then
    some (cs.take 8 ++ (cs.drop 9).take 4 ++ (cs.drop 14).take 4 ++ (cs.drop 19).take 4 ++
      cs.drop 24)
  else none

/-- The identifier with the given groups of digits. -/
def ofGroups? (cs : List Char) : Option Uuid := (ungroup? cs).bind ofDigits?

/-- The word that may stand before the groups, in lower case. -/
def urn : List Char := ['u', 'r', 'n', ':', 'u', 'u', 'i', 'd', ':']

/-- Reads an identifier in one of its four spellings; their lengths differ. -/
def ofText? (cs : List Char) : Option Uuid :=
  if cs.length = 32 then ofDigits? cs
  else if cs.length = 36 then ofGroups? cs
  else if cs.length = 38 ∧ cs.head? = some '\x7b' ∧ cs[37]? = some '\x7d' then
    ofGroups? ((cs.drop 1).take 36)
  else if cs.length = 45 ∧ (cs.take 9).map Char.toLower = urn then ofGroups? (cs.drop 9)
  else none

/-- The text of an identifier as a string. -/
def toText (u : Uuid) : String := String.ofList u.text

/-- The identifier of version 4 whose 122 free bits are those of the number. -/
def ofFreeBits (n : Nat) : Uuid :=
  let low := n % 0x4000000000000000
  let middle := n / 0x4000000000000000 % 0x1000
  let high := n / 0x4000000000000000 / 0x1000 % 0x1000000000000
  ofNat (((((high * 0x10 + 4) * 0x1000 + middle) * 4) + 2) * 0x4000000000000000 + low)

end Uuid

/-- A sequence of identifiers and a place in it, from which fresh identifiers are drawn. -/
structure IdSupply where
  /-- The sequence. -/
  sequence : Nat → Uuid
  /-- The place of the next identifier. -/
  next : Nat

/-- The identifiers of version 4 that follow a number. -/
def IdSupply.after (seed : Nat) : IdSupply := ⟨fun n => .ofFreeBits (seed + n), 0⟩

/-- A computation that draws fresh identifiers. -/
abbrev Minting (α : Type) := StateM IdSupply α

/-- Draws a fresh identifier. -/
def mint : Minting Uuid := fun s => (s.sequence s.next, { s with next := s.next + 1 })

end VisualQuery
