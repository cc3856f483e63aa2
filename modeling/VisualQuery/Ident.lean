import VisualQuery.Uuid

/-!
# Identities of model objects

Items, containers, joins and queries each have an identity of their own kind, so that an item is
never looked up where a container is meant. In messages an identity is shown with the word for its
kind in front.
-/

namespace VisualQuery

/-- The identity of an item. -/
structure ItemId where
  /-- The identifier. -/
  uuid : Uuid
deriving DecidableEq, Repr, Inhabited

/-- The identity of a container. -/
structure ContainerId where
  /-- The identifier. -/
  uuid : Uuid
deriving DecidableEq, Repr, Inhabited

/-- The identity of a join. -/
structure JoinId where
  /-- The identifier. -/
  uuid : Uuid
deriving DecidableEq, Repr, Inhabited

/-- The identity of a query. -/
structure QueryId where
  /-- The identifier. -/
  uuid : Uuid
deriving DecidableEq, Repr, Inhabited

/-- An item's identity as it stands in messages. -/
def ItemId.label (id : ItemId) : String := "item-" ++ id.uuid.toText

/-- A container's identity as it stands in messages. -/
def ContainerId.label (id : ContainerId) : String := "container-" ++ id.uuid.toText

/-- A join's identity as it stands in messages. -/
def JoinId.label (id : JoinId) : String := "join-" ++ id.uuid.toText

/-- Draws a fresh identity for an item. -/
def ItemId.mint : Minting ItemId := ItemId.mk <$> VisualQuery.mint

/-- Draws a fresh identity for a container. -/
def ContainerId.mint : Minting ContainerId := ContainerId.mk <$> VisualQuery.mint

/-- Draws a fresh identity for a join. -/
def JoinId.mint : Minting JoinId := JoinId.mk <$> VisualQuery.mint

/-- Draws a fresh identity for a query. -/
def QueryId.mint : Minting QueryId := QueryId.mk <$> VisualQuery.mint

end VisualQuery
