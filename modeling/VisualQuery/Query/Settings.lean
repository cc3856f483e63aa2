import VisualQuery.Query.Tables
import VisualQuery.Sql.Statement

/-!
# Changes to the query as a whole

The settings of a query are set one by one; a setting that has the value already is left alone, and
nothing is announced. A text may take the place of the generated statement; a text that equals the
statement takes no place.

Resetting a query removes the tables, restores the constants and clears the settings that shape the
statement, as one compound edit.
-/

namespace VisualQuery.Query

open Change

/-- Sets a setting, unless it has the value already. -/
def setSetting {β : Type} [DecidableEq β] (property : Property) (read : Query → β)
    (write : β → Query → Query) (show' : β → PropertyValue) (new : β) : Change Unit := do
  let q ← get
  let old := read q
  if old = new then return
  modify (write new)
  announce (.queryChanged ⟨q.id, property, show' old, show' new⟩)

/-- Sets the name. -/
def setName (name : String) : Change Unit :=
  setSetting .name (·.name) (fun name q => { q with name }) (fun s => .text (some s)) name

/-- Sets the filter of the query as a whole; a blank one is none. -/
def setGlobalWhere (text : Option String) : Change Unit :=
  setSetting .globalWhere (·.globalWhere) (fun globalWhere q => { q with globalWhere }) .text
    (Text.nonBlank text)

/-- Sets whether the query groups its rows. -/
def setGrouping (on : Bool) : Change Unit :=
  setSetting .groupingEnabled (·.grouping) (fun grouping q => { q with grouping }) .bool on

/-- Sets how many rows are fetched at most. -/
def setRowLimit (limit : UInt64) : Change Unit :=
  setSetting .rowLimit (·.rowLimit) (fun rowLimit q => { q with rowLimit })
    (fun n => .ofNat n.toNat) limit

/-- Sets how many rows are fetched at most while streaming. -/
def setStreamingRowLimit (limit : UInt64) : Change Unit :=
  setSetting .streamingRowLimit (·.streamingRowLimit)
    (fun streamingRowLimit q => { q with streamingRowLimit }) (fun n => .ofNat n.toNat) limit

/-- Sets whether rows are streamed. -/
def setStreaming (on : Bool) : Change Unit :=
  setSetting .streaming (·.streaming) (fun streaming q => { q with streaming }) .bool on

/-- Sets the zoom level. -/
def setZoom (zoom : Int32) : Change Unit :=
  setSetting .zoomLevel (·.zoom) (fun zoom q => { q with zoom })
    (fun n => .integer (some n.toInt)) zoom

/-- Attaches the query to a data source, or detaches it. -/
def setSource (source : Option DataSource) : Change Unit :=
  modify fun q => { q with source }

/-! ### The text in place of the statement -/

/-- Removes the text that replaces the statement. -/
def clearOverride : Change Unit :=
  setSetting .userOverride (·.userOverride) (fun userOverride q => { q with userOverride }) .text
    none

/-- Replaces the statement by a text; the statement itself replaces nothing. -/
def defineOverride (text : String) : Change Unit := do
  let q ← get
  if text = q.generateStructural q.style then clearOverride
  else
    setSetting .userOverride (·.userOverride) (fun userOverride q => { q with userOverride }) .text
      (some text)

/-! ### Resetting -/

/-- Removes the tables with the given identities; a table that cannot be removed stays. -/
def detachTables : List ContainerId → Change Unit
  | [] => pure ()
  | id :: ids => do
    let _ ← attempt (detachTable id)
    detachTables ids

/-- Removes items, one after the other. -/
def detachItems : List ItemId → Change Unit
  | [] => pure ()
  | id :: ids => do
    let _ ← detachItem id
    detachItems ids

/-- Announces items of a container as added, one after the other, and lists them in the index. -/
def enterItems (c : ContainerId) : List ItemId → Change Unit
  | [] => pure ()
  | id :: ids => do
    modify fun q => { q with itemIndex := q.itemIndex.set id c }
    announce (.itemAdded c id)
    enterItems c ids

/-- Removes all constants and adds the built-in ones under fresh identities. -/
def resetConstants (ids : BuiltinIds) : Change Unit := do
  detachItems ((← get).constants.items.map (·.id))
  modify fun q =>
    { q with constants := { q.constants with items := Container.builtins ids }.adopt }
  enterItems (← get).constants.id ids.toList

/-- Removes the tables, restores the constants and clears the settings that shape the
statement. -/
def reset (ids : BuiltinIds) : Change Unit :=
  asCompoundEdit "Resetting query" do
    detachTables (← get).tableIds
    -- the settings are cleared whatever becomes of the tables and the constants
    let _ ← attempt (resetConstants ids)
    setGlobalWhere none
    setGrouping false
    clearOverride
    setZoom 0

end VisualQuery.Query
