import VisualQuery.Query.Change

/-!
# Compound edits

Several changes can be bracketed as one compound edit. Compound edits nest, but only the outermost
one is announced: its start and its end, and behind the end, if a change was announced in between,
that the query may be run.
-/

namespace VisualQuery.Query

open Change

/-- Starts a compound edit. -/
def startCompoundEdit (message : String) : Change Unit := do
  let q ← get
  if q.compoundDepth = 0 then
    modify fun q => { q with compoundDepth := 1, compoundMessage := message, pending := false }
    announce (.compoundStarted message)
  else
    -- an inner compound edit keeps the message of the outermost one
    modify fun q => { q with compoundDepth := q.compoundDepth + 1 }

/-- Ends the compound edit that was started last. -/
def finishCompoundEdit : Change Unit := do
  modify fun q => { q with compoundDepth := q.compoundDepth - 1 }
  let q ← get
  if q.compoundDepth = 0 then
    -- the query is out of the edit before the listeners hear of the end
    modify fun q => { q with compoundMessage := "" }
    announce (.compoundEnded q.compoundMessage)
    let due := (← get).pending
    modify fun q => { q with pending := false }
    if due then announce .canExecute

/-- Ends a compound edit, if one is open. -/
def endCompoundEdit : Change Unit := do
  if (← get).compoundDepth = 0 then refuse .unbalancedCompoundEdit
  finishCompoundEdit

/-- Makes a change as a compound edit, which is ended even if the change is refused. -/
def asCompoundEdit {α : Type} (message : String) (m : Change α) : Change α := do
  startCompoundEdit message
  let result ← attempt m
  finishCompoundEdit
  conclude result

end VisualQuery.Query
