import QueryDesk.Engine

/-!
# Scripted engines

An engine without tables. It accepts everything, but for the one kind of request that its script
lets fail, and answers the next query with the results that the script holds ready.
-/

set_option autoImplicit false

namespace QueryDesk

inductive CallKind where
  | execute | query | insertRows
  deriving DecidableEq, Repr

structure Script where
  /-- The kind of request that fails, and with what reason. -/
  failing : Option (CallKind × Text)
  results : List ResultSet
  deriving DecidableEq, Repr

namespace Script

/-- Fails if the script says so. -/
def pass (kind : CallKind) : Action Script Unit := do
  match (← get).failing with
  | some (k, reason) => if k = kind then throw (.engine reason)
  | none => return

def engine : Engine Script where
  execute _ := pass .execute
  query _ := do
    pass .query
    let results := (← get).results
    modify fun s => { s with results := [] }
    return results
  insertRows _ rows := do
    pass .insertRows
    return rows.length

end Script

end QueryDesk
