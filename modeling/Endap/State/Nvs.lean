/-!
# Writes to non-volatile storage

A component writes one value under one key in a transaction: it opens the
namespace, sets or erases the key and commits.  Each of the three calls may
fail.  After a failed commit the flash may hold the old or the new value; the
driver does not say which, so both are outcomes.

A transaction reports success when all three calls succeed.  Whether the new
value is in the flash afterwards is a different question.
-/

namespace Endap.State

/-- What happens to one write transaction. -/
inductive NvsOutcome where
  | openFailed
  | writeFailed
  | commitFailed (stored : Bool)
  | committed
deriving DecidableEq

def NvsOutcome.succeeds : NvsOutcome → Bool
  | .openFailed => false
  | .writeFailed => false
  | .commitFailed _ => false
  | .committed => true

/-- The new value is in the flash after the transaction. -/
def NvsOutcome.lands : NvsOutcome → Bool
  | .openFailed => false
  | .writeFailed => false
  | .commitFailed stored => stored
  | .committed => true

/-- The value in the flash after the transaction. -/
def nvsWrite {Value : Type} (outcome : NvsOutcome) (old new : Value) :
    Value :=
  if outcome.lands then new else old

theorem nvsWrite_of_succeeds
    {Value : Type} {outcome : NvsOutcome}
    (success : outcome.succeeds = true) (old new : Value) :
    nvsWrite outcome old new = new := by
  cases outcome with
  | committed => rfl
  | _ => cases success

end Endap.State
