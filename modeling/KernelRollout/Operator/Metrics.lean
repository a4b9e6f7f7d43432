import KernelRollout.Dict

namespace KernelRollout

-- How a pass ended.
inductive PassResult where
  | done
  | requeue
  | wait
  | invalidConfig
  | error
deriving DecidableEq, Repr

namespace PassResult

def label : PassResult → String
  | done          => "done"
  | requeue       => "requeue"
  | wait          => "wait"
  | invalidConfig => "invalid_config"
  | error         => "error"

end PassResult

-- What was done to a node or a pod while draining.
inductive DrainAction where
  | removeReady
  | evict
  | removeSfc
  | removeLoader
deriving DecidableEq, Repr

namespace DrainAction

def label : DrainAction → String
  | removeReady  => "remove_ready"
  | evict        => "evict"
  | removeSfc    => "remove_sfc"
  | removeLoader => "remove_loader"

end DrainAction

-- Counts by label. A counter that was never raised is not there.
abbrev Counts := Dict String Nat

def Counts.raise (c : Counts) (label : String) : Counts :=
  c.insert label ((c.get? label).getD 0 + 1)

structure Metrics where
  passes : Counts := .empty
  drains : Counts := .empty
deriving Inhabited

namespace Metrics

def recordPass (m : Metrics) (r : PassResult) : Metrics := { m with passes := m.passes.raise r.label }

def recordDrain (m : Metrics) (a : DrainAction) : Metrics := { m with drains := m.drains.raise a.label }

def passCount (m : Metrics) (r : PassResult) : Nat := (m.passes.get? r.label).getD 0

def drainCount (m : Metrics) (a : DrainAction) : Nat := (m.drains.get? a.label).getD 0

def familyText (name help label : String) (counts : Counts) : String :=
  if counts.size = 0 then ""
  else
    "# HELP " ++ name ++ " " ++ help ++ "\n# TYPE " ++ name ++ " counter\n" ++
      String.join (counts.toList.map fun (value, n) =>
        name ++ "\x7b" ++ label ++ "=\"" ++ value ++ "\"\x7d " ++ toString n ++ "\n")

-- Families in the order of their names.
def text (m : Metrics) : String :=
  familyText "onload_drain_actions_total" "Drain steps taken on upgrading nodes" "action" m.drains ++
  familyText "onload_reconcile_total" "Reconciliation passes by outcome" "outcome" m.passes

theorem passCount_recordPass_self (m : Metrics) (r : PassResult) :
    (m.recordPass r).passCount r = m.passCount r + 1 := by
  simp [recordPass, passCount, Counts.raise]

theorem passCount_recordPass_other (m : Metrics) {r r' : PassResult} (h : r' ≠ r) :
    (m.recordPass r).passCount r' = m.passCount r' := by
  have : r'.label ≠ r.label := by revert h; cases r <;> cases r' <;> decide
  simp [recordPass, passCount, Counts.raise, Dict.get?_insert_other _ _ this]

theorem drainCount_recordDrain_self (m : Metrics) (a : DrainAction) :
    (m.recordDrain a).drainCount a = m.drainCount a + 1 := by
  simp [recordDrain, drainCount, Counts.raise]

theorem drainCount_recordDrain_other (m : Metrics) {a a' : DrainAction} (h : a' ≠ a) :
    (m.recordDrain a).drainCount a' = m.drainCount a' := by
  have : a'.label ≠ a.label := by revert h; cases a <;> cases a' <;> decide
  simp [recordDrain, drainCount, Counts.raise, Dict.get?_insert_other _ _ this]

end Metrics

end KernelRollout
