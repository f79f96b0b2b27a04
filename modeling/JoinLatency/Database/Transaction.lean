import JoinLatency.Database.Fault

/-! Transactions on a state of any kind. Changes go to the open transaction if there is one; it
ends by taking its state over or by dropping it. At most one transaction is open.
-/

namespace JoinLatency.Database

/-- A committed state, and that of the open transaction. -/
structure Transaction (D : Type) where
  committed : D
  working : Option D := none
  deriving Repr, Inhabited

namespace Transaction

variable {D : Type}

/-- The state that statements see. -/
def current (transaction : Transaction D) : D :=
  transaction.working.getD transaction.committed

/-- Whether a transaction is open. -/
def isOpen (transaction : Transaction D) : Bool :=
  transaction.working.isSome

/-- The effect of a change. -/
def change (transaction : Transaction D) (state : D) : Transaction D :=
  if transaction.isOpen then { transaction with working := some state }
  else { transaction with committed := state }

/-- The start of a transaction. -/
def start (transaction : Transaction D) : Except Fault (Transaction D) :=
  if transaction.isOpen then .error .transactionOpen
  else .ok { transaction with working := some transaction.committed }

/-- The end of a transaction that takes its state over. -/
def commit (transaction : Transaction D) : Except Fault (Transaction D) :=
  match transaction.working with
  | some state => .ok { committed := state }
  | none => .error .noTransaction

/-- The end of a transaction that drops its state. -/
def rollback (transaction : Transaction D) : Except Fault (Transaction D) :=
  if transaction.isOpen then .ok { committed := transaction.committed }
  else .error .noTransaction

/-- A change neither opens nor ends a transaction. -/
@[simp] theorem isOpen_change (transaction : Transaction D) (state : D)
    : (transaction.change state).isOpen = transaction.isOpen := by
  cases h : transaction.working <;> simp [change, isOpen, h]

/-- Changes inside a transaction leave the committed state alone. -/
theorem committed_change {transaction : Transaction D} (h : transaction.isOpen) (state : D)
    : (transaction.change state).committed = transaction.committed := by
  simp [change, h]

end Transaction

end JoinLatency.Database
