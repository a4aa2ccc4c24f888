import Mathlib.Data.List.Basic
import Mathlib.Tactic

/-!
# The order state machine

`core/domain/order_state.py`: the states of an order and the matrix of legal transitions.
`DRAFT` may be confirmed, cancelled or voided; a confirmed order is paid, in one payment or in
several; a paid order is fulfilled, and a fulfilled one may be returned.
-/

namespace Mpango

/-- The state of an order. -/
inductive OrderState
  | draft | confirmed | partiallyPaid | paid | fulfilled | cancelled | voided | returned
  deriving DecidableEq, Repr

namespace OrderState

/-- The stored spelling of a state. -/
def value : OrderState → String
  | draft => "draft"
  | confirmed => "confirmed"
  | partiallyPaid => "partially_paid"
  | paid => "paid"
  | fulfilled => "fulfilled"
  | cancelled => "cancelled"
  | voided => "voided"
  | returned => "returned"

/-- `STATE_TRANSITION_MATRIX`. -/
def stateTransitionMatrix : OrderState → List OrderState
  | draft => [confirmed, cancelled, voided]
  | confirmed => [paid, partiallyPaid, cancelled]
  | partiallyPaid => [paid, cancelled]
  | paid => [fulfilled, cancelled]
  | fulfilled => [returned]
  | returned => []
  | cancelled => []
  | voided => []

/-- `is_valid_transition`. -/
def isValidTransition (fromState toState : OrderState) : Bool :=
  toState ∈ fromState.stateTransitionMatrix

/-- `is_terminal_state`. -/
def isTerminalState (state : OrderState) : Bool := state.stateTransitionMatrix.length = 0

/-- `COMMAND_OWNED_TARGETS`: the states the generic transition may not write. -/
def commandOwnedTargets : List OrderState :=
  [confirmed, cancelled, paid, partiallyPaid, fulfilled, returned]

/-- The only state the generic transition can reach from anywhere is `VOIDED`. -/
theorem isValidTransition_of_not_commandOwned {s t : OrderState} (ht : t ∉ commandOwnedTargets) :
    isValidTransition s t = true ↔ s = draft ∧ t = voided := by
  cases s <;> cases t <;> revert ht <;> decide

/-- Which state each target can be entered from. -/
theorem isValidTransition_iff {s t : OrderState} : isValidTransition s t = true ↔
    match t with
    | draft => False
    | confirmed | voided => s = draft
    | cancelled => s = draft ∨ s = confirmed ∨ s = partiallyPaid ∨ s = paid
    | partiallyPaid => s = confirmed
    | paid => s = confirmed ∨ s = partiallyPaid
    | fulfilled => s = paid
    | returned => s = fulfilled := by
  cases s <;> cases t <;> decide

end OrderState

end Mpango
