import Mpango.Model.Tables
import Mathlib.Algebra.BigOperators.Group.List.Basic

/-!
# The account of an order

What the money side is for, without tables: an order has a status, a total, at most one credit
hold, and two lists of payments. Commands move it through a lifecycle, and each of them moves the
retailer's balance by a known number of cents.

`Account.Sound` is the shape an account has in each status, `Account.exposure` what the order
occupies of the retailer's credit. A step keeps the shape (`Step.sound`) and moves the exposure by
exactly the cents it moves the balance (`Step.exposure`). Amounts are in cents.
-/

namespace Mpango

/-- A credit hold, in cents. -/
structure Hold where
  status : HoldStatus
  amount : ℤ
  remaining : ℤ
  deriving DecidableEq

/-- An order's account: `tenders` are its cash and transfer payments, `credits` its credit
payments, in the order they were recorded. -/
structure Account where
  status : OrderState
  total : ℤ
  hold : Option Hold
  tenders : List ℤ
  credits : List ℤ
  deriving DecidableEq

namespace Account

/-! ## Shape -/

/-- The shape of an account, by its status. -/
def Shape (a : Account) : Prop :=
  match a.status with
  | .draft | .voided => a.hold = none ∧ a.tenders = [] ∧ a.credits = []
  | .confirmed =>
    a.hold = some ⟨.active, a.total, a.total⟩ ∧ a.tenders = [] ∧ a.credits = []
  | .partiallyPaid =>
    a.hold = some ⟨.active, a.total, a.total - a.tenders.sum⟩ ∧
      0 < a.total - a.tenders.sum ∧ a.total - a.tenders.sum < a.total ∧ a.credits = []
  | .paid | .fulfilled | .returned =>
    a.hold = some ⟨.settled, a.total, 0⟩ ∧ a.credits = [] ∧ a.tenders.sum = a.total ∨
    a.hold = some ⟨.converted, a.total, 0⟩ ∧ a.credits = [a.total] ∧
      0 ≤ a.tenders.sum ∧ a.tenders.sum ≤ a.total
  | .cancelled =>
    (a.hold = none ∨ a.hold = some ⟨.released, a.total, 0⟩) ∧ a.tenders = [] ∧ a.credits = []

/-- A sound account has its shape, payments are positive, and so is the total behind a hold. -/
structure Sound (a : Account) : Prop where
  shape : a.Shape
  tenders_pos : ∀ t ∈ a.tenders, 0 < t
  credits_pos : ∀ t ∈ a.credits, 0 < t
  total_pos : a.hold ≠ none → 0 < a.total

/-! ## Exposure -/

/-- What an active hold still reserves. -/
def held (a : Account) : ℤ :=
  match a.hold with
  | some ⟨.active, _, remaining⟩ => remaining
  | _ => 0

/-- What is left to collect on a credit sale. -/
def owed (a : Account) : ℤ := if a.credits = [] then 0 else a.credits.sum - a.tenders.sum

/-- What the order occupies of its retailer's balance. -/
def exposure (a : Account) : ℤ := a.held + a.owed

/-- The tenders the ledger shows: those of an order that was settled or sold. -/
def banked (a : Account) : ℤ :=
  if a.status = .paid ∨ a.status = .fulfilled ∨ a.status = .returned then a.tenders.sum else 0

/-- What the ledger shows as refunded. -/
def refunded (a : Account) : ℤ := if a.status = .returned then a.total else 0

theorem banked_of_paid {a : Account}
    (h : a.status = .paid ∨ a.status = .fulfilled ∨ a.status = .returned) :
    a.banked = a.tenders.sum := if_pos h

theorem banked_of_not_paid {a : Account}
    (h : ¬(a.status = .paid ∨ a.status = .fulfilled ∨ a.status = .returned)) : a.banked = 0 :=
  if_neg h

theorem refunded_of_returned {a : Account} (h : a.status = .returned) : a.refunded = a.total :=
  if_pos h

theorem refunded_of_not_returned {a : Account} (h : a.status ≠ .returned) : a.refunded = 0 :=
  if_neg h

/-! ## Steps -/

/-- One command on an order, with the cents it moves the balance by. -/
inductive Step : Account → ℤ → Account → Prop
  | drop {a : Account} (target : OrderState) :
      a.status = .draft → target = .cancelled ∨ target = .voided →
      Step a 0 { a with status := target }
  | reserve {a : Account} :
      a.status = .draft → 0 < a.total →
      Step a a.total { a with status := .confirmed, hold := some ⟨.active, a.total, a.total⟩ }
  | release {a : Account} :
      a.status = .confirmed → a.hold = some ⟨.active, a.total, a.total⟩ →
      Step a (-a.total) { a with status := .cancelled, hold := some ⟨.released, a.total, 0⟩ }
  | settlePart {a : Account} (cents : ℤ) :
      a.status = .confirmed ∨ a.status = .partiallyPaid →
      a.hold = some ⟨.active, a.total, a.total - a.tenders.sum⟩ →
      0 < cents → cents < a.total - a.tenders.sum →
      Step a (-cents) { a with
        status := .partiallyPaid
        hold := some ⟨.active, a.total, a.total - a.tenders.sum - cents⟩
        tenders := a.tenders ++ [cents] }
  | settleFull {a : Account} (cents : ℤ) :
      a.status = .confirmed ∨ a.status = .partiallyPaid →
      a.hold = some ⟨.active, a.total, a.total - a.tenders.sum⟩ →
      0 < cents → cents = a.total - a.tenders.sum →
      Step a (-cents) { a with
        status := .paid, hold := some ⟨.settled, a.total, 0⟩, tenders := a.tenders ++ [cents] }
  | sell {a : Account} :
      a.status = .confirmed ∨ a.status = .partiallyPaid →
      a.hold = some ⟨.active, a.total, a.total⟩ → a.tenders.sum = 0 → a.credits = [] →
      Step a 0 { a with
        status := .paid, hold := some ⟨.converted, a.total, 0⟩, credits := [a.total] }
  | collect {a : Account} (cents : ℤ) :
      a.status = .paid → a.hold = some ⟨.converted, a.total, 0⟩ →
      0 < cents → cents ≤ a.total - a.tenders.sum →
      Step a (-cents) { a with tenders := a.tenders ++ [cents] }
  | fulfil {a : Account} : a.status = .paid → Step a 0 { a with status := .fulfilled }
  | return {a : Account} : a.status = .fulfilled → Step a 0 { a with status := .returned }

variable {a a' : Account} {delta : ℤ}

theorem Step.total (h : Step a delta a') : a'.total = a.total := by
  cases h <;> rfl

/-- Positive payments that sum to nothing are no payments. -/
theorem Sound.tenders_eq_nil (ha : a.Sound) (h : a.tenders.sum = 0) : a.tenders = [] := by
  cases ht : a.tenders with
  | nil => rfl
  | cons t ts =>
    have hpos := ha.tenders_pos
    rw [ht] at h hpos
    have hts : 0 ≤ ts.sum :=
      List.sum_nonneg fun x hx => (hpos x (List.mem_cons_of_mem _ hx)).le
    have := hpos t List.mem_cons_self
    rw [List.sum_cons] at h
    omega

theorem Sound.tenders_nonneg (ha : a.Sound) : 0 ≤ a.tenders.sum :=
  List.sum_nonneg fun x hx => (ha.tenders_pos x hx).le

/-- An account that still reserves has sold nothing on credit. -/
theorem Sound.credits_of_active {amount remaining : ℤ} (ha : a.Sound)
    (h : a.hold = some ⟨.active, amount, remaining⟩) : a.credits = [] := by
  have hs := ha.shape
  unfold Shape at hs
  split at hs <;> simp_all

/-- A step keeps the shape of every status. -/
theorem Step.shape (ha : a.Sound) (h : Step a delta a') : a'.Shape := by
  have hs := ha.shape
  have hnn := ha.tenders_nonneg
  cases h with
  | drop target hst ht =>
    simp only [Shape, hst] at hs
    rcases ht with rfl | rfl
    · exact ⟨.inl hs.1, hs.2⟩
    · exact hs
  | reserve hst hT =>
    simp only [Shape, hst] at hs
    exact ⟨rfl, hs.2⟩
  | release hst hh =>
    simp only [Shape, hst] at hs
    exact ⟨.inr rfl, hs.2⟩
  | settlePart cents hst hh hpos hlt =>
    simp only [Shape, List.sum_append, List.sum_singleton]
    refine ⟨?_, by omega, by omega, ha.credits_of_active hh⟩
    rw [Option.some.injEq, Hold.mk.injEq]
    exact ⟨rfl, rfl, by omega⟩
  | settleFull cents hst hh hpos heq =>
    refine .inl ⟨rfl, ha.credits_of_active hh, ?_⟩
    rw [List.sum_append, List.sum_singleton]
    exact heq ▸ add_sub_cancel a.tenders.sum a.total
  | sell hst hh hts hcr =>
    have hT := ha.total_pos (by simp [hh])
    exact .inr ⟨rfl, rfl, hts.ge, hts.trans_le hT.le⟩
  | collect cents hst hh hpos hle =>
    simp only [Shape, hst, hh, List.sum_append, List.sum_singleton] at hs ⊢
    obtain ⟨hbad, -⟩ | ⟨-, hcr, -, -⟩ := hs
    · simp at hbad
    · exact .inr ⟨trivial, hcr, by omega, by omega⟩
  | fulfil hst =>
    simp only [Shape, hst] at hs
    exact hs
  | «return» hst =>
    simp only [Shape, hst] at hs
    exact hs

/-- A step keeps an account sound. -/
theorem Step.sound (ha : a.Sound) (h : Step a delta a') : a'.Sound := by
  refine ⟨h.shape ha, ?_, ?_, ?_⟩
  · cases h with
    | settlePart cents _ _ hpos _ | settleFull cents _ _ hpos _ | collect cents _ _ hpos _ =>
      intro t ht
      rcases List.mem_append.mp ht with ht | ht
      · exact ha.tenders_pos t ht
      · exact List.mem_singleton.mp ht ▸ hpos
    | _ => exact ha.tenders_pos
  · cases h with
    | sell hst hh _ _ =>
      intro t ht
      exact List.mem_singleton.mp ht ▸ ha.total_pos (by simp [hh])
    | _ => exact ha.credits_pos
  · cases h with
    | reserve _ hT => exact fun _ => hT
    | release _ hh | settlePart _ _ hh _ _ | settleFull _ _ hh _ _ | sell _ hh _ _ =>
      exact fun _ => ha.total_pos (by simp [hh])
    | _ => exact ha.total_pos

/-- A step moves the exposure by exactly the cents it moves the balance. -/
theorem Step.exposure (ha : a.Sound) (h : Step a delta a') :
    a'.exposure = a.exposure + delta := by
  have hs := ha.shape
  cases h with
  | drop target hst ht => simp only [Account.exposure, held, owed, add_zero]
  | reserve hst hT =>
    simp only [Shape, hst] at hs
    simp [Account.exposure, held, owed, hs]
  | release hst hh =>
    simp only [Shape, hst] at hs
    simp [Account.exposure, held, owed, hs]
  | settlePart cents hst hh hpos hlt =>
    simp only [Account.exposure, held, owed, hh, ha.credits_of_active hh, if_true]
    omega
  | settleFull cents hst hh hpos heq =>
    simp only [Account.exposure, held, owed, hh, ha.credits_of_active hh, if_true]
    omega
  | sell hst hh hts hcr =>
    simp [Account.exposure, held, owed, hh, hcr, hts]
  | collect cents hst hh hpos hle =>
    simp only [Shape, hst, hh] at hs
    obtain ⟨hbad, -⟩ | ⟨-, hcr, -, -⟩ := hs
    · simp at hbad
    · simp only [Account.exposure, held, owed, hh, hcr, List.sum_append, List.sum_singleton]
      simp only [reduceCtorEq, if_false]
      omega
  | fulfil hst => simp only [Account.exposure, held, owed, add_zero]
  | «return» hst => simp only [Account.exposure, held, owed, add_zero]

/-- No sound account has a negative exposure, nor a negative part of one. -/
theorem Sound.held_nonneg (ha : a.Sound) : 0 ≤ a.held := by
  have hs := ha.shape
  unfold held
  split
  · next hh =>
    have hT := ha.total_pos (by simp [hh])
    unfold Shape at hs
    split at hs <;> simp_all <;> omega
  · exact le_rfl

theorem Sound.owed_nonneg (ha : a.Sound) : 0 ≤ a.owed := by
  have hs := ha.shape
  unfold owed
  split
  · exact le_rfl
  · next hcr =>
    unfold Shape at hs
    split at hs <;> simp_all

theorem Sound.exposure_nonneg (ha : a.Sound) : 0 ≤ a.exposure :=
  add_nonneg ha.held_nonneg ha.owed_nonneg

end Account

end Mpango
