import Mpango.Library.JoinedFields
import Mpango.Model.IncidentCloseouts

/-!
# Dedup digests

The dedup digests of the operator tasks and of the incident closeouts are taken of texts joined with
bars. Nothing keeps a bar out of a tenant, a linked id, a correlation or the id of a closeout, so
events of two tenants can have one digest; the digest of a task leaves the correlation out. Each of
the three digests tells two events apart exactly when no bar moves from one field to another, no
field is missing in one and empty in the other, and what the digest leaves out agrees.
-/

namespace Mpango

open JoinedFields

variable {env : Primitives}

/-- The bars of a text. -/
abbrev bars (s : String) : ℕ := seps '|' s

/-- The texts between the bars once the parts are joined. -/
abbrev barPieces (parts : List String) : List (List Char) := textPieces '|' parts

theorem barJoin_inj {p q : String} {ps qs : List String} :
    barJoin (p :: ps) = barJoin (q :: qs) ↔ barPieces (p :: ps) = barPieces (q :: qs) :=
  join_inj '|'

theorem barSeparated_iff {fs gs : List (Option String)} (hfs : fs ≠ []) (hgs : gs ≠ []) :
    Separated '|' fs gs ↔ (barJoin (texts fs) = barJoin (texts gs) → fs = gs) :=
  separated_iff '|' hfs hgs

namespace Operator

/-! ## Operator tasks -/

inductive LinkKind
  | execution
  | approval
  | action
  | incident
  | sourceRef
  deriving DecidableEq

namespace IntakeEvent

variable {e e' : IntakeEvent}

/-- The links of an event, the most specific first. -/
def links (e : IntakeEvent) : List (LinkKind × String) :=
  [(.execution, orEmpty e.linkedExecutionId), (.approval, orEmpty e.linkedApprovalId),
    (.action, orEmpty e.linkedActionId), (.incident, orEmpty e.linkedIncidentId),
    (.sourceRef, orEmpty e.linkedSourceRef)]

/-- The object an event is about: its most specific link. -/
def linkedObject (e : IntakeEvent) : Option (LinkKind × String) := e.links.find? (·.2 ≠ "")

theorem firstLinkedId_eq (e : IntakeEvent) : e.firstLinkedId = e.linkedObject.map Prod.snd := by
  have hlinks : e.firstLinkedId = (e.links.map Prod.snd).find? (· ≠ "") := rfl
  rw [hlinks, List.find?_map]
  rfl

/-- The parts of the dedup key. -/
def keyParts (e : IntakeEvent) : List String :=
  [e.taskType.text, orEmpty e.firstLinkedId, orEmpty e.tenantId,
    orEmpty (e.sourceStatus.map (·.text)),
    if isAbsent e.followupVariant then e.taskType.text else orEmpty e.followupVariant]

/-- Whether two events have the tenant, the object and the correlation in common. -/
structure SameSubject (e e' : IntakeEvent) : Prop where
  tenantId : e.tenantId = e'.tenantId
  linkedObject : e.linkedObject = e'.linkedObject
  correlationId : e.correlationId = e'.correlationId

/-- What two events with the same pieces still have to agree in. -/
structure SameShape (e e' : IntakeEvent) : Prop where
  linkedBars : bars (orEmpty e.firstLinkedId) = bars (orEmpty e'.firstLinkedId)
  tenantBars : bars (orEmpty e.tenantId) = bars (orEmpty e'.tenantId)
  tenantGiven : e.tenantId.isSome = e'.tenantId.isSome
  linkKind : e.linkedObject.map Prod.fst = e'.linkedObject.map Prod.fst
  correlationId : e.correlationId = e'.correlationId

theorem bars_taskType (t : TaskType) : bars t.text = 0 := by
  cases t <;> decide

theorem SameSubject.firstLinkedId (h : SameSubject e e') : e.firstLinkedId = e'.firstLinkedId := by
  rw [firstLinkedId_eq, firstLinkedId_eq, h.linkedObject]

theorem SameSubject.sameShape (h : SameSubject e e') : SameShape e e' where
  linkedBars := by rw [h.firstLinkedId]
  tenantBars := by rw [h.tenantId]
  tenantGiven := by rw [h.tenantId]
  linkKind := by rw [h.linkedObject]
  correlationId := h.correlationId

/-- Two objects of one kind are the same if their ids are. -/
theorem linkedObject_eq (hkind : e.linkedObject.map Prod.fst = e'.linkedObject.map Prod.fst)
    (hid : orEmpty e.firstLinkedId = orEmpty e'.firstLinkedId) :
    e.linkedObject = e'.linkedObject := by
  rw [firstLinkedId_eq, firstLinkedId_eq] at hid
  cases h : e.linkedObject with
  | none =>
    rw [h, Option.map_none] at hkind
    exact (Option.map_eq_none_iff.mp hkind.symm).symm
  | some o =>
    cases h' : e'.linkedObject with
    | none =>
      rw [h, h'] at hkind
      exact absurd hkind (Option.some_ne_none _)
    | some o' =>
      rw [h, h'] at hkind hid
      exact congrArg some (Prod.ext (Option.some.inj hkind) hid)

/-- With the same shape the pieces give the linked id and the tenant. -/
theorem SameShape.sameSubject (h : SameShape e e')
    (hpieces : barPieces e.keyParts = barPieces e'.keyParts) : SameSubject e e' := by
  have htype : bars e.taskType.text = bars e'.taskType.text := by
    rw [bars_taskType, bars_taskType]
  obtain ⟨-, hpieces⟩ := (textPieces_cons_inj '|' htype).mp hpieces
  obtain ⟨hlinked, hpieces⟩ := (textPieces_cons_inj '|' h.linkedBars).mp hpieces
  obtain ⟨htenant, -⟩ := (textPieces_cons_inj '|' h.tenantBars).mp hpieces
  exact ⟨eq_of_getD htenant h.tenantGiven, linkedObject_eq h.linkKind hlinked, h.correlationId⟩

/-- Two events share a digest only with their subject, exactly when the pieces of their keys do not
hide a difference. -/
theorem dedup_iff (hsha : Function.Injective env.sha256) :
    (e.dedupKeyDigest env = e'.dedupKeyDigest env → SameSubject e e') ↔
      (barPieces e.keyParts = barPieces e'.keyParts → SameShape e e') := by
  have hdigest : e.dedupKeyDigest env = e'.dedupKeyDigest env ↔
      barPieces e.keyParts = barPieces e'.keyParts :=
    hsha.eq_iff.trans barJoin_inj
  rw [hdigest]
  constructor
  · intro h hpieces
    exact (h hpieces).sameShape
  · intro h hpieces
    exact (h hpieces).sameSubject hpieces

end IntakeEvent

end Operator

namespace Incident

/-! ## Incident closeouts -/

open Operator

namespace CloseoutIntakeEvent

/-- The parts of the dedup key of a detected incident. -/
def keyFields (e : CloseoutIntakeEvent) : List (Option String) :=
  [some "incident_closeout", some e.correlationId, e.tenantId, e.linkedIncidentId]

/-- Whether two detected incidents have the tenant, the incident and the correlation in common. -/
structure SameIncident (e e' : CloseoutIntakeEvent) : Prop where
  correlationId : e.correlationId = e'.correlationId
  tenantId : e.tenantId = e'.tenantId
  linkedIncidentId : e.linkedIncidentId = e'.linkedIncidentId

theorem sameIncident_iff {e e' : CloseoutIntakeEvent} :
    SameIncident e e' ↔ e.keyFields = e'.keyFields := by
  constructor
  · rintro ⟨hcorrelation, htenant, hincident⟩
    rw [keyFields, keyFields, hcorrelation, htenant, hincident]
  · intro h
    simp only [keyFields, List.cons.injEq, Option.some.injEq, true_and, and_true] at h
    exact ⟨h.1, h.2.1, h.2.2⟩

/-- Two detected incidents share a digest only with their subject, exactly when their fields are
separated. -/
theorem detected_iff (hsha : Function.Injective env.sha256) {e e' : CloseoutIntakeEvent} :
    (closeoutDedupDigest env e.correlationId e.tenantId e.linkedIncidentId =
        closeoutDedupDigest env e'.correlationId e'.tenantId e'.linkedIncidentId →
      SameIncident e e') ↔ Separated '|' e.keyFields e'.keyFields := by
  have hdigest : closeoutDedupDigest env e.correlationId e.tenantId e.linkedIncidentId =
      closeoutDedupDigest env e'.correlationId e'.tenantId e'.linkedIncidentId ↔
      barJoin (texts e.keyFields) = barJoin (texts e'.keyFields) := hsha.eq_iff
  rw [sameIncident_iff, hdigest]
  exact (barSeparated_iff (List.cons_ne_nil _ _) (List.cons_ne_nil _ _)).symm

end CloseoutIntakeEvent

/-! ### Steps -/

/-- A step that is owed: the event, and the closeout it names. -/
structure OwedStep where
  event : CloseoutIntakeEvent
  closeout : StoredCloseout
  store : CloseoutStore

namespace OwedStep

variable {o o' : OwedStep}

/-- The sequence number and the kind of the step. -/
def sequenceNo (o : OwedStep) : ℤ := o.store.sequenceFor o.event o.closeout

def stepKind (o : OwedStep) : StepKind := o.event.stepKind.getD .observation

def digest (env : Primitives) (o : OwedStep) : String := o.store.owedDigest env o.event o.closeout

/-- The parts of the dedup key. -/
def keyParts (o : OwedStep) : List String :=
  ["runbook_step", o.closeout.closeoutId, toString o.sequenceNo, o.stepKind.text,
    orEmpty o.event.tenantId]

/-- Whether two steps have the tenant, the closeout and the correlation in common. -/
structure SameSubject (o o' : OwedStep) : Prop where
  tenantId : o.event.tenantId = o'.event.tenantId
  closeoutId : o.closeout.closeoutId = o'.closeout.closeoutId
  correlationId : o.event.correlationId = o'.event.correlationId

/-- What two steps with the same pieces still have to agree in. -/
structure SameShape (o o' : OwedStep) : Prop where
  closeoutBars : bars o.closeout.closeoutId = bars o'.closeout.closeoutId
  tenantGiven : o.event.tenantId.isSome = o'.event.tenantId.isSome
  correlationId : o.event.correlationId = o'.event.correlationId

theorem bar_notMem_repr (n : ℕ) : '|' ∉ n.repr.toList := by
  intro h
  rw [Nat.toList_repr] at h
  exact absurd (Nat.isDigit_of_mem_toDigits (by decide) (by decide) h) (by decide)

theorem bars_toString (n : ℤ) : bars (toString n) = 0 := by
  rw [bars, seps, List.count_eq_zero, Int.toString_eq_repr, Int.repr_eq_if]
  split
  · exact bar_notMem_repr _
  · rw [String.toList_append, List.mem_append, not_or]
    exact ⟨by decide, bar_notMem_repr _⟩

theorem bars_stepKind (k : StepKind) : bars k.text = 0 := by
  cases k <;> decide

theorem SameSubject.sameShape (h : SameSubject o o') : SameShape o o' where
  closeoutBars := by rw [h.closeoutId]
  tenantGiven := by rw [h.tenantId]
  correlationId := h.correlationId

/-- With the same shape the pieces give the closeout and the tenant. -/
theorem SameShape.sameSubject (h : SameShape o o')
    (hpieces : barPieces o.keyParts = barPieces o'.keyParts) : SameSubject o o' := by
  have hsequence : bars (toString o.sequenceNo) = bars (toString o'.sequenceNo) := by
    rw [bars_toString, bars_toString]
  have hkind : bars o.stepKind.text = bars o'.stepKind.text := by
    rw [bars_stepKind, bars_stepKind]
  obtain ⟨-, hpieces⟩ := (textPieces_cons_inj '|' rfl).mp hpieces
  obtain ⟨hcloseout, hpieces⟩ := (textPieces_cons_inj '|' h.closeoutBars).mp hpieces
  obtain ⟨-, hpieces⟩ := (textPieces_cons_inj '|' hsequence).mp hpieces
  obtain ⟨-, hpieces⟩ := (textPieces_cons_inj '|' hkind).mp hpieces
  have htenant := (textPieces_singleton_inj '|').mp hpieces
  exact ⟨eq_of_getD htenant h.tenantGiven, hcloseout, h.correlationId⟩

/-- Two steps share a digest only with their subject, exactly when the pieces of their keys do not
hide a difference. -/
theorem dedup_iff (hsha : Function.Injective env.sha256) :
    (o.digest env = o'.digest env → SameSubject o o') ↔
      (barPieces o.keyParts = barPieces o'.keyParts → SameShape o o') := by
  have hdigest : o.digest env = o'.digest env ↔ barPieces o.keyParts = barPieces o'.keyParts :=
    hsha.eq_iff.trans barJoin_inj
  rw [hdigest]
  constructor
  · intro h hpieces
    exact (h hpieces).sameShape
  · intro h hpieces
    exact (h hpieces).sameSubject hpieces

end OwedStep

end Incident

end Mpango
