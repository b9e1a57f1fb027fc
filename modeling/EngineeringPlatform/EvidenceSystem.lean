import EngineeringPlatform.EvidenceGeneration
import EngineeringPlatform.SharedWorkers
namespace EngineeringPlatform.Evidence
open Checked EngineeringPlatform.SourceControl Integration KeyLocks SharedWorkers TransitionRuns

-- The merge requests change at any time, and the server may end a transaction.
inductive EvidenceChange where
  | mergeRequests (mergeRequests : MergeRequests)
  | abort (transactionId : Nat)

inductive EvidenceWorker where
  | idle
  | delivering (d : Delivery) (transaction : Transaction) (phase : DeliveryPhase)
  | requesting (envelope : IntegrationBaselineRequestEnvelope) (transaction : Transaction) (phase : RequestPhase)
  | generating (g : Generation) (transaction : Transaction) (phase : GenerationPhase)

inductive EvidenceEvent where
  | deliver (envelope : ExternalValidationRequestEnvelope)
  | request (envelope : IntegrationBaselineRequestEnvelope)
  | generate (g : Generation)
  | statement (input : GenerationInput)

-- What a call answers to its caller.
inductive Answered where
  | delivered (envelope : ExternalValidationRequestEnvelope) (answer : Answer)
  | requested (envelope : IntegrationBaselineRequestEnvelope) (error : Option EvidenceError)
  | generated (g : Generation) (generated : Generated)
  deriving DecidableEq

structure Progress where
  store : EvidenceStore
  worker : EvidenceWorker
  answered : Option Answered := none

def EvidenceStore.transaction (s : EvidenceStore) : Transaction := ⟨s.locks.begun,s.moment,[]⟩
def EvidenceStore.begin (s : EvidenceStore) : EvidenceStore := {s with locks := s.locks.start}

-- ROLLBACK TO SAVEPOINT: what the transaction wrote is undone, and of its keys only
-- the request's row lock stays.
def EvidenceStore.rollbackToSavepoint (s : EvidenceStore) (transaction : Transaction) (messageId : Uuid) : EvidenceStore :=
  {s with locks := s.locks.keep transaction.id [.request messageId]}

-- Up to `lostReceipt` a delivery runs accept_external_validation, whose EvidenceStale
-- the relay answers by recording the rejection in the same transaction.
def DeliveryPhase.accepting : DeliveryPhase → Bool
  | .rejection | .insertRejection | .lostRejection | .committing _ => false
  | _ => true

section
variable (texts : EvidenceTexts) (storable : ExternalValidationReference → Bool) (s : EvidenceStore)

def deliveryProgress (d : Delivery) (transaction : Transaction) (now : Time) (phase : DeliveryPhase) : Option Progress :=
  match phase with
  | .committing answer => some ⟨s.commit transaction,.idle,some (.delivered d.envelope answer)⟩
  | phase =>
    match d.statement texts storable now transaction s phase with
    | .waits => none
    | .raises error =>
      if error = .stale ∧ phase.accepting then some ⟨s,.delivering d transaction .rejection,none⟩
      else some ⟨s.rollback transaction,.idle,some (.delivered d.envelope (.failed error))⟩
    | .goes keys writes next => some ⟨s.take transaction keys,.delivering d (transaction.write writes) next,none⟩

def requestProgress (envelope : IntegrationBaselineRequestEnvelope) (transaction : Transaction) (now : Time)
    (phase : RequestPhase) : Option Progress :=
  match phase with
  | .committing => some ⟨s.commit transaction,.idle,some (.requested envelope none)⟩
  | phase =>
    match envelope.statement now transaction s phase with
    | .waits => none
    | .raises error => some ⟨s.rollback transaction,.idle,some (.requested envelope (some error))⟩
    | .goes keys writes next => some ⟨s.take transaction keys,.requesting envelope (transaction.write writes) next,none⟩

-- Once a candidate is claimed, an exception undoes the savepoint alone, and the
-- failure is recorded on the row that the transaction still locks.
def generationProgress (g : Generation) (transaction : Transaction) (input : GenerationInput) (phase : GenerationPhase) :
    Option Progress :=
  match phase with
  | .committing generated => some ⟨s.commit transaction,.idle,some (.generated g generated)⟩
  | phase =>
    match g.statement texts input transaction s phase with
    | .waits => none
    | .raises error =>
      match phase.claimed.filter fun _ => g.candidate with
      | some claimed =>
        some ⟨s.rollbackToSavepoint transaction g.messageId,.generating g {transaction with writes := []} (.failing claimed error),none⟩
      | none => some ⟨s.rollback transaction,.idle,some (.generated g (.failed error))⟩
    | .goes keys writes next => some ⟨s.take transaction keys,.generating g (transaction.write writes) next,none⟩

-- A worker whose transaction the server has ended has lost its connection.
def evidenceProgress : EvidenceWorker → EvidenceEvent → Option Progress
  | .idle,.deliver envelope =>
    match prepared texts envelope with
    | .ok d => some ⟨s.begin,.delivering d s.transaction .receipt,none⟩
    | .error error => some ⟨s,.idle,some (.delivered envelope (.failed error))⟩
  | .idle,.request envelope => some ⟨s.begin,.requesting envelope s.transaction .select,none⟩
  | .idle,.generate g => some ⟨s.begin,.generating g s.transaction .locking,none⟩
  | .delivering d transaction phase,.statement input =>
    if transaction.id ∈ s.locks.live then deliveryProgress texts storable s d transaction input.now phase
    else some ⟨s,.idle,none⟩
  | .requesting envelope transaction phase,.statement input =>
    if transaction.id ∈ s.locks.live then requestProgress s envelope transaction input.now phase
    else some ⟨s,.idle,none⟩
  | .generating g transaction phase,.statement input =>
    if transaction.id ∈ s.locks.live then generationProgress texts s g transaction input phase
    else some ⟨s,.idle,none⟩
  | _,_ => none

end

-- Of a binding only superseded_at is ever updated.
def MergeRequests.follows (m before : MergeRequests) : Bool :=
  (m.bindings.map MergeRequestBinding.id).Nodup ∧ before.bindings.all fun binding =>
    m.bindings.any fun row => {row with supersededAt := binding.supersededAt} = binding

def EvidenceStore.change (s : EvidenceStore) : EvidenceChange → Option EvidenceStore
  | .mergeRequests mergeRequests =>
    if mergeRequests.follows s.mergeRequests then
      some {s with mergeRequests, earlier := s.mergeRequests :: s.earlier}
    else none
  | .abort transactionId => some {s with locks := s.locks.finish transactionId}

def evidenceProgram (texts : EvidenceTexts) (storable : ExternalValidationReference → Bool) :
    Program EvidenceStore EvidenceWorker EvidenceChange EvidenceEvent where
  idle := .idle
  transact s change := s.change change
  act s worker event := (evidenceProgress texts storable s worker event).map fun done => (done.store,done.worker)

abbrev EvidenceSystem := System EvidenceStore EvidenceWorker
abbrev EvidenceLabel := Label EvidenceChange EvidenceEvent

def evidenceInitial : EvidenceSystem := ⟨.initial,fun _ => .idle⟩

-- What a step answers.
def answers (texts : EvidenceTexts) (storable : ExternalValidationReference → Bool) (s : EvidenceSystem) :
    EvidenceLabel → Option Answered
  | .act worker event => (evidenceProgress texts storable s.store (s.workers worker) event).bind Progress.answered
  | _ => none

end EngineeringPlatform.Evidence
