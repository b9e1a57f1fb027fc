import EngineeringPlatform.ProvisionReceipts
import EngineeringPlatform.SandboxOwnership
-- A completed provision command answers a later call with the result it stored.
namespace EngineeringPlatform.Sandbox.Receipts
open JsonCodec Identity Idempotency Checked
variable {κ : Type} (instant : Codec Time)

-- A secret is written as a mask.
def mask (secret : String) : String := if secret = "" then "" else "**********"

def ProvisionResult.encode : ProvisionResult → JsonValue
  | .ready result => (materializationReady instant).encode result
  | .blocked result => materializationBlocked.encode result
  | .failed result => materializationFailed.encode result

def ProvisionResult.masked : ProvisionResult → ProvisionResult
  | .ready result =>
    .ready {result with handle := {result.handle with fencingToken := mask result.handle.fencingToken}}
  | result => result

-- `model_dump(mode="json")`
def ProvisionResult.dump (result : ProvisionResult) : JsonValue := result.masked.encode instant

-- `body[key] = change(body[key])` of a dict that has the key
def changeField (key : String) (change : JsonValue → JsonValue) : JsonValue → JsonValue
  | .object fields => .object (fields.map fun field => if field.1 = key then (field.1,change field.2) else field)
  | value => value

-- `_result_response`
def resultResponse (result : ProvisionResult) : IdempotentResponse JsonValue :=
  match result with
  | .ready ready =>
    {statusCode := 201
     body := changeField "handle" (changeField "fencing_token" fun _ => .text ready.handle.fencingToken) (result.dump instant)}
  | .blocked _ => {statusCode := 409, body := result.dump instant}
  | .failed _ => {statusCode := 503, body := result.dump instant}

def readyFields (kind handle digest protocol labOnly : JsonValue) : JsonValue :=
  .object [("kind",kind),("handle",handle),("binding_digest",digest),("runner_protocol_version",protocol),("lab_only",labOnly)]

theorem changeField_handle (change : JsonValue → JsonValue) {kind handle digest protocol labOnly : JsonValue} :
    changeField "handle" change (readyFields kind handle digest protocol labOnly) =
      readyFields kind (change handle) digest protocol labOnly := by
  simp [changeField,readyFields]

theorem changeField_token (change : JsonValue → JsonValue)
    {schema materialization environment execution lease generation token revision deadline : JsonValue} :
    changeField "fencing_token" change (.object [("schema_version",schema),("materialization_id",materialization),
      ("environment_id",environment),("execution_id",execution),("lease_id",lease),("generation",generation),
      ("fencing_token",token),("revision",revision),("deadline_at",deadline)]) =
    .object [("schema_version",schema),("materialization_id",materialization),
      ("environment_id",environment),("execution_id",execution),("lease_id",lease),("generation",generation),
      ("fencing_token",change token),("revision",revision),("deadline_at",deadline)] := by
  simp [changeField]

-- The secret put back leaves what the result's own fields write.
theorem resultResponse_body (result : ProvisionResult) : (resultResponse instant result).body = result.encode instant := by
  cases result with
  | ready result =>
    exact (changeField_handle _).trans
      (congrArg (readyFields _ · _ _ _) (changeField_token fun _ => secret.encode result.handle.fencingToken))
  | blocked result => rfl
  | failed result => rfl

theorem read_ready (result : MaterializationReady) :
    accepting instant (ProvisionResult.encode instant (.ready result)) = [.ready result] := by
  have blocked : materializationBlocked.decode ((materializationReady instant).encode result) = none := by
    simp [materializationReady,materializationBlocked,materializationDenied,model]
  have failed : materializationFailed.decode ((materializationReady instant).encode result) = none := by
    simp [materializationReady,materializationFailed,materializationDenied,model]
  simp [accepting,ProvisionResult.encode,blocked,failed]

-- A denial is no ready result, and is no denial of the other kind.
theorem denied_ready (kind : String) (result : MaterializationDenied) :
    (materializationReady instant).decode ((materializationDenied kind).encode result) = none := by
  simp [materializationReady,materializationDenied,model]

theorem denied_other {kind other : String} (differ : kind ≠ other) (result : MaterializationDenied) :
    (materializationDenied other).decode ((materializationDenied kind).encode result) = none := by
  simp [materializationDenied,model,defaulted,literal,string,differ]

theorem read_result (result : ProvisionResult) : accepting instant (result.encode instant) = [result] := by
  cases result with
  | ready result => exact read_ready instant result
  | blocked result =>
    have ready : (materializationReady instant).decode (materializationBlocked.encode result) = none := denied_ready instant _ _
    have failed : materializationFailed.decode (materializationBlocked.encode result) = none := denied_other (by decide) result
    simp [accepting,ProvisionResult.encode,ready,failed]
  | failed result =>
    have ready : (materializationReady instant).decode (materializationFailed.encode result) = none := denied_ready instant _ _
    have blocked : materializationBlocked.decode (materializationFailed.encode result) = none := denied_other (by decide) result
    simp [accepting,ProvisionResult.encode,ready,blocked]

section
variable (sealing : Sealing JsonValue κ)

def completeReceipt (row : CommandReceipt κ) (ownerId : Uuid) (result : ProvisionResult) (now : Time)
    (s : SandboxStore κ) : Except SandboxError (SandboxStore κ) :=
  let response := resultResponse instant result
  Sandbox.completeIdempotency row.id ownerId response.statusCode
    (sealing.sealEnvelope ⟨row.scope,row.requestFingerprint,response⟩) now s

-- Which of the members that accept a body a union takes.
variable (choose : List ProvisionResult → Option ProvisionResult)

-- `_replay`
def replayResult (row : CommandReceipt κ) : Except SandboxError ProvisionResult := do
  let response ← replay sealing raiseReplay row.scope row.idempotencyRow
  orRaise (choose (accepting instant response.body)) (.valueError "validation error for ProvisionResult")

-- A provision call up to the answer of a completed command.
def answerProvision (env : ClaimEnvironment) (scope : Scope) (fingerprint : String) (s : SandboxStore κ) :
    Except SandboxError (SandboxStore κ × Option ProvisionResult) := do
  let (s,_) ← acquireCommand env.commandId env.ownerId scope fingerprint (env.now + commandOwnerTtl) env.now s
  let row ← orRaise (s.receiptByScope scope) (.idempotencyReplayUnavailable "idempotency claim is unavailable")
  if row.state = .completed then
    let result ← replayResult instant sealing choose row
    pure (s,some result)
  else pure (s,none)

-- What a completed command is stored as.
structure Stored (row stored : CommandReceipt κ) (response : IdempotentResponse JsonValue) : Prop where
  scope : stored.scope = row.scope
  fingerprint : stored.requestFingerprint = row.requestFingerprint
  completed : stored.state = .completed
  status : stored.httpStatus = some response.statusCode
  capsule : stored.sealedResponse = some (sealing.sealEnvelope ⟨row.scope,row.requestFingerprint,response⟩)

theorem completeReceipt_stored {s next : SandboxStore κ} (found : s.receiptByScope scope = some row)
    (ran : completeReceipt instant sealing row ownerId result now s = .ok next) :
    ∃ stored, next.receiptByScope scope = some stored ∧ Stored sealing row stored (resultResponse instant result) := by
  simp only [completeReceipt,Sandbox.completeIdempotency,orRaise_bind_ok,require_bind_ok,pure_ok] at ran
  obtain ⟨_,_,_,rfl⟩ := ran
  refine ⟨row.complete now (resultResponse instant result).statusCode _,?_,⟨rfl,rfl,rfl,rfl,rfl⟩⟩
  have view := @KeyedRows.find_update_other _ _ _ CommandReceipt.id s.receipts
    (fun other => other.complete now (resultResponse instant result).statusCode
      (sealing.sealEnvelope ⟨row.scope,row.requestFingerprint,resultResponse instant result⟩))
    _ _ CommandReceipt.scope (fun _ => rfl) row.id scope
  change KeyedRows.find CommandReceipt.scope s.receipts scope = some row at found
  rw [found] at view
  exact view.trans (congrArg some (if_pos rfl))

theorem replayResult_stored (faithful : sealing.Faithful) (chooses : ∀ result, choose [result] = some result)
    (stored : Stored sealing row receipt (resultResponse instant result)) :
    replayResult instant sealing choose receipt = .ok result := by
  have opened : replay sealing raiseReplay receipt.scope receipt.idempotencyRow = .ok (resultResponse instant result) := by
    simp [replay,CommandReceipt.idempotencyRow,stored.scope,stored.fingerprint,stored.completed,stored.status,stored.capsule,
      orRaise,faithful _,require,bind,Except.bind,pure,Except.pure]
  unfold replayResult
  rw [opened]
  change orRaise (choose (accepting instant (resultResponse instant result).body)) _ = _
  rw [resultResponse_body,read_result,chooses]
  rfl

theorem answerProvision_stored (faithful : sealing.Faithful) (chooses : ∀ result, choose [result] = some result)
    {s : SandboxStore κ} (found : s.receiptByScope scope = some receipt)
    (stored : Stored sealing row receipt (resultResponse instant result)) (env : ClaimEnvironment) :
    answerProvision instant sealing choose env scope receipt.requestFingerprint s = .ok (s,some result) := by
  unfold answerProvision
  rw [acquireCommand_completed found stored.completed]
  have replayed := replayResult_stored instant sealing choose faithful chooses stored
  simp [found,stored.completed,replayed,orRaise,bind,Except.bind,pure,Except.pure]

-- The union reads back exactly the result that was written, and every later call of
-- the command that finds its receipt is answered with it.
theorem provision_result_replays (faithful : sealing.Faithful) (chooses : ∀ result, choose [result] = some result)
    (result : ProvisionResult) :
    accepting instant (resultResponse instant result).body = [result] ∧
      ∀ {s next : SandboxStore κ} {scope row ownerId now}, s.receiptByScope scope = some row →
        completeReceipt instant sealing row ownerId result now s = .ok next →
        ∃ stored, next.receiptByScope scope = some stored ∧ stored.state = .completed ∧
          stored.requestFingerprint = row.requestFingerprint ∧
          ∀ (later : SandboxStore κ) (env : ClaimEnvironment), later.receiptByScope scope = some stored →
            answerProvision instant sealing choose env scope row.requestFingerprint later = .ok (later,some result) := by
  refine ⟨by rw [resultResponse_body,read_result],fun found ran => ?_⟩
  obtain ⟨receipt,kept,stored⟩ := completeReceipt_stored instant sealing found ran
  refine ⟨receipt,kept,stored.completed,stored.fingerprint,fun later env present => ?_⟩
  rw [← stored.fingerprint]
  exact answerProvision_stored instant sealing choose faithful chooses present stored env
end

-- An instant is written as its ISO 8601 text; here the text of one instant, and the
-- count of seconds for any other.
def sampleInstant : Codec Time where
  encode time := if time = 1767225600 then .text "2026-01-01T00:00:00Z" else .integer time
  decode
    | .text value => if value = "2026-01-01T00:00:00Z" then some 1767225600 else none
    | .integer value => if 0 ≤ value ∧ value ≠ 1767225600 then some value.toNat else none
    | _ => none
  present time := by split <;> nofun
  reads time := by
    by_cases same : time = 1767225600
    · simp [same]
    · have other : (time : Int) ≠ 1767225600 := fun cast => same (Int.ofNat.inj cast)
      simp [same,other]

def sampleText (value : String) (trimmed : stripped value.toList = value.toList := by decide)
    (filled : value ≠ "" := by decide) : NonEmptyStr := ⟨value,trimmed,filled⟩

def sampleDigest : Digest := ⟨"sha256:0123456789abcdef0123456789abcdef0123456789abcdef0123456789abcdef",by decide +kernel⟩

def sampleReadyResult : ProvisionResult :=
  .ready ⟨⟨sampleText "materialization",sampleText "environment",sampleText "execution",sampleText "lease",⟨1,by decide⟩,
    "token",⟨2,by decide⟩,1767225600⟩,sampleDigest,sampleText "v1",false⟩

def sampleReceipt : CommandReceipt (SealedIdempotentEnvelope JsonValue) :=
  {id := 1, scope := ⟨"agent","sandbox.provision","provision-key"⟩, requestFingerprint := "body", state := .inProgress
   ownerId := some 2, ownerExpiresAt := some 40, phase := .reserved, createdAt := 10, updatedAt := 10}

def sampleJsonSealing : Sealing JsonValue (SealedIdempotentEnvelope JsonValue) := ⟨id,some⟩

theorem provision_result_replays_sample : ∃ next stored,
    completeReceipt sampleInstant sampleJsonSealing sampleReceipt 2 sampleReadyResult 20
      (SandboxStore.initial.addReceipt sampleReceipt) = .ok next ∧
    next.receiptByScope sampleReceipt.scope = some stored ∧
    ∀ env, answerProvision sampleInstant sampleJsonSealing List.head? env sampleReceipt.scope "body" next =
      .ok (next,some sampleReadyResult) := by
  have completed : ∃ next, completeReceipt sampleInstant sampleJsonSealing sampleReceipt 2 sampleReadyResult 20
      (SandboxStore.initial.addReceipt sampleReceipt) = .ok next := ⟨_,rfl⟩
  obtain ⟨next,ran⟩ := completed
  obtain ⟨_,replays⟩ := provision_result_replays sampleInstant sampleJsonSealing List.head? (fun _ => rfl) (fun _ => rfl)
    sampleReadyResult
  have read : (SandboxStore.initial.addReceipt sampleReceipt).receiptByScope sampleReceipt.scope = some sampleReceipt := rfl
  obtain ⟨stored,found,_,_,answers⟩ := replays read ran
  exact ⟨next,stored,ran,found,fun env => answers next env found⟩
end EngineeringPlatform.Sandbox.Receipts
