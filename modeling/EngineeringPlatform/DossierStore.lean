import EngineeringPlatform.KeyedRows
import EngineeringPlatform.ValidationDossiers
-- Dossiers are created from candidates and their checks, and stored for good.
namespace EngineeringPlatform.Dossiers
open CanonicalCodec CanonicalJson Checked ModelGateway PythonText Security

inductive DossierError where
  | catalog (code : String)
  | invalid
  | integrity
  deriving DecidableEq

-- What `create` reads of a deployment and of a check.
structure Candidate where
  id : Text
  revision : Int
  state : DeploymentState
  deriving DecidableEq

structure CandidateCheck where
  id : Text
  deploymentId : Text
  revision : Int
  checkKind : CheckKind
  inputDeploymentId : Text
  inputDeploymentRevision : Int
  inputDigest : Text
  result : CheckResultSummary
  deriving DecidableEq

structure DossierRow where
  id : Text
  deploymentId : Text
  candidateRevision : Int
  createdBy : Text
  createdAt : Int
  snapshotHash : Text
  snapshotText : Text
  deriving DecidableEq

structure DossierStore where
  deployments : List Candidate
  checks : List CandidateCheck
  dossiers : List DossierRow
  deriving DecidableEq

-- What comes from elsewhere: SHA-256, `json.loads`, `isoformat` of a UTC time, and the
-- constraints of the table.
structure Storage where
  sha : Text → Text
  loads : Text → Option CanonicalJson.Json
  isoformat : Int → Text
  constraints : DossierRow → Bool

section Creating
variable (st : Storage) {m : Materials} (lawful : m.Lawful)

-- `DeclaredMaterial.model_validate(value.model_dump())`
def declare (m : Materials) (value : MaterialReference) : Option DeclaredMaterial := do
  let title ← materialTitle m value.title
  let sourceReference ← sourceReference m value.sourceReference
  let externalVersion ← optionally (externalVersion m) value.externalVersion
  let declaredContentSha256 ← optionally sha256 value.declaredContentSha256
  let expiresAt ← optionally utcTime value.expiresAt
  let note ← optionally (materialNote m) value.note
  pure ⟨⟨value.category,title,sourceReference,externalVersion,declaredContentSha256,expiresAt,note⟩,.declared⟩

def terminal (state : CheckState) : Bool := ¬(state = .queued ∨ state = .running)

def countable (count : Int) : Option Int := if 0 ≤ count ∧ count ≤ 2147483647 then some count else none

def revalidatedUsage (usage : ProbeUsage) : Option ProbeUsage := do
  let prompt ← optionally countable usage.promptTokens
  let completion ← optionally countable usage.completionTokens
  let total ← optionally countable usage.totalTokens
  pure ⟨prompt,completion,total⟩

def revalidatedSummary (result : CheckResultSummary) : Option CheckResultSummary := do
  let state ← (some result.state).filter terminal
  let finishedAt ← optionally utcTime result.finishedAt
  let reportedModelId ← optionally plainText result.reportedModelId
  let providerRequestId ← optionally plainText result.providerRequestId
  let usage ← optionally revalidatedUsage result.usage
  pure ⟨state,result.reason,finishedAt,reportedModelId,providerRequestId,result.elapsedMs,usage⟩

-- `CheckEvidenceReference.capture`
def capture (check : CandidateCheck) : Option CheckEvidenceReference := do
  let summary ← revalidatedSummary check.result
  let id ← dossierId m check.id
  let revision ← (some check.revision).filter (1 ≤ ·)
  let input ← sha256 check.inputDigest
  let hash ← sha256 (digest st.sha ((checkResultSummary lawful).encode summary))
  pure ⟨id,revision,check.checkKind,input,summary,hash⟩

def collect (s : DossierStore) (deploymentId : Text) (expectedRevision : Int) (references : List CheckEvidenceReference)
    (checkId : Text) : Except DossierError (List CheckEvidenceReference) := do
  let check ← orRaise (s.checks.find? (·.id = checkId)) (.catalog "MODEL_DOSSIER_CHECK_NOT_FOUND")
  require (check.deploymentId = deploymentId) (.catalog "MODEL_DOSSIER_CHECK_NOT_FOUND")
  require (check.inputDeploymentId = deploymentId ∧ check.inputDeploymentRevision = expectedRevision)
    (.catalog "MODEL_DOSSIER_CHECK_INPUT_CHANGED")
  require (terminal check.result.state) (.catalog "MODEL_DOSSIER_CHECK_NOT_TERMINAL")
  require (¬(references.map CheckEvidenceReference.checkKind).contains check.checkKind)
    (.catalog "MODEL_DOSSIER_DUPLICATE_CHECK_KIND")
  let reference ← orRaise (capture st lawful check) .invalid
  pure (references ++ [reference])

def snapshotText (value : Snapshot) : Text := asciiDumps ((snapshotShape st.sha lawful).dump value)

-- `insert_dossier`: the rows are never changed, and an id is taken once.
def insertDossier (s : DossierStore) (value : ValidationDossier) : Except DossierError DossierStore := do
  let row : DossierRow := ⟨value.id,value.deploymentId,value.candidateRevision,value.createdBy,value.createdAt,
    value.snapshotHash,snapshotText st lawful value.toSnapshot⟩
  require (KeyedRows.find DossierRow.id s.dossiers row.id = none) .integrity
  require (st.constraints row) .integrity
  pure {s with dossiers := s.dossiers ++ [row]}

def hashKey : Text := text "snapshot_hash"

def create (s : DossierStore) (deploymentId : Text) (request : CreateValidationDossier) (expectedRevision : Int)
    (actor newId : Text) (now : Int) : Except DossierError (ValidationDossier × DossierStore) := do
  let candidate ← orRaise (s.deployments.find? (·.id = deploymentId)) (.catalog "MODEL_DEPLOYMENT_NOT_FOUND")
  require (candidate.revision = expectedRevision) (.catalog "MODEL_DEPLOYMENT_REVISION_CONFLICT")
  require (candidate.state ≠ .archived) (.catalog "MODEL_DEPLOYMENT_ARCHIVED")
  let references ← (request.checkIds.insertionSort (· ≤ ·)).foldlM (collect st lawful s deploymentId expectedRevision) []
  let materials ← orRaise (request.materials.mapM (declare m)) .invalid
  let payload : CanonicalJson.Fields :=
    [(text "id",.text newId),(text "deployment_id",.text deploymentId),(text "candidate_revision",.integer candidate.revision),
      (text "created_by",.text actor),(text "created_at",.text (st.isoformat now)),
      (text "materials",.list (materials.map (declaredMaterial lawful).encode)),
      (text "checks",.list (references.map (checkEvidenceReference st.sha lawful).encode))]
  let value ← orRaise ((validationDossier st.sha lawful).decode
    (.object (merged payload hashKey (.text (digest st.sha (.object payload)))))) .invalid
  let s ← insertDossier st lawful s value
  pure (value,s)

-- `_dossier`
def loadDossier (row : DossierRow) : Option ValidationDossier := do
  let snapshot ← st.loads row.snapshotText
  let whole ← mergedInto hashKey (.text row.snapshotHash) snapshot
  (validationDossier st.sha lawful).decode whole

def DossierStore.dossier (s : DossierStore) (id : Text) : Option DossierRow := KeyedRows.find DossierRow.id s.dossiers id

end Creating

section Verifying
variable {st : Storage} {m : Materials} {lawful : m.Lawful}

-- `json.loads` reads back what was written for a dossier.
def Loads (st : Storage) {m : Materials} (lawful : m.Lawful) (value : Snapshot) : Prop :=
  st.loads (snapshotText st lawful value) = some ((snapshotShape st.sha lawful).dump value).sortKeys

-- A dossier that has passed its own verification.
def Verified (st : Storage) {m : Materials} (lawful : m.Lawful) (value : ValidationDossier) : Prop :=
  ∃ json, (validationDossier st.sha lawful).decode json = some value

theorem Verified.hash (verified : Verified st lawful value) :
    value.snapshotHash = digest st.sha ((snapshotShape st.sha lawful).dump value.toSnapshot) := by
  obtain ⟨json,decoded⟩ := verified
  obtain ⟨fields,_,read⟩ := Shape.decodeModel_read decoded
  exact (of_decide_eq_true (Option.filter_eq_some_iff.mp read).2).2.2

theorem hashKey_apart (value : Snapshot) : hashKey ∉ ((snapshotShape st.sha lawful).write value).map Prod.fst := by
  rw [(snapshotShape st.sha lawful).written]
  exact of_decide_eq_true rfl

-- A stored text with its hash has the fields of the dossier.
theorem stored_lookup (value : ValidationDossier) (key : Text) :
    (merged (sortFields (sortValues ((snapshotShape st.sha lawful).write value.toSnapshot))) hashKey (.text value.snapshotHash)).lookup key =
      (((validationDossierShape st.sha lawful).write value).lookup key).map CanonicalJson.Json.sortKeys := by
  change _ = (((snapshotShape st.sha lawful).write value.toSnapshot ++ [(hashKey,CanonicalJson.Json.text value.snapshotHash)]).lookup key).map CanonicalJson.Json.sortKeys
  rw [List.lookup_append]
  by_cases same : key = hashKey
  · subst same
    rw [merged_lookup_same,lookup_none (hashKey_apart value.toSnapshot),List.lookup_cons_self]
    rfl
  · have last : List.lookup key [(hashKey,CanonicalJson.Json.text value.snapshotHash)] = none := by
      rw [List.lookup_cons,beq_false_of_ne same]
      rfl
    rw [merged_lookup_other same,last,Option.or_none]
    exact (snapshotShape st.sha lawful).dump_lookup _ key

theorem stored_keys (value : ValidationDossier) (hash : Text) (field : Text × CanonicalJson.Json)
    (member : field ∈ merged (sortFields (sortValues ((snapshotShape st.sha lawful).write value.toSnapshot))) hashKey (.text hash)) :
    field.1 ∈ (validationDossierShape st.sha lawful).keys := by
  change field.1 ∈ (snapshotShape st.sha lawful).keys ++ [hashKey]
  rcases List.mem_append.mp member with kept | last
  · exact List.mem_append_left _ ((snapshotShape st.sha lawful).dump_keys _ field (List.mem_of_mem_filter kept))
  · cases List.mem_singleton.mp last
    exact List.mem_append_right _ List.mem_cons_self

-- What was verified once is read back from its text and verified again.
theorem Verified.loaded (verified : Verified st lawful value) (loads : Loads st lawful value.toSnapshot) {row : DossierRow}
    (written : row.snapshotText = snapshotText st lawful value.toSnapshot) (hash : row.snapshotHash = value.snapshotHash) :
    loadDossier st lawful row = some value := by
  obtain ⟨json,decoded⟩ := verified
  obtain ⟨fields,_,read⟩ := Shape.decodeModel_read decoded
  have again := (validationDossierShape st.sha lawful).settles _ value read _ fun key _ => stored_lookup value key
  rw [←Shape.decodeModel_known (stored_keys value value.snapshotHash)] at again
  refine Option.bind_eq_some_iff.mpr ⟨_,by rw [written]; exact loads,Option.bind_eq_some_iff.mpr ⟨_,mergedInto_dump _ _ _ _,?_⟩⟩
  rw [hash,validationDossier,model_decode]
  exact again

-- A run of creations, among whatever happens to deployments and checks.
inductive Stored (st : Storage) {m : Materials} (lawful : m.Lawful) : List ValidationDossier → DossierStore → Prop where
  | start {s} : s.dossiers = [] → Stored st lawful [] s
  | elsewhere {created s s'} : Stored st lawful created s → s'.dossiers = s.dossiers → Stored st lawful created s'
  | create {created s s' deploymentId request expectedRevision actor newId now value} : Stored st lawful created s →
    create st lawful s deploymentId request expectedRevision actor newId now = .ok (value,s') → Stored st lawful (value :: created) s'

def Holds (st : Storage) {m : Materials} (lawful : m.Lawful) (s : DossierStore) (value : ValidationDossier) : Prop :=
  Verified st lawful value ∧ ∃ row ∈ s.dossiers, row.id = value.id ∧
    row.snapshotText = snapshotText st lawful value.toSnapshot ∧ row.snapshotHash = value.snapshotHash

theorem insertDossier_ok (inserted : insertDossier st lawful s value = .ok s') :
    ∃ row : DossierRow, s'.dossiers = s.dossiers ++ [row] ∧ KeyedRows.find DossierRow.id s.dossiers row.id = none ∧
      row.id = value.id ∧ row.snapshotText = snapshotText st lawful value.toSnapshot ∧ row.snapshotHash = value.snapshotHash := by
  obtain ⟨fresh,inserted⟩ := require_bind_ok.mp inserted
  obtain ⟨_,inserted⟩ := require_bind_ok.mp inserted
  cases pure_ok.mp inserted
  exact ⟨_,rfl,fresh,rfl,rfl,rfl⟩

theorem create_ok (created : create st lawful s deploymentId request expectedRevision actor newId now = .ok (value,s')) :
    Verified st lawful value ∧ insertDossier st lawful s value = .ok s' := by
  obtain ⟨candidate,_,created⟩ := orRaise_bind_ok.mp created
  obtain ⟨_,created⟩ := require_bind_ok.mp created
  obtain ⟨_,created⟩ := require_bind_ok.mp created
  obtain ⟨references,_,created⟩ := bind_ok.mp created
  obtain ⟨materials,_,created⟩ := orRaise_bind_ok.mp created
  obtain ⟨_,decoded,created⟩ := orRaise_bind_ok.mp created
  obtain ⟨_,inserted,created⟩ := bind_ok.mp created
  cases pure_ok.mp created
  exact ⟨⟨_,decoded⟩,inserted⟩

theorem stored_holds (stored : Stored st lawful created s) :
    KeyedRows.Unique DossierRow.id s.dossiers ∧ ∀ value ∈ created, Holds st lawful s value := by
  induction stored with
  | start empty =>
    rw [empty]
    exact ⟨List.nodup_nil,nofun⟩
  | elsewhere _ same ih =>
    unfold Holds at ih ⊢
    rwa [same]
  | create _ made ih =>
    obtain ⟨distinct,holds⟩ := ih
    obtain ⟨verified,inserted⟩ := create_ok made
    obtain ⟨row,appended,fresh,written⟩ := insertDossier_ok inserted
    refine ⟨?_,fun value member => ?_⟩
    · rw [appended]
      exact KeyedRows.unique_insert distinct fresh
    · rcases List.mem_cons.mp member with rfl | earlier
      · exact ⟨verified,row,appended ▸ List.mem_append_right _ List.mem_cons_self,written⟩
      · obtain ⟨verified,row,kept,rest⟩ := holds value earlier
        exact ⟨verified,row,appended ▸ List.mem_append_left _ kept,rest⟩

theorem stored_dossier_verifies (stored : Stored st lawful created s)
    (loads : ∀ value ∈ created, Loads st lawful value.toSnapshot) :
    ∀ value ∈ created, ∃ row, s.dossier value.id = some row ∧ loadDossier st lawful row = some value ∧
      digest st.sha ((snapshotShape st.sha lawful).dump value.toSnapshot) = row.snapshotHash := by
  intro value member
  obtain ⟨distinct,holds⟩ := stored_holds stored
  obtain ⟨verified,row,kept,id,written,hash⟩ := holds value member
  refine ⟨row,id ▸ KeyedRows.find_of_mem distinct kept,verified.loaded (loads value member) written hash,?_⟩
  rw [hash,verified.hash]

-- No table is asked about a reference and a title in ASCII.
def plainWord (point : Nat) : Bool := asciiAlphanumeric point ∨ point = 95

def canonicalId (value : Text) : Option Text :=
  if value.length = 36 ∧ value.all fun point => UrlParse.hexDigit point ∨ point = 45 then some value else none

def newYear : Int := 1767225600000000

def plainTimestamp (instant : Int) : Text :=
  if instant = newYear then text "2026-01-01T00:00:00Z" else if instant < 0 then [0,instant.natAbs] else [1,instant.natAbs]

def plainInstant : Text → Option Int
  | [0,size] => some (-size)
  | [1,size] => some size
  | value => if value = text "2026-01-01T00:00:00Z" then some newYear else none

def plainMaterials : Materials := ⟨plainWord,id,asciiTables,canonicalId,fun _ => none,plainInstant,plainTimestamp⟩

theorem plainMaterials_lawful : plainMaterials.Lawful where
  wordCase point := by
    change plainWord (lowered point) = plainWord point
    simp only [plainWord,asciiAlphanumeric,asciiDigit,asciiUpper,asciiLower,lowered,decide_eq_true_eq]
    refine decide_eq_decide.mpr ?_
    split <;> omega
  wordSpace point blank := by
    simp only [stripSpace,whiteSpace,decide_eq_true_eq] at blank
    change plainWord point = false
    simp only [plainWord,asciiAlphanumeric,asciiDigit,asciiUpper,asciiLower,decide_eq_true_eq,decide_eq_false_iff_not]
    omega
  plain _ _ _ := rfl
  marked _ _ _ _ := rfl
  uuid raw value accepted := by
    change canonicalId raw = some value at accepted
    unfold canonicalId at accepted
    split at accepted
    · rename_i canonical
      cases accepted
      exact ⟨if_pos canonical,canonical.1⟩
    · cases accepted
  instant time _ := by
    change plainInstant (plainTimestamp time) = some time
    unfold plainTimestamp
    split
    · rename_i same
      rw [same]
      decide
    · split <;> exact congrArg some (by omega)

def sampleMaterial : MaterialReference :=
  ⟨.pricing,text " List price ",text "HTTPS://docs.example.test/price?v=2",none,none,none,none⟩

def sampleDossier : ValidationDossier :=
  ⟨⟨text "22222222-2222-4222-8222-222222222222",text "11111111-1111-4111-8111-111111111111",1,text "operator",newYear,
    [⟨⟨.pricing,text "List price",text "https://docs.example.test/price",none,none,none,none⟩,.declared⟩],[]⟩,
    text "8b52d320874d071f9f0aef149f75058ace28ba0e43a413470f164fc4ecd0ad6a"⟩

def sampleStorage : Storage where
  sha _ := text "8b52d320874d071f9f0aef149f75058ace28ba0e43a413470f164fc4ecd0ad6a"
  loads _ := some ((snapshotShape (fun _ => text "8b52d320874d071f9f0aef149f75058ace28ba0e43a413470f164fc4ecd0ad6a") plainMaterials_lawful).dump sampleDossier.toSnapshot).sortKeys
  isoformat := plainTimestamp
  constraints _ := true

def sampleCandidates : DossierStore := ⟨[⟨text "11111111-1111-4111-8111-111111111111",1,.draft⟩],[],[]⟩

def sampleStored : DossierStore :=
  {sampleCandidates with dossiers := [⟨sampleDossier.id,sampleDossier.deploymentId,1,sampleDossier.createdBy,newYear,
    sampleDossier.snapshotHash,snapshotText sampleStorage plainMaterials_lawful sampleDossier.toSnapshot⟩]}

theorem stored_dossier_verifies_sample :
    ∃ row, sampleStored.dossier sampleDossier.id = some row ∧
      loadDossier sampleStorage plainMaterials_lawful row = some sampleDossier := by
  have created : create sampleStorage plainMaterials_lawful sampleCandidates (text "11111111-1111-4111-8111-111111111111")
      ⟨[sampleMaterial],[]⟩ 1 (text "operator") (text "22222222-2222-4222-8222-222222222222") newYear =
        .ok (sampleDossier,sampleStored) := by
    decide +kernel
  have stored : Stored sampleStorage plainMaterials_lawful [sampleDossier] sampleStored := .create (.start rfl) created
  obtain ⟨row,found,loaded,_⟩ := stored_dossier_verifies stored
    (fun value member => by cases List.mem_singleton.mp member; rfl) sampleDossier List.mem_cons_self
  exact ⟨row,found,loaded⟩

end Verifying

section Declaring
variable {m : Materials} {material : MaterialReference} (lawful : m.Lawful)

-- Each check leaves the material as it is.
structure Normal (m : Materials) (material : MaterialReference) : Prop where
  title : materialTitle m material.title = some material.title
  sourceReference : sourceReference m material.sourceReference = some material.sourceReference
  externalVersion : optionally (externalVersion m) material.externalVersion = some material.externalVersion
  declaredContentSha256 : optionally sha256 material.declaredContentSha256 = some material.declaredContentSha256
  expiresAt : optionally utcTime material.expiresAt = some material.expiresAt
  note : optionally (materialNote m) material.note = some material.note

theorem Normal.declared (normal : Normal m material) : declare m material = some ⟨material,.declared⟩ := by
  unfold declare
  rw [normal.title,normal.sourceReference,normal.externalVersion,normal.declaredContentSha256,normal.expiresAt,normal.note]
  rfl

theorem utcTime_settles : Settles utcTime := by
  intro raw time accepted
  unfold utcTime at accepted
  split at accepted
  · rename_i inside
    cases accepted
    exact if_pos inside
  · cases accepted

theorem dossierTime_checked (json : CanonicalJson.Json) (time : Int) (decoded : (dossierTime lawful).decode json = some time) :
    utcTime time = some time := by
  cases json with
  | text value =>
    obtain ⟨instant,_,accepted⟩ := Option.bind_eq_some_iff.mp decoded
    exact utcTime_settles instant time accepted
  | _ => cases decoded

theorem read_normal {lookup} (whole : (materialReferenceShape lawful).read lookup = some material) : Normal m material := by
  obtain ⟨⟨⟨⟨⟨⟨⟨category,title⟩,reference⟩,version⟩,hash⟩,expires⟩,note⟩,read,rfl⟩ := Option.map_eq_some_iff.mp whole
  obtain ⟨read,note⟩ := Shape.and_read read
  obtain ⟨read,expires⟩ := Shape.and_read read
  obtain ⟨read,hash⟩ := Shape.and_read read
  obtain ⟨read,version⟩ := Shape.and_read read
  obtain ⟨read,reference⟩ := Shape.and_read read
  obtain ⟨_,title⟩ := Shape.and_read read
  exact ⟨field_checked title,field_checked reference,defaulted_checked string_checked version,
    defaulted_checked string_checked hash,defaulted_checked (dossierTime_checked lawful) expires,
    defaulted_checked string_checked note⟩

theorem materialReference_normal {json : CanonicalJson.Json} (decoded : (materialReference lawful).decode json = some material) :
    Normal m material := by
  obtain ⟨_,_,read⟩ := Shape.decodeModel_read decoded
  exact read_normal lawful read

theorem declaredMaterial_normal {json : CanonicalJson.Json} (decoded : (declaredMaterial lawful).decode json = some value) :
    Normal m value.toMaterialReference := by
  obtain ⟨_,_,whole⟩ := Shape.decodeModel_read decoded
  obtain ⟨⟨material,provenance⟩,read,rfl⟩ := Option.map_eq_some_iff.mp whole
  exact read_normal lawful (Shape.and_read read).1

theorem dossierTime_kept {time : Int} (checked : utcTime time = some time) : (dossierTime lawful).Kept time := by
  change (m.instant (m.timestamp time)).bind utcTime = some time
  have inside : supported time = true := by
    by_contra outside
    rw [utcTime,if_neg outside] at checked
    cases checked
  rw [lawful.instant time inside]
  exact checked

-- Field by field, what has passed its check is read back.
theorem Normal.kept (normal : Normal m material) : (materialReferenceShape lawful).Kept material := by
  have category : category.Kept material.category := enumeration_kept (by cases material.category <;> decide)
  exact Shape.Kept.onto (((((((Shape.field_kept category).and (Shape.field_kept (string_kept normal.title))).and
    (Shape.field_kept (string_kept normal.sourceReference))).and
    (Shape.defaulted_kept (optional_kept (optionally_some normal.externalVersion)))).and
    (Shape.defaulted_kept (optional_kept (optionally_some normal.declaredContentSha256)))).and
    (Shape.defaulted_kept (optional_kept fun time present =>
      dossierTime_kept lawful (optionally_some normal.expiresAt time present)))).and
    (Shape.defaulted_kept (optional_kept (optionally_some normal.note)))) rfl

theorem Normal.declared_kept (normal : Normal m material) (origin : Provenance) :
    (declaredMaterial lawful).Kept ⟨material,origin⟩ := by
  have provenance : provenance.Kept origin := enumeration_kept (by cases origin; decide)
  exact Shape.Kept.model (Shape.Kept.onto ((normal.kept lawful).and (Shape.defaulted_kept provenance)) rfl)

include lawful in
theorem declare_normal (declared : declare m material = some value) : Normal m value.toMaterialReference := by
  obtain ⟨title,checkedTitle,declared⟩ := Option.bind_eq_some_iff.mp declared
  obtain ⟨reference,checkedReference,declared⟩ := Option.bind_eq_some_iff.mp declared
  obtain ⟨version,checkedVersion,declared⟩ := Option.bind_eq_some_iff.mp declared
  obtain ⟨hash,checkedHash,declared⟩ := Option.bind_eq_some_iff.mp declared
  obtain ⟨expires,checkedExpires,declared⟩ := Option.bind_eq_some_iff.mp declared
  obtain ⟨note,checkedNote,declared⟩ := Option.bind_eq_some_iff.mp declared
  cases declared
  exact ⟨stripped_settles lawful 120 _ _ checkedTitle,sourceReference_settles lawful _ _ checkedReference,
    optionally_settles (stripped_settles lawful 128) _ _ checkedVersion,optionally_settles sha256_settles _ _ checkedHash,
    optionally_settles utcTime_settles _ _ checkedExpires,optionally_settles (stripped_settles lawful 500) _ _ checkedNote⟩

theorem material_settles :
    (∀ json declared, (declaredMaterial lawful).decode json = some declared →
      (declaredMaterial lawful).decode ((declaredMaterial lawful).encode declared).sortKeys = some declared ∧
        declare m declared.toMaterialReference = some declared) ∧
    (∀ json material, (materialReference lawful).decode json = some material →
      (materialReference lawful).decode ((materialReference lawful).encode material).sortKeys = some material ∧
        declare m material = some ⟨material,.declared⟩) ∧
    ∀ material declared, declare m material = some declared →
      (declaredMaterial lawful).decode ((declaredMaterial lawful).encode declared).sortKeys = some declared ∧
        declare m declared.toMaterialReference = some declared := by
  have whole (declared : DeclaredMaterial) : ⟨declared.toMaterialReference,.declared⟩ = declared := by
    cases declared
    rfl
  refine ⟨fun json declared decoded => ⟨(declaredMaterial lawful).settles json declared decoded,?_⟩,
    fun json material decoded => ⟨(materialReference lawful).settles json material decoded,
      (materialReference_normal lawful decoded).declared⟩,fun material declared accepted => ⟨?_,?_⟩⟩
  · have again := (declaredMaterial_normal lawful decoded).declared
    rwa [whole] at again
  · exact (declare_normal lawful accepted).declared_kept lawful declared.provenance
  · have again := (declare_normal lawful accepted).declared
    rwa [whole] at again

def declaredSample : DeclaredMaterial :=
  ⟨⟨.pricing,text "List price",text "https://docs.example.test/price",none,none,none,none⟩,.declared⟩

theorem material_settles_sample : declare plainMaterials sampleMaterial = some declaredSample ∧
    (declaredMaterial plainMaterials_lawful).decode ((declaredMaterial plainMaterials_lawful).encode declaredSample).sortKeys =
      some declaredSample ∧
    declare plainMaterials declaredSample.toMaterialReference = some declaredSample := by
  have declared : declare plainMaterials sampleMaterial = some declaredSample := by decide +kernel
  exact ⟨declared,(material_settles plainMaterials_lawful).2.2 _ _ declared⟩

end Declaring
end EngineeringPlatform.Dossiers
