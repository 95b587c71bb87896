/-
Provider profiles and the versions of their credentials
(`services/provider_profiles.py`, `db/provider_profiles.py`), and what a
research run is bound to (`db/research_runs.py`, `create`;
`db/run_providers.py`).

# The parties

A request reads first, in a transaction of its own, and encrypts; then it
writes. Between the two any other request may write (`Call`). A write is
refused where it raises or a unique index does, and a caller may go away
before it.

The transactions are read committed. One that makes a profile the default
demotes the owner's others in an `UPDATE` of its own (`Action.begin`), and
those that others insert before its own row is written are not demoted
(`Call.moment`): `create` locks nothing that would hold them off. All else
that a write reads is locked until it commits or read right before, so that
the rest of it is one step.

# What is left out

No row is ever removed, and a row refers to rows that its request has read,
so that no foreign key refuses. A transaction that the database aborts
leaves nothing behind, as one that is abandoned. A row that is locked makes
another write wait for it, which leaves fewer interleavings than there are
here. Lengths of columns, the
display columns of a credential, and of a run all but what its binding is
made of are left out.
-/
import DeepResearch.Provider.Secrets
import DeepResearch.Reader.WebReader
import DeepResearch.Lib.Transition
import DeepResearch.Lib.UniqueIndex

namespace DeepResearch.Provider

open DeepResearch.Run (strip)
open DeepResearch.Source (UrlText)
open DeepResearch.State (UUID)
open UniqueIndex (Apart)
open UrlSplit (urlsplit urlunsplit hostname)

-- ================================================================== failures

/-- What a request or its write raises. -/
inductive ProfileError
  /-- `ProfileNotFoundError`. -/
  | notFound
  /-- A `ValueError` of the base URL; without a text it is `urlsplit`'s. -/
  | baseUrl (message : Option String)
  /-- The `ValueError` for an empty key. -/
  | emptyApiKey
  | decryption (error : SecretDecryptionError)
  /-- `CredentialVersionNotFoundError`. -/
  | credentialVersionNotFound
  /-- `RunCredentialUnavailableError`. -/
  | runCredentialUnavailable
  /-- `IntegrityError`. -/
  | integrity
  deriving DecidableEq, Repr

-- ================================================================== base URL

/-- What the base URL is judged by. `isGlobal` is
`ipaddress.ip_address(_).is_global`, and `none` where the host is no
address. -/
structure EndpointPolicy where
  final : UrlText → UrlText → Bool
  isGlobal : UrlText → Option Bool
  allowInsecureEndpoints : Bool

/-- `_normalize_base_url`: the URL and the host with its port. -/
def normalizeBaseUrl (policy : EndpointPolicy) (rawUrl : UrlText) :
    Except ProfileError (UrlText × UrlText) :=
  let lower := CaseFolding.lower policy.final
  let localhost := ["localhost".toList, "127.0.0.1".toList, "::1".toList]
  match urlsplit (strip rawUrl) with
  | none => .error (.baseUrl none)
  | some parsed =>
      let host := lower (hostname policy.final parsed.netloc)
      if parsed.scheme ≠ "https".toList ∧ parsed.scheme ≠ "http".toList
          ∨ hostname policy.final parsed.netloc = [] then
        .error (.baseUrl (some
          "provider base URL must be an absolute HTTP(S) URL"))
      else if Reader.hasCredentials parsed.netloc = true ∨ parsed.query ≠ []
          ∨ parsed.fragment ≠ [] then
        .error (.baseUrl (some ("provider base URL may not contain "
          ++ "credentials, query, or fragment")))
      else if parsed.scheme ≠ "https".toList
          ∧ !(policy.allowInsecureEndpoints && localhost.contains host) then
        .error (.baseUrl (some "provider base URL must use HTTPS"))
      else if policy.isGlobal host = some false
          ∧ !(localhost.tail.contains host) then
        .error (.baseUrl (some
          "private or metadata IP endpoints are not allowed"))
      else
        .ok (urlunsplit ⟨lower parsed.scheme, lower parsed.netloc,
          parsed.path.rdropWhile (· == '/'), [], []⟩, lower parsed.netloc)

-- ================================================================== the rows

/-- `status` of a profile. -/
inductive ProfileStatus
  | active
  | deleted
  deriving DecidableEq, Repr

/-- `ProviderProfileRow`. -/
structure ProviderProfileRow where
  id : UUID
  ownerHash : String
  name : String
  adapterType : AdapterType
  normalizedBaseUrl : UrlText
  endpointHost : UrlText
  model : String
  status : ProfileStatus := .active
  version : Nat := 1
  isDefault : Bool
  updatedAt : ℤ
  deletedAt : Option ℤ := none
  deriving DecidableEq

/-- `CredentialVersionRow`. -/
structure CredentialVersionRow (γ : Type) where
  id : UUID
  profileId : UUID
  credentialVersion : Nat
  secret : EncryptedSecret γ
  revokedAt : Option ℤ := none
  deletedAt : Option ℤ := none

/-- The columns of `ResearchRunRow` that a binding is made of; the last
three are of its `llm_config_snapshot`. -/
structure ResearchRunRow where
  id : UUID
  ownerHash : String
  idempotencyKey : String
  savedProfileId : UUID
  credentialVersionId : UUID
  adapterType : AdapterType
  baseUrl : UrlText
  model : String
  deriving DecidableEq

/-- The three tables. -/
structure Database (γ : Type) where
  profiles : List ProviderProfileRow
  credentials : List (CredentialVersionRow γ)
  runs : List ResearchRunRow

variable {γ : Type}

/-- The rows that `uq_llm_profiles_owner_default_active` covers. -/
def ProviderProfileRow.isActiveDefault (profile : ProviderProfileRow) :
    Bool :=
  profile.isDefault && profile.deletedAt.isNone && profile.status = .active

/-- The rows that `uq_llm_credentials_one_active` covers. -/
def CredentialVersionRow.isActive (credential : CredentialVersionRow γ) :
    Bool :=
  credential.revokedAt.isNone && credential.deletedAt.isNone

/-- Two profiles that a unique index does not let stand together. -/
def ProviderProfileRow.Conflict (p q : ProviderProfileRow) : Prop :=
  p.id = q.id
    ∨ p.ownerHash = q.ownerHash ∧ p.isActiveDefault = true
      ∧ q.isActiveDefault = true

/-- Two credentials that one does not. -/
def CredentialVersionRow.Conflict (c d : CredentialVersionRow γ) : Prop :=
  c.id = d.id
    ∨ c.profileId = d.profileId ∧ c.isActive = true ∧ d.isActive = true

/-- Two runs that one does not (`uq_research_runs_owner_idempotency`). -/
def ResearchRunRow.Conflict (r t : ResearchRunRow) : Prop :=
  r.id = t.id
    ∨ r.ownerHash = t.ownerHash ∧ r.idempotencyKey = t.idempotencyKey

instance (p q : ProviderProfileRow) : Decidable (p.Conflict q) :=
  inferInstanceAs (Decidable (_ ∨ _))

instance (c d : CredentialVersionRow γ) : Decidable (c.Conflict d) :=
  inferInstanceAs (Decidable (_ ∨ _))

instance (r t : ResearchRunRow) : Decidable (r.Conflict t) :=
  inferInstanceAs (Decidable (_ ∨ _))

namespace Database

/-- The unique indexes hold. -/
structure Constraints (db : Database γ) : Prop where
  profiles : Apart ProviderProfileRow.Conflict db.profiles
  credentials : Apart CredentialVersionRow.Conflict db.credentials
  runs : Apart ResearchRunRow.Conflict db.runs

theorem constraints_iff (db : Database γ) :
    (Apart ProviderProfileRow.Conflict db.profiles
        ∧ Apart CredentialVersionRow.Conflict db.credentials
        ∧ Apart ResearchRunRow.Conflict db.runs)
      ↔ db.Constraints :=
  ⟨fun h => ⟨h.1, h.2.1, h.2.2⟩,
    fun h => ⟨h.profiles, h.credentials, h.runs⟩⟩

instance (db : Database γ) : Decidable db.Constraints :=
  decidable_of_iff _ db.constraints_iff

/-- The end of a transaction. No statement breaks an index that a later
one of its transaction would mend. -/
def checked (db : Database γ) : Except ProfileError (Database γ) :=
  if db.Constraints then .ok db else .error .integrity

-- =================================================================== reading

/-- The join of `_active_query`. -/
def activeRows (db : Database γ) (ownerHash : String) :
    List (ProviderProfileRow × CredentialVersionRow γ) :=
  (db.profiles.filter fun profile => profile.ownerHash = ownerHash
      && profile.status = .active && profile.deletedAt.isNone).flatMap
    fun profile =>
      (db.credentials.filter fun credential =>
          credential.profileId = profile.id && credential.isActive).map
        (profile, ·)

/-- `list_active`. -/
def listActive (db : Database γ) (ownerHash : String) :
    List (ProviderProfileRow × CredentialVersionRow γ) :=
  (db.activeRows ownerHash).mergeSort fun a b =>
    if a.1.isDefault = b.1.isDefault then b.1.updatedAt ≤ a.1.updatedAt
    else a.1.isDefault

/-- `get_active`. -/
def getActive (db : Database γ) (ownerHash : String) (profileId : UUID) :
    Except ProfileError (ProviderProfileRow × CredentialVersionRow γ) :=
  match (db.activeRows ownerHash).find? (·.1.id = profileId) with
  | some row => .ok row
  | none => .error .notFound

/-- `_lock_profile`. -/
def lockProfile (db : Database γ) (ownerHash : String) (profileId : UUID) :
    Except ProfileError ProviderProfileRow :=
  match db.profiles.find? fun profile => profile.id = profileId
      && profile.ownerHash = ownerHash && profile.deletedAt.isNone with
  | some profile => .ok profile
  | none => .error .notFound

/-- `_active_credential`. -/
def activeCredential (db : Database γ) (profileId : UUID) :
    Except ProfileError (CredentialVersionRow γ) :=
  match db.credentials.find? fun credential =>
      credential.profileId = profileId && credential.isActive with
  | some credential => .ok credential
  | none => .error .notFound

end Database

-- =================================================================== writing

/-- What a request changes of a profile. -/
structure ProfileChanges where
  name : Option String
  normalizedBaseUrl : Option UrlText
  endpointHost : Option UrlText
  model : Option String
  isDefault : Option Bool

/-- The writes, with their arguments. -/
inductive Write (γ : Type)
  | create (profile : ProviderProfileRow)
    (credential : CredentialVersionRow γ)
  | updateNonSecret (ownerHash : String) (profileId : UUID)
    (changes : ProfileChanges)
  | replaceAdapter (ownerHash : String) (profileId : UUID)
    (expectedCredentialId : UUID) (adapterType : AdapterType)
    (changes : ProfileChanges) (credential : CredentialVersionRow γ)
  | rotate (ownerHash : String) (profileId : UUID)
    (credential : CredentialVersionRow γ)
  | delete (ownerHash : String) (profileId : UUID)
  | createRun (run : ResearchRunRow)

/-- When a write commits: the clock, and the profiles that have been
inserted since its `UPDATE` ran. -/
structure Moment where
  time : ℤ
  unseen : List UUID := []

namespace ProviderProfileRow

/-- The row of a live profile of the owner, other than the one that is
kept, once another is the default. -/
def demote (ownerHash : String) (kept : Option UUID) (now : Moment)
    (profile : ProviderProfileRow) : ProviderProfileRow :=
  if profile.ownerHash = ownerHash ∧ some profile.id ≠ kept
      ∧ profile.deletedAt = none ∧ now.unseen.all (· ≠ profile.id) then
    { profile with isDefault := false, updatedAt := now.time }
  else profile

/-- The row with the changes that are there. -/
def change (changes : ProfileChanges) (now : ℤ)
    (profile : ProviderProfileRow) : ProviderProfileRow :=
  { profile with
    name := changes.name.getD profile.name
    normalizedBaseUrl :=
      changes.normalizedBaseUrl.getD profile.normalizedBaseUrl
    endpointHost := changes.endpointHost.getD profile.endpointHost
    model := changes.model.getD profile.model
    isDefault := changes.isDefault.getD profile.isDefault
    version := profile.version + 1
    updatedAt := now }

/-- One row is changed. -/
def onRow (profileId : UUID)
    (update : ProviderProfileRow → ProviderProfileRow)
    (profile : ProviderProfileRow) : ProviderProfileRow :=
  if profile.id = profileId then update profile else profile

end ProviderProfileRow

namespace CredentialVersionRow

/-- An active credential of the profile is revoked. -/
def revoke (profileId : UUID) (now : ℤ)
    (credential : CredentialVersionRow γ) : CredentialVersionRow γ :=
  if credential.profileId = profileId ∧ credential.isActive = true then
    { credential with revokedAt := some now }
  else credential

/-- A credential of the profile is deleted. -/
def remove (profileId : UUID) (now : ℤ)
    (credential : CredentialVersionRow γ) : CredentialVersionRow γ :=
  if credential.profileId = profileId ∧ credential.deletedAt = none then
    { credential with revokedAt := some now, deletedAt := some now }
  else credential

/-- One credential is revoked. -/
def revokeOne (credentialId : UUID) (now : ℤ)
    (credential : CredentialVersionRow γ) : CredentialVersionRow γ :=
  if credential.id = credentialId then
    { credential with revokedAt := some now }
  else credential

end CredentialVersionRow

namespace Database

/-- `create`. -/
def create (db : Database γ) (now : Moment) (profile : ProviderProfileRow)
    (credential : CredentialVersionRow γ) :
    Except ProfileError (Database γ) :=
  let profiles :=
    if profile.isDefault = true then
      db.profiles.map (·.demote profile.ownerHash none now)
    else db.profiles
  checked { db with
    profiles := profiles ++ [{ profile with updatedAt := now.time }]
    credentials := db.credentials ++ [credential] }

/-- The other profiles of the owner once this one is made the default. -/
def demoteOthers (db : Database γ) (now : Moment) (ownerHash : String)
    (profileId : UUID) (isDefault : Option Bool) :
    List ProviderProfileRow :=
  if isDefault = some true then
    db.profiles.map (·.demote ownerHash (some profileId) now)
  else db.profiles

/-- `update_non_secret`. -/
def updateNonSecret (db : Database γ) (now : Moment) (ownerHash : String)
    (profileId : UUID) (changes : ProfileChanges) :
    Except ProfileError (Database γ) := do
  let _ ← db.lockProfile ownerHash profileId
  let profiles := db.demoteOthers now ownerHash profileId changes.isDefault
  let _ ← db.activeCredential profileId
  checked { db with
    profiles :=
      profiles.map (·.onRow profileId (·.change changes now.time)) }

/-- `replace_adapter`. -/
def replaceAdapter (db : Database γ) (now : Moment) (ownerHash : String)
    (profileId expectedCredentialId : UUID) (adapterType : AdapterType)
    (changes : ProfileChanges) (credential : CredentialVersionRow γ) :
    Except ProfileError (Database γ) := do
  let _ ← db.lockProfile ownerHash profileId
  let current ← db.activeCredential profileId
  if current.id ≠ expectedCredentialId then .error .notFound
  else
    let profiles := db.demoteOthers now ownerHash profileId changes.isDefault
    checked { db with
      profiles := profiles.map (·.onRow profileId fun profile =>
        { profile.change changes now.time with adapterType := adapterType })
      credentials :=
        db.credentials.map (·.revokeOne current.id now.time)
          ++ [credential] }

/-- `rotate`. -/
def rotate (db : Database γ) (now : ℤ) (ownerHash : String)
    (profileId : UUID) (credential : CredentialVersionRow γ) :
    Except ProfileError (Database γ) := do
  let _ ← db.lockProfile ownerHash profileId
  checked { db with
    profiles := db.profiles.map (·.onRow profileId fun profile =>
      { profile with version := profile.version + 1, updatedAt := now })
    credentials :=
      db.credentials.map (·.revoke profileId now) ++ [credential] }

/-- `delete`. -/
def delete (db : Database γ) (now : ℤ) (ownerHash : String)
    (profileId : UUID) : Except ProfileError (Database γ) := do
  let _ ← db.lockProfile ownerHash profileId
  checked { db with
    profiles := db.profiles.map (·.onRow profileId fun profile =>
      { profile with
        status := .deleted, deletedAt := some now, updatedAt := now })
    credentials := db.credentials.map (·.remove profileId now) }

/-- The write of a call. -/
def commit (db : Database γ) (now : Moment) :
    Write γ → Except ProfileError (Database γ)
  | .create profile credential => db.create now profile credential
  | .updateNonSecret ownerHash profileId changes =>
      db.updateNonSecret now ownerHash profileId changes
  | .replaceAdapter ownerHash profileId expectedCredentialId adapterType
      changes credential =>
      db.replaceAdapter now ownerHash profileId expectedCredentialId
        adapterType changes credential
  | .rotate ownerHash profileId credential =>
      db.rotate now.time ownerHash profileId credential
  | .delete ownerHash profileId => db.delete now.time ownerHash profileId
  | .createRun run => checked { db with runs := db.runs ++ [run] }

end Database

-- ============================================================== the requests

/-- The requests to `ProviderProfileService`, and the creation of a run. -/
inductive Request
  | createProfile (ownerHash name : String) (adapterType : AdapterType)
    (baseUrl : UrlText) (model apiKey : String) (isDefault : Bool)
  | updateProfile (ownerHash : String) (profileId : UUID)
    (adapterType : Option AdapterType) (name : Option String)
    (baseUrl : Option UrlText) (model : Option String)
    (isDefault : Option Bool)
  | rotateCredential (ownerHash : String) (profileId : UUID)
    (apiKey : String)
  | deleteProfile (ownerHash : String) (profileId : UUID)
  | createRun (ownerHash idempotencyKey : String)
    (credentialVersionId : UUID)

/-- What a request draws: `uuid4`, `uuid7` and `os.urandom`. -/
structure Draw where
  profileId : UUID
  credentialId : UUID
  runId : UUID
  nonce : BitVec 96

/-- A key and the adapter that it was encrypted for. -/
structure Sealing where
  apiKey : String
  adapterType : AdapterType
  deriving DecidableEq

/-- A request between its reading and its writing: the write, what it has
encrypted, and the profiles that its `UPDATE` has found, once it ran. -/
structure Call (γ : Type) where
  write : Write γ
  sealing : Option Sealing := none
  found : Option (List UUID) := none

/-- When the call commits, at a time. Where it has not begun, its `UPDATE`
runs right before. -/
def Call.moment (call : Call γ) (db : Database γ) (time : ℤ) : Moment where
  time
  unseen := call.found.elim [] fun found =>
    (db.profiles.map (·.id)).filter fun id => found.all (· ≠ id)

/-- The deployment. -/
structure Service (γ : Type) where
  cipher : SecretCipher γ
  policy : EndpointPolicy

namespace Service

/-- `_credential_row`, of a secret that is encrypted for it. -/
def credentialRow (service : Service γ) (draw : Draw) (profileId : UUID)
    (credentialVersion : Nat) (sealing : Sealing) :
    Except ProfileError (CredentialVersionRow γ) :=
  match service.cipher.encrypt sealing.apiKey draw.nonce draw.credentialId
      sealing.adapterType credentialVersion with
  | none => .error .emptyApiKey
  | some secret =>
      .ok { id := draw.credentialId, profileId, credentialVersion, secret }

/-- The key of a credential, for the adapter its profile has. -/
def openCredential (service : Service γ) (adapterType : AdapterType)
    (credential : CredentialVersionRow γ) : Except ProfileError String :=
  (service.cipher.decrypt credential.secret credential.id adapterType
    credential.credentialVersion).mapError .decryption

/-- `create_profile`, up to its write. -/
def createProfile (service : Service γ) (draw : Draw)
    (ownerHash name : String) (adapterType : AdapterType)
    (baseUrl : UrlText) (model apiKey : String) (isDefault : Bool) :
    Except ProfileError (Call γ) := do
  let (normalizedBaseUrl, endpointHost) ←
    normalizeBaseUrl service.policy baseUrl
  let sealing : Sealing := ⟨apiKey, adapterType⟩
  let credential ← service.credentialRow draw draw.profileId 1 sealing
  return {
    write := .create
      { id := draw.profileId, ownerHash, name, adapterType,
        normalizedBaseUrl, endpointHost, model, isDefault, updatedAt := 0 }
      credential
    sealing := some sealing }

/-- `update_profile`, where the adapter changes. -/
def changeAdapter (service : Service γ) (draw : Draw) (ownerHash : String)
    (profile : ProviderProfileRow) (current : CredentialVersionRow γ)
    (adapterType : AdapterType) (name : Option String)
    (baseUrl : Option UrlText) (model : Option String)
    (isDefault : Option Bool) : Except ProfileError (Call γ) := do
  let (replacementUrl, replacementHost) ← normalizeBaseUrl service.policy
    (baseUrl.getD profile.normalizedBaseUrl)
  let plaintext ← service.openCredential profile.adapterType current
  let sealing : Sealing := ⟨plaintext, adapterType⟩
  let credential ← service.credentialRow draw profile.id
    (current.credentialVersion + 1) sealing
  return {
    write := .replaceAdapter ownerHash profile.id current.id adapterType
      ⟨name, some replacementUrl, some replacementHost, model, isDefault⟩
      credential
    sealing := some sealing }

/-- `update_profile`, where it does not. -/
def changeNonSecret (service : Service γ) (ownerHash : String)
    (profileId : UUID) (name : Option String) (baseUrl : Option UrlText)
    (model : Option String) (isDefault : Option Bool) :
    Except ProfileError (Call γ) :=
  match baseUrl with
  | none => .ok {
      write := .updateNonSecret ownerHash profileId
        ⟨name, none, none, model, isDefault⟩ }
  | some baseUrl => do
      let (normalizedBaseUrl, endpointHost) ←
        normalizeBaseUrl service.policy baseUrl
      return {
        write := .updateNonSecret ownerHash profileId
          ⟨name, some normalizedBaseUrl, some endpointHost, model,
            isDefault⟩ }

/-- `rotate_credential`, up to its write. -/
def rotateCredential (service : Service γ) (db : Database γ) (draw : Draw)
    (ownerHash : String) (profileId : UUID) (apiKey : String) :
    Except ProfileError (Call γ) := do
  let (profile, current) ← db.getActive ownerHash profileId
  let sealing : Sealing := ⟨apiKey, profile.adapterType⟩
  let credential ← service.credentialRow draw profileId
    (current.credentialVersion + 1) sealing
  return {
    write := .rotate ownerHash profileId credential
    sealing := some sealing }

/-- The creation of a run, up to its write; `none` where a run with its
key is there. -/
def createRun (db : Database γ) (draw : Draw)
    (ownerHash idempotencyKey : String) (credentialVersionId : UUID) :
    Except ProfileError (Option (Call γ)) :=
  if db.runs.any (fun run => run.ownerHash = ownerHash
      && run.idempotencyKey = idempotencyKey) = true then
    .ok none
  else
    match (db.activeRows ownerHash).find?
        (·.2.id = credentialVersionId) with
    | none => .error .credentialVersionNotFound
    | some (profile, credential) =>
        .ok (some {
          write := .createRun
            { id := draw.runId, ownerHash, idempotencyKey
              savedProfileId := profile.id
              credentialVersionId := credential.id
              adapterType := profile.adapterType
              baseUrl := profile.normalizedBaseUrl
              model := profile.model } })

/-- A request up to its write; `none` where there is nothing to write. -/
def prepare (service : Service γ) (db : Database γ) (draw : Draw) :
    Request → Except ProfileError (Option (Call γ))
  | .createProfile ownerHash name adapterType baseUrl model apiKey
      isDefault =>
      some <$> service.createProfile draw ownerHash name adapterType baseUrl
        model apiKey isDefault
  | .updateProfile ownerHash profileId none name baseUrl model isDefault =>
      some <$> service.changeNonSecret ownerHash profileId name baseUrl model
        isDefault
  | .updateProfile ownerHash profileId (some adapterType) name baseUrl model
      isDefault => do
      let (profile, current) ← db.getActive ownerHash profileId
      if adapterType ≠ profile.adapterType then
        some <$> service.changeAdapter draw ownerHash profile current
          adapterType name baseUrl model isDefault
      else
        some <$> service.changeNonSecret ownerHash profileId name baseUrl
          model isDefault
  | .rotateCredential ownerHash profileId apiKey =>
      some <$> service.rotateCredential db draw ownerHash profileId apiKey
  | .deleteProfile ownerHash profileId =>
      .ok (some { write := .delete ownerHash profileId })
  | .createRun ownerHash idempotencyKey credentialVersionId =>
      createRun db draw ownerHash idempotencyKey credentialVersionId

end Service

-- =============================================================== the readers

/-- `ProviderProfileTestMaterial`. -/
structure ProviderProfileTestMaterial where
  profileId : UUID
  credentialVersionId : UUID
  adapterType : AdapterType
  baseUrl : UrlText
  model : String
  apiKey : String
  deriving DecidableEq

/-- `get_test_material`. -/
def Service.getTestMaterial (service : Service γ) (db : Database γ)
    (ownerHash : String) (profileId : UUID) :
    Except ProfileError ProviderProfileTestMaterial := do
  let (profile, credential) ← db.getActive ownerHash profileId
  let apiKey ← service.openCredential profile.adapterType credential
  return {
    profileId := profile.id
    credentialVersionId := credential.id
    adapterType := profile.adapterType
    baseUrl := profile.normalizedBaseUrl
    model := profile.model
    apiKey }

/-- `RunProviderBinding`. -/
structure RunProviderBinding (γ : Type) where
  runId : UUID
  adapterType : AdapterType
  baseUrl : UrlText
  model : String
  credentialId : UUID
  credentialVersion : Nat
  encryptedSecret : EncryptedSecret γ

/-- `RunProviderBindingRepository.get`. -/
def Database.binding (db : Database γ) (runId : UUID) :
    Except ProfileError (RunProviderBinding γ) :=
  match db.runs.find? (·.id = runId) with
  | none => .error .runCredentialUnavailable
  | some run =>
      match db.profiles.find? (·.id = run.savedProfileId),
          db.credentials.find? (·.id = run.credentialVersionId) with
      | some _, some credential =>
          if credential.deletedAt.isSome = true then
            .error .runCredentialUnavailable
          else .ok {
            runId := run.id
            adapterType := run.adapterType
            baseUrl := run.baseUrl
            model := run.model
            credentialId := credential.id
            credentialVersion := credential.credentialVersion
            encryptedSecret := credential.secret }
      | _, _ => .error .runCredentialUnavailable

/-- The key that the planner, the extractor and the writer of a run
decrypt. -/
def Service.runKey (service : Service γ) (db : Database γ) (runId : UUID) :
    Except ProfileError String := do
  let binding ← db.binding runId
  (service.cipher.decrypt binding.encryptedSecret binding.credentialId
    binding.adapterType binding.credentialVersion).mapError .decryption

-- ================================================================ the system

/-- The tables, and the calls that are still to write. -/
structure State (γ : Type) where
  db : Database γ
  calls : List (Call γ)

/-- What happens: a request reads, the write of a call begins with its
`UPDATE`, it commits or is refused, a caller goes away. -/
inductive Action
  | request (request : Request) (draw : Draw)
  | begin (index : Nat)
  | commit (index : Nat) (time : ℤ)
  | abandon (index : Nat)

/-- One step. -/
def Service.step (service : Service γ) (s : State γ) : Action → State γ
  | .request request draw =>
      match service.prepare s.db draw request with
      | .ok (some call) => { s with calls := s.calls ++ [call] }
      | _ => s
  | .begin index =>
      { s with
        calls := s.calls.modify index fun call =>
          { call with found := some (s.db.profiles.map (·.id)) } }
  | .commit index time =>
      match s.calls[index]? with
      | none => s
      | some call =>
          match s.db.commit (call.moment s.db time) call.write with
          | .ok db => ⟨db, s.calls.eraseIdx index⟩
          | .error _ => { s with calls := s.calls.eraseIdx index }
  | .abandon index => { s with calls := s.calls.eraseIdx index }

def State.empty : State γ where
  db := ⟨[], [], []⟩
  calls := []

/-- The system, from empty tables. -/
def profileSystem (service : Service γ) :
    Transition.System (State γ) Action where
  init s := s = State.empty
  step := service.step

end DeepResearch.Provider
