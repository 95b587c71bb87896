/-
What a request has prepared when it comes to write.

Everything it has read may have changed since. What it relies on has not:
a credential keeps its secret, and neither profiles nor credentials go
away (`Prepared.later`).
-/
import DeepResearch.Lib.Outcome
import DeepResearch.Provider.Proofs.Commit
import DeepResearch.Provider.Proofs.Secrets

namespace DeepResearch.Provider

open DeepResearch.State (UUID)
open Outcome (bind_ok_iff map_ok_iff)

variable {γ : Type} {service : Service γ} {db db' : Database γ} {now : Moment}
  {ownerHash : String} {profileId : UUID}

-- ============================================================= sealed secrets

/-- The credential holds this key, encrypted for this adapter. -/
def Service.Sealed (service : Service γ) (credential : CredentialVersionRow γ)
    (sealing : Sealing) : Prop :=
  ∃ nonce, service.cipher.encrypt sealing.apiKey nonce credential.id
    sealing.adapterType credential.credentialVersion
      = some credential.secret

/-- What comes out of a credential. -/
theorem openCredential_eq {credential : CredentialVersionRow γ}
    {sealing : Sealing} (h : service.Sealed credential sealing)
    (adapterType : AdapterType) :
    service.openCredential adapterType credential
      = if sealing.adapterType = adapterType then .ok sealing.apiKey
        else .error (.decryption .credentialAuthenticationFailed) := by
  obtain ⟨nonce, hencrypt⟩ := h
  unfold Service.openCredential
  rw [decrypt_encrypt hencrypt]
  split <;> rfl

/-- A credential holds one key, for one adapter. -/
theorem Sealed.unique {credential : CredentialVersionRow γ}
    {s t : Sealing} (hs : service.Sealed credential s)
    (ht : service.Sealed credential t) : s = t := by
  have hopen := openCredential_eq hs s.adapterType
  rw [openCredential_eq ht s.adapterType, if_pos rfl] at hopen
  split at hopen
  case isTrue hadapter =>
    cases s
    cases t
    cases Except.ok.inj hopen
    cases hadapter
    rfl
  case isFalse => cases hopen

/-- A credential keeps its seal as long as it is there. -/
theorem Sealed.of_ages {c c' : CredentialVersionRow γ} {sealing : Sealing}
    (h : service.Sealed c sealing) (hages : Ages c c') :
    service.Sealed c' sealing := by
  obtain ⟨nonce, hencrypt⟩ := h
  refine ⟨nonce, ?_⟩
  rw [hages.id, hages.credentialVersion, hages.secret]
  exact hencrypt

/-- A fresh credential. -/
theorem credentialRow_ok {draw : Draw} {version : Nat} {sealing : Sealing}
    {credential : CredentialVersionRow γ}
    (h : service.credentialRow draw profileId version sealing
      = .ok credential) :
    credential.profileId = profileId ∧ credential.isActive = true
      ∧ service.Sealed credential sealing := by
  unfold Service.credentialRow at h
  split at h
  case h_1 => cases h
  case h_2 secret hencrypt =>
    cases h
    exact ⟨rfl, rfl, draw.nonce, hencrypt⟩

-- =================================================================== reading

/-- The rows of the join. -/
theorem mem_activeRows {p : ProviderProfileRow}
    {c : CredentialVersionRow γ} :
    (p, c) ∈ db.activeRows ownerHash
      ↔ (p ∈ db.profiles ∧ p.ownerHash = ownerHash ∧ p.status = .active
          ∧ p.deletedAt = none)
        ∧ c ∈ db.credentials ∧ c.profileId = p.id ∧ c.isActive = true := by
  unfold Database.activeRows
  simp only [List.mem_flatMap, List.mem_map, List.mem_filter,
    Bool.and_eq_true, decide_eq_true_eq, Option.isNone_iff_eq_none,
    Prod.mk.injEq]
  constructor
  · intro ⟨p', ⟨hp, ⟨howner, hstatus⟩, hlive⟩, c', ⟨hc, hcp, hactive⟩, hpp,
      hcc⟩
    cases hpp
    cases hcc
    exact ⟨⟨hp, howner, hstatus, hlive⟩, hc, hcp, hactive⟩
  · intro ⟨⟨hp, howner, hstatus, hlive⟩, hc, hcp, hactive⟩
    exact ⟨p, ⟨hp, ⟨howner, hstatus⟩, hlive⟩, c, ⟨hc, hcp, hactive⟩, rfl,
      rfl⟩

/-- What is found is a live row of the owner. -/
theorem getActive_ok {row : ProviderProfileRow × CredentialVersionRow γ}
    (h : db.getActive ownerHash profileId = .ok row) :
    row ∈ db.activeRows ownerHash ∧ row.1.id = profileId := by
  unfold Database.getActive at h
  split at h
  case h_1 found hfind =>
    cases h
    have hid := List.find?_some hfind
    exact ⟨List.mem_of_find?_eq_some hfind, of_decide_eq_true hid⟩
  case h_2 => cases h

-- ================================================================= the calls

/-- What a write relies on. -/
def Service.Grounded (service : Service γ) (db : Database γ)
    (sealing : Option Sealing) : Write γ → Prop
  | .create profile _ =>
      profile.deletedAt = none ∧ profile.status = .active
        ∧ ∀ new ∈ sealing, new.adapterType = profile.adapterType
  | .replaceAdapter _ _ expectedCredentialId adapterType _ _ =>
      ∀ new ∈ sealing, new.adapterType = adapterType
        ∧ ∃ c ∈ db.credentials, c.id = expectedCredentialId
          ∧ ∃ old, service.Sealed c old ∧ old.apiKey = new.apiKey
  | .createRun run =>
      (∃ p ∈ db.profiles, p.id = run.savedProfileId)
        ∧ ∃ c ∈ db.credentials, c.id = run.credentialVersionId
          ∧ c.profileId = run.savedProfileId
  | _ => True

/-- A call that has come to write. -/
structure Service.Prepared (service : Service γ) (db : Database γ)
    (call : Call γ) : Prop where
  formed : call.write.Formed
  fresh : ∀ new ∈ call.write.newCredentials, new.isActive = true
    ∧ ∃ sealing ∈ call.sealing, service.Sealed new sealing
  grounded : service.Grounded db call.sealing call.write

/-- A call that begins to write is prepared as it was. -/
theorem Service.Prepared.begun {call : Call γ}
    (h : service.Prepared db call) (found : Option (List UUID)) :
    service.Prepared db { call with found := found } :=
  ⟨h.formed, h.fresh, h.grounded⟩

/-- The profiles and credentials of a database are there in a later one. -/
structure Database.Later (db db' : Database γ) : Prop where
  profiles : ∀ p ∈ db.profiles, ∃ p' ∈ db'.profiles, p'.id = p.id
    ∧ p'.ownerHash = p.ownerHash
    ∧ (p.deletedAt ≠ none → p'.deletedAt ≠ none)
  credentials : ∀ c ∈ db.credentials, ∃ c' ∈ db'.credentials, Ages c c'
  runs : ∀ r ∈ db.runs, r ∈ db'.runs

/-- A prepared call stays one while the database goes on. -/
theorem Service.Prepared.later {call : Call γ}
    (h : service.Prepared db call) (hlater : db.Later db') :
    service.Prepared db' call := by
  obtain ⟨write, sealing, found⟩ := call
  refine ⟨h.formed, h.fresh, ?_⟩
  have hgrounded := h.grounded
  cases write with
  | create profile credential => exact hgrounded
  | updateNonSecret ownerHash profileId changes => trivial
  | replaceAdapter ownerHash profileId expected adapterType changes
      credential =>
      intro new hnew
      obtain ⟨hadapter, c, hc, hid, old, hold, hkey⟩ := hgrounded new hnew
      obtain ⟨c', hc', hages⟩ := hlater.credentials c hc
      exact ⟨hadapter, c', hc', hages.id.trans hid, old,
        Sealed.of_ages hold hages, hkey⟩
  | rotate ownerHash profileId credential => trivial
  | delete ownerHash profileId => trivial
  | createRun run =>
      obtain ⟨⟨p, hp, hid⟩, c, hc, hcid, hprofile⟩ := hgrounded
      obtain ⟨p', hp', hpid, -⟩ := hlater.profiles p hp
      obtain ⟨c', hc', hages⟩ := hlater.credentials c hc
      exact ⟨⟨p', hp', hpid.trans hid⟩, c', hc', hages.id.trans hcid,
        hages.profileId.trans hprofile⟩

theorem createProfile_prepared {draw : Draw} {name model apiKey : String}
    {adapterType : AdapterType} {baseUrl : DeepResearch.Source.UrlText}
    {isDefault : Bool} {call : Call γ}
    (h : service.createProfile draw ownerHash name adapterType baseUrl model
      apiKey isDefault = .ok call) : service.Prepared db call := by
  obtain ⟨⟨url, host⟩, -, h⟩ := bind_ok_iff.mp h
  obtain ⟨credential, hcredential, h⟩ := bind_ok_iff.mp h
  cases h
  obtain ⟨hprofile, hactive, hsealed⟩ := credentialRow_ok hcredential
  refine ⟨hprofile, ?_, rfl, rfl, ?_⟩
  · intro new hnew
    cases List.mem_singleton.mp hnew
    exact ⟨hactive, _, rfl, hsealed⟩
  · intro new hnew
    cases hnew
    rfl

theorem changeNonSecret_prepared {name model : Option String}
    {baseUrl : Option DeepResearch.Source.UrlText} {isDefault : Option Bool}
    {call : Call γ}
    (h : service.changeNonSecret ownerHash profileId name baseUrl model
      isDefault = .ok call) : service.Prepared db call := by
  unfold Service.changeNonSecret at h
  split at h
  case h_1 =>
    cases h
    exact ⟨trivial, nofun, trivial⟩
  case h_2 =>
    obtain ⟨⟨url, host⟩, -, h⟩ := bind_ok_iff.mp h
    cases h
    exact ⟨trivial, nofun, trivial⟩

theorem rotateCredential_prepared {draw : Draw} {apiKey : String}
    {call : Call γ}
    (h : service.rotateCredential db draw ownerHash profileId apiKey
      = .ok call) : service.Prepared db call := by
  obtain ⟨⟨profile, current⟩, -, h⟩ := bind_ok_iff.mp h
  obtain ⟨credential, hcredential, h⟩ := bind_ok_iff.mp h
  cases h
  obtain ⟨hprofile, hactive, hsealed⟩ := credentialRow_ok hcredential
  refine ⟨hprofile, ?_, trivial⟩
  intro new hnew
  cases List.mem_singleton.mp hnew
  exact ⟨hactive, _, rfl, hsealed⟩

/-- The key that a change of the adapter encrypts again is the one of the
credential it has read. -/
theorem changeAdapter_prepared {draw : Draw} {profile : ProviderProfileRow}
    {current : CredentialVersionRow γ} {adapterType : AdapterType}
    {name model : Option String}
    {baseUrl : Option DeepResearch.Source.UrlText} {isDefault : Option Bool}
    {call : Call γ} (hmem : current ∈ db.credentials)
    (hcurrent : ∃ sealing, service.Sealed current sealing)
    (h : service.changeAdapter draw ownerHash profile current adapterType
      name baseUrl model isDefault = .ok call) :
    service.Prepared db call := by
  obtain ⟨⟨url, host⟩, -, h⟩ := bind_ok_iff.mp h
  obtain ⟨plaintext, hopen, h⟩ := bind_ok_iff.mp h
  obtain ⟨credential, hcredential, h⟩ := bind_ok_iff.mp h
  cases h
  obtain ⟨hprofile, hactive, hsealed⟩ := credentialRow_ok hcredential
  obtain ⟨old, hold⟩ := hcurrent
  refine ⟨hprofile, ?_, ?_⟩
  · intro new hnew
    cases List.mem_singleton.mp hnew
    exact ⟨hactive, _, rfl, hsealed⟩
  · intro new hnew
    cases hnew
    refine ⟨rfl, current, hmem, rfl, old, hold, ?_⟩
    rw [openCredential_eq hold] at hopen
    split at hopen
    · exact Except.ok.inj hopen
    · cases hopen

theorem createRun_prepared {draw : Draw} {idempotencyKey : String}
    {credentialVersionId : UUID} {call : Call γ}
    (h : Service.createRun db draw ownerHash idempotencyKey
      credentialVersionId = .ok (some call)) : service.Prepared db call := by
  unfold Service.createRun at h
  split at h
  case isTrue => cases h
  case isFalse =>
    split at h
    case h_1 => cases h
    case h_2 profile credential hfind =>
      cases h
      obtain ⟨⟨hp, -⟩, hc, hprofile, -⟩ :=
        mem_activeRows.mp (List.mem_of_find?_eq_some hfind)
      exact ⟨trivial, nofun, ⟨profile, hp, rfl⟩, credential, hc, rfl,
        hprofile⟩

/-- What a request has prepared. -/
theorem prepare_prepared {draw : Draw} {request : Request} {call : Call γ}
    (hsealed : ∀ c ∈ db.credentials, ∃ sealing, service.Sealed c sealing)
    (h : service.prepare db draw request = .ok (some call)) :
    service.Prepared db call := by
  cases request with
  | createProfile ownerHash name adapterType baseUrl model apiKey isDefault =>
      obtain ⟨_, h, hcall⟩ := map_ok_iff.mp h
      cases hcall
      exact createProfile_prepared h
  | updateProfile ownerHash profileId adapterType name baseUrl model
      isDefault =>
      cases adapterType with
      | none =>
          obtain ⟨_, h, hcall⟩ := map_ok_iff.mp h
          cases hcall
          exact changeNonSecret_prepared h
      | some adapterType =>
          obtain ⟨⟨profile, current⟩, hactive, h⟩ := bind_ok_iff.mp h
          obtain ⟨-, hmem, -⟩ := mem_activeRows.mp (getActive_ok hactive).1
          dsimp only at h
          split at h
          case isTrue =>
            obtain ⟨_, h, hcall⟩ := map_ok_iff.mp h
            cases hcall
            exact changeAdapter_prepared hmem (hsealed current hmem) h
          case isFalse =>
            obtain ⟨_, h, hcall⟩ := map_ok_iff.mp h
            cases hcall
            exact changeNonSecret_prepared h
  | rotateCredential ownerHash profileId apiKey =>
      obtain ⟨_, h, hcall⟩ := map_ok_iff.mp h
      cases hcall
      exact rotateCredential_prepared h
  | deleteProfile ownerHash profileId =>
      cases h
      exact ⟨trivial, nofun, trivial⟩
  | createRun ownerHash idempotencyKey credentialVersionId =>
      exact createRun_prepared h

end DeepResearch.Provider
