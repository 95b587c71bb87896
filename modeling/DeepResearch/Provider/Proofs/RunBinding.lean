/-
A research run works with what its profile had when the run was asked for.

The run pins the credential and copies the adapter, the URL and the model.
A credential that is revoked keeps its secret, so that only the deletion
of the profile takes the key from the run.
-/
import DeepResearch.Provider.Proofs.KeyVault

namespace DeepResearch.Provider

open DeepResearch.State (UUID)
open Transition (Reachable)

variable {γ : Type} {service : Service γ} {db : Database γ}

/-- The only element that is looked for is found. -/
theorem find?_of_unique {α : Type} {l : List α} {f : α → Bool} {a : α}
    (hmem : a ∈ l) (hfound : f a = true)
    (hunique : ∀ b ∈ l, f b = true → b = a) : l.find? f = some a := by
  cases hfind : l.find? f with
  | none => exact absurd hfound (List.find?_eq_none.mp hfind a hmem)
  | some b =>
      rw [hunique b (List.mem_of_find?_eq_some hfind)
        (List.find?_some hfind)]

/-- The binding of a run, by the rows it joins. -/
theorem Database.Sound.binding_eq (h : db.Sound service)
    {run : ResearchRunRow} (hrun : run ∈ db.runs) {p : ProviderProfileRow}
    (hp : p ∈ db.profiles) (hpid : p.id = run.savedProfileId)
    {c : CredentialVersionRow γ} (hc : c ∈ db.credentials)
    (hcid : c.id = run.credentialVersionId) :
    db.binding run.id
      = if c.deletedAt.isSome = true then .error .runCredentialUnavailable
        else .ok ⟨run.id, run.adapterType, run.baseUrl, run.model, c.id,
          c.credentialVersion, c.secret⟩ := by
  have hruns : db.runs.find? (·.id = run.id) = some run :=
    find?_of_unique hrun (decide_eq_true rfl) fun r hr hid =>
      h.constraints.run_unique hr hrun (of_decide_eq_true hid)
  have hprofiles : db.profiles.find? (·.id = run.savedProfileId) = some p :=
    find?_of_unique hp (decide_eq_true hpid) fun q hq hid =>
      h.constraints.profile_unique hq hp
        ((of_decide_eq_true hid).trans hpid.symm)
  have hcredentials : db.credentials.find?
      (·.id = run.credentialVersionId) = some c :=
    find?_of_unique hc (decide_eq_true hcid) fun d hd hid =>
      h.constraints.credential_unique hd hc
        ((of_decide_eq_true hid).trans hcid.symm)
  unfold Database.binding
  simp only [hruns, hprofiles, hcredentials]

/-- The key of a run, of a binding whose credential is sealed. -/
theorem Database.Sound.runKey_eq (h : db.Sound service)
    {run : ResearchRunRow} (hrun : run ∈ db.runs) {p : ProviderProfileRow}
    (hp : p ∈ db.profiles) (hpid : p.id = run.savedProfileId)
    {c : CredentialVersionRow γ} (hc : c ∈ db.credentials)
    (hcid : c.id = run.credentialVersionId) {sealing : Sealing}
    (hsealed : service.Sealed c sealing) :
    service.runKey db run.id
      = if c.deletedAt.isSome = true then .error .runCredentialUnavailable
        else if sealing.adapterType = run.adapterType then
          .ok sealing.apiKey
        else .error (.decryption .credentialAuthenticationFailed) := by
  unfold Service.runKey
  rw [h.binding_eq hrun hp hpid hc hcid]
  split
  · rfl
  · exact openCredential_eq hsealed run.adapterType

/-- What a run is created from. -/
theorem createRun_spec {draw : Draw} {ownerHash idempotencyKey : String}
    {credentialVersionId : UUID} {call : Call γ} {run : ResearchRunRow}
    (h : service.prepare db draw
      (.createRun ownerHash idempotencyKey credentialVersionId)
        = .ok (some call)) (hwrite : call.write = .createRun run) :
    ∃ p c, (p, c) ∈ db.activeRows ownerHash ∧ run.savedProfileId = p.id
      ∧ run.credentialVersionId = c.id ∧ run.adapterType = p.adapterType
      ∧ run.baseUrl = p.normalizedBaseUrl ∧ run.model = p.model := by
  have h' : Service.createRun db draw ownerHash idempotencyKey
      credentialVersionId = .ok (some call) := h
  unfold Service.createRun at h'
  split at h'
  case isTrue => cases h'
  case isFalse =>
    split at h'
    case h_1 => cases h'
    case h_2 p c hfind =>
      cases h'
      cases hwrite
      exact ⟨p, c, List.mem_of_find?_eq_some hfind, rfl, rfl, rfl, rfl, rfl⟩

/-- A run that is there works, in every later state, with the adapter, the
URL, the model and the key that its profile had when it was asked for,
whatever was rotated, changed or made the default since, until the profile
is deleted; then it has nothing to work with. -/
theorem run_keeps_material {s : State γ}
    (hs : Reachable (profileSystem service) s) {draw : Draw}
    {ownerHash idempotencyKey : String} {credentialVersionId : UUID}
    {call : Call γ} {run : ResearchRunRow}
    (hprepare : service.prepare s.db draw
      (.createRun ownerHash idempotencyKey credentialVersionId)
        = .ok (some call)) (hwrite : call.write = .createRun run)
    {material : ProviderProfileTestMaterial}
    (hmaterial : service.getTestMaterial s.db ownerHash run.savedProfileId
      = .ok material) (actions : List Action)
    (hrun : run ∈ ((profileSystem service).exec s actions).db.runs) :
    ∃ p ∈ ((profileSystem service).exec s actions).db.profiles,
      p.id = run.savedProfileId
        ∧ (p.deletedAt = none →
          (((profileSystem service).exec s actions).db.binding run.id).map
              (fun binding => (binding.adapterType, binding.baseUrl,
                binding.model, binding.credentialId))
            = .ok (material.adapterType, material.baseUrl, material.model,
              material.credentialVersionId)
          ∧ service.runKey ((profileSystem service).exec s actions).db run.id
            = .ok material.apiKey)
        ∧ (p.deletedAt ≠ none →
          ((profileSystem service).exec s actions).db.binding run.id
            = .error .runCredentialUnavailable) := by
  have hsound := sound_reachable hs
  obtain ⟨p, c, hrow, hprofile, hcredential, hadapter, hurl, hmodel⟩ :=
    createRun_spec hprepare hwrite
  obtain ⟨⟨hp, howner, -, hlive⟩, hc, hcp, hactive⟩ :=
    mem_activeRows.mp hrow
  obtain ⟨sealing, hsealed⟩ := hsound.db.sealed c hc
  -- What was read then is in the row of the run and in its credential.
  rw [hprofile, ← howner, hsound.db.getTestMaterial_eq hp hlive hc hcp
    hactive hsealed] at hmaterial
  split at hmaterial
  case isFalse => cases hmaterial
  case isTrue hgiven =>
    cases hmaterial
    obtain ⟨hsound', hlater⟩ := hsound.exec actions
    obtain ⟨p', hp', hpid, -⟩ := hlater.profiles p hp
    obtain ⟨c', hc', hages⟩ := hlater.credentials c hc
    have hpid' := hpid.trans hprofile.symm
    have hcid' := hages.id.trans hcredential.symm
    have hgone := hsound'.db.gone p' hp' c' hc'
      (hages.profileId.trans (hcp.trans hpid.symm))
    refine ⟨p', hp', hpid', fun hpresent => ?_, fun hdeleted => ?_⟩
    · have hthere : ¬ c'.deletedAt.isSome = true := by
        rw [hgone.mpr hpresent]
        exact Bool.false_ne_true
      rw [hsound'.db.binding_eq hrun hp' hpid' hc' hcid',
        hsound'.db.runKey_eq hrun hp' hpid' hc' hcid'
          (Sealed.of_ages hsealed hages), if_neg hthere, if_neg hthere,
        if_pos (hgiven.trans hadapter.symm)]
      refine ⟨?_, rfl⟩
      show Except.ok _ = _
      rw [hadapter, hurl, hmodel, hages.id]
    · rw [hsound'.db.binding_eq hrun hp' hpid' hc' hcid', if_pos]
      exact Option.isSome_iff_ne_none.mpr fun hnone =>
        hdeleted (hgone.mp hnone)

/-- The run that a request has prepared. -/
def preparedRun : Except ProfileError (Option (Call γ)) →
    Option ResearchRunRow
  | .ok (some ⟨.createRun run, _, _⟩) => some run
  | _ => none

theorem preparedRun_some {prepared : Except ProfileError (Option (Call γ))}
    {run : ResearchRunRow} (h : preparedRun prepared = some run) :
    ∃ call, prepared = .ok (some call) ∧ call.write = .createRun run := by
  unfold preparedRun at h
  split at h
  case h_1 found sealing =>
    cases h
    exact ⟨_, rfl, rfl⟩
  case h_2 => cases h

/-- A profile that is there. -/
def profileState : State (ByteArray × ByteArray) :=
  sampleRun [askProfile, .commit 0 1]

/-- A run for its credential. -/
def runRequest : Request := .createRun "owner" "once" 2

def boundRun : ResearchRunRow where
  id := 33
  ownerHash := "owner"
  idempotencyKey := "once"
  savedProfileId := 1
  credentialVersionId := 2
  adapterType := .googleGemini
  baseUrl := "https://api.example".toList
  model := "model"

/-- The run is created, then the key is rotated. -/
def rotatedActions : List Action :=
  [.request runRequest (drawFrom 31), .commit 0 2, askRotation, .commit 0 3]

theorem run_keeps_material_rotated :
    sampleService.runKey
        ((profileSystem sampleService).exec profileState rotatedActions).db
        boundRun.id = .ok "old"
      ∧ (sampleService.getTestMaterial
        ((profileSystem sampleService).exec profileState rotatedActions).db
        "owner" 1).toOption.map (·.apiKey) = some "new" := by
  have hrun : preparedRun (sampleService.prepare profileState.db
      (drawFrom 31) runRequest) = some boundRun := by decide +kernel
  have hkey : (sampleService.getTestMaterial profileState.db "owner"
      boundRun.savedProfileId).toOption.map (·.apiKey) = some "old" := by
    decide +kernel
  have hlive : ((profileSystem sampleService).exec profileState
      rotatedActions).db.profiles.all (·.deletedAt.isNone) = true := by
    decide +kernel
  refine ⟨?_, by decide +kernel⟩
  obtain ⟨call, hprepare, hwrite⟩ := preparedRun_some hrun
  cases hmaterial : sampleService.getTestMaterial profileState.db "owner"
      boundRun.savedProfileId with
  | error e =>
      rw [hmaterial] at hkey
      cases hkey
  | ok material =>
      rw [hmaterial] at hkey
      have hreach : Reachable (profileSystem sampleService) profileState :=
        sampleRun_reachable _
      obtain ⟨p, hp, -, hpresent, -⟩ := run_keeps_material hreach hprepare
        hwrite hmaterial rotatedActions (by decide +kernel)
      rw [(hpresent (Option.isNone_iff_eq_none.mp
        (List.all_eq_true.mp hlive p hp))).2]
      exact congrArg Except.ok (Option.some.inj hkey)

end DeepResearch.Provider
