/-
The tables and the cipher are a vault of keys.

`Holds` reads an entry off the tables. A commit does to the entries what
its operation does to a vault (`refines_commit`); along a run the two stay
together, whatever ids, versions and nonces were drawn.
-/
import DeepResearch.Provider.KeyVault
import DeepResearch.Provider.Proofs.Profiles

namespace DeepResearch.Provider

open DeepResearch.State (UUID)
open Transition (Reachable)

variable {γ : Type} {service : Service γ} {db db' : Database γ} {now : Moment}
  {call : Call γ} {profileId : UUID} {entry : Entry} {vault : Vault}

-- ================================================================ the entries

/-- The tables hold this entry for the profile. -/
def Service.Holds (service : Service γ) (db : Database γ) (profileId : UUID)
    (entry : Entry) : Prop :=
  ∃ p ∈ db.profiles, p.id = profileId ∧ p.deletedAt = none
    ∧ p.ownerHash = entry.ownerHash ∧ p.adapterType = entry.adapterType
    ∧ ∃ c ∈ db.credentials, c.profileId = profileId ∧ c.isActive = true
      ∧ service.Sealed c ⟨entry.apiKey, entry.givenFor⟩

/-- A profile holds one entry. -/
theorem Holds.unique (h : db.Constraints) {entry' : Entry}
    (he : service.Holds db profileId entry)
    (he' : service.Holds db profileId entry') : entry = entry' := by
  obtain ⟨p, hp, hpid, -, howner, hadapter, c, hc, hcp, hactive, hsealed⟩ :=
    he
  obtain ⟨q, hq, hqid, -, howner', hadapter', d, hd, hdp, hactive',
    hsealed'⟩ := he'
  have hpq := h.profile_unique hp hq (hpid.trans hqid.symm)
  have hcd := h.active_unique hc hd (hcp.trans hdp.symm) hactive hactive'
  have hsealing := Sealed.unique hsealed (hcd ▸ hsealed')
  cases entry
  cases entry'
  cases hsealing
  cases howner.symm.trans ((congrArg ProviderProfileRow.ownerHash hpq).trans
    howner')
  cases hadapter.symm.trans
    ((congrArg ProviderProfileRow.adapterType hpq).trans hadapter')
  rfl

/-- A live profile has its entry, with the key of its active credential. -/
theorem Database.Sound.holds (h : db.Sound service) {p : ProviderProfileRow}
    (hp : p ∈ db.profiles) (hlive : p.deletedAt = none) :
    ∃ c ∈ db.credentials, c.profileId = p.id ∧ c.isActive = true
      ∧ ∃ sealing, service.Sealed c sealing
        ∧ service.Holds db p.id ⟨p.ownerHash, p.adapterType,
          sealing.apiKey, sealing.adapterType⟩ := by
  obtain ⟨c, hc, hprofile, hactive⟩ := h.alive p hp hlive
  obtain ⟨sealing, hsealed⟩ := h.sealed c hc
  exact ⟨c, hc, hprofile, hactive, sealing, hsealed, p, hp, rfl, hlive,
    rfl, rfl, c, hc, hprofile, hactive, hsealed⟩

/-- What is read of a live profile. -/
theorem Database.Sound.getTestMaterial_eq (h : db.Sound service)
    {p : ProviderProfileRow} (hp : p ∈ db.profiles)
    (hlive : p.deletedAt = none) {c : CredentialVersionRow γ}
    (hc : c ∈ db.credentials) (hprofile : c.profileId = p.id)
    (hactive : c.isActive = true) {sealing : Sealing}
    (hsealed : service.Sealed c sealing) :
    service.getTestMaterial db p.ownerHash p.id
      = if sealing.adapterType = p.adapterType then
          .ok ⟨p.id, c.id, p.adapterType, p.normalizedBaseUrl, p.model,
            sealing.apiKey⟩
        else .error (.decryption .credentialAuthenticationFailed) := by
  unfold Service.getTestMaterial
  rw [h.getActive_eq hp hlive hc hprofile hactive]
  show (service.openCredential p.adapterType c >>= _) = _
  rw [openCredential_eq hsealed]
  split <;> rfl

/-- The vault has the entries of the tables. -/
def Service.Refines (service : Service γ) (db : Database γ) (vault : Vault) :
    Prop :=
  ∀ profileId entry,
    vault profileId = some entry ↔ service.Holds db profileId entry

/-- What is read from the tables is what is read from the vault. -/
theorem Database.Sound.material_eq (h : db.Sound service)
    (hvault : service.Refines db vault) (ownerHash : String)
    (profileId : UUID) :
    (service.getTestMaterial db ownerHash profileId).map
        (fun material => (material.adapterType, material.apiKey))
      = vault.read ownerHash profileId := by
  unfold Vault.read
  cases hentry : vault profileId with
  | none =>
      have hnot : ¬ db.Live ownerHash profileId := by
        intro ⟨p, hp, hid, _, hlive⟩
        obtain ⟨-, -, -, -, sealing, -, hholds⟩ := h.holds hp hlive
        rw [hid] at hholds
        exact absurd (hentry.symm.trans ((hvault _ _).mpr hholds)) nofun
      unfold Service.getTestMaterial
      rw [getActive_error hnot]
      rfl
  | some entry =>
      obtain ⟨p, hp, hid, hlive, howner, hadapter, c, hc, hprofile, hactive,
        hsealed⟩ := (hvault _ _).mp hentry
      simp only
      by_cases hown : entry.ownerHash = ownerHash
      · have hmaterial := h.getTestMaterial_eq hp hlive hc
          (hprofile.trans hid.symm) hactive hsealed
        rw [hid, howner, hown, hadapter] at hmaterial
        rw [if_neg (not_not.mpr hown), hmaterial]
        -- A key that was given for another adapter does not open.
        by_cases hgiven : entry.givenFor = entry.adapterType
        · rw [if_pos hgiven, if_neg (not_not.mpr hgiven)]
          rfl
        · rw [if_neg hgiven, if_pos hgiven]
          rfl
      · have hnot : ¬ db.Live ownerHash profileId := by
          intro ⟨q, hq, hqid, hqowner, _⟩
          have hpq := h.constraints.profile_unique hp hq
            (hid.trans hqid.symm)
          exact hown (howner.symm.trans (hpq ▸ hqowner))
        rw [if_pos hown]
        unfold Service.getTestMaterial
        rw [getActive_error hnot]
        rfl

-- ================================================================ the commits

/-- The profile whose entry the write is about. -/
def Write.target : Write γ → Option UUID
  | .create profile _ => some profile.id
  | .replaceAdapter _ profileId _ _ _ _ => some profileId
  | .rotate _ profileId _ => some profileId
  | .delete _ profileId => some profileId
  | _ => none

/-- A write is not about a profile that it leaves alone. -/
theorem untouched_of_target {write : Write γ} {p : ProviderProfileRow}
    (h : write.target ≠ some p.id) :
    write.adapterOf p = p.adapterType ∧ ¬ write.Deletes p.id := by
  cases write with
  | replaceAdapter ownerHash profileId expected adapterType changes
      credential =>
      exact ⟨if_neg fun hid => h (congrArg some hid.symm), nofun⟩
  | delete ownerHash profileId =>
      exact ⟨rfl, fun hid => h (congrArg some (Eq.symm hid))⟩
  | create profile credential => exact ⟨rfl, nofun⟩
  | updateNonSecret ownerHash profileId changes => exact ⟨rfl, nofun⟩
  | rotate ownerHash profileId credential => exact ⟨rfl, nofun⟩
  | createRun run => exact ⟨rfl, nofun⟩

/-- A write leaves the credentials of the other profiles. -/
theorem not_revokes_of_target {write : Write γ} (hc : db.Constraints)
    (hready : write.Ready db) {c : CredentialVersionRow γ}
    (hmem : c ∈ db.credentials) (h : write.target ≠ some c.profileId) :
    ¬ write.Revokes c := by
  intro hrevokes
  cases write with
  | replaceAdapter ownerHash profileId expected adapterType changes
      credential =>
      obtain ⟨-, current, hcurrent, hprofile, -, hid⟩ := hready
      have hsame := hc.credential_unique hmem hcurrent
        (Eq.trans hrevokes hid.symm)
      exact h (congrArg some (hsame ▸ hprofile).symm)
  | rotate ownerHash profileId credential =>
      exact h (congrArg some (Eq.symm hrevokes))
  | delete ownerHash profileId =>
      exact h (congrArg some (Eq.symm hrevokes))
  | create profile credential => cases hrevokes
  | updateNonSecret ownerHash profileId changes => cases hrevokes
  | createRun run => cases hrevokes

/-- The other entries stay. -/
theorem Holds.kept {write : Write γ} (hc : db.Constraints)
    (hready : write.Ready db) (h : service.Holds db profileId entry)
    (htarget : write.target ≠ some profileId) :
    service.Holds (write.result now db) profileId entry := by
  obtain ⟨p, hp, hid, hlive, howner, hadapter, c, hc', hprofile, hactive,
    hsealed⟩ := h
  rw [← hid] at htarget
  obtain ⟨hsame, hdeletes⟩ := untouched_of_target htarget
  have hspec := profileUpdate_spec now write p
  have hages := credentialUpdate_ages now write c
  refine ⟨write.profileUpdate now p,
    mem_result_profiles.mpr (.inl ⟨p, hp, rfl⟩), hspec.id.trans hid, ?_,
    hspec.ownerHash.trans howner,
    hspec.adapterType.trans (hsame.trans hadapter),
    write.credentialUpdate now c,
    mem_result_credentials.mpr (.inl ⟨c, hc', rfl⟩),
    hages.profileId.trans hprofile, ?_, Sealed.of_ages hsealed hages⟩
  · exact (profileUpdate_deletedAt write p).mpr ⟨hlive, hdeletes⟩
  · refine (credentialUpdate_isActive write c).mpr ⟨hactive, ?_⟩
    rw [hid, ← hprofile] at htarget
    exact not_revokes_of_target hc hready hc' htarget

/-- A new credential makes the entry of its profile. -/
theorem holds_of_new (now : Moment) (write : Write γ)
    {new : CredentialVersionRow γ}
    (hnew : new ∈ write.newCredentials) (hactive : new.isActive = true)
    {sealing : Sealing} (hsealed : service.Sealed new sealing)
    {p : ProviderProfileRow} (hp : p ∈ db.profiles)
    (hlive : p.deletedAt = none) (hprofile : new.profileId = p.id)
    (hdeletes : ¬ write.Deletes p.id) :
    service.Holds (write.result now db) p.id
      ⟨p.ownerHash, write.adapterOf p, sealing.apiKey,
        sealing.adapterType⟩ := by
  have hspec := profileUpdate_spec now write p
  exact ⟨write.profileUpdate now p,
    mem_result_profiles.mpr (.inl ⟨p, hp, rfl⟩), hspec.id,
    (profileUpdate_deletedAt write p).mpr ⟨hlive, hdeletes⟩,
    hspec.ownerHash, hspec.adapterType, new,
    mem_result_credentials.mpr (.inr hnew), hprofile, hactive, hsealed⟩

/-- An entry that the tables hold decides what they hold. -/
theorem refines_at (hc : db.Constraints) {found : Option Entry}
    (hfound : found = some entry) (hholds : service.Holds db profileId entry)
    (other : Entry) :
    found = some other ↔ service.Holds db profileId other := by
  rw [hfound]
  refine ⟨fun h => Option.some.inj h ▸ hholds, fun h => ?_⟩
  rw [Holds.unique hc hholds h]

/-- An operation is about the target of its write. -/
theorem operation_of_target (call : Call γ) (vault : Vault)
    (h : call.write.target ≠ some profileId) :
    (call.operation.elim vault vault.apply) profileId
      = vault profileId := by
  have hne : ∀ {id : UUID}, some id ≠ some profileId → profileId ≠ id :=
    fun hid heq => hid (congrArg some heq.symm)
  obtain ⟨write, sealing, found⟩ := call
  cases write with
  | create profile credential =>
      cases sealing with
      | none => rfl
      | some sealing => exact Function.update_of_ne (hne h) _ _
  | replaceAdapter ownerHash id expected adapterType changes credential =>
      exact Function.update_of_ne (hne h) _ _
  | rotate ownerHash id credential =>
      cases sealing with
      | none => rfl
      | some sealing => exact Function.update_of_ne (hne h) _ _
  | delete ownerHash id => exact Function.update_of_ne (hne h) _ _
  | updateNonSecret ownerHash id changes => rfl
  | createRun run => rfl

/-- The entries of the other profiles are the ones there were. -/
theorem holds_of_target {write : Write γ} (h : db.Sound service)
    (hready : write.Ready db)
    (hconstraints : (write.result now db).Constraints)
    (htarget : write.target ≠ some profileId) :
    service.Holds (write.result now db) profileId entry
      ↔ service.Holds db profileId entry := by
  refine ⟨fun hholds => ?_,
    fun hholds => Holds.kept h.constraints hready hholds htarget⟩
  have ⟨p', hp', hid, hlive, _⟩ := hholds
  cases mem_result_profiles.mp hp' with
  | inl hold =>
      obtain ⟨p, hp, rfl⟩ := hold
      have hpid := (profileUpdate_spec now write p).id.symm.trans hid
      obtain ⟨-, -, -, -, sealing, -, hbefore⟩ := h.holds hp
        ((profileUpdate_deletedAt write p).mp hlive).1
      rw [hpid] at hbefore
      rw [Holds.unique hconstraints hholds
        (Holds.kept h.constraints hready hbefore htarget)]
      exact hbefore
  | inr hnew =>
      obtain ⟨profile, credential, rfl, rfl⟩ := mem_newProfiles hnew
      exact absurd (congrArg some hid) htarget

/-- A commit does to the entries what its operation does to a vault. -/
theorem refines_commit (h : db.Sound service)
    (hcall : service.Prepared db call)
    (hcommit : db.commit now call.write = .ok db')
    (hvault : service.Refines db vault) :
    service.Refines db' (call.operation.elim vault vault.apply) := by
  obtain ⟨hready, hconstraints, rfl⟩ :=
    (commit_ok_iff h.constraints).mp hcommit
  intro profileId entry
  by_cases htarget : call.write.target = some profileId
  case neg =>
    rw [operation_of_target call vault htarget,
      holds_of_target h hready hconstraints htarget]
    exact hvault profileId entry
  case pos =>
    obtain ⟨write, sealing, found⟩ := call
    cases write with
    | create profile credential =>
        cases htarget
        obtain ⟨hactive, sealing', hsealing, hsealed⟩ :=
          hcall.fresh credential (List.mem_singleton_self _)
        cases hsealing
        have hnew : { profile with updatedAt := now.time }
            ∈ ((Write.create profile credential).result now db).profiles :=
          mem_result_profiles.mpr (.inr (List.mem_singleton_self _))
        have hafter : service.Holds
            ((Write.create profile credential).result now db) profile.id
            ⟨profile.ownerHash, profile.adapterType, sealing'.apiKey,
              sealing'.adapterType⟩ :=
          ⟨_, hnew, rfl, hcall.grounded.1, rfl, rfl, credential,
            mem_result_credentials.mpr (.inr (List.mem_singleton_self _)),
            hcall.formed, hactive, hsealed⟩
        refine refines_at hconstraints ?_ hafter entry
        show Function.update vault profile.id _ profile.id = _
        rw [Function.update_self]
    | replaceAdapter ownerHash id expected adapterType changes credential =>
        cases htarget
        obtain ⟨hactive, sealing', hsealing, hsealed⟩ :=
          hcall.fresh credential (List.mem_singleton_self _)
        cases hsealing
        obtain ⟨hadapter, d, hd, hdid, old, hold, hkey⟩ :=
          hcall.grounded _ rfl
        obtain ⟨⟨p, hp, hid, -, hlive⟩, current, hcurrent, hcprofile,
          hcactive, hcid⟩ := hready
        obtain ⟨c, hc, hprofile, hcactive', before, hbefore, hholds⟩ :=
          h.holds hp hlive
        -- The credential it has read is the active one still.
        have hcurrentc := h.constraints.active_unique hcurrent hc
          (hcprofile.trans (hid.symm.trans hprofile.symm)) hcactive hcactive'
        have hdcurrent := h.constraints.credential_unique hd hcurrent
          (hdid.trans hcid.symm)
        have hsame : before.apiKey = sealing'.apiKey := by
          rw [← hkey, Sealed.unique hold
            ((hdcurrent.trans hcurrentc) ▸ hbefore)]
        subst hid
        have hafter := holds_of_new now
          (.replaceAdapter ownerHash p.id expected adapterType changes
            credential)
          (List.mem_singleton_self _) hactive hsealed hp hlive hcall.formed
          nofun
        refine refines_at hconstraints ?_ hafter entry
        show Function.update vault p.id _ p.id = _
        rw [Function.update_self, (hvault _ _).mpr hholds]
        have hadapterOf : (Write.replaceAdapter ownerHash p.id expected
            adapterType changes credential).adapterOf p = adapterType :=
          if_pos rfl
        rw [hadapterOf, hadapter, ← hsame]
        rfl
    | rotate ownerHash id credential =>
        cases htarget
        obtain ⟨hactive, sealing', hsealing, hsealed⟩ :=
          hcall.fresh credential (List.mem_singleton_self _)
        cases hsealing
        obtain ⟨p, hp, hid, -, hlive⟩ := hready
        obtain ⟨c, hc, hprofile, hcactive', before, hbefore, hholds⟩ :=
          h.holds hp hlive
        subst hid
        have hafter := holds_of_new now
          (.rotate ownerHash p.id credential)
          (List.mem_singleton_self _) hactive hsealed hp hlive hcall.formed
          nofun
        refine refines_at hconstraints ?_ hafter entry
        show Function.update vault p.id _ p.id = _
        rw [Function.update_self, (hvault _ _).mpr hholds]
        rfl
    | delete ownerHash id =>
        cases htarget
        have hnone : (Function.update vault profileId none) profileId
            = none := Function.update_self _ _ _
        refine ⟨fun hsome => absurd (hnone.symm.trans hsome) nofun, ?_⟩
        intro ⟨p', hp', hid, hlive, _⟩
        cases mem_result_profiles.mp hp' with
        | inl hold =>
            obtain ⟨p, hp, rfl⟩ := hold
            have hpid := (profileUpdate_spec now
              (Write.delete (γ := γ) ownerHash profileId) p).id
            exact absurd (hpid.symm.trans hid)
              ((profileUpdate_deletedAt _ p).mp hlive).2
        | inr hnew => cases hnew
    | updateNonSecret ownerHash id changes => cases htarget
    | createRun run => cases htarget

-- =================================================================== the runs

/-- One action of the service is some operations of the vault. -/
theorem refines_step {s : State γ} (hs : s.Sound service)
    (hvault : service.Refines s.db vault) (action : Action) :
    service.Refines (service.step s action).db
      ((Service.operations s action).foldl Vault.apply vault) := by
  cases action with
  | request request draw =>
      show service.Refines (service.step s _).db vault
      have hdb : (service.step s (.request request draw)).db = s.db := by
        simp only [Service.step]
        split <;> rfl
      rw [hdb]
      exact hvault
  | begin index => exact hvault
  | commit index time =>
      cases hcall : s.calls[index]? with
      | none =>
          simp only [Service.step, Service.operations, hcall]
          exact hvault
      | some call =>
          cases hcommit : s.db.commit (call.moment s.db time) call.write with
          | error e =>
              simp only [Service.step, Service.operations, hcall, hcommit]
              exact hvault
          | ok db' =>
              simp only [Service.step, Service.operations, hcall, hcommit]
              have hafter := refines_commit hs.db
                (hs.calls call (List.mem_of_getElem? hcall)) hcommit hvault
              cases hoperation : call.operation with
              | none =>
                  rw [hoperation] at hafter
                  exact hafter
              | some operation =>
                  rw [hoperation] at hafter
                  exact hafter
  | abandon index => exact hvault

/-- A run of the service is a run of the vault. -/
theorem refines_run {s : State γ} (hs : s.Sound service)
    (hvault : service.Refines s.db vault) (actions : List Action) :
    service.Refines ((profileSystem service).exec s actions).db
      ((service.operationsAlong s actions).foldl Vault.apply vault) := by
  induction actions generalizing s vault with
  | nil => exact hvault
  | cons action actions ih =>
      unfold Service.operationsAlong
      rw [List.foldl_append]
      exact ih (hs.step action).1 (refines_step hs hvault action)

theorem refines_empty :
    service.Refines (State.empty : State γ).db Vault.empty := by
  intro profileId entry
  refine ⟨nofun, ?_⟩
  intro ⟨p, hp, _⟩
  exact absurd hp List.not_mem_nil

/-- Over every run, whatever requests interleave: what an owner reads of a
profile, its adapter and its key, is what a vault answers that has been
told of the accepted writes in their order. -/
theorem keys_as_in_vault (service : Service γ) (actions : List Action)
    (ownerHash : String) (profileId : UUID) :
    (service.getTestMaterial
        ((profileSystem service).exec State.empty actions).db ownerHash
        profileId).map
        (fun material => (material.adapterType, material.apiKey))
      = ((service.operationsAlong State.empty actions).foldl Vault.apply
        Vault.empty).read ownerHash profileId :=
  (sound_empty.exec actions).1.db.material_eq
    (refines_run sound_empty refines_empty actions) ownerHash profileId

-- ================================================================ readability

/-- Keys are readable where they were given for the adapter there is. -/
theorem Database.Sound.readable_iff {s : State γ} (h : s.db.Sound service) :
    service.Readable s ↔ ∀ profileId entry,
      service.Holds s.db profileId entry →
        entry.givenFor = entry.adapterType := by
  constructor
  · intro hreadable profileId entry ⟨p, hp, hid, hlive, howner, hadapter, c,
      hc, hprofile, hactive, hsealed⟩
    obtain ⟨material, hmaterial⟩ := hreadable p hp hlive
    rw [h.getTestMaterial_eq hp hlive hc (hprofile.trans hid.symm) hactive
      hsealed] at hmaterial
    split at hmaterial
    case isTrue hgiven => exact hgiven.trans hadapter
    case isFalse => cases hmaterial
  · intro hall p hp hlive
    obtain ⟨c, hc, hprofile, hactive, sealing, hsealed, hholds⟩ :=
      h.holds hp hlive
    rw [h.getTestMaterial_eq hp hlive hc hprofile hactive hsealed,
      if_pos (hall _ _ hholds)]
    exact ⟨_, rfl⟩

/-- Every state has its vault. -/
theorem Database.Sound.exists_vault (h : db.Sound service) :
    ∃ vault, service.Refines db vault := by
  classical
  refine ⟨fun profileId =>
    if held : ∃ entry, service.Holds db profileId entry then
      some held.choose else none, fun profileId entry => ?_⟩
  dsimp only
  by_cases held : ∃ entry, service.Holds db profileId entry
  · rw [dif_pos held, Option.some_inj]
    refine ⟨fun heq => heq ▸ held.choose_spec, fun hholds => ?_⟩
    exact Holds.unique h.constraints held.choose_spec hholds
  · rw [dif_neg held]
    exact ⟨nofun, fun hholds => absurd ⟨entry, hholds⟩ held⟩

/-- A vault of readable keys. -/
def Vault.Usable (vault : Vault) : Prop :=
  ∀ profileId entry, vault profileId = some entry →
    entry.givenFor = entry.adapterType

/-- Every key can be read exactly if every entry was given for its adapter.
-/
theorem readable_iff_usable {s : State γ} (h : s.db.Sound service)
    (hvault : service.Refines s.db vault) :
    service.Readable s ↔ vault.Usable := by
  rw [h.readable_iff]
  exact forall_congr' fun profileId => forall_congr' fun entry =>
    imp_congr_left (hvault profileId entry).symm

/-- An operation keeps the keys readable, unless it gives one for another
adapter. -/
theorem usable_apply_iff (h : vault.Usable) (operation : VaultOperation) :
    (vault.apply operation).Usable
      ↔ match operation with
        | .store _ entry => entry.givenFor = entry.adapterType
        | .give profileId _ givenFor =>
            ∀ entry ∈ vault profileId, givenFor = entry.adapterType
        | _ => True := by
  -- An operation changes one entry of the vault.
  have hothers : ∀ {profileId : UUID} {found : Option Entry},
      (∀ entry, found = some entry → entry.givenFor = entry.adapterType) →
        Vault.Usable (Function.update vault profileId found) := by
    intro profileId found hfound other entry hentry
    by_cases heq : other = profileId
    · rw [heq, Function.update_self] at hentry
      exact hfound entry hentry
    · rw [Function.update_of_ne heq] at hentry
      exact h other entry hentry
  cases operation with
  | store profileId entry =>
      refine ⟨fun hall => hall profileId entry (Function.update_self _ _ _),
        fun hgiven => hothers fun other hother => ?_⟩
      cases hother
      exact hgiven
  | give profileId apiKey givenFor =>
      constructor
      · intro hall entry hentry
        refine hall profileId { entry with apiKey, givenFor } ?_
        show Function.update vault profileId _ profileId = _
        rw [Function.update_self, Option.mem_def.mp hentry]
        rfl
      · intro hgiven
        refine hothers fun other hother => ?_
        obtain ⟨entry, hentry, rfl⟩ := Option.map_eq_some_iff.mp hother
        exact hgiven entry hentry
  | convert profileId adapterType =>
      refine ⟨fun _ => trivial, fun _ => hothers fun other hother => ?_⟩
      obtain ⟨entry, -, rfl⟩ := Option.map_eq_some_iff.mp hother
      rfl
  | remove profileId =>
      exact ⟨fun _ => trivial, fun _ => hothers nofun⟩

theorem write_of_give {apiKey : String} {givenFor : AdapterType}
    (h : call.operation = some (.give profileId apiKey givenFor)) :
    ∃ ownerHash credential,
      call.write = .rotate ownerHash profileId credential := by
  obtain ⟨write, sealing, found⟩ := call
  cases write with
  | rotate ownerHash id credential =>
      cases sealing with
      | none => cases h
      | some sealing =>
          cases h
          exact ⟨ownerHash, credential, rfl⟩
  | create profile credential => cases sealing <;> cases h
  | replaceAdapter ownerHash id expected adapterType changes credential =>
      cases h
  | delete ownerHash id => cases h
  | updateNonSecret ownerHash id changes => cases h
  | createRun run => cases h

/-- A new profile gets a key for the adapter it has. -/
theorem given_of_store (h : service.Prepared db call)
    (hstore : call.operation = some (.store profileId entry)) :
    entry.givenFor = entry.adapterType := by
  obtain ⟨write, sealing, found⟩ := call
  cases write with
  | create profile credential =>
      cases sealing with
      | none => cases hstore
      | some sealing =>
          cases hstore
          exact h.grounded.2.2 sealing rfl
  | rotate ownerHash id credential => cases sealing <;> cases hstore
  | replaceAdapter ownerHash id expected adapterType changes credential =>
      cases hstore
  | delete ownerHash id => cases hstore
  | updateNonSecret ownerHash id changes => cases hstore
  | createRun run => cases hstore

/-- A commit leaves the keys readable, unless it gives one for an adapter
that its profile does not have. -/
theorem readable_commit_iff {s : State γ} (hs : s.Sound service)
    (hreadable : service.Readable s) {index : Nat} {time : ℤ}
    (hcall : s.calls[index]? = some call)
    (hcommit : s.db.commit (call.moment s.db time) call.write = .ok db') :
    service.Readable (service.step s (.commit index time))
      ↔ ∀ profileId apiKey givenFor,
        call.operation = some (.give profileId apiKey givenFor) →
        ∀ p ∈ s.db.profiles, p.id = profileId →
          p.adapterType = givenFor := by
  obtain ⟨vault, hvault⟩ := hs.db.exists_vault
  have husable := (readable_iff_usable hs.db hvault).mp hreadable
  have hprepared := hs.calls call (List.mem_of_getElem? hcall)
  have hstep : service.step s (.commit index time)
      = ⟨db', s.calls.eraseIdx index⟩ := by
    simp only [Service.step, hcall, hcommit]
  have hsound := (hs.step (.commit index time)).1
  rw [hstep] at hsound ⊢
  rw [readable_iff_usable hsound.db
    (refines_commit hs.db hprepared hcommit hvault)]
  cases hoperation : call.operation with
  | none =>
      refine ⟨fun _ _ _ _ hgive => ?_, fun _ => husable⟩
      cases hgive
  | some operation =>
      show (vault.apply operation).Usable ↔ _
      rw [usable_apply_iff husable]
      cases operation with
      | store profileId entry =>
          refine ⟨fun _ _ _ _ hgive => ?_,
            fun _ => given_of_store hprepared hoperation⟩
          cases hgive
      | convert profileId adapterType =>
          refine ⟨fun _ _ _ _ hgive => ?_, fun _ => trivial⟩
          cases hgive
      | remove profileId =>
          refine ⟨fun _ _ _ _ hgive => ?_, fun _ => trivial⟩
          cases hgive
      | give profileId apiKey givenFor =>
          obtain ⟨ownerHash, credential, hwrite⟩ := write_of_give hoperation
          have hready := ((commit_ok_iff hs.db.constraints).mp hcommit).1
          rw [hwrite] at hready
          constructor
          · intro hall id key other heq p hp hid
            cases heq
            -- The profile that is written is live, and so has its entry.
            obtain ⟨q, hq, hqid, -, hlive⟩ := hready
            have hpq := hs.db.constraints.profile_unique hp hq
              (hid.trans hqid.symm)
            obtain ⟨-, -, -, -, sealing, -, hholds⟩ :=
              hs.db.holds hp (hpq ▸ hlive)
            rw [hid] at hholds
            exact (hall _ ((hvault _ _).mpr hholds)).symm
          · intro hall entry hentry
            obtain ⟨p, hp, hid, -, -, hadapter, -⟩ :=
              (hvault _ _).mp hentry
            exact (hall _ _ _ rfl p hp hid).symm.trans hadapter

/-- The keys of all live profiles can be read throughout a run exactly if
no rotation is written after its profile has got another adapter than the
one the rotation read. -/
theorem readable_throughout_iff {s : State γ}
    (hs : Reachable (profileSystem service) s)
    (hreadable : service.Readable s) (actions : List Action) :
    (profileSystem service).Throughout service.Readable s actions
      ↔ (profileSystem service).Along Untorn s actions := by
  have hinv : s.Sound service ∧ service.Readable s :=
    ⟨sound_reachable hs, hreadable⟩
  refine Transition.throughout_iff_along (fun _ => And.right) ?_ ?_ hinv
    actions
  · intro s action ⟨hsound, hreadable⟩ hguard
    refine ⟨(hsound.step action).1, ?_⟩
    obtain ⟨call, draw, request, -, rfl, hstep⟩
      | ⟨index, time, call, db', rfl, hcall, hcommit, -⟩ | ⟨hdb, -⟩ :=
      step_cases service s action
    · show service.Readable (service.step s _)
      rw [hstep]
      exact hreadable
    · exact (readable_commit_iff hsound hreadable hcall hcommit).mpr
        fun profileId apiKey givenFor =>
          hguard call db' hcall hcommit profileId apiKey givenFor
    · intro p hp hlive
      have hread := hreadable p (hdb ▸ hp) hlive
      show ∃ material, service.getTestMaterial (service.step s action).db
        p.ownerHash p.id = .ok material
      rw [hdb]
      exact hread
  · intro s action ⟨hsound, hreadable⟩ hguard
    cases action with
    | request request draw => exact absurd trivial hguard
    | begin index => exact absurd trivial hguard
    | abandon index => exact absurd trivial hguard
    | commit index time =>
        intro hafter
        refine hguard fun call db' hcall hcommit => ?_
        exact (readable_commit_iff hsound hreadable hcall hcommit).mp hafter

/-- A rotation to the key `"new"` is asked for. -/
def askRotation : Action :=
  .request (.rotateCredential "owner" 1 "new") (drawFrom 11)

/-- Another adapter is asked for. -/
def askAdapter : Action :=
  .request (.updateProfile "owner" 1 (some .openaiResponses) none none none
    none) (drawFrom 21)

/-- Both have read before one of them writes. -/
def tornActions : List Action :=
  [askProfile, .commit 0 1, askRotation, askAdapter, .commit 1 2,
    .commit 0 3]

theorem readable_throughout_iff_torn :
    ¬ (profileSystem sampleService).Throughout sampleService.Readable
        State.empty tornActions
      ∧ ¬ (profileSystem sampleService).Along Untorn State.empty
        tornActions := by
  have hempty : sampleService.Readable State.empty :=
    fun _ h => absurd h List.not_mem_nil
  have hnot : ¬ (profileSystem sampleService).Throughout
      sampleService.Readable State.empty tornActions := by
    intro h
    rw [← List.append_nil tornActions] at h
    have hlast : sampleService.Readable (sampleRun tornActions) :=
      h.after_run
    have hall : (sampleRun tornActions).db.profiles.any (fun p =>
        p.deletedAt.isNone && (sampleService.getTestMaterial
          (sampleRun tornActions).db p.ownerHash p.id).toOption.isNone)
        = true := by decide +kernel
    obtain ⟨p, hp, htorn⟩ := List.any_eq_true.mp hall
    simp only [Bool.and_eq_true, Option.isNone_iff_eq_none] at htorn
    obtain ⟨material, hmaterial⟩ := hlast p hp htorn.1
    rw [hmaterial] at htorn
    cases htorn.2
  exact ⟨hnot, fun h => hnot ((readable_throughout_iff
    (Reachable.init rfl) hempty tornActions).mpr h)⟩

end DeepResearch.Provider
