/-
Provider profiles under any interleaving of requests.

# The invariant

`Sound` is kept by every commit. A live profile has an active credential
and a deleted one has none that is left, whatever was written between the
reading and the writing of a request; that there is at most one is an
index's doing, which never has to refuse. The index on the default has to
where an owner's default was inserted behind the `UPDATE` that was to
demote it, and nowhere else (`commit_accepted_iff`).
-/
import DeepResearch.Provider.Proofs.Requests

namespace DeepResearch.Provider

open DeepResearch.State (UUID)
open Transition (Reachable)

variable {γ : Type} {service : Service γ} {db db' : Database γ} {now : Moment}
  {call : Call γ} {ownerHash : String} {profileId : UUID}

-- ============================================================== the invariant

/-- What holds of the tables between two commits. -/
structure Database.Sound (service : Service γ) (db : Database γ) : Prop where
  constraints : db.Constraints
  status : ∀ p ∈ db.profiles, p.status = .active ↔ p.deletedAt = none
  owned : ∀ c ∈ db.credentials, ∃ p ∈ db.profiles, p.id = c.profileId
  alive : ∀ p ∈ db.profiles, p.deletedAt = none →
    ∃ c ∈ db.credentials, c.profileId = p.id ∧ c.isActive = true
  gone : ∀ p ∈ db.profiles, ∀ c ∈ db.credentials, c.profileId = p.id →
    (c.deletedAt = none ↔ p.deletedAt = none)
  sealed : ∀ c ∈ db.credentials, ∃ sealing, service.Sealed c sealing
  bound : ∀ r ∈ db.runs, (∃ p ∈ db.profiles, p.id = r.savedProfileId)
    ∧ ∃ c ∈ db.credentials, c.id = r.credentialVersionId
      ∧ c.profileId = r.savedProfileId

/-- A profile of the result is an updated one or a new one. -/
theorem mem_result_profiles {write : Write γ} {p' : ProviderProfileRow} :
    p' ∈ (write.result now db).profiles
      ↔ (∃ p ∈ db.profiles, write.profileUpdate now p = p')
        ∨ p' ∈ write.newProfiles now := by
  simp [Write.result]

/-- A credential of the result is an updated one or a new one. -/
theorem mem_result_credentials {write : Write γ}
    {c' : CredentialVersionRow γ} :
    c' ∈ (write.result now db).credentials
      ↔ (∃ c ∈ db.credentials, write.credentialUpdate now c = c')
        ∨ c' ∈ write.newCredentials := by
  simp [Write.result]

/-- A run of the result was there or is new. -/
theorem mem_result_runs {write : Write γ} {r : ResearchRunRow} :
    r ∈ (write.result now db).runs ↔ r ∈ db.runs ∨ r ∈ write.newRuns := by
  simp [Write.result]

/-- A write takes no row away. -/
theorem result_later (db : Database γ) (now : Moment) (write : Write γ) :
    db.Later (write.result now db) where
  profiles p hp := by
    have hspec := profileUpdate_spec now write p
    refine ⟨write.profileUpdate now p,
      mem_result_profiles.mpr (.inl ⟨p, hp, rfl⟩), hspec.id,
      hspec.ownerHash, fun hdeleted => ?_⟩
    by_cases hdeletes : write.Deletes p.id
    · rw [(hspec.deleted hdeletes).2]
      nofun
    · rw [(hspec.kept hdeletes).2]
      exact hdeleted
  credentials c hc :=
    ⟨write.credentialUpdate now c,
      mem_result_credentials.mpr (.inl ⟨c, hc, rfl⟩),
      credentialUpdate_ages now write c⟩
  runs r hr := mem_result_runs.mpr (.inl hr)

/-- Only a creation inserts a profile. -/
theorem mem_newProfiles {write : Write γ} {p' : ProviderProfileRow}
    (h : p' ∈ write.newProfiles now) :
    ∃ profile credential, write = .create profile credential
      ∧ p' = { profile with updatedAt := now.time } := by
  cases write with
  | create profile credential =>
      exact ⟨profile, credential, rfl, List.mem_singleton.mp h⟩
  | updateNonSecret ownerHash profileId changes => cases h
  | replaceAdapter ownerHash profileId expected adapterType changes
      credential => cases h
  | rotate ownerHash profileId credential => cases h
  | delete ownerHash profileId => cases h
  | createRun run => cases h

/-- Only the creation of a run inserts one. -/
theorem mem_newRuns {write : Write γ} {r : ResearchRunRow}
    (h : r ∈ write.newRuns) : write = .createRun r := by
  cases write with
  | createRun run => rw [List.mem_singleton.mp h]
  | create profile credential => cases h
  | updateNonSecret ownerHash profileId changes => cases h
  | replaceAdapter ownerHash profileId expected adapterType changes
      credential => cases h
  | rotate ownerHash profileId credential => cases h
  | delete ownerHash profileId => cases h

/-- Where a new credential comes from. -/
theorem profile_of_newCredential {write : Write γ} (hready : write.Ready db)
    (hformed : write.Formed) {new : CredentialVersionRow γ}
    (hnew : new ∈ write.newCredentials) :
    (∃ profile, write = .create profile new ∧ new.profileId = profile.id)
      ∨ ∃ p ∈ db.profiles, p.id = new.profileId ∧ p.deletedAt = none
        ∧ ¬ write.Deletes p.id := by
  cases write with
  | create profile credential =>
      cases List.mem_singleton.mp hnew
      exact .inl ⟨profile, rfl, hformed⟩
  | replaceAdapter ownerHash profileId expected adapterType changes
      credential =>
      cases List.mem_singleton.mp hnew
      obtain ⟨⟨p, hp, hid, -, hlive⟩, -⟩ := hready
      exact .inr ⟨p, hp, hid.trans hformed.symm, hlive, nofun⟩
  | rotate ownerHash profileId credential =>
      cases List.mem_singleton.mp hnew
      obtain ⟨p, hp, hid, -, hlive⟩ := hready
      exact .inr ⟨p, hp, hid.trans hformed.symm, hlive, nofun⟩
  | updateNonSecret ownerHash profileId changes => cases hnew
  | delete ownerHash profileId => cases hnew
  | createRun run => cases hnew

/-- A write that revokes the active credential of a profile it keeps
inserts another. -/
theorem replacement_of_revokes {write : Write γ} (hc : db.Constraints)
    (hready : write.Ready db) (hformed : write.Formed)
    {c : CredentialVersionRow γ} (hmem : c ∈ db.credentials)
    (hrevokes : write.Revokes c) (hdeletes : ¬ write.Deletes c.profileId) :
    ∃ new ∈ write.newCredentials, new.profileId = c.profileId := by
  cases write with
  | replaceAdapter ownerHash profileId expected adapterType changes
      credential =>
      obtain ⟨-, current, hcurrent, hprofile, -, hid⟩ := hready
      have hsame := hc.credential_unique hmem hcurrent
        (Eq.trans hrevokes hid.symm)
      exact ⟨credential, List.mem_singleton_self _,
        Eq.trans hformed (hsame ▸ hprofile).symm⟩
  | rotate ownerHash profileId credential =>
      exact ⟨credential, List.mem_singleton_self _,
        Eq.trans hformed hrevokes.symm⟩
  | delete ownerHash profileId => exact absurd hrevokes hdeletes
  | create profile credential => cases hrevokes
  | updateNonSecret ownerHash profileId changes => cases hrevokes
  | createRun run => cases hrevokes

/-- A credential stays until its profile is deleted. -/
theorem credentialUpdate_deletedAt (write : Write γ)
    (c : CredentialVersionRow γ) :
    (write.credentialUpdate now c).deletedAt = none
      ↔ c.deletedAt = none ∧ ¬ write.Deletes c.profileId := by
  cases write with
  | delete ownerHash profileId =>
      simp only [Write.credentialUpdate, CredentialVersionRow.remove]
      split
      case isTrue h =>
        constructor
        · intro hnone
          cases hnone
        · intro hboth
          exact absurd h.1 hboth.2
      case isFalse h =>
        exact ⟨fun hnone => ⟨hnone, fun hid => h ⟨hid, hnone⟩⟩, And.left⟩
  | rotate ownerHash profileId credential =>
      simp only [Write.credentialUpdate, CredentialVersionRow.revoke]
      split <;> exact ⟨fun h => ⟨h, id⟩, And.left⟩
  | replaceAdapter ownerHash profileId expected adapterType changes
      credential =>
      simp only [Write.credentialUpdate, CredentialVersionRow.revokeOne]
      split <;> exact ⟨fun h => ⟨h, id⟩, And.left⟩
  | create profile credential => exact ⟨fun h => ⟨h, id⟩, And.left⟩
  | updateNonSecret ownerHash profileId changes =>
      exact ⟨fun h => ⟨h, id⟩, And.left⟩
  | createRun run => exact ⟨fun h => ⟨h, id⟩, And.left⟩

/-- A profile stays until it is deleted itself. -/
theorem profileUpdate_deletedAt (write : Write γ) (p : ProviderProfileRow) :
    (write.profileUpdate now p).deletedAt = none
      ↔ p.deletedAt = none ∧ ¬ write.Deletes p.id := by
  have hspec := profileUpdate_spec now write p
  by_cases hdeletes : write.Deletes p.id
  · rw [(hspec.deleted hdeletes).2]
    exact ⟨nofun, fun h => absurd hdeletes h.2⟩
  · rw [(hspec.kept hdeletes).2]
    exact ⟨fun h => ⟨h, hdeletes⟩, And.left⟩

/-- An active credential is not deleted. -/
theorem deletedAt_of_isActive {c : CredentialVersionRow γ}
    (h : c.isActive = true) : c.deletedAt = none :=
  Option.isNone_iff_eq_none.mp (Bool.and_eq_true_iff.mp h).2

namespace Database.Sound

variable {write : Write γ}

/-- A profile that is left alive has an active credential: the one it had,
if the write does not revoke it, and else the new one. -/
theorem alive_result (h : db.Sound service) (hready : write.Ready db)
    (hformed : write.Formed)
    (hfresh : ∀ new ∈ write.newCredentials, new.isActive = true)
    {p : ProviderProfileRow} (hp : p ∈ db.profiles)
    (hlive : (write.profileUpdate now p).deletedAt = none) :
    ∃ c ∈ (write.result now db).credentials,
      c.profileId = p.id ∧ c.isActive = true := by
  obtain ⟨hlive, hdeletes⟩ := (profileUpdate_deletedAt write p).mp hlive
  obtain ⟨c, hc, hprofile, hactive⟩ := h.alive p hp hlive
  by_cases hrevokes : write.Revokes c
  · rw [← hprofile] at hdeletes
    obtain ⟨new, hnew, hid⟩ := replacement_of_revokes h.constraints hready
      hformed hc hrevokes hdeletes
    exact ⟨new, mem_result_credentials.mpr (.inr hnew),
      hid.trans hprofile, hfresh new hnew⟩
  · refine ⟨write.credentialUpdate now c,
      mem_result_credentials.mpr (.inl ⟨c, hc, rfl⟩), ?_,
      (credentialUpdate_isActive write c).mpr ⟨hactive, hrevokes⟩⟩
    exact (credentialUpdate_ages now write c).profileId.trans hprofile

/-- A credential of the result is deleted exactly if its profile is. -/
theorem gone_result (h : db.Sound service) (hready : write.Ready db)
    (hformed : write.Formed)
    (hnews : ∀ new ∈ write.newCredentials, new.isActive = true)
    (hfresh : write.Fresh db) {p : ProviderProfileRow}
    (hp : p ∈ db.profiles) {c' : CredentialVersionRow γ}
    (hc' : c' ∈ (write.result now db).credentials)
    (hprofile : c'.profileId = p.id) :
    c'.deletedAt = none
      ↔ (write.profileUpdate now p).deletedAt = none := by
  rw [profileUpdate_deletedAt]
  cases mem_result_credentials.mp hc' with
  | inl hold =>
      obtain ⟨c, hc, rfl⟩ := hold
      have hcp : c.profileId = p.id :=
        (credentialUpdate_ages now write c).profileId.symm.trans hprofile
      rw [credentialUpdate_deletedAt, hcp, h.gone p hp c hc hcp]
  | inr hnew =>
      refine ⟨fun _ => ?_, fun _ => deletedAt_of_isActive (hnews c' hnew)⟩
      cases profile_of_newCredential hready hformed hnew with
      | inl hcreate =>
          obtain ⟨profile, rfl, hid⟩ := hcreate
          exact absurd (hprofile.symm.trans hid) (hfresh.1 p hp)
      | inr hlocked =>
          obtain ⟨q, hq, hid, hlive, hdeletes⟩ := hlocked
          have hsame := h.constraints.profile_unique hp hq
            (hprofile.symm.trans hid.symm)
          exact hsame ▸ ⟨hlive, hdeletes⟩

/-- The status of a profile and its time of deletion tell the same. -/
theorem status_result (h : db.Sound service)
    (hcall : service.Prepared db call) {p' : ProviderProfileRow}
    (hp' : p' ∈ (call.write.result now db).profiles) :
    p'.status = .active ↔ p'.deletedAt = none := by
  cases mem_result_profiles.mp hp' with
  | inl hold =>
      obtain ⟨p, hp, rfl⟩ := hold
      have hspec := profileUpdate_spec now call.write p
      by_cases hdeletes : call.write.Deletes p.id
      · rw [(hspec.deleted hdeletes).1, (hspec.deleted hdeletes).2]
        exact ⟨nofun, nofun⟩
      · rw [(hspec.kept hdeletes).1, (hspec.kept hdeletes).2]
        exact h.status p hp
  | inr hnew =>
      obtain ⟨profile, credential, hwrite, rfl⟩ := mem_newProfiles hnew
      have hgrounded := hcall.grounded
      rw [hwrite] at hgrounded
      exact ⟨fun _ => hgrounded.1, fun _ => hgrounded.2.1⟩

/-- Every credential has its profile. -/
theorem owned_result (h : db.Sound service)
    (hcall : service.Prepared db call) (hready : call.write.Ready db)
    {c' : CredentialVersionRow γ}
    (hc' : c' ∈ (call.write.result now db).credentials) :
    ∃ p ∈ (call.write.result now db).profiles, p.id = c'.profileId := by
  have hlater := result_later db now call.write
  have hthere : ∀ p ∈ db.profiles, p.id = c'.profileId →
      ∃ p ∈ (call.write.result now db).profiles, p.id = c'.profileId := by
    intro p hp hid
    obtain ⟨p', hp', hpid, -⟩ := hlater.profiles p hp
    exact ⟨p', hp', hpid.trans hid⟩
  cases mem_result_credentials.mp hc' with
  | inl hold =>
      obtain ⟨c, hc, rfl⟩ := hold
      obtain ⟨p, hp, hid⟩ := h.owned c hc
      exact hthere p hp
        (hid.trans (credentialUpdate_ages now call.write c).profileId.symm)
  | inr hnew =>
      cases profile_of_newCredential hready hcall.formed hnew with
      | inl hcreate =>
          obtain ⟨profile, hwrite, hid⟩ := hcreate
          refine ⟨{ profile with updatedAt := now.time },
            mem_result_profiles.mpr (.inr ?_), hid.symm⟩
          rw [hwrite]
          exact List.mem_singleton_self _
      | inr hlocked =>
          obtain ⟨p, hp, hid, -⟩ := hlocked
          exact hthere p hp hid

/-- Every run has its profile and a credential of that profile. -/
theorem bound_result (h : db.Sound service)
    (hcall : service.Prepared db call) {r : ResearchRunRow}
    (hr : r ∈ (call.write.result now db).runs) :
    (∃ p ∈ (call.write.result now db).profiles, p.id = r.savedProfileId)
      ∧ ∃ c ∈ (call.write.result now db).credentials,
        c.id = r.credentialVersionId ∧ c.profileId = r.savedProfileId := by
  have hlater := result_later db now call.write
  have hbound : (∃ p ∈ db.profiles, p.id = r.savedProfileId)
      ∧ ∃ c ∈ db.credentials, c.id = r.credentialVersionId
        ∧ c.profileId = r.savedProfileId := by
    cases mem_result_runs.mp hr with
    | inl hold => exact h.bound r hold
    | inr hnew =>
        have hgrounded := hcall.grounded
        rw [mem_newRuns hnew] at hgrounded
        exact hgrounded
  obtain ⟨⟨p, hp, hpid⟩, c, hc, hcid, hprofile⟩ := hbound
  obtain ⟨p', hp', hpid', -⟩ := hlater.profiles p hp
  obtain ⟨c', hc', hages⟩ := hlater.credentials c hc
  exact ⟨⟨p', hp', hpid'.trans hpid⟩, c', hc', hages.id.trans hcid,
    hages.profileId.trans hprofile⟩

/-- A commit keeps the tables sound. -/
theorem commit (h : db.Sound service) (hcall : service.Prepared db call)
    (hcommit : db.commit now call.write = .ok db') :
    db'.Sound service ∧ db.Later db' := by
  obtain ⟨hready, hconstraints, rfl⟩ :=
    (commit_ok_iff h.constraints).mp hcommit
  have hfresh := fresh_of_constraints hconstraints
  refine ⟨⟨hconstraints, fun p' => h.status_result hcall,
    fun c' => h.owned_result hcall hready, ?_, ?_, ?_,
    fun r => h.bound_result hcall⟩, result_later db now call.write⟩
  · intro p' hp' hlive
    cases mem_result_profiles.mp hp' with
    | inl hold =>
        obtain ⟨p, hp, rfl⟩ := hold
        rw [(profileUpdate_spec now call.write p).id]
        exact h.alive_result hready hcall.formed
          (fun new hnew => (hcall.fresh new hnew).1) hp hlive
    | inr hnew =>
        -- A new profile comes with its credential.
        obtain ⟨profile, credential, hwrite, rfl⟩ := mem_newProfiles hnew
        have hmem : credential ∈ call.write.newCredentials := by
          rw [hwrite]
          exact List.mem_singleton_self _
        have hformed := hcall.formed
        rw [hwrite] at hformed
        exact ⟨credential, mem_result_credentials.mpr (.inr hmem), hformed,
          (hcall.fresh credential hmem).1⟩
  · intro p' hp' c' hc' hprofile
    cases mem_result_profiles.mp hp' with
    | inl hold =>
        obtain ⟨p, hp, rfl⟩ := hold
        rw [(profileUpdate_spec now call.write p).id] at hprofile
        exact h.gone_result hready hcall.formed
          (fun new hnew => (hcall.fresh new hnew).1) hfresh hp hc' hprofile
    | inr hnew =>
        obtain ⟨profile, credential, hwrite, rfl⟩ := mem_newProfiles hnew
        have hgrounded := hcall.grounded
        have hfree := hfresh
        rw [hwrite] at hgrounded hfree
        refine ⟨fun _ => hgrounded.1, fun _ => ?_⟩
        cases mem_result_credentials.mp hc' with
        | inl hold =>
            -- No older credential is of a profile that was not there.
            obtain ⟨c, hc, rfl⟩ := hold
            obtain ⟨p, hp, hid⟩ := h.owned c hc
            exact absurd (hid.trans ((credentialUpdate_ages now
              call.write c).profileId.symm.trans hprofile)) (hfree.1 p hp)
        | inr hnewCredential =>
            exact deletedAt_of_isActive (hcall.fresh c' hnewCredential).1
  · intro c' hc'
    cases mem_result_credentials.mp hc' with
    | inl hold =>
        obtain ⟨c, hc, rfl⟩ := hold
        obtain ⟨sealing, hsealed⟩ := h.sealed c hc
        exact ⟨sealing, Sealed.of_ages hsealed
          (credentialUpdate_ages now call.write c)⟩
    | inr hnew =>
        obtain ⟨-, sealing, -, hsealed⟩ := hcall.fresh c' hnew
        exact ⟨sealing, hsealed⟩

end Database.Sound

-- ================================================================== the steps

/-- What holds between two steps. -/
structure State.Sound (service : Service γ) (s : State γ) : Prop where
  db : s.db.Sound service
  calls : ∀ call ∈ s.calls, service.Prepared s.db call

/-- What a step can do. -/
theorem step_cases (service : Service γ) (s : State γ) (action : Action) :
    (∃ call draw request,
        service.prepare s.db draw request = .ok (some call)
          ∧ action = .request request draw
          ∧ service.step s action = ⟨s.db, s.calls ++ [call]⟩)
      ∨ (∃ index time call db', action = .commit index time
          ∧ s.calls[index]? = some call
          ∧ s.db.commit (call.moment s.db time) call.write = .ok db'
          ∧ service.step s action = ⟨db', s.calls.eraseIdx index⟩)
      ∨ (service.step s action).db = s.db
        ∧ ∀ call ∈ (service.step s action).calls,
          ∃ old ∈ s.calls, ∃ found, call = { old with found := found } := by
  have hsame : ∀ {calls : List (Call γ)}, (∀ call ∈ calls, call ∈ s.calls) →
      ∀ call ∈ calls,
        ∃ old ∈ s.calls, ∃ found, call = { old with found := found } :=
    fun h call hcall => ⟨call, h call hcall, call.found, rfl⟩
  cases action with
  | request request draw =>
      cases hprepare : service.prepare s.db draw request with
      | error e =>
          have hstep : service.step s (.request request draw) = s := by
            simp only [Service.step, hprepare]
          rw [hstep]
          exact .inr (.inr ⟨rfl, hsame fun _ h => h⟩)
      | ok prepared =>
          cases prepared with
          | none =>
              have hstep : service.step s (.request request draw) = s := by
                simp only [Service.step, hprepare]
              rw [hstep]
              exact .inr (.inr ⟨rfl, hsame fun _ h => h⟩)
          | some call =>
              refine .inl ⟨call, draw, request, hprepare, rfl, ?_⟩
              simp only [Service.step, hprepare]
  | begin index =>
      refine .inr (.inr ⟨rfl, fun call hcall => ?_⟩)
      obtain ⟨i, hi⟩ := List.mem_iff_getElem?.mp hcall
      change (s.calls.modify index fun call =>
        { call with found := some (s.db.profiles.map (·.id)) })[i]?
          = some call at hi
      rw [List.getElem?_modify] at hi
      obtain ⟨old, hold, hcall⟩ := Option.map_eq_some_iff.mp hi
      refine ⟨old, List.mem_of_getElem? hold, ?_⟩
      split at hcall
      · exact ⟨_, hcall.symm⟩
      · exact ⟨old.found, hcall.symm⟩
  | commit index time =>
      cases hcall : s.calls[index]? with
      | none =>
          have hstep : service.step s (.commit index time) = s := by
            simp only [Service.step, hcall]
          rw [hstep]
          exact .inr (.inr ⟨rfl, hsame fun _ h => h⟩)
      | some call =>
          cases hcommit : s.db.commit (call.moment s.db time) call.write with
          | error e =>
              have hstep : service.step s (.commit index time)
                  = { s with calls := s.calls.eraseIdx index } := by
                simp only [Service.step, hcall, hcommit]
              rw [hstep]
              exact .inr (.inr ⟨rfl, hsame fun _ => List.mem_of_mem_eraseIdx⟩)
          | ok db' =>
              refine .inr (.inl ⟨index, time, call, db', rfl, hcall, hcommit,
                ?_⟩)
              simp only [Service.step, hcall, hcommit]
  | abandon index =>
      exact .inr (.inr ⟨rfl, hsame fun _ => List.mem_of_mem_eraseIdx⟩)

theorem later_refl (db : Database γ) : db.Later db where
  profiles p hp := ⟨p, hp, rfl, rfl, id⟩
  credentials c hc := ⟨c, hc, rfl, rfl, rfl, rfl, id⟩
  runs _ hr := hr

/-- What is kept twice is kept. -/
theorem Database.Later.trans {db'' : Database γ} (h : db.Later db')
    (h' : db'.Later db'') : db.Later db'' where
  profiles p hp := by
    obtain ⟨p', hp', hid, howner, hdeleted⟩ := h.profiles p hp
    obtain ⟨p'', hp'', hid', howner', hdeleted'⟩ := h'.profiles p' hp'
    exact ⟨p'', hp'', hid'.trans hid, howner'.trans howner,
      hdeleted' ∘ hdeleted⟩
  credentials c hc := by
    obtain ⟨c', hc', hages⟩ := h.credentials c hc
    obtain ⟨c'', hc'', hages'⟩ := h'.credentials c' hc'
    exact ⟨c'', hc'', hages'.id.trans hages.id,
      hages'.profileId.trans hages.profileId,
      hages'.credentialVersion.trans hages.credentialVersion,
      hages'.secret.trans hages.secret, hages'.deletedAt ∘ hages.deletedAt⟩
  runs r hr := h'.runs r (h.runs r hr)

/-- Every action keeps the state sound and takes no row away. -/
theorem State.Sound.step {s : State γ} (h : s.Sound service)
    (action : Action) :
    (service.step s action).Sound service
      ∧ s.db.Later (service.step s action).db := by
  obtain ⟨call, draw, request, hprepare, -, hstep⟩
    | ⟨index, time, call, db', -, hcall, hcommit, hstep⟩ | ⟨hdb, hcalls⟩ :=
    step_cases service s action
  · rw [hstep]
    refine ⟨⟨h.db, ?_⟩, later_refl _⟩
    intro other hother
    cases List.mem_append.mp hother with
    | inl hold => exact h.calls other hold
    | inr hnew =>
        rw [List.mem_singleton.mp hnew]
        exact prepare_prepared h.db.sealed hprepare
  · obtain ⟨hsound, hlater⟩ :=
      h.db.commit (h.calls call (List.mem_of_getElem? hcall)) hcommit
    rw [hstep]
    refine ⟨⟨hsound, ?_⟩, hlater⟩
    intro other hother
    exact (h.calls other (List.mem_of_mem_eraseIdx hother)).later hlater
  · rw [hdb]
    refine ⟨⟨hdb ▸ h.db, ?_⟩, later_refl _⟩
    intro other hother
    rw [hdb]
    obtain ⟨old, hold, found, rfl⟩ := hcalls other hother
    exact (h.calls old hold).begun found

/-- No rows and no calls under way. -/
theorem sound_empty : (State.empty : State γ).Sound service where
  db :=
    { constraints :=
        ⟨UniqueIndex.apart_nil, UniqueIndex.apart_nil, UniqueIndex.apart_nil⟩
      status := fun _ h => absurd h List.not_mem_nil
      owned := fun _ h => absurd h List.not_mem_nil
      alive := fun _ h => absurd h List.not_mem_nil
      gone := fun _ h => absurd h List.not_mem_nil
      sealed := fun _ h => absurd h List.not_mem_nil
      bound := fun _ h => absurd h List.not_mem_nil }
  calls := fun _ h => absurd h List.not_mem_nil

/-- Every state that actions reach is sound. -/
theorem sound_reachable {s : State γ}
    (h : Reachable (profileSystem service) s) : s.Sound service :=
  h.invariant (fun _ hs => hs ▸ sound_empty)
    fun _ action hs => (hs.step action).1

/-- A run of actions keeps the state sound and takes no row away. -/
theorem State.Sound.exec {s : State γ} (h : s.Sound service)
    (actions : List Action) :
    ((profileSystem service).exec s actions).Sound service
      ∧ s.db.Later ((profileSystem service).exec s actions).db := by
  induction actions generalizing s with
  | nil => exact ⟨h, later_refl _⟩
  | cons action actions ih =>
      obtain ⟨hsound, hlater⟩ := h.step action
      obtain ⟨hsound', hlater'⟩ := ih hsound
      exact ⟨hsound', hlater.trans hlater'⟩

-- =================================================================== reading

/-- What `get_active` finds of a live profile. -/
theorem Database.Sound.getActive_eq (h : db.Sound service)
    {p : ProviderProfileRow} (hp : p ∈ db.profiles)
    (hlive : p.deletedAt = none) {c : CredentialVersionRow γ}
    (hc : c ∈ db.credentials) (hprofile : c.profileId = p.id)
    (hactive : c.isActive = true) :
    db.getActive p.ownerHash p.id = .ok (p, c) := by
  have hrow : (p, c) ∈ db.activeRows p.ownerHash :=
    mem_activeRows.mpr ⟨⟨hp, rfl, (h.status p hp).mpr hlive, hlive⟩, hc,
      hprofile, hactive⟩
  cases hget : db.getActive p.ownerHash p.id with
  | error e =>
      unfold Database.getActive at hget
      split at hget
      case h_1 => cases hget
      case h_2 hfind =>
        have hnot := List.find?_eq_none.mp hfind _ hrow
        exact absurd (decide_eq_true rfl) hnot
  | ok row =>
      obtain ⟨q, d⟩ := row
      obtain ⟨hmem, hid⟩ := getActive_ok hget
      obtain ⟨⟨hq, -⟩, hd, hdq, hdactive⟩ := mem_activeRows.mp hmem
      have hpq := h.constraints.profile_unique hq hp hid
      have hcd := h.constraints.active_unique hd hc
        (hdq.trans (hid.trans hprofile.symm)) hdactive hactive
      rw [hpq, hcd]

/-- A profile that is deleted, or is of another owner, is not found. -/
theorem getActive_error (h : ¬ db.Live ownerHash profileId) :
    db.getActive ownerHash profileId = .error .notFound := by
  cases hget : db.getActive ownerHash profileId with
  | error e =>
      unfold Database.getActive at hget
      split at hget
      case h_1 => cases hget
      case h_2 => exact hget.symm
  | ok row =>
      obtain ⟨hmem, hid⟩ := getActive_ok hget
      obtain ⟨⟨hp, howner, -, hlive⟩, -⟩ :=
        mem_activeRows.mp (show (row.1, row.2) ∈ _ from hmem)
      exact absurd ⟨row.1, hp, hid, howner, hlive⟩ h

/-- The listed profiles, each with its credential. -/
theorem Database.Sound.activeRows_map (h : db.Sound service)
    (ownerHash : String) :
    (db.activeRows ownerHash).map Prod.fst
      = db.profiles.filter fun p => p.ownerHash = ownerHash
        && p.status = .active && p.deletedAt.isNone := by
  have hone : ∀ p ∈ db.profiles.filter (fun p => p.ownerHash = ownerHash
      && p.status = .active && p.deletedAt.isNone),
      ((db.credentials.filter fun c => c.profileId = p.id && c.isActive).map
        fun c => (p, c)).map Prod.fst = [p] := by
    intro p hp
    obtain ⟨hp, hlive⟩ := List.mem_filter.mp hp
    simp only [Bool.and_eq_true, Option.isNone_iff_eq_none] at hlive
    obtain ⟨c, hc, hprofile, hactive⟩ := h.alive p hp hlive.2
    have hfilter : (db.credentials.filter fun c =>
        c.profileId = p.id && c.isActive) = [c] := by
      have hnodup : (db.credentials.filter fun c =>
          c.profileId = p.id && c.isActive).Nodup := by
        refine List.Nodup.filter _ ?_
        exact h.constraints.credentials.imp
          fun hcd heq => hcd (.inl (congrArg CredentialVersionRow.id heq))
      have hmem : ∀ d, d ∈ (db.credentials.filter fun c =>
          c.profileId = p.id && c.isActive) ↔ d = c := by
        intro d
        rw [List.mem_filter]
        simp only [Bool.and_eq_true, decide_eq_true_eq]
        refine ⟨fun hd => ?_, fun hd => hd ▸ ⟨hc, hprofile, hactive⟩⟩
        exact h.constraints.active_unique hd.1 hc
          (hd.2.1.trans hprofile.symm) hd.2.2 hactive
      exact List.perm_singleton.mp
        ((List.perm_ext_iff_of_nodup hnodup (List.nodup_singleton c)).mpr
          fun d => (hmem d).trans List.mem_singleton.symm)
    rw [hfilter]
    rfl
  unfold Database.activeRows
  rw [List.map_flatMap, List.flatMap_congr hone, List.flatMap_singleton']

-- =================================================================== results

/-- When the write of a call is accepted. -/
def Write.Admissible (db : Database γ) : Write γ → Prop
  | .create profile credential =>
      (∀ p ∈ db.profiles, p.id ≠ profile.id)
        ∧ ∀ c ∈ db.credentials, c.id ≠ credential.id
  | .updateNonSecret ownerHash profileId _ => db.Live ownerHash profileId
  | .replaceAdapter ownerHash profileId expectedCredentialId _ _
      credential =>
      db.Live ownerHash profileId
        ∧ (∃ c ∈ db.credentials, c.profileId = profileId
          ∧ c.isActive = true ∧ c.id = expectedCredentialId)
        ∧ ∀ c ∈ db.credentials, c.id ≠ credential.id
  | .rotate ownerHash profileId credential =>
      db.Live ownerHash profileId
        ∧ ∀ c ∈ db.credentials, c.id ≠ credential.id
  | .delete ownerHash profileId => db.Live ownerHash profileId
  | .createRun run => ∀ r ∈ db.runs, r.id ≠ run.id
      ∧ (r.ownerHash = run.ownerHash →
        r.idempotencyKey ≠ run.idempotencyKey)

/-- In a sound database the rows a write asks for and the ids it draws are
all that decides on it. -/
theorem Database.Sound.admissible_iff (h : db.Sound service)
    (write : Write γ) :
    write.Ready db ∧ write.Fresh db ↔ write.Admissible db := by
  cases write with
  | create profile credential => exact iff_of_eq (true_and _)
  | updateNonSecret ownerHash profileId changes =>
      refine ⟨fun hready => hready.1.1, fun hlive => ⟨⟨hlive, ?_⟩, trivial⟩⟩
      obtain ⟨p, hp, hid, -, hpresent⟩ := hlive
      obtain ⟨c, hc, hprofile, hactive⟩ := h.alive p hp hpresent
      exact ⟨c, hc, hprofile.trans hid, hactive⟩
  | replaceAdapter ownerHash profileId expected adapterType changes
      credential => exact and_assoc
  | rotate ownerHash profileId credential => exact Iff.rfl
  | delete ownerHash profileId => exact iff_of_eq (and_true _)
  | createRun run =>
      refine ⟨fun hfresh r hr => ?_, fun hfree => ⟨trivial, ?_⟩⟩
      · exact ⟨fun hid => hfresh.2 r hr (.inl hid),
          fun howner hkey => hfresh.2 r hr (.inr ⟨howner, hkey⟩)⟩
      · intro r hr hconflict
        cases hconflict with
        | inl hid => exact (hfree r hr).1 hid
        | inr hboth => exact (hfree r hr).2 hboth.1 hboth.2

variable {s : State γ}

/-- The profiles that a prepared write inserts are there to stay. -/
theorem new_profile_active (hcall : service.Prepared db call) :
    ∀ new ∈ call.write.newProfiles now,
      new.deletedAt = none ∧ new.status = .active := by
  intro new hnew
  obtain ⟨profile, credential, hwrite, rfl⟩ := mem_newProfiles hnew
  have hgrounded := hcall.grounded
  rw [hwrite] at hgrounded
  exact ⟨hgrounded.1, hgrounded.2.1⟩

/-- Whatever was written since its request has read, the write of a call
is accepted exactly if its profile is there for its owner, a change of the
adapter finds the credential it has read, the ids it draws are free, and no
default of the owner was inserted behind its `UPDATE`, if it promotes
another. So the index on the active credential never refuses, and the one on
the default only a promotion that another overlaps. -/
theorem commit_accepted_iff (hs : Reachable (profileSystem service) s)
    (hcall : call ∈ s.calls) (time : ℤ) :
    (∃ db', s.db.commit (call.moment s.db time) call.write = .ok db')
      ↔ call.write.Admissible s.db
        ∧ call.write.SeesDefault s.db (call.moment s.db time) := by
  obtain ⟨hsound, hcalls⟩ := sound_reachable hs
  have hprepared := hcalls call hcall
  have hindexes := fun hready => result_constraints_iff hsound.constraints
    hready hprepared.formed hsound.owned
    (fun p hp => (hsound.status p hp).mpr)
    (@new_profile_active _ _ _ (call.moment s.db time) _ hprepared)
  rw [← hsound.admissible_iff]
  constructor
  · intro ⟨db', hcommit⟩
    obtain ⟨hready, hconstraints, -⟩ :=
      (commit_ok_iff hsound.constraints).mp hcommit
    obtain ⟨hfresh, hsees⟩ := (hindexes hready).mp hconstraints
    exact ⟨⟨hready, hfresh⟩, hsees⟩
  · intro ⟨⟨hready, hfresh⟩, hsees⟩
    exact ⟨_, (commit_ok_iff hsound.constraints).mpr
      ⟨hready, (hindexes hready).mpr ⟨hfresh, hsees⟩, rfl⟩⟩

/-- The order of `list_active`. -/
theorem default_first (db : Database γ) (ownerHash : String) :
    (db.listActive ownerHash).Pairwise fun a b =>
      b.1.isDefault = true → a.1.isDefault = true := by
  have hsorted : (db.listActive ownerHash).Pairwise fun a b =>
      (if a.1.isDefault = b.1.isDefault then
        decide (b.1.updatedAt ≤ a.1.updatedAt)
      else a.1.isDefault) = true := by
    refine List.pairwise_mergeSort ?_ ?_ _
    · intro a b c hab hbc
      grind
    · intro a b
      grind
  refine hsorted.imp fun {a b} hab hb => ?_
  by_cases hsame : a.1.isDefault = b.1.isDefault
  · exact hsame.trans hb
  · simpa [hsame] using hab

/-- The unique index: an owner has one default at most. -/
theorem length_filter_default (h : db.Sound service) (ownerHash : String) :
    (db.profiles.filter fun p =>
      p.ownerHash = ownerHash && p.isActiveDefault).length ≤ 1 := by
  have hapart : (db.profiles.filter fun p =>
      p.ownerHash = ownerHash && p.isActiveDefault).Pairwise
        fun _ _ => False := by
    rw [List.pairwise_filter]
    refine h.constraints.profiles.imp fun {p q} hpq hp hq => ?_
    simp only [Bool.and_eq_true, decide_eq_true_eq] at hp hq
    exact hpq (.inr ⟨hp.1.trans hq.1.symm, hp.2, hq.2⟩)
  generalize (db.profiles.filter fun p =>
    p.ownerHash = ownerHash && p.isActiveDefault) = defaults at hapart ⊢
  match defaults with
  | [] => exact Nat.zero_le 1
  | [p] => exact Nat.le_refl 1
  | p :: q :: rest =>
      exact (List.rel_of_pairwise_cons hapart List.mem_cons_self).elim

/-- A deployment whose cipher hides nothing. -/
def sampleService : Service (ByteArray × ByteArray) where
  cipher := { aead := @Aead.transparent _ _ _ ByteArray.instDecidableEq }
  policy := ⟨fun _ _ => false, fun _ => none, false⟩

/-- Ids from a number on. -/
def drawFrom (first : Nat) : Draw :=
  ⟨BitVec.ofNat 128 first, BitVec.ofNat 128 (first + 1),
    BitVec.ofNat 128 (first + 2), 0⟩

/-- A run of the deployment. -/
def sampleRun (actions : List Action) : State (ByteArray × ByteArray) :=
  (profileSystem sampleService).exec State.empty actions

theorem sampleRun_reachable (actions : List Action) :
    Reachable (profileSystem sampleService) (sampleRun actions) :=
  (Reachable.init rfl).exec actions

/-- A profile is asked for, its first key being `"old"`. -/
def askProfile : Action :=
  .request (.createProfile "owner" "main" .googleGemini
    "https://api.example".toList "model" "old" true) (drawFrom 1)

def Write.isCreate : Write γ → Bool
  | .create _ _ => true
  | _ => false

theorem commit_accepted_iff_first :
    ∃ call ∈ (sampleRun [askProfile]).calls, ∃ db',
      (sampleRun [askProfile]).db.commit
        (call.moment (sampleRun [askProfile]).db 0) call.write = .ok db' := by
  have hne : (sampleRun [askProfile]).calls.isEmpty = false := by
    decide +kernel
  have hcreate : (sampleRun [askProfile]).calls.all (·.write.isCreate)
      = true := by decide +kernel
  have hprofiles : (sampleRun [askProfile]).db.profiles.isEmpty = true := by
    decide +kernel
  have hcredentials : (sampleRun [askProfile]).db.credentials.isEmpty
      = true := by decide +kernel
  obtain ⟨call, hcall⟩ := List.exists_mem_of_ne_nil _
    (List.isEmpty_eq_false_iff.mp hne)
  refine ⟨call, hcall, (commit_accepted_iff (sampleRun_reachable _) hcall
    0).mpr ⟨?_, ?_⟩⟩
  · have hwrite := List.all_eq_true.mp hcreate call hcall
    cases hkind : call.write with
    | create profile credential =>
        constructor
        · rw [List.isEmpty_iff.mp hprofiles]
          exact fun _ h => absurd h List.not_mem_nil
        · rw [List.isEmpty_iff.mp hcredentials]
          exact fun _ h => absurd h List.not_mem_nil
    | updateNonSecret | replaceAdapter | rotate | delete | createRun =>
        rw [hkind] at hwrite
        cases hwrite
  · intro owner id _ p hp
    rw [List.isEmpty_iff.mp hprofiles] at hp
    cases hp

/-- Two profiles are asked for as defaults, and both writes begin before
one of them commits. -/
def overlappingActions : List Action :=
  [askProfile,
    .request (.createProfile "owner" "other" .googleGemini
      "https://api.example".toList "model" "key" true) (drawFrom 41),
    .begin 0, .begin 1, .commit 0 1]

/-- The index refuses the other. -/
example : (sampleRun overlappingActions).calls.map (fun call =>
    ((sampleRun overlappingActions).db.commit
      (call.moment (sampleRun overlappingActions).db 2)
      call.write).toOption.isSome) = [false] := by decide +kernel

/-- In every reachable state a live profile has exactly one active
credential, which its owner gets and nobody else; of a deleted one no
credential is left. An owner has at most one default, and lists every live
profile once, the default first. -/
theorem live_profile_credential
    (hs : Reachable (profileSystem service) s) :
    (∀ p ∈ s.db.profiles, p.deletedAt = none →
        ∃ c ∈ s.db.credentials, (∀ d ∈ s.db.credentials,
            d.profileId = p.id ∧ d.isActive = true ↔ d = c)
          ∧ ∀ ownerHash, s.db.getActive ownerHash p.id
            = if ownerHash = p.ownerHash then .ok (p, c)
              else .error .notFound)
      ∧ (∀ p ∈ s.db.profiles, p.deletedAt ≠ none →
        (∀ c ∈ s.db.credentials, c.profileId = p.id → c.deletedAt ≠ none)
          ∧ ∀ ownerHash,
            s.db.getActive ownerHash p.id = .error .notFound)
      ∧ ∀ ownerHash,
        ((s.db.profiles.filter fun p =>
            p.ownerHash = ownerHash && p.isActiveDefault).length ≤ 1
          ∧ ((s.db.listActive ownerHash).map Prod.fst).Perm
            (s.db.profiles.filter fun p =>
              p.ownerHash = ownerHash && p.deletedAt.isNone)
          ∧ (s.db.listActive ownerHash).Pairwise fun a b =>
            b.1.isDefault = true → a.1.isDefault = true) := by
  obtain ⟨hsound, -⟩ := sound_reachable hs
  refine ⟨?_, ?_, ?_⟩
  · intro p hp hlive
    obtain ⟨c, hc, hprofile, hactive⟩ := hsound.alive p hp hlive
    refine ⟨c, hc, fun d hd => ⟨fun hboth => ?_, fun hdc => ?_⟩, ?_⟩
    · exact hsound.constraints.active_unique hd hc
        (hboth.1.trans hprofile.symm) hboth.2 hactive
    · exact hdc ▸ ⟨hprofile, hactive⟩
    · intro ownerHash
      -- Another owner does not see the profile.
      by_cases howner : ownerHash = p.ownerHash
      · rw [if_pos howner, howner]
        exact hsound.getActive_eq hp hlive hc hprofile hactive
      · rw [if_neg howner]
        apply getActive_error
        intro ⟨q, hq, hid, hqowner, _⟩
        rw [hsound.constraints.profile_unique hq hp hid] at hqowner
        exact howner hqowner.symm
  · intro p hp hdead
    refine ⟨fun c hc hprofile hnone => ?_, fun ownerHash => ?_⟩
    · exact hdead ((hsound.gone p hp c hc hprofile).mp hnone)
    · apply getActive_error
      intro ⟨q, hq, hid, _, hlive⟩
      rw [hsound.constraints.profile_unique hq hp hid] at hlive
      exact hdead hlive
  · intro ownerHash
    refine ⟨length_filter_default hsound ownerHash, ?_,
      default_first s.db ownerHash⟩
    -- The listing asks for the status too, which tells the same as the
    -- deletion.
    have hfilter : (s.db.profiles.filter fun p => p.ownerHash = ownerHash
          && p.status = .active && p.deletedAt.isNone)
        = s.db.profiles.filter fun p =>
          p.ownerHash = ownerHash && p.deletedAt.isNone := by
      refine List.filter_congr fun p hp => ?_
      have hstatus := hsound.status p hp
      rw [Bool.eq_iff_iff]
      simp only [Bool.and_eq_true, decide_eq_true_eq,
        Option.isNone_iff_eq_none, hstatus]
      exact ⟨fun h => ⟨h.1.1, h.2⟩, fun h => ⟨⟨h.1, h.2⟩, h.2⟩⟩
    rw [← hfilter, ← hsound.activeRows_map ownerHash]
    exact (List.mergeSort_perm _ _).map _

theorem live_profile_credential_first :
    ∃ p ∈ (sampleRun [askProfile, .commit 0 1]).db.profiles, ∃ c,
      (sampleRun [askProfile, .commit 0 1]).db.getActive p.ownerHash p.id
        = .ok (p, c) := by
  have hne : (sampleRun [askProfile, .commit 0 1]).db.profiles.isEmpty
      = false := by decide +kernel
  have hlive : (sampleRun [askProfile, .commit 0 1]).db.profiles.all
      (·.deletedAt.isNone) = true := by decide +kernel
  obtain ⟨p, hp⟩ := List.exists_mem_of_ne_nil _
    (List.isEmpty_eq_false_iff.mp hne)
  obtain ⟨c, -, -, hget⟩ :=
    (live_profile_credential (sampleRun_reachable _)).1 p hp
      (Option.isNone_iff_eq_none.mp (List.all_eq_true.mp hlive p hp))
  exact ⟨p, hp, c, (hget p.ownerHash).trans (if_pos rfl)⟩

end DeepResearch.Provider
