/-
What the write of a call does to the tables.

A commit maps the rows that are there (`profileUpdate`,
`credentialUpdate`) and appends its new ones; everything else is read off
that. An old credential keeps its secret and only ages (`Ages`).
-/
import DeepResearch.Provider.Profiles
import Mathlib.Data.List.Basic

namespace DeepResearch.Provider

open DeepResearch.State (UUID)
open UniqueIndex (Apart apart_append apart_singleton apart_nil)

variable {γ : Type} {db db' : Database γ} {now : Moment} {write : Write γ}
  {ownerHash : String} {profileId : UUID}

-- ==================================================================== locking

/-- The owner's profile is there, and not deleted. -/
def Database.Live (db : Database γ) (ownerHash : String)
    (profileId : UUID) : Prop :=
  ∃ profile ∈ db.profiles, profile.id = profileId
    ∧ profile.ownerHash = ownerHash ∧ profile.deletedAt = none

/-- A profile is locked if it is there, for its owner, and not deleted. -/
theorem lockProfile_iff :
    (∃ profile, db.lockProfile ownerHash profileId = .ok profile)
      ↔ db.Live ownerHash profileId := by
  unfold Database.lockProfile Database.Live
  split
  case h_1 profile hfind =>
    refine ⟨fun _ => ?_, fun _ => ⟨profile, rfl⟩⟩
    have hprofile := List.find?_some hfind
    simp only [Bool.and_eq_true, decide_eq_true_eq, Option.isNone_iff_eq_none]
      at hprofile
    exact ⟨profile, List.mem_of_find?_eq_some hfind, hprofile.1.1,
      hprofile.1.2, hprofile.2⟩
  case h_2 hfind =>
    refine ⟨nofun, ?_⟩
    intro ⟨profile, hmem, hid, howner, hlive⟩
    have hnot := List.find?_eq_none.mp hfind profile hmem
    simp [hid, howner, hlive] at hnot

/-- What is found is an active credential of the profile. -/
theorem activeCredential_some {credential : CredentialVersionRow γ}
    (h : db.activeCredential profileId = .ok credential) :
    credential ∈ db.credentials ∧ credential.profileId = profileId
      ∧ credential.isActive = true := by
  unfold Database.activeCredential at h
  split at h
  case h_1 found hfind =>
    cases h
    have hfound := List.find?_some hfind
    simp only [Bool.and_eq_true, decide_eq_true_eq] at hfound
    exact ⟨List.mem_of_find?_eq_some hfind, hfound⟩
  case h_2 => cases h

/-- An index refuses two rows whichever was first. -/
theorem conflict_symm {c d : CredentialVersionRow γ} (h : c.Conflict d) :
    d.Conflict c :=
  h.imp Eq.symm fun hboth => ⟨hboth.1.symm, hboth.2.2, hboth.2.1⟩

/-- Of a profile at most one credential is active. -/
theorem Database.Constraints.active_unique (h : db.Constraints)
    {c d : CredentialVersionRow γ} (hc : c ∈ db.credentials)
    (hd : d ∈ db.credentials) (hprofile : c.profileId = d.profileId)
    (hcactive : c.isActive = true) (hdactive : d.isActive = true) : c = d :=
  h.credentials.unique conflict_symm hc hd
    (.inr ⟨hprofile, hcactive, hdactive⟩)

/-- The primary key of the credentials. -/
theorem Database.Constraints.credential_unique (h : db.Constraints)
    {c d : CredentialVersionRow γ} (hc : c ∈ db.credentials)
    (hd : d ∈ db.credentials) (hid : c.id = d.id) : c = d :=
  h.credentials.unique conflict_symm hc hd (.inl hid)

theorem ProviderProfileRow.conflict_symm {p q : ProviderProfileRow}
    (h : p.Conflict q) : q.Conflict p :=
  h.imp Eq.symm fun hboth => ⟨hboth.1.symm, hboth.2.2, hboth.2.1⟩

/-- The primary key of the profiles. -/
theorem Database.Constraints.profile_unique (h : db.Constraints)
    {p q : ProviderProfileRow} (hp : p ∈ db.profiles)
    (hq : q ∈ db.profiles) (hid : p.id = q.id) : p = q :=
  h.profiles.unique ProviderProfileRow.conflict_symm hp hq (.inl hid)

/-- The primary key of the runs. -/
theorem Database.Constraints.run_unique (h : db.Constraints)
    {r t : ResearchRunRow} (hr : r ∈ db.runs) (ht : t ∈ db.runs)
    (hid : r.id = t.id) : r = t :=
  h.runs.unique
    (fun hrt => hrt.imp Eq.symm fun hboth => ⟨hboth.1.symm, hboth.2.symm⟩)
    hr ht (.inl hid)

-- ================================================================= the effect

/-- A row of the owner's once another is made the default, if it is. -/
def ProviderProfileRow.demoteOther (isDefault : Option Bool)
    (ownerHash : String) (profileId : UUID) (now : Moment)
    (profile : ProviderProfileRow) : ProviderProfileRow :=
  if isDefault = some true then
    profile.demote ownerHash (some profileId) now
  else profile

namespace Write

/-- What becomes of a profile. -/
def profileUpdate (now : Moment) :
    Write γ → ProviderProfileRow → ProviderProfileRow
  | .create profile _, row =>
      if profile.isDefault = true then
        row.demote profile.ownerHash none now
      else row
  | .updateNonSecret ownerHash profileId changes, row =>
      (row.demoteOther changes.isDefault ownerHash profileId now).onRow
        profileId (·.change changes now.time)
  | .replaceAdapter ownerHash profileId _ adapterType changes _, row =>
      (row.demoteOther changes.isDefault ownerHash profileId now).onRow
        profileId fun profile =>
          { profile.change changes now.time with adapterType := adapterType }
  | .rotate _ profileId _, row =>
      row.onRow profileId fun profile =>
        { profile with version := profile.version + 1, updatedAt := now.time }
  | .delete _ profileId, row =>
      row.onRow profileId fun profile =>
        { profile with
          status := .deleted
          deletedAt := some now.time
          updatedAt := now.time }
  | .createRun _, row => row

/-- What becomes of a credential. -/
def credentialUpdate (now : Moment) :
    Write γ → CredentialVersionRow γ → CredentialVersionRow γ
  | .replaceAdapter _ _ expectedCredentialId _ _ _, row =>
      row.revokeOne expectedCredentialId now.time
  | .rotate _ profileId _, row => row.revoke profileId now.time
  | .delete _ profileId, row => row.remove profileId now.time
  | .create _ _, row => row
  | .updateNonSecret _ _ _, row => row
  | .createRun _, row => row

def newProfiles (now : Moment) : Write γ → List ProviderProfileRow
  | .create profile _ => [{ profile with updatedAt := now.time }]
  | _ => []

def newCredentials : Write γ → List (CredentialVersionRow γ)
  | .create _ credential => [credential]
  | .replaceAdapter _ _ _ _ _ credential => [credential]
  | .rotate _ _ credential => [credential]
  | _ => []

def newRuns : Write γ → List ResearchRunRow
  | .createRun run => [run]
  | _ => []

/-- The tables after the write. -/
def result (now : Moment) (db : Database γ) (write : Write γ) : Database γ where
  profiles :=
    db.profiles.map (write.profileUpdate now) ++ write.newProfiles now
  credentials :=
    db.credentials.map (write.credentialUpdate now) ++ write.newCredentials
  runs := db.runs ++ write.newRuns

/-- What the write asks of the rows it reads. -/
def Ready (db : Database γ) : Write γ → Prop
  | .create _ _ => True
  | .updateNonSecret ownerHash profileId _ =>
      db.Live ownerHash profileId
        ∧ ∃ credential ∈ db.credentials, credential.profileId = profileId
          ∧ credential.isActive = true
  | .replaceAdapter ownerHash profileId expectedCredentialId _ _ _ =>
      db.Live ownerHash profileId
        ∧ ∃ credential ∈ db.credentials, credential.profileId = profileId
          ∧ credential.isActive = true
          ∧ credential.id = expectedCredentialId
  | .rotate ownerHash profileId _ => db.Live ownerHash profileId
  | .delete ownerHash profileId => db.Live ownerHash profileId
  | .createRun _ => True

end Write

/-- A commit goes through if the indexes hold, and changes nothing by
itself. -/
theorem checked_ok_iff : db.checked = .ok db' ↔ db.Constraints ∧ db' = db := by
  unfold Database.checked
  split
  case isTrue h => exact ⟨fun heq => ⟨h, (Except.ok.inj heq).symm⟩,
    fun hboth => by rw [hboth.2]⟩
  case isFalse h => exact ⟨nofun, fun hboth => absurd hboth.1 h⟩

/-- After the lock of a profile. -/
theorem lock_bind_ok_iff {α : Type} {next : Except ProfileError α} {a : α} :
    (db.lockProfile ownerHash profileId >>= fun _ => next) = .ok a
      ↔ db.Live ownerHash profileId ∧ next = .ok a := by
  rw [← lockProfile_iff]
  cases db.lockProfile ownerHash profileId with
  | error e => exact ⟨nofun, fun hboth => absurd hboth.1 nofun⟩
  | ok found => exact ⟨fun h => ⟨⟨found, rfl⟩, h⟩, And.right⟩

/-- A credential is found if the profile has an active one. -/
theorem activeCredential_iff :
    (∃ credential, db.activeCredential profileId = .ok credential)
      ↔ ∃ credential ∈ db.credentials, credential.profileId = profileId
        ∧ credential.isActive = true := by
  constructor
  · intro ⟨credential, hcredential⟩
    exact ⟨credential, activeCredential_some hcredential⟩
  · intro ⟨credential, hmem, hprofile, hactive⟩
    unfold Database.activeCredential
    split
    case h_1 found _ => exact ⟨found, rfl⟩
    case h_2 hfind =>
      have hnot := List.find?_eq_none.mp hfind credential hmem
      simp [hprofile, hactive] at hnot

/-- After the look-up of the active credential. -/
theorem active_bind_ok_iff {α : Type} {next : Except ProfileError α}
    {a : α} :
    (db.activeCredential profileId >>= fun _ => next) = .ok a
      ↔ (∃ credential ∈ db.credentials, credential.profileId = profileId
          ∧ credential.isActive = true) ∧ next = .ok a := by
  rw [← activeCredential_iff]
  cases db.activeCredential profileId with
  | error e => exact ⟨nofun, fun hboth => absurd hboth.1 nofun⟩
  | ok found => exact ⟨fun h => ⟨⟨found, rfl⟩, h⟩, And.right⟩

/-- After the check of the expected credential. -/
theorem expected_bind_ok_iff {α : Type} (hc : db.Constraints)
    {expected : UUID} (next : UUID → Except ProfileError α) {a : α} :
    (db.activeCredential profileId >>= fun current =>
        if current.id ≠ expected then .error .notFound
        else next current.id) = .ok a
      ↔ (∃ credential ∈ db.credentials, credential.profileId = profileId
          ∧ credential.isActive = true ∧ credential.id = expected)
        ∧ next expected = .ok a := by
  cases hfind : db.activeCredential profileId with
  | error e =>
      refine ⟨nofun, ?_⟩
      intro ⟨⟨credential, hmem, hprofile, hactive, _⟩, _⟩
      obtain ⟨found, hfound⟩ :=
        activeCredential_iff.mpr ⟨credential, hmem, hprofile, hactive⟩
      exact absurd (hfind.symm.trans hfound) nofun
  | ok current =>
      obtain ⟨hmem, hprofile, hactive⟩ := activeCredential_some hfind
      show (if current.id ≠ expected then .error .notFound
        else next current.id) = .ok a ↔ _
      split
      case isTrue hne =>
        refine ⟨nofun, ?_⟩
        intro ⟨⟨credential, hmem', hprofile', hactive', hid⟩, _⟩
        have hsame := hc.active_unique hmem hmem'
          (hprofile.trans hprofile'.symm) hactive hactive'
        exact absurd (hsame ▸ hid) hne
      case isFalse heq =>
        rw [Decidable.not_not.mp heq]
        exact ⟨fun h => ⟨⟨current, hmem, hprofile, hactive,
          Decidable.not_not.mp heq⟩, h⟩, And.right⟩

theorem map_same {α : Type} {f : α → α} (h : ∀ a, f a = a) (l : List α) :
    l.map f = l := by
  rw [show f = id from funext h, List.map_id]

/-- The profiles after another of the owner is made the default. -/
theorem demoteOthers_eq (isDefault : Option Bool) :
    db.demoteOthers now ownerHash profileId isDefault
      = db.profiles.map
        (·.demoteOther isDefault ownerHash profileId now) := by
  unfold Database.demoteOthers
  split
  case isTrue h => simp [ProviderProfileRow.demoteOther, h]
  case isFalse h => simp [ProviderProfileRow.demoteOther, h]

/-- A result, by its tables. -/
theorem result_eq {profiles : List ProviderProfileRow}
    {credentials : List (CredentialVersionRow γ)}
    {runs : List ResearchRunRow}
    (hprofiles : db.profiles.map (write.profileUpdate now)
      ++ write.newProfiles now = profiles)
    (hcredentials : db.credentials.map (write.credentialUpdate now)
      ++ write.newCredentials = credentials)
    (hruns : db.runs ++ write.newRuns = runs) :
    write.result now db = ⟨profiles, credentials, runs⟩ := by
  unfold Write.result
  rw [hprofiles, hcredentials, hruns]

/-- What a commit asks, and what it leaves. -/
theorem commit_ok_iff (hc : db.Constraints) :
    db.commit now write = .ok db'
      ↔ write.Ready db ∧ (write.result now db).Constraints
        ∧ db' = write.result now db := by
  cases write with
  | create profile credential =>
      have hprofiles : (if profile.isDefault = true then
            db.profiles.map (·.demote profile.ownerHash none now)
          else db.profiles)
          = db.profiles.map
            ((Write.create profile credential).profileUpdate now) := by
        split
        case isTrue h =>
          exact List.map_congr_left fun row _ => (if_pos h).symm
        case isFalse h => exact (map_same (fun row => if_neg h) _).symm
      show Database.checked { db with
          profiles := (if profile.isDefault = true then
              db.profiles.map (·.demote profile.ownerHash none now)
            else db.profiles) ++ [{ profile with updatedAt := now.time }]
          credentials := db.credentials ++ [credential] } = .ok db'
        ↔ True ∧ _
      -- Nothing is read before: the indexes decide.
      rw [hprofiles, checked_ok_iff, true_and, result_eq rfl
        (congrArg (· ++ [credential]) (map_same (fun _ => rfl) _))
        (List.append_nil _)]
      rfl
  | updateNonSecret ownerHash profileId changes =>
      show db.updateNonSecret now ownerHash profileId changes = .ok db'
        ↔ (_ ∧ _) ∧ _
      unfold Database.updateNonSecret
      rw [lock_bind_ok_iff, active_bind_ok_iff, checked_ok_iff,
        demoteOthers_eq, List.map_map, and_assoc,
        result_eq (List.append_nil _)
          ((List.append_nil _).trans (map_same (fun _ => rfl) _))
          (List.append_nil _)]
      rfl
  | replaceAdapter ownerHash profileId expected adapterType changes
      credential =>
      show db.replaceAdapter now ownerHash profileId expected adapterType
          changes credential = .ok db' ↔ (_ ∧ _) ∧ _
      unfold Database.replaceAdapter
      rw [lock_bind_ok_iff, expected_bind_ok_iff hc
          (fun currentId => Database.checked { db with
            profiles :=
              (db.demoteOthers now ownerHash profileId
                changes.isDefault).map (·.onRow profileId fun profile =>
                  { profile.change changes now.time with
                    adapterType := adapterType })
            credentials :=
              db.credentials.map (·.revokeOne currentId now.time)
                ++ [credential] }),
        checked_ok_iff, demoteOthers_eq, List.map_map, and_assoc,
        result_eq (List.append_nil _) rfl (List.append_nil _)]
      rfl
  | rotate ownerHash profileId credential =>
      show db.rotate now.time ownerHash profileId credential = .ok db' ↔ _ ∧ _
      unfold Database.rotate
      rw [lock_bind_ok_iff, checked_ok_iff,
        result_eq (List.append_nil _) rfl (List.append_nil _)]
      rfl
  | delete ownerHash profileId =>
      show db.delete now.time ownerHash profileId = .ok db' ↔ _ ∧ _
      unfold Database.delete
      rw [lock_bind_ok_iff, checked_ok_iff, result_eq (List.append_nil _)
        (List.append_nil _) (List.append_nil _)]
      rfl
  | createRun run =>
      show Database.checked _ = .ok db' ↔ True ∧ _
      rw [checked_ok_iff, true_and, result_eq
        ((List.append_nil _).trans (map_same (fun _ => rfl) _))
        ((List.append_nil _).trans (map_same (fun _ => rfl) _)) rfl]
      rfl

-- =================================================================== the rows

namespace Write

/-- The write deletes the profile. -/
def Deletes : Write γ → UUID → Prop
  | .delete _ profileId, id => id = profileId
  | _, _ => False

/-- The write revokes the credential, if it is active. -/
def Revokes : Write γ → CredentialVersionRow γ → Prop
  | .replaceAdapter _ _ expectedCredentialId _ _ _, credential =>
      credential.id = expectedCredentialId
  | .rotate _ profileId _, credential => credential.profileId = profileId
  | .delete _ profileId, credential => credential.profileId = profileId
  | _, _ => False

/-- The adapter that the write leaves a profile with. -/
def adapterOf : Write γ → ProviderProfileRow → AdapterType
  | .replaceAdapter _ profileId _ adapterType _ _, profile =>
      if profile.id = profileId then adapterType else profile.adapterType
  | _, profile => profile.adapterType

end Write

/-- What a write does to a profile: `p'` is the row that was `p`. -/
structure Write.OnProfile (write : Write γ) (now : Moment)
    (p p' : ProviderProfileRow) : Prop where
  id : p'.id = p.id
  ownerHash : p'.ownerHash = p.ownerHash
  adapterType : p'.adapterType = write.adapterOf p
  kept : ¬ write.Deletes p.id →
    p'.status = p.status ∧ p'.deletedAt = p.deletedAt
  deleted : write.Deletes p.id →
    p'.status = .deleted ∧ p'.deletedAt = some now.time

/-- Another's promotion changes the default and the time. -/
theorem demote_eq (ownerHash : String) (kept : Option UUID) (now : Moment)
    (p : ProviderProfileRow) :
    ∃ isDefault updatedAt, p.demote ownerHash kept now
      = { p with isDefault := isDefault, updatedAt := updatedAt } := by
  unfold ProviderProfileRow.demote
  split
  · exact ⟨false, now.time, rfl⟩
  · exact ⟨p.isDefault, p.updatedAt, rfl⟩

/-- The same for a promotion that may not take place. -/
theorem demoteOther_eq (isDefault : Option Bool) (ownerHash : String)
    (profileId : UUID) (now : Moment) (p : ProviderProfileRow) :
    ∃ default updatedAt,
      p.demoteOther isDefault ownerHash profileId now
        = { p with isDefault := default, updatedAt := updatedAt } := by
  unfold ProviderProfileRow.demoteOther
  split
  · exact demote_eq _ _ _ p
  · exact ⟨p.isDefault, p.updatedAt, rfl⟩

/-- A case for each write: which fields of a profile it changes. -/
theorem profileUpdate_spec (now : Moment) (write : Write γ)
    (p : ProviderProfileRow) :
    write.OnProfile now p (write.profileUpdate now p) := by
  cases write with
  | create profile credential =>
      obtain ⟨isDefault, updatedAt, h⟩ := demote_eq profile.ownerHash
        none now p
      simp only [Write.profileUpdate]
      split
      · rw [h]
        exact ⟨rfl, rfl, rfl, fun _ => ⟨rfl, rfl⟩, nofun⟩
      · exact ⟨rfl, rfl, rfl, fun _ => ⟨rfl, rfl⟩, nofun⟩
  | updateNonSecret ownerHash profileId changes =>
      obtain ⟨isDefault, updatedAt, h⟩ := demoteOther_eq
        changes.isDefault ownerHash profileId now p
      simp only [Write.profileUpdate, ProviderProfileRow.onRow]
      rw [h]
      split
      · exact ⟨rfl, rfl, rfl, fun _ => ⟨rfl, rfl⟩, nofun⟩
      · exact ⟨rfl, rfl, rfl, fun _ => ⟨rfl, rfl⟩, nofun⟩
  | replaceAdapter ownerHash profileId expected adapterType changes
      credential =>
      obtain ⟨isDefault, updatedAt, h⟩ := demoteOther_eq
        changes.isDefault ownerHash profileId now p
      simp only [Write.profileUpdate, ProviderProfileRow.onRow]
      rw [h]
      split
      case isTrue hid =>
        exact ⟨rfl, rfl, (if_pos hid).symm, fun _ => ⟨rfl, rfl⟩, nofun⟩
      case isFalse hid =>
        exact ⟨rfl, rfl, (if_neg hid).symm, fun _ => ⟨rfl, rfl⟩, nofun⟩
  | rotate ownerHash profileId credential =>
      simp only [Write.profileUpdate, ProviderProfileRow.onRow]
      split
      · exact ⟨rfl, rfl, rfl, fun _ => ⟨rfl, rfl⟩, nofun⟩
      · exact ⟨rfl, rfl, rfl, fun _ => ⟨rfl, rfl⟩, nofun⟩
  | delete ownerHash profileId =>
      simp only [Write.profileUpdate, ProviderProfileRow.onRow]
      split
      case isTrue hid =>
        exact ⟨rfl, rfl, rfl, fun hnot => absurd hid hnot,
          fun _ => ⟨rfl, rfl⟩⟩
      case isFalse hid =>
        exact ⟨rfl, rfl, rfl, fun _ => ⟨rfl, rfl⟩,
          fun hdeletes => absurd hdeletes hid⟩
  | createRun run => exact ⟨rfl, rfl, rfl, fun _ => ⟨rfl, rfl⟩, nofun⟩

/-- A credential that only ages: what it holds stays. -/
structure Ages (c c' : CredentialVersionRow γ) : Prop where
  id : c'.id = c.id
  profileId : c'.profileId = c.profileId
  credentialVersion : c'.credentialVersion = c.credentialVersion
  secret : c'.secret = c.secret
  deletedAt : c.deletedAt ≠ none → c'.deletedAt ≠ none

/-- A case for each write: a credential is revoked or removed, and keeps
its secret. -/
theorem credentialUpdate_ages (now : Moment) (write : Write γ)
    (c : CredentialVersionRow γ) :
    Ages c (write.credentialUpdate now c) := by
  cases write with
  | replaceAdapter ownerHash profileId expected adapterType changes
      credential =>
      simp only [Write.credentialUpdate, CredentialVersionRow.revokeOne]
      split <;> exact ⟨rfl, rfl, rfl, rfl, fun h => h⟩
  | rotate ownerHash profileId credential =>
      simp only [Write.credentialUpdate, CredentialVersionRow.revoke]
      split <;> exact ⟨rfl, rfl, rfl, rfl, fun h => h⟩
  | delete ownerHash profileId =>
      simp only [Write.credentialUpdate, CredentialVersionRow.remove]
      split
      · exact ⟨rfl, rfl, rfl, rfl, fun _ => nofun⟩
      · exact ⟨rfl, rfl, rfl, rfl, fun h => h⟩
  | create profile credential => exact ⟨rfl, rfl, rfl, rfl, fun h => h⟩
  | updateNonSecret ownerHash profileId changes =>
      exact ⟨rfl, rfl, rfl, rfl, fun h => h⟩
  | createRun run => exact ⟨rfl, rfl, rfl, rfl, fun h => h⟩

/-- Which credentials stay active. -/
theorem credentialUpdate_isActive (write : Write γ)
    (c : CredentialVersionRow γ) :
    (write.credentialUpdate now c).isActive = true
      ↔ c.isActive = true ∧ ¬ write.Revokes c := by
  cases write with
  | replaceAdapter ownerHash profileId expected adapterType changes
      credential =>
      simp only [Write.credentialUpdate, CredentialVersionRow.revokeOne]
      split
      case isTrue hid =>
        exact ⟨nofun, fun h => absurd hid h.2⟩
      case isFalse hid => exact ⟨fun h => ⟨h, hid⟩, And.left⟩
  | rotate ownerHash profileId credential =>
      simp only [Write.credentialUpdate, CredentialVersionRow.revoke]
      split
      case isTrue h => exact ⟨nofun, fun hboth => absurd h.1 hboth.2⟩
      case isFalse h =>
        exact ⟨fun hactive => ⟨hactive, fun hid => h ⟨hid, hactive⟩⟩,
          And.left⟩
  | delete ownerHash profileId =>
      simp only [Write.credentialUpdate, CredentialVersionRow.remove]
      split
      case isTrue h => exact ⟨nofun, fun hboth => absurd h.1 hboth.2⟩
      case isFalse h =>
        refine ⟨fun hactive => ⟨hactive, fun hid => h ⟨hid, ?_⟩⟩, And.left⟩
        unfold CredentialVersionRow.isActive at hactive
        simpa using (Bool.and_eq_true_iff.mp hactive).2
  | create profile credential => exact ⟨fun h => ⟨h, nofun⟩, And.left⟩
  | updateNonSecret ownerHash profileId changes =>
      exact ⟨fun h => ⟨h, nofun⟩, And.left⟩
  | createRun run => exact ⟨fun h => ⟨h, nofun⟩, And.left⟩

-- ================================================================ the indexes

namespace Write

/-- The ids that the write inserts are free, and no run has its key. -/
def Fresh (db : Database γ) : Write γ → Prop
  | .create profile credential =>
      (∀ p ∈ db.profiles, p.id ≠ profile.id)
        ∧ ∀ c ∈ db.credentials, c.id ≠ credential.id
  | .replaceAdapter _ _ _ _ _ credential =>
      ∀ c ∈ db.credentials, c.id ≠ credential.id
  | .rotate _ _ credential => ∀ c ∈ db.credentials, c.id ≠ credential.id
  | .createRun run => ∀ r ∈ db.runs, ¬ r.Conflict run
  | _ => True

/-- The new credential is of the profile that is written. -/
def Formed : Write γ → Prop
  | .create profile credential => credential.profileId = profile.id
  | .replaceAdapter _ profileId _ _ _ credential =>
      credential.profileId = profileId
  | .rotate _ profileId credential => credential.profileId = profileId
  | _ => True

/-- The owner and the profile of a promotion to the default. -/
def promoted : Write γ → Option (String × UUID)
  | .create profile _ =>
      if profile.isDefault = true then some (profile.ownerHash, profile.id)
      else none
  | .updateNonSecret ownerHash profileId changes =>
      if changes.isDefault = some true then some (ownerHash, profileId)
      else none
  | .replaceAdapter ownerHash profileId _ _ changes _ =>
      if changes.isDefault = some true then some (ownerHash, profileId)
      else none
  | _ => none

/-- No default of the owner that the write promotes another for has been
inserted behind its `UPDATE`. -/
def SeesDefault (db : Database γ) (now : Moment) (write : Write γ) : Prop :=
  ∀ owner id, write.promoted = some (owner, id) → ∀ p ∈ db.profiles,
    p.ownerHash = owner → p.isActiveDefault = true → p.id ∈ now.unseen →
      p.id = id

end Write

/-- A profile that is a default after another's promotion is none of the
owner's, unless the `UPDATE` has not seen it. -/
theorem isActiveDefault_demote {kept : Option UUID} {p : ProviderProfileRow}
    (h : (p.demote ownerHash kept now).isActiveDefault = true) :
    p.isActiveDefault = true
      ∧ (p.ownerHash = ownerHash → some p.id = kept ∨ p.id ∈ now.unseen) := by
  unfold ProviderProfileRow.demote at h
  split at h
  case isTrue =>
    simp [ProviderProfileRow.isActiveDefault] at h
  case isFalse hnot =>
    refine ⟨h, fun howner => ?_⟩
    by_contra hneither
    obtain ⟨hkept, hseen⟩ := not_or.mp hneither
    refine hnot ⟨howner, hkept, ?_, ?_⟩
    · simp only [ProviderProfileRow.isActiveDefault, Bool.and_eq_true] at h
      exact Option.isNone_iff_eq_none.mp h.1.2
    · exact List.all_eq_true.mpr fun id hid =>
        decide_eq_true fun heq => hseen (heq ▸ hid)

/-- A profile that is a default after the change was one before, or was
promoted by it. -/
theorem isActiveDefault_change {isDefault : Option Bool}
    {update : ProviderProfileRow → ProviderProfileRow}
    {p : ProviderProfileRow}
    (hupdate : ∀ q, (update q).isActiveDefault = true →
      isDefault = some true ∨ q.isActiveDefault = true)
    (h : ((p.demoteOther isDefault ownerHash profileId now).onRow profileId
      update).isActiveDefault = true) :
    isDefault = some true ∧ p.id = profileId
      ∨ p.isActiveDefault = true
        ∧ (isDefault = some true → p.ownerHash = ownerHash →
          p.id ∈ now.unseen) := by
  have hid : (p.demoteOther isDefault ownerHash profileId now).id = p.id := by
    obtain ⟨default, updatedAt, heq⟩ := demoteOther_eq isDefault ownerHash
      profileId now p
    rw [heq]
  have hdemoted : p.id ≠ profileId →
      (p.demoteOther isDefault ownerHash profileId now).isActiveDefault
        = true →
      p.isActiveDefault = true
        ∧ (isDefault = some true → p.ownerHash = ownerHash →
          p.id ∈ now.unseen) := by
    intro hne hdefault
    unfold ProviderProfileRow.demoteOther at hdefault
    split at hdefault
    case isTrue =>
      obtain ⟨hold, hkept⟩ := isActiveDefault_demote hdefault
      exact ⟨hold, fun _ howner => (hkept howner).resolve_left fun heq =>
        hne (Option.some.inj heq)⟩
    case isFalse hnot => exact ⟨hdefault, fun htrue => absurd htrue hnot⟩
  unfold ProviderProfileRow.onRow at h
  rw [hid] at h
  split at h
  case isTrue hat =>
    by_cases htrue : isDefault = some true
    · exact .inl ⟨htrue, hat⟩
    · cases hupdate _ h with
      | inl heq => exact absurd heq htrue
      | inr hold =>
          unfold ProviderProfileRow.demoteOther at hold
          rw [if_neg htrue] at hold
          exact .inr ⟨hold, fun heq => absurd heq htrue⟩
  case isFalse hne => exact .inr (hdemoted hne h)

/-- A changed profile is a default where the change says so or it was. -/
theorem isDefault_of_change {changes : ProfileChanges}
    {q : ProviderProfileRow} {time : ℤ}
    (h : (q.change changes time).isActiveDefault = true) :
    changes.isDefault = some true ∨ q.isActiveDefault = true := by
  unfold ProviderProfileRow.isActiveDefault ProviderProfileRow.change at h
  cases hdefault : changes.isDefault with
  | none =>
      rw [hdefault] at h
      exact .inr h
  | some isDefault =>
      rw [hdefault] at h
      simp only [Option.getD_some, Bool.and_eq_true] at h
      exact .inl (congrArg some h.1.1)

/-- The promotion of a change. -/
theorem promoted_change {isDefault : Option Bool} {p : ProviderProfileRow}
    (h : isDefault = some true ∧ p.id = profileId
      ∨ p.isActiveDefault = true
        ∧ (isDefault = some true → p.ownerHash = ownerHash →
          p.id ∈ now.unseen)) :
    (∃ owner, (if isDefault = some true then some (ownerHash, profileId)
        else none) = some (owner, p.id))
      ∨ p.isActiveDefault = true
        ∧ ∀ owner id, (if isDefault = some true then
            some (ownerHash, profileId) else none) = some (owner, id) →
          p.ownerHash = owner → p.id ∈ now.unseen := by
  cases h with
  | inl hboth => exact .inl ⟨ownerHash, by rw [if_pos hboth.1, hboth.2]⟩
  | inr hboth =>
      refine .inr ⟨hboth.1, fun owner id heq => ?_⟩
      split at heq
      case isTrue htrue =>
        injection heq with heq
        injection heq with howner
        exact howner ▸ hboth.2 htrue
      case isFalse => cases heq

/-- A profile that is a default afterwards was promoted, or was one before
and is none of the owner of a promotion that its `UPDATE` has seen. -/
theorem isActiveDefault_update {p : ProviderProfileRow}
    (h : (write.profileUpdate now p).isActiveDefault = true) :
    (∃ owner, write.promoted = some (owner, p.id))
      ∨ p.isActiveDefault = true
        ∧ ∀ owner id, write.promoted = some (owner, id) →
          p.ownerHash = owner → p.id ∈ now.unseen := by
  cases write with
  | create profile credential =>
      simp only [Write.profileUpdate] at h
      split at h
      case isTrue htrue =>
        obtain ⟨hold, hkept⟩ := isActiveDefault_demote h
        refine .inr ⟨hold, fun owner id heq howner => ?_⟩
        simp only [Write.promoted, if_pos htrue] at heq
        injection heq with heq
        injection heq with hsame
        exact (hkept (howner.trans hsame.symm)).resolve_left nofun
      case isFalse hfalse =>
        refine .inr ⟨h, fun owner id heq => ?_⟩
        simp only [Write.promoted, if_neg hfalse] at heq
        cases heq
  | updateNonSecret ownerHash profileId changes =>
      exact promoted_change (isActiveDefault_change
        (fun q hq => isDefault_of_change hq) h)
  | replaceAdapter ownerHash profileId expected adapterType changes
      credential =>
      refine promoted_change (isActiveDefault_change ?_ h)
      intro q hq
      have hchange : (q.change changes now.time).isActiveDefault = true := hq
      exact isDefault_of_change hchange
  | rotate ownerHash profileId credential =>
      refine .inr ⟨?_, nofun⟩
      simp only [Write.profileUpdate, ProviderProfileRow.onRow] at h
      split at h <;> exact h
  | delete ownerHash profileId =>
      refine .inr ⟨?_, nofun⟩
      simp only [Write.profileUpdate, ProviderProfileRow.onRow] at h
      split at h
      · simp [ProviderProfileRow.isActiveDefault] at h
      · exact h
  | createRun run => exact .inr ⟨h, nofun⟩

/-- The owner of a promotion is the owner of the profile. -/
theorem owner_of_promoted (hc : db.Constraints) (hready : write.Ready db)
    (hfresh : write.Fresh db) {p : ProviderProfileRow}
    (hp : p ∈ db.profiles) {owner : String}
    (h : write.promoted = some (owner, p.id)) : p.ownerHash = owner := by
  have howned : ∀ {ownerHash : String} {profileId : UUID},
      db.Live ownerHash profileId → p.id = profileId →
        p.ownerHash = ownerHash := by
    intro ownerHash profileId ⟨q, hq, hid, howner, _⟩ hpid
    rw [hc.profile_unique hp hq (hpid.trans hid.symm)]
    exact howner
  cases write with
  | create profile credential =>
      simp only [Write.promoted] at h
      split at h
      · injection h with h
        injection h with _ hid
        exact absurd hid.symm (hfresh.1 p hp)
      · cases h
  | updateNonSecret ownerHash profileId changes =>
      simp only [Write.promoted] at h
      split at h
      · injection h with h
        injection h with howner hid
        exact howner ▸ howned hready.1 hid.symm
      · cases h
  | replaceAdapter ownerHash profileId expected adapterType changes
      credential =>
      simp only [Write.promoted] at h
      split at h
      · injection h with h
        injection h with howner hid
        exact howner ▸ howned hready.1 hid.symm
      · cases h
  | rotate ownerHash profileId credential => cases h
  | delete ownerHash profileId => cases h
  | createRun run => cases h

/-- Two updated profiles in conflict were in conflict before, where the
promotion saw every default of its owner. -/
theorem profileUpdate_conflict (hc : db.Constraints)
    (hready : write.Ready db) (hfresh : write.Fresh db)
    (hsees : write.SeesDefault db now) {p q : ProviderProfileRow}
    (hp : p ∈ db.profiles) (hq : q ∈ db.profiles)
    (h : (write.profileUpdate now p).Conflict
      (write.profileUpdate now q)) : p.Conflict q := by
  have hpspec := profileUpdate_spec now write p
  have hqspec := profileUpdate_spec now write q
  unfold ProviderProfileRow.Conflict at h
  rw [hpspec.id, hqspec.id, hpspec.ownerHash, hqspec.ownerHash] at h
  cases h with
  | inl hid => exact .inl hid
  | inr hboth =>
      obtain ⟨howner, hpdefault, hqdefault⟩ := hboth
      cases isActiveDefault_update hpdefault with
      | inl hppromoted =>
          obtain ⟨powner, hppromoted⟩ := hppromoted
          have hpowner := owner_of_promoted hc hready hfresh hp hppromoted
          cases isActiveDefault_update hqdefault with
          | inl hqpromoted =>
              obtain ⟨qowner, hqpromoted⟩ := hqpromoted
              injection hppromoted.symm.trans hqpromoted with heq
              injection heq with _ hid
              exact .inl hid
          | inr hqold =>
              have hqowner := howner.symm.trans hpowner
              -- An old default that escaped the demotion was not seen.
              exact .inl (hsees powner p.id hppromoted q hq hqowner hqold.1
                (hqold.2 powner p.id hppromoted hqowner)).symm
      | inr hpold =>
          cases isActiveDefault_update hqdefault with
          | inl hqpromoted =>
              obtain ⟨qowner, hqpromoted⟩ := hqpromoted
              have hqowner :=
                owner_of_promoted hc hready hfresh hq hqpromoted
              have hpowner := howner.trans hqowner
              exact .inl (hsees qowner q.id hqpromoted p hp hpowner hpold.1
                (hpold.2 qowner q.id hqpromoted hpowner))
          | inr hqold => exact .inr ⟨howner, hpold.1, hqold.1⟩

/-- An update activates no credential, so that two in conflict were in
conflict before. -/
theorem credentialUpdate_conflict {c d : CredentialVersionRow γ}
    (h : (write.credentialUpdate now c).Conflict
      (write.credentialUpdate now d)) : c.Conflict d := by
  have hcages := credentialUpdate_ages now write c
  have hdages := credentialUpdate_ages now write d
  unfold CredentialVersionRow.Conflict at h
  rw [hcages.id, hdages.id, hcages.profileId, hdages.profileId,
    credentialUpdate_isActive, credentialUpdate_isActive] at h
  exact h.imp_right fun hboth => ⟨hboth.1, hboth.2.1.1, hboth.2.2.1⟩

/-- A new credential finds no active one of its profile. -/
theorem new_credential_apart (hc : db.Constraints) (hready : write.Ready db)
    (hfresh : write.Fresh db) (hformed : write.Formed)
    (howned : ∀ c ∈ db.credentials, ∃ p ∈ db.profiles, p.id = c.profileId)
    {new : CredentialVersionRow γ} (hnew : new ∈ write.newCredentials)
    {c : CredentialVersionRow γ} (hmem : c ∈ db.credentials) :
    ¬ (write.credentialUpdate now c).Conflict new := by
  have hages := credentialUpdate_ages now write c
  unfold CredentialVersionRow.Conflict
  rw [hages.id, hages.profileId, credentialUpdate_isActive]
  cases write with
  | create profile credential =>
      cases List.mem_singleton.mp hnew
      intro hconflict
      cases hconflict with
      | inl hid => exact hfresh.2 c hmem hid
      | inr hboth =>
          -- A new profile has no old credential.
          obtain ⟨p, hp, hid⟩ := howned c hmem
          exact hfresh.1 p hp (hid.trans (hboth.1.trans hformed))
  | replaceAdapter ownerHash profileId expected adapterType changes
      credential =>
      cases List.mem_singleton.mp hnew
      intro hconflict
      cases hconflict with
      | inl hid => exact hfresh c hmem hid
      | inr hboth =>
          obtain ⟨-, current, hcurrent, hprofile, hactive, hid⟩ := hready
          -- The one active credential of the profile is the one that is
          -- revoked.
          have hsame := hc.active_unique hmem hcurrent
            (hboth.1.trans (Eq.trans hformed hprofile.symm)) hboth.2.1.1
            hactive
          exact hboth.2.1.2 (hsame ▸ hid)
  | rotate ownerHash profileId credential =>
      cases List.mem_singleton.mp hnew
      intro hconflict
      cases hconflict with
      | inl hid => exact hfresh c hmem hid
      | inr hboth => exact hboth.2.1.2 (hboth.1.trans hformed)
  | updateNonSecret ownerHash profileId changes => cases hnew
  | delete ownerHash profileId => cases hnew
  | createRun run => cases hnew

/-- A new profile finds no default of its owner, if it is one. -/
theorem new_profile_apart (hfresh : write.Fresh db)
    (hsees : write.SeesDefault db now) {new : ProviderProfileRow}
    (hnew : new ∈ write.newProfiles now)
    {p : ProviderProfileRow} (hmem : p ∈ db.profiles) :
    ¬ (write.profileUpdate now p).Conflict new := by
  have hspec := profileUpdate_spec now write p
  cases write with
  | create profile credential =>
      cases List.mem_singleton.mp hnew
      intro hconflict
      cases hconflict with
      | inl hid => exact hfresh.1 p hmem (hspec.id.symm.trans hid)
      | inr hboth =>
          obtain ⟨howner, hdefault, hnewDefault⟩ := hboth
          have htrue : profile.isDefault = true := by
            simp only [ProviderProfileRow.isActiveDefault,
              Bool.and_eq_true] at hnewDefault
            exact hnewDefault.1.1
          have hpromoted : (Write.create profile credential).promoted
              = some (profile.ownerHash, profile.id) := if_pos htrue
          cases isActiveDefault_update hdefault with
          | inl hsame =>
              obtain ⟨owner, hsame⟩ := hsame
              injection hpromoted.symm.trans hsame with heq
              injection heq with _ hid
              exact hfresh.1 p hmem hid.symm
          | inr hold =>
              have hpowner := hspec.ownerHash.symm.trans howner
              exact hfresh.1 p hmem (hsees _ _ hpromoted p hmem hpowner hold.1
                (hold.2 _ _ hpromoted hpowner))
  | updateNonSecret ownerHash profileId changes => cases hnew
  | replaceAdapter ownerHash profileId expected adapterType changes
      credential => cases hnew
  | rotate ownerHash profileId credential => cases hnew
  | delete ownerHash profileId => cases hnew
  | createRun run => cases hnew

/-- A write inserts at most one row into a table. -/
theorem apart_news (now : Moment) (write : Write γ) :
    Apart ProviderProfileRow.Conflict (write.newProfiles now)
      ∧ Apart CredentialVersionRow.Conflict write.newCredentials
      ∧ Apart ResearchRunRow.Conflict write.newRuns := by
  cases write with
  | create profile credential =>
      exact ⟨apart_singleton _, apart_singleton _, apart_nil⟩
  | updateNonSecret ownerHash profileId changes =>
      exact ⟨apart_nil, apart_nil, apart_nil⟩
  | replaceAdapter ownerHash profileId expected adapterType changes
      credential =>
      exact ⟨apart_nil, apart_singleton _, apart_nil⟩
  | rotate ownerHash profileId credential =>
      exact ⟨apart_nil, apart_singleton _, apart_nil⟩
  | delete ownerHash profileId => exact ⟨apart_nil, apart_nil, apart_nil⟩
  | createRun run => exact ⟨apart_nil, apart_nil, apart_singleton _⟩

/-- If the indexes hold afterwards, the ids were free. -/
theorem fresh_of_constraints (h : (write.result now db).Constraints) :
    write.Fresh db := by
  obtain ⟨-, -, hprofiles⟩ := apart_append.mp h.profiles
  obtain ⟨-, -, hcredentials⟩ := apart_append.mp h.credentials
  obtain ⟨-, -, hruns⟩ := apart_append.mp h.runs
  have hnew : ∀ new ∈ write.newCredentials, ∀ c ∈ db.credentials,
      c.id ≠ new.id := by
    intro new hnew c hc hid
    exact hcredentials _ (List.mem_map_of_mem hc) new hnew
      (.inl ((credentialUpdate_ages now write c).id.trans hid))
  cases write with
  | create profile credential =>
      refine ⟨fun p hp hid => ?_, hnew credential (List.mem_singleton_self _)⟩
      exact hprofiles _ (List.mem_map_of_mem hp) _
        (List.mem_singleton_self _)
        (.inl ((profileUpdate_spec now _ p).id.trans hid))
  | updateNonSecret ownerHash profileId changes => trivial
  | replaceAdapter ownerHash profileId expected adapterType changes
      credential => exact hnew credential (List.mem_singleton_self _)
  | rotate ownerHash profileId credential =>
      exact hnew credential (List.mem_singleton_self _)
  | delete ownerHash profileId => trivial
  | createRun run =>
      intro r hr
      exact hruns r hr run (List.mem_singleton_self _)

/-- A default that the `UPDATE` has not seen stays one. -/
theorem profileUpdate_unseen {owner : String} {id : UUID}
    (hpromoted : write.promoted = some (owner, id)) {p : ProviderProfileRow}
    (hunseen : p.id ∈ now.unseen) (hne : p.id ≠ id) :
    write.profileUpdate now p = p := by
  -- The `UPDATE` does not reach a row it cannot see.
  have hdemote : ∀ (ownerHash : String) (kept : Option UUID),
      p.demote ownerHash kept now = p := fun _ _ =>
    if_neg fun h => by
      have hne := List.all_eq_true.mp h.2.2.2 p.id hunseen
      exact of_decide_eq_true hne rfl
  have hother : ∀ (isDefault : Option Bool) (ownerHash : String)
      (profileId : UUID), p.demoteOther isDefault ownerHash profileId now
        = p := by
    intro isDefault ownerHash profileId
    unfold ProviderProfileRow.demoteOther
    split
    · exact hdemote _ _
    · rfl
  have hchanged : ∀ {isDefault : Option Bool} {ownerHash : String}
      {profileId : UUID}, (if isDefault = some true then
        some (ownerHash, profileId) else none) = some (owner, id) →
      p.id ≠ profileId := by
    intro isDefault ownerHash profileId heq
    split at heq
    · cases heq
      exact hne
    · cases heq
  cases write with
  | create profile credential =>
      simp only [Write.profileUpdate]
      split
      · exact hdemote _ _
      · rfl
  | updateNonSecret ownerHash profileId changes =>
      simp only [Write.profileUpdate, ProviderProfileRow.onRow, hother]
      exact if_neg (hchanged hpromoted)
  | replaceAdapter ownerHash profileId expected adapterType changes
      credential =>
      simp only [Write.profileUpdate, ProviderProfileRow.onRow, hother]
      exact if_neg (hchanged hpromoted)
  | rotate ownerHash profileId credential => cases hpromoted
  | delete ownerHash profileId => cases hpromoted
  | createRun run => cases hpromoted

/-- A live profile that a change promotes. -/
theorem exists_default_of_change {isDefault : Option Bool}
    {update : ProviderProfileRow → ProviderProfileRow}
    (hstatus : ∀ p ∈ db.profiles, p.deletedAt = none → p.status = .active)
    (hlive : db.Live ownerHash profileId)
    (hupdate : ∀ q, (update q).id = q.id ∧ (update q).ownerHash = q.ownerHash
      ∧ (update q).deletedAt = q.deletedAt ∧ (update q).status = q.status
      ∧ (update q).isDefault = isDefault.getD q.isDefault)
    {owner : String} {id : UUID}
    (hpromoted : (if isDefault = some true then some (ownerHash, profileId)
      else none) = some (owner, id)) :
    ∃ p ∈ db.profiles, ∃ r, r = (p.demoteOther isDefault ownerHash profileId
        now).onRow profileId update
      ∧ r.id = id ∧ r.ownerHash = owner ∧ r.isActiveDefault = true := by
  split at hpromoted
  case isFalse => cases hpromoted
  case isTrue htrue =>
    cases hpromoted
    obtain ⟨p, hp, hid, howner, hpresent⟩ := hlive
    have hkept : p.demoteOther isDefault ownerHash profileId now = p := by
      unfold ProviderProfileRow.demoteOther
      rw [if_pos htrue]
      exact if_neg fun h => h.2.1 (congrArg some hid)
    obtain ⟨hqid, hqowner, hqdeleted, hqstatus, hqdefault⟩ := hupdate p
    refine ⟨p, hp, update p, ?_, hqid.trans hid, hqowner.trans howner, ?_⟩
    · rw [hkept]
      exact (if_pos hid).symm
    · unfold ProviderProfileRow.isActiveDefault
      rw [hqdefault, hqdeleted, hqstatus, htrue, hpresent,
        hstatus p hp hpresent]
      rfl

/-- A promotion leaves a default of the owner. -/
theorem exists_promoted (hready : write.Ready db)
    (hstatus : ∀ p ∈ db.profiles, p.deletedAt = none → p.status = .active)
    (hnew : ∀ new ∈ write.newProfiles now,
      new.deletedAt = none ∧ new.status = .active)
    {owner : String} {id : UUID}
    (hpromoted : write.promoted = some (owner, id)) :
    ∃ r ∈ (write.result now db).profiles,
      r.id = id ∧ r.ownerHash = owner ∧ r.isActiveDefault = true := by
  have hold : ∀ p ∈ db.profiles, write.profileUpdate now p
      ∈ (write.result now db).profiles := fun p hp =>
    List.mem_append_left _ (List.mem_map_of_mem hp)
  cases write with
  | create profile credential =>
      simp only [Write.promoted] at hpromoted
      split at hpromoted
      case isFalse => cases hpromoted
      case isTrue htrue =>
        cases hpromoted
        have hmem : { profile with updatedAt := now.time }
            ∈ (Write.create profile credential).newProfiles now :=
          List.mem_singleton_self _
        obtain ⟨hpresent, hactive⟩ := hnew _ hmem
        refine ⟨_, List.mem_append_right _ hmem, rfl, rfl, ?_⟩
        unfold ProviderProfileRow.isActiveDefault
        simp only at hpresent hactive ⊢
        rw [htrue, hpresent, hactive]
        rfl
  -- A change promotes the profile it finds.
  | updateNonSecret ownerHash profileId changes =>
      obtain ⟨p, hp, r, rfl, hr⟩ := @exists_default_of_change _ db now
        ownerHash profileId changes.isDefault (·.change changes now.time)
        hstatus hready.1 (fun q => ⟨rfl, rfl, rfl, rfl, rfl⟩) _ _ hpromoted
      exact ⟨_, hold p hp, hr⟩
  | replaceAdapter ownerHash profileId expected adapterType changes
      credential =>
      obtain ⟨p, hp, r, rfl, hr⟩ := @exists_default_of_change _ db now
        ownerHash profileId changes.isDefault
        (fun q => { q.change changes now.time with adapterType := adapterType })
        hstatus hready.1 (fun q => ⟨rfl, rfl, rfl, rfl, rfl⟩) _ _ hpromoted
      exact ⟨_, hold p hp, hr⟩
  | rotate ownerHash profileId credential => cases hpromoted
  | delete ownerHash profileId => cases hpromoted
  | createRun run => cases hpromoted

/-- If the indexes hold afterwards, no default was inserted behind the
promotion. -/
theorem sees_of_constraints (h : (write.result now db).Constraints)
    (hready : write.Ready db)
    (hstatus : ∀ p ∈ db.profiles, p.deletedAt = none → p.status = .active)
    (hnew : ∀ new ∈ write.newProfiles now,
      new.deletedAt = none ∧ new.status = .active) :
    write.SeesDefault db now := by
  intro owner id hpromoted p hp howner hdefault hunseen
  by_contra hne
  obtain ⟨r, hr, hid, hrowner, hrdefault⟩ :=
    exists_promoted hready hstatus hnew hpromoted
  have hmem : p ∈ (write.result now db).profiles := by
    apply List.mem_append_left
    rw [← profileUpdate_unseen hpromoted hunseen hne]
    exact List.mem_map_of_mem hp
  -- The index does not let both stand.
  have hsame := h.profiles.unique ProviderProfileRow.conflict_symm hmem hr
    (.inr ⟨howner.trans hrowner.symm, hdefault, hrdefault⟩)
  exact hne (hsame ▸ hid)

/-- The unique indexes refuse a write exactly where an id is taken, or the
key of a run, or where it promotes a profile and its `UPDATE` has not seen
the owner's default. -/
theorem result_constraints_iff (hc : db.Constraints)
    (hready : write.Ready db) (hformed : write.Formed)
    (howned : ∀ c ∈ db.credentials, ∃ p ∈ db.profiles, p.id = c.profileId)
    (hstatus : ∀ p ∈ db.profiles, p.deletedAt = none → p.status = .active)
    (hnew : ∀ new ∈ write.newProfiles now,
      new.deletedAt = none ∧ new.status = .active) :
    (write.result now db).Constraints
      ↔ write.Fresh db ∧ write.SeesDefault db now := by
  refine ⟨fun h => ⟨fresh_of_constraints h,
    sees_of_constraints h hready hstatus hnew⟩, ?_⟩
  -- Old rows among each other, new ones among each other, and old against
  -- new.
  intro ⟨hfresh, hsees⟩
  obtain ⟨hprofiles, hcredentials, hruns⟩ := apart_news now write
  constructor
  · refine apart_append.mpr ⟨?_, hprofiles, ?_⟩
    · exact hc.profiles.map fun p hp q hq =>
        profileUpdate_conflict hc hready hfresh hsees hp hq
    · intro p' hp' new hnew
      obtain ⟨p, hp, rfl⟩ := List.mem_map.mp hp'
      exact new_profile_apart hfresh hsees hnew hp
  · refine apart_append.mpr ⟨?_, hcredentials, ?_⟩
    · exact hc.credentials.map fun c _ d _ => credentialUpdate_conflict
    · intro c' hc' new hnew
      obtain ⟨c, hmem, rfl⟩ := List.mem_map.mp hc'
      exact new_credential_apart hc hready hfresh hformed howned hnew hmem
  · refine apart_append.mpr ⟨hc.runs, hruns, ?_⟩
    intro r hr new hnew
    cases write with
    | createRun run =>
        cases List.mem_singleton.mp hnew
        exact hfresh r hr
    | create profile credential => cases hnew
    | updateNonSecret ownerHash profileId changes => cases hnew
    | replaceAdapter ownerHash profileId expected adapterType changes
        credential => cases hnew
    | rotate ownerHash profileId credential => cases hnew
    | delete ownerHash profileId => cases hnew

end DeepResearch.Provider
