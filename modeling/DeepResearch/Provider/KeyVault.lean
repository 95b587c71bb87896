/-
What the stored keys are for, without tables and ciphers: a vault that
holds, for each profile, the key its owner gave last.

A key is given for an adapter, the one its giver saw; it can be read while
the profile still has that adapter. Giving a key, changing the adapter and
deleting the profile are the operations, and an accepted write is one of
them or none (`Call.operation`).
-/
import DeepResearch.Provider.Profiles
import Mathlib.Logic.Function.Basic

namespace DeepResearch.Provider

open DeepResearch.State (UUID)

/-- What the vault holds for a profile. -/
structure Entry where
  ownerHash : String
  adapterType : AdapterType
  apiKey : String
  givenFor : AdapterType
  deriving DecidableEq

/-- The vault. -/
abbrev Vault := UUID → Option Entry

/-- Its operations, on a profile. -/
inductive VaultOperation
  | store (profileId : UUID) (entry : Entry)
  | give (profileId : UUID) (apiKey : String) (givenFor : AdapterType)
  | convert (profileId : UUID) (adapterType : AdapterType)
  | remove (profileId : UUID)

namespace Vault

def empty : Vault := fun _ => none

def apply (vault : Vault) : VaultOperation → Vault
  | .store profileId entry => Function.update vault profileId (some entry)
  | .give profileId apiKey givenFor =>
      Function.update vault profileId ((vault profileId).map fun entry =>
        { entry with apiKey, givenFor })
  | .convert profileId adapterType =>
      Function.update vault profileId ((vault profileId).map fun entry =>
        { entry with adapterType, givenFor := adapterType })
  | .remove profileId => Function.update vault profileId none

/-- What an owner reads: the adapter and the key. -/
def read (vault : Vault) (ownerHash : String) (profileId : UUID) :
    Except ProfileError (AdapterType × String) :=
  match vault profileId with
  | none => .error .notFound
  | some entry =>
      if entry.ownerHash ≠ ownerHash then .error .notFound
      else if entry.givenFor ≠ entry.adapterType then
        .error (.decryption .credentialAuthenticationFailed)
      else .ok (entry.adapterType, entry.apiKey)

end Vault

variable {γ : Type}

/-- The operation that the accepted write of a call is. -/
def Call.operation : Call γ → Option VaultOperation
  | ⟨.create profile _, some sealing, _⟩ =>
      some (.store profile.id ⟨profile.ownerHash, profile.adapterType,
        sealing.apiKey, sealing.adapterType⟩)
  | ⟨.replaceAdapter _ profileId _ adapterType _ _, _, _⟩ =>
      some (.convert profileId adapterType)
  | ⟨.rotate _ profileId _, some sealing, _⟩ =>
      some (.give profileId sealing.apiKey sealing.adapterType)
  | ⟨.delete _ profileId, _, _⟩ => some (.remove profileId)
  | _ => none

/-- The operations of a step. -/
def Service.operations (s : State γ) : Action → List VaultOperation
  | .commit index time =>
      match s.calls[index]? with
      | none => []
      | some call =>
          match s.db.commit (call.moment s.db time) call.write with
          | .ok _ => call.operation.toList
          | .error _ => []
  | _ => []

/-- The operations of a run. -/
def Service.operationsAlong (service : Service γ) :
    State γ → List Action → List VaultOperation
  | _, [] => []
  | s, action :: actions =>
      Service.operations s action
        ++ service.operationsAlong (service.step s action) actions

/-- Every live profile's key can be read. -/
def Service.Readable (service : Service γ) (s : State γ) : Prop :=
  ∀ p ∈ s.db.profiles, p.deletedAt = none →
    ∃ material, service.getTestMaterial s.db p.ownerHash p.id = .ok material

/-- The step is not the write of a rotation whose profile has got another
adapter since the rotation read it. -/
def Untorn (s : State γ) : Action → Prop
  | .commit index time =>
      ∀ call db', s.calls[index]? = some call →
        s.db.commit (call.moment s.db time) call.write = .ok db' →
        ∀ profileId apiKey givenFor,
          call.operation = some (.give profileId apiKey givenFor) →
          ∀ p ∈ s.db.profiles, p.id = profileId → p.adapterType = givenFor
  | _ => True

end DeepResearch.Provider
