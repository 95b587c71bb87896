/-
The cipher of the stored provider keys (`security/secrets.py`,
`SecretCipher`).

AES-GCM under the master key is a parameter. A key is a text without lone
surrogates; its HMAC fingerprint and its last four bytes, which are shown
and never read, are left out, and so is the version of the associated
data, which is always one.
-/
import DeepResearch.Lib.Aead
import DeepResearch.State.Basic

namespace DeepResearch.Provider

open DeepResearch.State (UUID)

/-- `AdapterType`. -/
inductive AdapterType
  | openaiResponses
  | anthropicMessages
  | googleGemini
  | openaiCompatibleChat
  deriving DecidableEq, Repr

def AdapterType.value : AdapterType → List Char
  | .openaiResponses => "openai_responses".toList
  | .anthropicMessages => "anthropic_messages".toList
  | .googleGemini => "google_gemini".toList
  | .openaiCompatibleChat => "openai_compatible_chat".toList

-- ======================================================= the associated data

/-- `count` hexadecimal digits of a UUID, from the digit `first` on. -/
def hexDigits (id : UUID) (first count : Nat) : List Char :=
  (List.range' first count).map fun place =>
    Nat.digitChar (id.toNat / 16 ^ (31 - place) % 16)

/-- `str(uuid)`. -/
def uuidText (id : UUID) : List Char :=
  hexDigits id 0 8 ++ '-' :: (hexDigits id 8 4 ++ '-' :: (hexDigits id 12 4
    ++ '-' :: (hexDigits id 16 4 ++ '-' :: hexDigits id 20 12)))

/-- The text that `_aad` encodes. -/
def aadText (credentialId : UUID) (adapterType : AdapterType)
    (credentialVersion : Nat) : List Char :=
  "deep-research:credential:v1:".toList ++ (uuidText credentialId
    ++ ':' :: (adapterType.value ++ ':' :: Nat.toDigits 10 credentialVersion))

/-- `_aad`. -/
def aad (credentialId : UUID) (adapterType : AdapterType)
    (credentialVersion : Nat) : ByteArray :=
  (String.ofList (aadText credentialId adapterType credentialVersion)).toUTF8

-- ================================================================ the cipher

/-- `AESGCM(master_key)`, with a nonce of twelve bytes. -/
abbrev Aesgcm (γ : Type) := Aead (BitVec 96) ByteArray ByteArray γ

/-- `EncryptedSecret`. -/
structure EncryptedSecret (γ : Type) where
  ciphertext : γ
  nonce : BitVec 96
  keyVersion : Nat
  deriving DecidableEq

/-- `SecretDecryptionError`, by its detail code. -/
inductive SecretDecryptionError
  | keyVersionUnavailable
  | credentialAuthenticationFailed
  | credentialPlaintextInvalid
  deriving DecidableEq, Repr

/-- `SecretCipher`. -/
structure SecretCipher (γ : Type) where
  aead : Aesgcm γ
  keyVersion : Nat := 1

variable {γ : Type}

/-- `encrypt`; `none` is its `ValueError` for an empty key. -/
def SecretCipher.encrypt (cipher : SecretCipher γ) (secret : String)
    (nonce : BitVec 96) (credentialId : UUID) (adapterType : AdapterType)
    (credentialVersion : Nat) : Option (EncryptedSecret γ) :=
  if secret.toUTF8.isEmpty = true then none
  else some
    { ciphertext := cipher.aead.encrypt nonce secret.toUTF8
        (aad credentialId adapterType credentialVersion)
      nonce := nonce
      keyVersion := cipher.keyVersion }

/-- `decrypt`. -/
def SecretCipher.decrypt (cipher : SecretCipher γ)
    (encrypted : EncryptedSecret γ) (credentialId : UUID)
    (adapterType : AdapterType) (credentialVersion : Nat) :
    Except SecretDecryptionError String :=
  if encrypted.keyVersion ≠ cipher.keyVersion then
    .error .keyVersionUnavailable
  else
    match cipher.aead.decrypt encrypted.nonce encrypted.ciphertext
        (aad credentialId adapterType credentialVersion) with
    | none => .error .credentialAuthenticationFailed
    | some plaintext =>
        match String.fromUTF8? plaintext with
        | none => .error .credentialPlaintextInvalid
        | some secret => .ok secret

end DeepResearch.Provider
