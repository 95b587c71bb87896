/-
A stored key opens exactly in the context it was encrypted for.

The associated data is a text of the credential's id, the adapter and the
version. It tells them apart: the id has a fixed length, no adapter has a
colon, and the digits of the version are its own.
-/
import DeepResearch.Provider.Secrets
import Mathlib.Data.List.TakeWhile
import Mathlib.Tactic.IntervalCases

namespace DeepResearch.Provider

open DeepResearch.State (UUID)

-- ================================================================== the UUID

@[simp] theorem length_hexDigits (id : UUID) (first count : Nat) :
    (hexDigits id first count).length = count := by
  simp [hexDigits]

theorem digitChar_injective {m n : Nat} (hm : m < 16) (hn : n < 16)
    (h : Nat.digitChar m = Nat.digitChar n) : m = n := by
  interval_cases m <;> interval_cases n <;> first | rfl | cases h

/-- Equal digits at a place. -/
theorem digit_eq_of_hexDigits {a b : UUID} {first count : Nat}
    (h : hexDigits a first count = hexDigits b first count) {place : Nat}
    (hfirst : first ≤ place) (hlast : place < first + count) :
    a.toNat / 16 ^ (31 - place) % 16 = b.toNat / 16 ^ (31 - place) % 16 := by
  have hchar := List.map_inj_left.mp h place
    (List.mem_range'_1.mpr ⟨hfirst, hlast⟩)
  exact digitChar_injective (Nat.mod_lt _ (by decide))
    (Nat.mod_lt _ (by decide)) hchar

/-- Numbers with the same last digits agree up to a power. -/
theorem mod_pow_eq_of_digits {m n : Nat} :
    ∀ count, (∀ place < count, m / 16 ^ place % 16 = n / 16 ^ place % 16) →
      m % 16 ^ count = n % 16 ^ count
  | 0, _ => by simp [Nat.mod_one]
  | count + 1, h => by
      have ih := mod_pow_eq_of_digits count
        fun place hplace => h place (by omega)
      rw [Nat.mod_pow_succ, Nat.mod_pow_succ, ih, h count (by omega)]

/-- The text of a UUID is its own. -/
theorem uuidText_injective {a b : UUID} (h : uuidText a = uuidText b) :
    a = b := by
  unfold uuidText at h
  obtain ⟨h0, h⟩ := List.append_inj h (by simp)
  obtain ⟨h8, h⟩ := List.append_inj (List.cons_inj_right _ |>.mp h) (by simp)
  obtain ⟨h12, h⟩ := List.append_inj (List.cons_inj_right _ |>.mp h) (by simp)
  obtain ⟨h16, h⟩ := List.append_inj (List.cons_inj_right _ |>.mp h) (by simp)
  have h20 := List.cons_inj_right _ |>.mp h
  have hdigit : ∀ place < 32, a.toNat / 16 ^ (31 - place) % 16
      = b.toNat / 16 ^ (31 - place) % 16 := by
    intro place hplace
    by_cases hlt : place < 8
    · exact digit_eq_of_hexDigits h0 (Nat.zero_le _) hlt
    by_cases hlt : place < 12
    · exact digit_eq_of_hexDigits h8 (by omega) hlt
    by_cases hlt : place < 16
    · exact digit_eq_of_hexDigits h12 (by omega) hlt
    by_cases hlt : place < 20
    · exact digit_eq_of_hexDigits h16 (by omega) hlt
    · exact digit_eq_of_hexDigits h20 (by omega) hplace
  have hmod : a.toNat % 16 ^ 32 = b.toNat % 16 ^ 32 := by
    apply mod_pow_eq_of_digits
    intro place hplace
    have hflip := hdigit (31 - place) (by omega)
    rwa [Nat.sub_sub_self (by omega)] at hflip
  have hsize : (16 : Nat) ^ 32 = 2 ^ 128 := by norm_num
  rw [hsize, Nat.mod_eq_of_lt a.isLt, Nat.mod_eq_of_lt b.isLt] at hmod
  exact BitVec.eq_of_toNat_eq hmod

@[simp] theorem length_uuidText (id : UUID) : (uuidText id).length = 36 := by
  simp [uuidText]

-- ======================================================= the associated data

theorem value_injective : Function.Injective AdapterType.value := by
  intro a b
  cases a <;> cases b <;> decide

theorem colon_not_mem_value (adapterType : AdapterType) :
    ':' ∉ adapterType.value := by
  cases adapterType <;> decide

/-- What is before the first colon, and what is behind it. -/
theorem append_colon_inj {left left' right right' : List Char}
    (hleft : ':' ∉ left) (hleft' : ':' ∉ left')
    (h : left ++ ':' :: right = left' ++ ':' :: right') :
    left = left' ∧ right = right' := by
  have htake : ∀ {l r : List Char}, ':' ∉ l →
      (l ++ ':' :: r).takeWhile (· != ':') = l := by
    intro l r hl
    rw [List.takeWhile_append_of_pos (by
      intro c hc
      simp only [bne_iff_ne, ne_eq]
      intro heq
      exact hl (heq ▸ hc))]
    simp
  have heq : left = left' := by
    rw [← htake (r := right) hleft, h, htake hleft']
  rw [heq] at h
  exact ⟨heq, (List.cons_inj_right _).mp (List.append_cancel_left h)⟩

/-- `_aad` tells the credentials, the adapters and the versions apart. -/
theorem aad_injective {id id' : UUID} {adapterType adapterType' : AdapterType}
    {version version' : Nat}
    (h : aad id adapterType version = aad id' adapterType' version') :
    id = id' ∧ adapterType = adapterType' ∧ version = version' := by
  have htext : aadText id adapterType version
      = aadText id' adapterType' version' :=
    String.ofList_injective (String.toByteArray_inj.mp h)
  unfold aadText at htext
  obtain ⟨hid, htail⟩ :=
    List.append_inj (List.append_cancel_left htext) (by simp)
  obtain ⟨hvalue, hdigits⟩ := append_colon_inj
    (colon_not_mem_value adapterType) (colon_not_mem_value adapterType')
    ((List.cons_inj_right _).mp htail)
  have hversion : version = version' := calc
    version = Nat.ofDigitChars 10 (Nat.toDigits 10 version) 0 :=
        Nat.ofDigitChars_ten_toDigits.symm
    _ = Nat.ofDigitChars 10 (Nat.toDigits 10 version') 0 := by rw [hdigits]
    _ = version' := Nat.ofDigitChars_ten_toDigits
  exact ⟨uuidText_injective hid, value_injective hvalue, hversion⟩

-- ================================================================ the cipher

variable {γ : Type} {cipher : SecretCipher γ}

theorem decode_encode (text : String) :
    String.fromUTF8? text.toUTF8 = some text :=
  dif_pos (show text.toUTF8.IsValidUTF8 from text.isValidUTF8)

/-- A key that was encrypted opens in its own context and in no other. -/
theorem decrypt_encrypt {secret : String} {nonce : BitVec 96} {id : UUID}
    {sealedFor : AdapterType} {version : Nat}
    {encrypted : EncryptedSecret γ}
    (h : cipher.encrypt secret nonce id sealedFor version = some encrypted)
    (adapterType : AdapterType) :
    cipher.decrypt encrypted id adapterType version
      = if sealedFor = adapterType then .ok secret
        else .error .credentialAuthenticationFailed := by
  unfold SecretCipher.encrypt at h
  split at h
  · cases h
  · cases h
    unfold SecretCipher.decrypt
    rw [if_neg (by simp)]
    simp only
    by_cases hadapter : sealedFor = adapterType
    · rw [if_pos hadapter, ← hadapter, cipher.aead.decrypt_encrypt]
      simp only [decode_encode]
    · rw [if_neg hadapter, cipher.aead.decrypt_other _ _ _ _
        fun haad => hadapter (aad_injective haad).2.1]

end DeepResearch.Provider
