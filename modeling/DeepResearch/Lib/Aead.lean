/-
Authenticated encryption with associated data, under one key.

What was sealed opens under the associated data it was sealed with, and
under no other. The second is what the algorithm promises up to a
negligible chance, and is taken here without one.
-/
import Mathlib.Init

universe u v w x

/-- A cipher with its key. A `decrypt` that fails authentication is
`none`. -/
structure Aead (ν : Type u) (δ : Type v) (α : Type w) (γ : Type x) where
  encrypt : ν → δ → α → γ
  decrypt : ν → γ → α → Option δ
  decrypt_encrypt : ∀ nonce data associated,
    decrypt nonce (encrypt nonce data associated) associated = some data
  decrypt_other : ∀ nonce data associated other, associated ≠ other →
    decrypt nonce (encrypt nonce data associated) other = none

namespace Aead

variable {ν : Type u} {δ : Type v} {α : Type w} {γ : Type x}

/-- A cipher that hides nothing, and tells a wrong context all the same. -/
def transparent [DecidableEq α] : Aead ν δ α (δ × α) where
  encrypt _ data associated := (data, associated)
  decrypt _ ciphertext associated :=
    if ciphertext.2 = associated then some ciphertext.1 else none
  decrypt_encrypt _ _ _ := if_pos rfl
  decrypt_other _ _ _ _ h := if_neg h

end Aead
