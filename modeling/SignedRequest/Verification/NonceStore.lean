import SignedRequest.Error
import SignedRequest.Table
import SignedRequest.Time

/-!
Where a receiver keeps the nonces it has seen, each until it expires.
-/

namespace SignedRequest

structure Nonce where
  keyId : KeyId
  value : String
  expiration : Instant
  deriving DecidableEq

/-- A store tells whether a nonce was unused and has been registered now. -/
structure NonceStore (σ : Type) where
  registerIfUnused : Nonce → Instant → σ → Except Error Bool × σ

structure NonceTable where
  nonces : Table (KeyId × String) Nonce

namespace NonceTable

def empty : NonceTable := ⟨.empty⟩

def get? (table : NonceTable) (keyId : KeyId) (value : String) : Option Nonce :=
  table.nonces.get? (keyId, value)

def isLive (table : NonceTable) (keyId : KeyId) (value : String) (now : Instant) : Bool :=
  match table.get? keyId value with
  | some nonce => now.nanos < nonce.expiration.nanos
  | none => false

def put (table : NonceTable) (nonce : Nonce) : NonceTable :=
  ⟨table.nonces.put (nonce.keyId, nonce.value) nonce⟩

theorem get?_put (table : NonceTable) (nonce : Nonce) (keyId : KeyId) (value : String) :
    (table.put nonce).get? keyId value =
      if nonce.keyId = keyId ∧ nonce.value = value then some nonce
      else table.get? keyId value := by
  simp only [get?, put, Table.get?_put, Prod.mk.injEq]

theorem isLive_iff (table : NonceTable) (keyId : KeyId) (value : String) (now : Instant) :
    table.isLive keyId value now = true ↔
      ∃ nonce, table.get? keyId value = some nonce ∧ now.nanos < nonce.expiration.nanos := by
  unfold isLive
  cases table.get? keyId value with
  | none => simp
  | some nonce => simp

end NonceTable

def NonceStore.inMemory : NonceStore NonceTable where
  registerIfUnused := fun nonce now table =>
    if table.isLive nonce.keyId nonce.value now then (.ok false, table)
    else (.ok true, table.put nonce)

end SignedRequest
