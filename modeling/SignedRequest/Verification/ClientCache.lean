import SignedRequest.Verification.ClientStore

/-!
A store that remembers for some time what another store answered. It keeps the clients that were
found and nothing else, and several stores may share what they remember.
-/

namespace SignedRequest

structure CachedClient where
  client : Client
  expiresAt : Instant

structure ClientCache where
  entries : Table KeyId CachedClient

namespace ClientCache

def empty : ClientCache := ⟨.empty⟩

/-- The client of an identifier, if it was remembered and may still be used. -/
def live? (cache : ClientCache) (now : Instant) (keyId : KeyId) : Option Client := do
  let cached ← cache.entries.get? keyId
  if now.nanos < cached.expiresAt.nanos then some cached.client else none

/-- Remembers a client for a length of time, unless that ends out of range. -/
def remember (cache : ClientCache) (now : Instant) (lifetime : Duration) (keyId : KeyId)
    (client : Client) : ClientCache :=
  match now.add? lifetime with
  | some expiresAt => ⟨cache.entries.put keyId ⟨client, expiresAt⟩⟩
  | none => cache

end ClientCache

/-- Asks `inner` for what is not remembered. With a lifetime of zero nothing is remembered, and the
clock is not read. -/
def ClientStore.cached {σ : Type} (inner : ClientStore σ) (lifetime : Duration) :
    ClientStore (σ × ClientCache) where
  register := fun client (state, cache) =>
    let (result, state) := inner.register client state
    (result, state, cache)
  get := fun reading keyId (state, cache) =>
    if lifetime.isZero then
      let (result, state) := inner.get reading keyId state
      (result, state, cache)
    else
      match reading with
      | none => (.error .clockOutOfRange, state, cache)
      | some now =>
        match cache.live? now keyId with
        | some client => (.ok client, state, cache)
        | none =>
          match inner.get reading keyId state with
          | (.ok client, state) => (.ok client, state, cache.remember now lifetime keyId client)
          | (.error error, state) => (.error error, state, cache)

end SignedRequest
