import SignedRequest.Verification.ClientCache

/-!
What the stores of clients do. A table takes a client under an identifier that is set and not taken,
and never changes what it says of one that is. A store that remembers clients hands a look-up on or
answers it by what it remembers, and only a client that was found is remembered.
-/

namespace SignedRequest

namespace ClientTable

theorem insert_eq_ok_iff (table after : ClientTable) (client : Client) :
    table.insert client = .ok after ↔
      client.keyId.isUnset = false ∧ table.clients.get? client.keyId = none ∧
        after = ⟨table.clients.put client.keyId client⟩ := by
  unfold insert Table.contains
  split
  · rename_i unset
    simp [unset]
  · rename_i set
    cases taken : table.clients.get? client.keyId with
    | some other => simp
    | none => simp [set, eq_comm]

theorem get_eq_ok_iff (table : ClientTable) (keyId : KeyId) (client : Client) :
    table.get keyId = .ok client ↔
      keyId.isUnset = false ∧ table.clients.get? keyId = some client := by
  unfold get
  split
  · rename_i unset
    simp [unset]
  · rename_i set
    cases table.clients.get? keyId with
    | some other => simp [set]
    | none => simp

theorem get?_register (table : ClientTable) (client : Client) {keyId : KeyId}
    (set : keyId.isUnset = false) :
    (ClientStore.inMemory.register client table).2.clients.get? keyId =
      (table.clients.get? keyId).or (if client.keyId = keyId then some client else none) := by
  simp only [ClientStore.inMemory]
  cases inserted : table.insert client with
  | ok after =>
    obtain ⟨-, free, rfl⟩ := (insert_eq_ok_iff _ _ _).1 inserted
    rw [Table.get?_put]
    by_cases same : client.keyId = keyId
    · subst same
      simp [free]
    · simp [same]
  | error error =>
    by_cases same : client.keyId = keyId
    · subst same
      cases free : table.clients.get? client.keyId with
      | some other => rfl
      | none =>
        have added := (insert_eq_ok_iff table _ client).2 ⟨set, free, rfl⟩
        simp [added] at inserted
    · simp [same]

end ClientTable

namespace ClientCache

theorem live?_eq_some_iff (cache : ClientCache) (now : Instant) (keyId : KeyId) (client : Client) :
    cache.live? now keyId = some client ↔
      ∃ cached, cache.entries.get? keyId = some cached ∧
        now.nanos < cached.expiresAt.nanos ∧ cached.client = client := by
  unfold live?
  cases cache.entries.get? keyId with
  | none => simp
  | some cached => simp [Option.ite_none_right_eq_some]

theorem get?_remember (cache : ClientCache) (now : Instant) (lifetime : Duration) (keyId : KeyId)
    (client : Client) (other : KeyId) :
    (cache.remember now lifetime keyId client).entries.get? other =
      if keyId = other then
        ((now.add? lifetime).map fun expiresAt => ⟨client, expiresAt⟩).or
          (cache.entries.get? other)
      else cache.entries.get? other := by
  unfold remember
  cases now.add? lifetime with
  | none => simp
  | some expiresAt =>
    dsimp only
    rw [Table.get?_put]
    rfl

end ClientCache

namespace ClientStore

variable {σ : Type} (inner : ClientStore σ) (lifetime : Duration)

/-- What becomes of a look-up in a store that remembers clients: the answer, and what it leaves
behind. -/
inductive LooksUp (reading : Option Instant) (keyId : KeyId) (state : σ) (cache : ClientCache) :
    Except Error Client → σ → ClientCache → Prop where
  | bypassed (zero : lifetime.isZero = true) :
      LooksUp reading keyId state cache (inner.get reading keyId state).1
        (inner.get reading keyId state).2 cache
  | unread (lasting : lifetime.isZero = false) (unread : reading = none) :
      LooksUp reading keyId state cache (.error .clockOutOfRange) state cache
  | remembered {now : Instant} {client : Client} (lasting : lifetime.isZero = false)
      (read : reading = some now) (live : cache.live? now keyId = some client) :
      LooksUp reading keyId state cache (.ok client) state cache
  | fetched {now : Instant} {client : Client} {after : σ} (lasting : lifetime.isZero = false)
      (read : reading = some now) (lapsed : cache.live? now keyId = none)
      (found : inner.get reading keyId state = (.ok client, after)) :
      LooksUp reading keyId state cache (.ok client) after
        (cache.remember now lifetime keyId client)
  | failed {now : Instant} {error : Error} {after : σ} (lasting : lifetime.isZero = false)
      (read : reading = some now) (lapsed : cache.live? now keyId = none)
      (missed : inner.get reading keyId state = (.error error, after)) :
      LooksUp reading keyId state cache (.error error) after cache

theorem cached_get (reading : Option Instant) (keyId : KeyId) (state : σ) (cache : ClientCache) :
    inner.LooksUp lifetime reading keyId state cache
      ((inner.cached lifetime).get reading keyId (state, cache)).1
      ((inner.cached lifetime).get reading keyId (state, cache)).2.1
      ((inner.cached lifetime).get reading keyId (state, cache)).2.2 := by
  simp only [cached]
  cases zero : lifetime.isZero with
  | true => exact .bypassed zero
  | false =>
    cases reading with
    | none => exact .unread zero rfl
    | some now =>
      simp only [Bool.false_eq_true, if_false]
      cases live : cache.live? now keyId with
      | some client => exact .remembered zero rfl live
      | none =>
        cases asked : inner.get (some now) keyId state with
        | mk result after =>
          cases result with
          | ok client => exact .fetched zero rfl live asked
          | error error => exact .failed zero rfl live asked

end ClientStore
end SignedRequest
