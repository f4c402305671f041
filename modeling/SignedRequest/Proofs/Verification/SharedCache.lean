import SignedRequest.Proofs.Verification.ClientStore

/-!
Several stores over one table of clients that share what they remember, each for as long as it likes.
Whatever they remember, live or not, is what the table says and goes on to say. So over every
sequence of calls they answer as the table would, and the client that is registered first under an
identifier is the one that is found under it from then on.
-/

namespace SignedRequest

/-- A call to one of the stores, which is told apart by how long it remembers clients, or an order to
forget what all of them remember. -/
inductive StoreCall where
  | register (lifetime : Duration) (client : Client)
  | get (lifetime : Duration) (reading : Option Instant) (keyId : KeyId)
  | forget

inductive StoreAnswer where
  | registered (result : Except Error Unit)
  | found (result : Except Error Client)
  | forgotten

namespace StoreCall

def shared : StoreCall → ClientTable × ClientCache → StoreAnswer × ClientTable × ClientCache
  | register lifetime client, state =>
    let (result, state) := (ClientStore.inMemory.cached lifetime).register client state
    (.registered result, state)
  | get lifetime reading keyId, state =>
    let (result, state) := (ClientStore.inMemory.cached lifetime).get reading keyId state
    (.found result, state)
  | forget, (table, _) => (.forgotten, table, .empty)

def readable (lifetime : Duration) (reading : Option Instant) : Bool :=
  lifetime.isZero || reading.isSome

/-- The same call to the table itself; only a clock that cannot be read is told here as well. -/
def direct : StoreCall → ClientTable → StoreAnswer × ClientTable
  | register _ client, table =>
    let (result, table) := ClientStore.inMemory.register client table
    (.registered result, table)
  | get lifetime reading keyId, table =>
    if readable lifetime reading then
      let (result, table) := ClientStore.inMemory.get reading keyId table
      (.found result, table)
    else (.found (.error .clockOutOfRange), table)
  | forget, table => (.forgotten, table)

def run {σ : Type} (step : StoreCall → σ → StoreAnswer × σ) :
    List StoreCall → σ → List StoreAnswer × σ
  | [], state => ([], state)
  | call :: rest, state =>
    let (answer, state) := step call state
    let (answers, state) := run step rest state
    (answer :: answers, state)

def registers? (keyId : KeyId) : StoreCall → Option Client
  | register _ client => if client.keyId = keyId then some client else none
  | _ => none

/-- The client that is registered first under an identifier, by the table or by the calls. -/
def firstClient? (table : ClientTable) (calls : List StoreCall) (keyId : KeyId) : Option Client :=
  (table.clients.get? keyId).or (calls.findSome? (registers? keyId))

end StoreCall

/-- What is remembered, whether it may still be used or not, is what the table says. -/
def ClientCache.Agrees (cache : ClientCache) (table : ClientTable) : Prop :=
  ∀ keyId cached, cache.entries.get? keyId = some cached → table.get keyId = .ok cached.client

namespace ClientCache

variable {cache : ClientCache} {table : ClientTable}

theorem agrees_empty (table : ClientTable) : Agrees .empty table := by
  intro keyId cached found
  simp [empty] at found

theorem Agrees.get_of_live (agrees : cache.Agrees table) {now : Instant} {keyId : KeyId}
    {client : Client} (live : cache.live? now keyId = some client) :
    table.get keyId = .ok client := by
  obtain ⟨cached, found, -, rfl⟩ := (cache.live?_eq_some_iff now keyId client).1 live
  exact agrees keyId cached found

theorem Agrees.remember (agrees : cache.Agrees table) {keyId : KeyId} {client : Client}
    (known : table.get keyId = .ok client) (now : Instant) (lifetime : Duration) :
    (cache.remember now lifetime keyId client).Agrees table := by
  intro other cached found
  rw [get?_remember] at found
  split at found
  · rename_i same
    subst same
    rcases Option.or_eq_some_iff.1 found with new | ⟨-, old⟩
    · obtain ⟨expiresAt, -, rfl⟩ := Option.map_eq_some_iff.1 new
      exact known
    · exact agrees keyId cached old
  · exact agrees other cached found

theorem Agrees.register (agrees : cache.Agrees table) (client : Client) :
    cache.Agrees (ClientStore.inMemory.register client table).2 := by
  intro keyId cached found
  obtain ⟨set, known⟩ := (table.get_eq_ok_iff _ _).1 (agrees keyId cached found)
  rw [ClientTable.get_eq_ok_iff, table.get?_register client set, known, Option.some_or]
  exact ⟨set, rfl⟩

end ClientCache

theorem ClientStore.LooksUp.agrees {lifetime : Duration} {reading : Option Instant} {keyId : KeyId}
    {table later : ClientTable} {cache after : ClientCache} {result : Except Error Client}
    (effect : inMemory.LooksUp lifetime reading keyId table cache result later after)
    (agrees : cache.Agrees table) :
    result = (if StoreCall.readable lifetime reading then table.get keyId
      else .error .clockOutOfRange) ∧ later = table ∧ after.Agrees table := by
  cases effect with
  | bypassed zero => exact ⟨by simp [StoreCall.readable, zero, inMemory], rfl, agrees⟩
  | unread lasting unread =>
    subst unread
    exact ⟨by simp [StoreCall.readable, lasting], rfl, agrees⟩
  | remembered lasting read live =>
    subst read
    exact ⟨by simp [StoreCall.readable, agrees.get_of_live live], rfl, agrees⟩
  | fetched lasting read lapsed found =>
    obtain ⟨known, same⟩ : table.get keyId = .ok _ ∧ table = later := Prod.mk.inj found
    subst read
    exact ⟨by simp [StoreCall.readable, known], same.symm, agrees.remember known _ lifetime⟩
  | failed lasting read lapsed missed =>
    obtain ⟨unknown, same⟩ : table.get keyId = .error _ ∧ table = later := Prod.mk.inj missed
    subst read
    exact ⟨by simp [StoreCall.readable, unknown], same.symm, agrees⟩

namespace StoreCall

variable {cache : ClientCache} {table : ClientTable}

theorem direct_get (lifetime : Duration) (reading : Option Instant) (keyId : KeyId)
    (table : ClientTable) :
    (get lifetime reading keyId).direct table =
      (.found (if readable lifetime reading then table.get keyId else .error .clockOutOfRange),
        table) := by
  cases read : readable lifetime reading with
  | true => simp [direct, read, ClientStore.inMemory]
  | false => simp [direct, read]

theorem shared_step (agrees : cache.Agrees table) (call : StoreCall) :
    ∃ after : ClientCache, after.Agrees (call.direct table).2 ∧
      call.shared (table, cache) = ((call.direct table).1, (call.direct table).2, after) := by
  cases call with
  | register lifetime client => exact ⟨cache, agrees.register client, rfl⟩
  | forget => exact ⟨.empty, ClientCache.agrees_empty table, rfl⟩
  | get lifetime reading keyId =>
    have effect := ClientStore.inMemory.cached_get lifetime reading keyId table cache
    obtain ⟨answered, kept, remembered⟩ := effect.agrees agrees
    rw [direct_get]
    exact ⟨_, remembered, Prod.ext (congrArg StoreAnswer.found answered) (Prod.ext kept rfl)⟩

theorem run_step (agrees : cache.Agrees table) (calls : List StoreCall) :
    ∃ after : ClientCache, after.Agrees (run direct calls table).2 ∧
      run shared calls (table, cache) =
        ((run direct calls table).1, (run direct calls table).2, after) := by
  induction calls generalizing table cache with
  | nil => exact ⟨cache, agrees, rfl⟩
  | cons call rest ih =>
    -- After a call what is remembered agrees with the table as the call has left it.
    obtain ⟨between, kept, first⟩ := shared_step agrees call
    obtain ⟨after, lasting, later⟩ := ih kept
    refine ⟨after, lasting, ?_⟩
    simp only [run, first, later]

theorem get?_run (calls : List StoreCall) (table : ClientTable) {keyId : KeyId}
    (set : keyId.isUnset = false) :
    (run direct calls table).2.clients.get? keyId = firstClient? table calls keyId := by
  induction calls generalizing table with
  | nil => simp [run, firstClient?]
  | cons call rest ih =>
    have later : (run direct (call :: rest) table).2.clients.get? keyId =
        firstClient? (call.direct table).2 rest keyId := ih _
    have here : (call.direct table).2.clients.get? keyId =
        (table.clients.get? keyId).or (call.registers? keyId) := by
      cases call with
      | register lifetime client => exact table.get?_register client set
      | get lifetime reading _ => simp [direct_get, registers?]
      | forget => simp [direct, registers?]
    rw [later, firstClient?, here, Option.or_assoc, firstClient?, List.findSome?_cons]
    cases call.registers? keyId with
    | none => rfl
    | some client => rfl

/-- Stores that share what they remember of a table answer every sequence of calls as the table
does, and leave in it what the calls would. Whichever of them is asked then, it finds the client that
was registered first. -/
theorem run_shared (calls : List StoreCall) (table : ClientTable) :
    (run shared calls (table, .empty)).1 = (run direct calls table).1 ∧
      (run shared calls (table, .empty)).2.1 = (run direct calls table).2 ∧
      ∀ (lifetime : Duration) (reading : Option Instant) (keyId : KeyId) (client : Client),
        readable lifetime reading = true → keyId.isUnset = false →
          firstClient? table calls keyId = some client →
            ((get lifetime reading keyId).shared (run shared calls (table, .empty)).2).1 =
              .found (.ok client) := by
  obtain ⟨after, agrees, same⟩ := run_step (ClientCache.agrees_empty table) calls
  rw [same]
  refine ⟨rfl, rfl, ?_⟩
  intro lifetime reading keyId client read set first
  have known : (run direct calls table).2.get keyId = .ok client := by
    rw [ClientTable.get_eq_ok_iff, get?_run calls table set]
    exact ⟨set, first⟩
  obtain ⟨_, -, answered⟩ := shared_step agrees (get lifetime reading keyId)
  rw [answered, direct_get, if_pos read, known]

end StoreCall
end SignedRequest
