import SignedRequest.Proofs.Verification.ClientStore

/-!
How fresh the clients are that a store remembers. The inner store is watched: the look-ups that reach
it are listed, the latest first, and between two of them anything may become of it. A look-up reaches
it unless an earlier one found the client no longer ago than the lifetime; then the latest of these
is repeated.
-/

namespace SignedRequest

/-- A look-up that reached a store, and what came of it. -/
structure Enquiry where
  reading : Option Instant
  keyId : KeyId
  result : Except Error Client

namespace Enquiry

/-- The enquiry found the client, and its answer may still be used. -/
def Serves (enquiry : Enquiry) (lifetime : Duration) (keyId : KeyId) (now : Instant)
    (client : Client) : Prop :=
  ∃ asked expiresAt : Instant, enquiry = ⟨some asked, keyId, .ok client⟩ ∧
    expiresAt.nanos = asked.nanos + lifetime.nanos ∧ now.nanos < expiresAt.nanos

def kept? (lifetime : Duration) (keyId : KeyId) (enquiry : Enquiry) : Option CachedClient :=
  match enquiry.reading, enquiry.result with
  | some asked, .ok client =>
    if enquiry.keyId = keyId then (asked.add? lifetime).map fun expiresAt => ⟨client, expiresAt⟩
    else none
  | _, _ => none

theorem serves_iff (enquiry : Enquiry) (lifetime : Duration) (keyId : KeyId) (now : Instant)
    (client : Client) :
    enquiry.Serves lifetime keyId now client ↔
      ∃ cached, enquiry.kept? lifetime keyId = some cached ∧
        now.nanos < cached.expiresAt.nanos ∧ cached.client = client := by
  constructor
  · intro serves
    obtain ⟨asked, expiresAt, rfl, sum, early⟩ := serves
    have kept := (asked.add?_eq_some_iff expiresAt lifetime).2 sum
    exact ⟨⟨client, expiresAt⟩, by simp [kept?, kept], early, rfl⟩
  · intro kept
    obtain ⟨cached, kept, early, rfl⟩ := kept
    obtain ⟨reading, other, result⟩ := enquiry
    unfold kept? at kept
    split at kept
    · rename_i asked client read found
      obtain ⟨same, kept⟩ := Option.ite_none_right_eq_some.1 kept
      obtain ⟨expiresAt, sum, rfl⟩ := Option.map_eq_some_iff.1 kept
      dsimp only at read found same
      subst read found same
      exact ⟨asked, expiresAt, rfl, (asked.add?_eq_some_iff expiresAt lifetime).1 sum, early⟩
    · simp at kept

end Enquiry

/-- What is remembered is what the latest enquiry left that could be remembered, and each such
enquiry left what lives longer than what there was before. -/
structure ClientCache.Follows (cache : ClientCache) (lifetime : Duration) (log : List Enquiry) :
    Prop where
  latest : ∀ keyId, cache.entries.get? keyId = log.findSome? (Enquiry.kept? lifetime keyId)
  rising : log.Pairwise fun later earlier => ∀ keyId next last,
    later.kept? lifetime keyId = some next → earlier.kept? lifetime keyId = some last →
      last.expiresAt.nanos < next.expiresAt.nanos

namespace ClientCache.Follows

variable {cache : ClientCache} {lifetime : Duration} {log : List Enquiry}

theorem empty : Follows .empty lifetime [] where
  latest := fun _ => rfl
  rising := .nil

theorem exists_latest (follows : cache.Follows lifetime log) {now : Instant} {keyId : KeyId}
    {client : Client} (live : cache.live? now keyId = some client) :
    ∃ newer latest older, log = newer ++ latest :: older ∧
      latest.Serves lifetime keyId now client ∧
      ∀ later ∈ newer, ∀ other, ¬later.Serves lifetime keyId now other := by
  obtain ⟨cached, found, early, rfl⟩ := (cache.live?_eq_some_iff now keyId client).1 live
  rw [follows.latest] at found
  obtain ⟨newer, latest, older, parts, kept, none⟩ := List.findSome?_eq_some_iff.1 found
  refine ⟨newer, latest, older, parts, ?_, ?_⟩
  · exact (latest.serves_iff lifetime keyId now _).2 ⟨cached, kept, early, rfl⟩
  · intro later member other serves
    obtain ⟨_, left, -⟩ := (later.serves_iff lifetime keyId now other).1 serves
    simp [none later member] at left

theorem le_latest (follows : cache.Follows lifetime log) {keyId : KeyId} {enquiry : Enquiry}
    (member : enquiry ∈ log) {cached : CachedClient}
    (kept : enquiry.kept? lifetime keyId = some cached) :
    ∃ last, cache.entries.get? keyId = some last ∧
      cached.expiresAt.nanos ≤ last.expiresAt.nanos := by
  rw [follows.latest]
  cases found : log.findSome? (Enquiry.kept? lifetime keyId) with
  | none => simp [List.findSome?_eq_none_iff.1 found enquiry member] at kept
  | some last =>
    obtain ⟨newer, latest, older, rfl, left, none⟩ := List.findSome?_eq_some_iff.1 found
    refine ⟨last, rfl, ?_⟩
    -- Newer enquiries left nothing, and older ones what ends earlier.
    rcases List.mem_append.1 member with newest | rest
    · simp [none enquiry newest] at kept
    · rcases List.mem_cons.1 rest with rfl | earlier
      · exact Int.le_of_eq (by rw [Option.some.inj (kept.symm.trans left)])
      · have rising := (List.pairwise_append.1 follows.rising).2.1
        exact Int.le_of_lt ((List.pairwise_cons.1 rising).1 enquiry earlier keyId _ _ left kept)

theorem expired (follows : cache.Follows lifetime log) {now : Instant} {keyId : KeyId}
    (lapsed : cache.live? now keyId = none) {enquiry : Enquiry} (member : enquiry ∈ log)
    {cached : CachedClient} (kept : enquiry.kept? lifetime keyId = some cached) :
    cached.expiresAt.nanos ≤ now.nanos := by
  obtain ⟨last, found, bound⟩ := follows.le_latest member kept
  have late : ¬now.nanos < last.expiresAt.nanos := by
    intro early
    have live := (cache.live?_eq_some_iff now keyId last.client).2 ⟨last, found, early, rfl⟩
    simp [lapsed] at live
  omega

theorem not_serves (follows : cache.Follows lifetime log) {now : Instant} {keyId : KeyId}
    (lapsed : cache.live? now keyId = none) :
    ∀ enquiry ∈ log, ∀ client, ¬enquiry.Serves lifetime keyId now client := by
  intro enquiry member client serves
  obtain ⟨cached, kept, early, -⟩ := (enquiry.serves_iff lifetime keyId now client).1 serves
  have late := follows.expired lapsed member kept
  omega

theorem failed (follows : cache.Follows lifetime log) (reading : Option Instant) (keyId : KeyId)
    (error : Error) : cache.Follows lifetime (⟨reading, keyId, .error error⟩ :: log) := by
  have nothing (other : KeyId) :
      Enquiry.kept? lifetime other ⟨reading, keyId, .error error⟩ = none := by
    cases reading <;> rfl
  constructor
  · intro other
    rw [List.findSome?_cons, nothing, follows.latest]
  · refine List.pairwise_cons.2 ⟨fun earlier member other next last left => ?_, follows.rising⟩
    simp [nothing] at left

/-- An enquiry that found a client is made when what was left before is of no use any more, so what
it leaves lives longer. -/
theorem fetched (follows : cache.Follows lifetime log) (lasting : lifetime.isZero = false)
    {now : Instant} {keyId : KeyId} (lapsed : cache.live? now keyId = none) (client : Client) :
    (cache.remember now lifetime keyId client).Follows lifetime
      (⟨some now, keyId, .ok client⟩ :: log) := by
  constructor
  · intro other
    rw [get?_remember, List.findSome?_cons]
    simp only [Enquiry.kept?]
    split
    · cases now.add? lifetime with
      | none => exact follows.latest other
      | some expiresAt => rfl
    · exact follows.latest other
  · refine List.pairwise_cons.2 ⟨?_, follows.rising⟩
    intro earlier member other next last left kept
    obtain ⟨rfl, kind⟩ := Option.ite_none_right_eq_some.1 left
    obtain ⟨expiresAt, sum, rfl⟩ := Option.map_eq_some_iff.1 kind
    -- What was left before has ended by now, and what is left now ends later than that.
    have late := follows.expired lapsed member kept
    have later := (now.add?_eq_some_iff expiresAt lifetime).1 sum
    have positive : lifetime.nanos ≠ 0 := by simpa [Duration.isZero] using lasting
    dsimp only
    omega

end ClientCache.Follows

namespace ClientStore

variable {σ : Type} (inner : ClientStore σ) (lifetime : Duration)

def watched : ClientStore (σ × List Enquiry) where
  register := fun client (state, log) =>
    let (result, state) := inner.register client state
    (result, state, log)
  get := fun reading keyId (state, log) =>
    let (result, state) := inner.get reading keyId state
    (result, state, ⟨reading, keyId, result⟩ :: log)

abbrev Watched (σ : Type) : Type := (σ × List Enquiry) × ClientCache

def Watched.log {σ : Type} (state : Watched σ) : List Enquiry := state.1.2

structure Query (σ : Type) where
  drift : σ → σ
  reading : Option Instant
  keyId : KeyId

def query (call : Query σ) : Watched σ → Except Error Client × Watched σ
  | ((state, log), cache) =>
    (inner.watched.cached lifetime).get call.reading call.keyId ((call.drift state, log), cache)

/-- What a sequence of look-ups leaves behind that begins with nothing remembered. -/
def queries (calls : List (Query σ)) (start : σ) : Watched σ :=
  calls.foldl (fun state call => (inner.query lifetime call state).2) ((start, []), .empty)

def Reaches (now : Instant) (keyId : KeyId) (before : Watched σ)
    (outcome : Except Error Client × Watched σ) : Prop :=
  outcome.2.log = ⟨some now, keyId, outcome.1⟩ :: before.log

section

variable {inner lifetime} {reading : Option Instant} {keyId : KeyId} {state after : σ × List Enquiry}
  {cache kept : ClientCache} {result : Except Error Client}

theorem LooksUp.follows
    (effect : inner.watched.LooksUp lifetime reading keyId state cache result after kept)
    (lasting : lifetime.isZero = false) (follows : cache.Follows lifetime state.2) :
    kept.Follows lifetime after.2 := by
  cases effect with
  | bypassed zero => simp [zero] at lasting
  | unread _ unread => exact follows
  | remembered _ read live => exact follows
  | fetched _ read lapsed found =>
    obtain ⟨told, rfl⟩ := Prod.mk.inj found
    subst read
    simp only [told]
    exact follows.fetched lasting lapsed _
  | failed _ read lapsed missed =>
    obtain ⟨told, rfl⟩ := Prod.mk.inj missed
    simp only [told]
    exact follows.failed reading keyId _

theorem LooksUp.reaches_or_serves {now : Instant}
    (effect : inner.watched.LooksUp lifetime (some now) keyId state cache result after kept)
    (follows : lifetime.isZero = false → cache.Follows lifetime state.2) :
    (after.2 = ⟨some now, keyId, result⟩ :: state.2 ∧
      (lifetime.isZero = true ∨
        ∀ earlier ∈ state.2, ∀ client, ¬earlier.Serves lifetime keyId now client)) ∨
    (after = state ∧ lifetime.isZero = false ∧
      ∃ newer latest older client, state.2 = newer ++ latest :: older ∧
        latest.Serves lifetime keyId now client ∧
        (∀ later ∈ newer, ∀ other, ¬later.Serves lifetime keyId now other) ∧
        result = .ok client) := by
  cases effect with
  | bypassed zero => exact .inl ⟨rfl, .inl zero⟩
  | unread _ unread => cases unread
  | remembered lasting read live =>
    cases read
    obtain ⟨newer, latest, older, parts, serves, last⟩ := (follows lasting).exists_latest live
    exact .inr ⟨rfl, lasting, newer, latest, older, _, parts, serves, last, rfl⟩
  | fetched lasting read lapsed found =>
    cases read
    obtain ⟨told, rfl⟩ := Prod.mk.inj found
    exact .inl ⟨by simp only [told], .inr ((follows lasting).not_serves lapsed)⟩
  | failed lasting read lapsed missed =>
    cases read
    obtain ⟨told, rfl⟩ := Prod.mk.inj missed
    exact .inl ⟨by simp only [told], .inr ((follows lasting).not_serves lapsed)⟩

end

theorem follows_queries (lasting : lifetime.isZero = false) (calls : List (Query σ)) (start : σ) :
    (inner.queries lifetime calls start).2.Follows lifetime
      (inner.queries lifetime calls start).log := by
  -- The induction is on the calls; what becomes of the inner store between them does not matter.
  have run (state : Watched σ) (follows : state.2.Follows lifetime state.log) :
      (calls.foldl (fun state call => (inner.query lifetime call state).2) state).2.Follows lifetime
        (calls.foldl (fun state call => (inner.query lifetime call state).2) state).log := by
    induction calls generalizing state with
    | nil => exact follows
    | cons call rest ih =>
      apply ih
      exact (inner.watched.cached_get lifetime call.reading call.keyId _ state.2).follows lasting
        follows
  exact run _ .empty

/-- After any look-ups, at any readings of the clock, one more reaches the inner store exactly if
nothing is remembered for any time or no earlier enquiry serves. If it does not, it is answered by
the latest enquiry that serves. So a client that is found is no older than the lifetime, and a
failure is always one of the inner store. -/
theorem query_reaches_iff (calls : List (Query σ)) (start : σ) (drift : σ → σ) (now : Instant)
    (keyId : KeyId) :
    let before := inner.queries lifetime calls start
    let outcome := inner.query lifetime ⟨drift, some now, keyId⟩ before
    (Reaches now keyId before outcome ↔ lifetime.isZero = true ∨
      ∀ earlier ∈ before.log, ∀ client, ¬earlier.Serves lifetime keyId now client) ∧
    (¬Reaches now keyId before outcome → outcome.2.1 = (drift before.1.1, before.log) ∧
      ∃ newer latest older client, before.log = newer ++ latest :: older ∧
        latest.Serves lifetime keyId now client ∧
        (∀ later ∈ newer, ∀ other, ¬later.Serves lifetime keyId now other) ∧
        outcome.1 = .ok client) ∧
    (∀ client, outcome.1 = .ok client → ∃ asked : Instant,
      ⟨some asked, keyId, .ok client⟩ ∈ outcome.2.log ∧
        now.nanos ≤ asked.nanos + lifetime.nanos) ∧
    ∀ error, outcome.1 = .error error → Reaches now keyId before outcome := by
  intro before outcome
  have effect : inner.watched.LooksUp lifetime (some now) keyId (drift before.1.1, before.log)
      before.2 outcome.1 outcome.2.1 outcome.2.2 :=
    inner.watched.cached_get lifetime (some now) keyId _ before.2
  rcases effect.reaches_or_serves (inner.follows_queries lifetime · calls start) with
    ⟨reached, stale⟩ | ⟨same, lasting, newer, latest, older, client, parts, serves, last, answered⟩
  · have reached : Reaches now keyId before outcome := reached
    refine ⟨⟨fun _ => stale, fun _ => reached⟩, absurd reached, ?_, fun _ _ => reached⟩
    intro client answered
    refine ⟨now, ?_, by omega⟩
    rw [reached, answered]
    exact List.mem_cons_self
  · have parts : before.log = newer ++ latest :: older := parts
    have kept : outcome.2.log = before.log := congrArg (fun state => state.2) same
    have member : latest ∈ before.log := by simp [parts]
    have missed : ¬Reaches now keyId before outcome := by
      intro reached
      exact List.cons_ne_self _ _ (reached.symm.trans kept)
    refine ⟨⟨fun reached => absurd reached missed, ?_⟩, ?_, ?_, ?_⟩
    · intro stale
      rcases stale with zero | none
      · simp [lasting] at zero
      · exact absurd serves (none latest member client)
    · exact fun _ => ⟨same, newer, latest, older, client, parts, serves, last, answered⟩
    · intro other found
      obtain rfl : client = other := Except.ok.inj (answered.symm.trans found)
      obtain ⟨asked, expiresAt, rfl, sum, early⟩ := serves
      exact ⟨asked, kept ▸ member, by omega⟩
    · intro error failed
      simp [answered] at failed

end ClientStore
end SignedRequest
