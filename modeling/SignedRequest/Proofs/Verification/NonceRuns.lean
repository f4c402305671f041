import SignedRequest.Proofs.Verification.Acceptance

/-!
Nonces over the requests that one verifier is presented with. A request that is accepted puts its
nonce under guard until its lifetime has passed, and no later request, whatever the clock shows,
lifts the guard before. Hence two acceptances of one nonce lie at least the lifetime apart.
-/

namespace SignedRequest

/-- The nonce of a client is registered, and does not expire before a bound. -/
def NonceTable.Guards (table : NonceTable) (keyId : KeyId) (value : String) (bound : Int) : Prop :=
  ∃ nonce, table.get? keyId value = some nonce ∧ bound ≤ nonce.expiration.nanos

theorem NonceTable.Guards.le_of_not_live {table : NonceTable} {keyId : KeyId} {value : String}
    {bound : Int} (guarded : table.Guards keyId value bound) {now : Instant}
    (lapsed : table.isLive keyId value now = false) : bound ≤ now.nanos := by
  obtain ⟨nonce, registered, lasting⟩ := guarded
  have expired : ¬now.nanos < nonce.expiration.nanos := by
    intro early
    have live := (table.isLive_iff keyId value now).2 ⟨nonce, registered, early⟩
    simp [lapsed] at live
  omega

theorem NonceTable.Guards.put {table : NonceTable} {keyId : KeyId} {value : String} {bound : Int}
    (guarded : table.Guards keyId value bound) {nonce : Nonce} {now : Instant}
    (later : now.nanos ≤ nonce.expiration.nanos)
    (lapsed : table.isLive nonce.keyId nonce.value now = false) :
    (table.put nonce).Guards keyId value bound := by
  by_cases same : nonce.keyId = keyId ∧ nonce.value = value
  · obtain ⟨rfl, rfl⟩ := same
    have passed := guarded.le_of_not_live lapsed
    exact ⟨nonce, by simp [get?_put], by omega⟩
  · obtain ⟨old, registered, lasting⟩ := guarded
    exact ⟨old, by simp [get?_put, same, registered], lasting⟩

namespace RequestVerifier

variable {σ ν : Type}

/-- A request that was presented, and what came of it. -/
structure Visit where
  reading : Option Instant
  request : Request
  result : Except Error VerificationOutcome

def Visit.Accepts (visit : Visit) (now : Instant) (client : Client) (signature : Signature) :
    Prop :=
  visit.reading = some now ∧ visit.result = .ok (.success client signature)

/-- For whom a request was accepted, how long nonces of that client are remembered if not as long as
those of others, and the nonce that was used up. -/
def Visit.used? (visit : Visit) : Option (KeyId × Option Duration × Option String) :=
  match visit.result with
  | .ok (.success client signature) => some (client.keyId, client.nonceLifetime, signature.nonce)
  | _ => none

theorem Visit.accepts_of_success {now : Instant} {request : Request}
    {result : Except Error VerificationOutcome} {client : Client} {signature : Signature}
    (success : result = .ok (.success client signature)) :
    Accepts ⟨some now, request, result⟩ now client signature :=
  ⟨rfl, success⟩

theorem Visit.accepts_of_used {visit : Visit} {now : Instant} {keyId : KeyId}
    {lifetime : Option Duration} {nonce : Option String} (read : visit.reading = some now)
    (used : visit.used? = some (keyId, lifetime, nonce)) :
    ∃ client signature, visit.Accepts now client signature ∧ client.keyId = keyId ∧
      client.nonceLifetime = lifetime ∧ signature.nonce = nonce := by
  obtain ⟨reading, request, result⟩ := visit
  unfold used? at used
  split at used
  · rename_i client signature success
    simp only [Option.some.injEq, Prod.mk.injEq] at used
    exact ⟨client, signature, ⟨read, success⟩, used⟩
  · simp at used

/-- What comes of requests presented one after the other, each at a reading of the clock; a call
finds the stores as the one before has left them. -/
def visits (verifier : RequestVerifier σ ν) :
    List (Option Instant × Request) → σ → ν → List Visit
  | [], _, _ => []
  | (reading, request) :: later, clients, nonces =>
    let answer := verifier.verify reading request clients nonces
    ⟨reading, request, answer.1⟩ :: visits verifier later answer.2.1 answer.2.2

theorem visits_pair (verifier : RequestVerifier σ ν) (reading later : Option Instant)
    (request again : Request) (clients : σ) (nonces : ν) :
    verifier.visits [(reading, request), (later, again)] clients nonces =
      [⟨reading, request, (verifier.verify reading request clients nonces).1⟩,
        ⟨later, again, (verifier.verify later again
          (verifier.verify reading request clients nonces).2.1
          (verifier.verify reading request clients nonces).2.2).1⟩] :=
  rfl

variable (verifier : RequestVerifier σ NonceTable)

/-- What a call does to the table of nonces: it registers the nonce of a request that it accepts,
which must not be live, and does nothing else. -/
inductive NonceEffect (reading : Option Instant) (nonces : NonceTable) :
    Except Error VerificationOutcome → NonceTable → Prop where
  | registered {now : Instant} {client : Client} {signature : Signature} {value : String}
      {expiration : Instant} (read : reading = some now) (told : signature.nonce = some value)
      (lasting : expiration.nanos =
        now.nanos + (client.nonceLifetime.getD verifier.options.nonceLifetime).nanos)
      (lapsed : nonces.isLive client.keyId value now = false) :
      NonceEffect reading nonces (.ok (.success client signature))
        (nonces.put ⟨client.keyId, value, expiration⟩)
  | unused {result : Except Error VerificationOutcome}
      (silent : ∀ client signature, result = .ok (.success client signature) →
        signature.nonce = none) :
      NonceEffect reading nonces result nonces

variable (inMemory : verifier.nonces = .inMemory) {nonces : NonceTable}
include inMemory

theorem accept_effect (signature : Signature) (client : Client) (now : Instant) :
    verifier.NonceEffect (some now) nonces (verifier.accept signature client now nonces).1
      (verifier.accept signature client now nonces).2 := by
  unfold accept nonceLifetime
  cases told : signature.nonce with
  | none =>
    apply NonceEffect.unused
    intro other returned same
    cases same
    exact told
  | some value =>
    cases sum : now.add? (client.nonceLifetime.getD verifier.options.nonceLifetime) with
    | none => exact .unused (by simp)
    | some expiration =>
      simp only [inMemory, NonceStore.inMemory]
      cases lapsed : nonces.isLive client.keyId value now with
      | true => exact .unused (by simp)
      | false =>
        have lasting := (now.add?_eq_some_iff expiration _).1 sum
        exact .registered rfl told lasting lapsed

theorem judge_effect (reading : Option Instant) (request : Request) (signature : Signature)
    (client : Client) :
    verifier.NonceEffect reading nonces
      (verifier.judge reading request signature client nonces).1
      (verifier.judge reading request signature client nonces).2 := by
  unfold judge
  cases reading with
  | none => exact .unused (by simp)
  | some now =>
    dsimp only
    cases (verifier.evidence request signature client now).check with
    | error error => exact .unused (by simp)
    | ok _ => exact verifier.accept_effect inMemory signature client now

theorem verify_effect (reading : Option Instant) (request : Request) (clients : σ) :
    verifier.NonceEffect reading nonces (verifier.verify reading request clients nonces).1
      (verifier.verify reading request clients nonces).2.2 := by
  by_cases known : ∃ signature client,
      verifier.Identified reading request clients signature client
  · obtain ⟨signature, client, identified⟩ := known
    rw [verify_of_identified verifier identified]
    exact verifier.judge_effect inMemory reading request signature client
  · obtain ⟨refused, same⟩ := verify_of_not_identified verifier reading request clients nonces
      fun signature client identified => known ⟨signature, client, identified⟩
    rw [same]
    exact .unused fun client signature success => absurd success (refused client signature)

omit inMemory

theorem NonceEffect.guards {reading : Option Instant} {result : Except Error VerificationOutcome}
    {after : NonceTable} (effect : verifier.NonceEffect reading nonces result after)
    {keyId : KeyId} {value : String} {bound : Int} (guarded : nonces.Guards keyId value bound) :
    after.Guards keyId value bound := by
  cases effect with
  | registered read told lasting lapsed => exact guarded.put (by simp only; omega) lapsed
  | unused silent => exact guarded

theorem NonceEffect.bound_le {now : Instant} {client : Client} {signature : Signature}
    {after : NonceTable}
    (effect : verifier.NonceEffect (some now) nonces (.ok (.success client signature)) after)
    {value : String} {bound : Int} (told : signature.nonce = some value)
    (guarded : nonces.Guards client.keyId value bound) : bound ≤ now.nanos := by
  cases effect with
  | registered read toldAgain lasting lapsed =>
    cases read
    cases told.symm.trans toldAgain
    exact guarded.le_of_not_live lapsed
  | unused silent => simp [silent client signature rfl] at told

theorem NonceEffect.guards_new {now : Instant} {client : Client} {signature : Signature}
    {after : NonceTable}
    (effect : verifier.NonceEffect (some now) nonces (.ok (.success client signature)) after)
    {value : String} (told : signature.nonce = some value) :
    after.Guards client.keyId value
      (now.nanos + (client.nonceLifetime.getD verifier.options.nonceLifetime).nanos) := by
  cases effect with
  | registered read toldAgain lasting lapsed =>
    cases read
    cases told.symm.trans toldAgain
    refine ⟨⟨client.keyId, value, _⟩, ?_, Int.le_of_eq lasting.symm⟩
    simp [NonceTable.get?_put]
  | unused silent => simp [silent client signature rfl] at told

include inMemory

/-- While a nonce is under guard, only requests from its bound on are accepted with it. -/
theorem visits_guarded (calls : List (Option Instant × Request)) (clients : σ)
    {keyId : KeyId} {value : String} {bound : Int} (guarded : nonces.Guards keyId value bound) :
    ∀ visit ∈ verifier.visits calls clients nonces, ∀ now client signature,
      visit.Accepts now client signature → client.keyId = keyId →
        signature.nonce = some value → bound ≤ now.nanos := by
  induction calls generalizing clients nonces with
  | nil => simp [visits]
  | cons call rest ih =>
    obtain ⟨reading, request⟩ := call
    have effect : verifier.NonceEffect reading nonces _ _ :=
      verifier.verify_effect inMemory reading request clients
    intro visit member now client signature accepted same told
    -- The visit is the first call, which the guard binds, or a later one, which it reaches intact.
    rcases List.mem_cons.1 member with rfl | later
    · obtain ⟨rfl, success⟩ := accepted
      rw [show (verifier.verify _ request clients nonces).1 = _ from success] at effect
      exact effect.bound_le verifier told (same ▸ guarded)
    · have lasting := effect.guards verifier guarded
      exact ih _ lasting visit later now client signature accepted same told

theorem le_of_accepted_again {reading : Option Instant} {request : Request} {clients : σ}
    {first : Instant} {client : Client} {signature : Signature} {value : String}
    (accepted : Visit.Accepts ⟨reading, request, (verifier.verify reading request clients nonces).1⟩
      first client signature)
    (told : signature.nonce = some value) (calls : List (Option Instant × Request)) :
    ∀ visit ∈ verifier.visits calls (verifier.verify reading request clients nonces).2.1
      (verifier.verify reading request clients nonces).2.2, ∀ second other again,
        visit.Accepts second other again → other.keyId = client.keyId →
          again.nonce = some value →
            first.nanos + (client.nonceLifetime.getD verifier.options.nonceLifetime).nanos ≤
              second.nanos := by
  have effect : verifier.NonceEffect reading nonces _ _ :=
    verifier.verify_effect inMemory reading request clients
  obtain ⟨rfl, success⟩ := accepted
  rw [show (verifier.verify _ request clients nonces).1 = _ from success] at effect
  exact verifier.visits_guarded inMemory calls _ (effect.guards_new verifier told)

omit inMemory in
theorem visits_pairwise {R : Visit → Visit → Prop}
    (step : ∀ reading request clients nonces calls,
      ∀ later ∈ verifier.visits calls (verifier.verify reading request clients nonces).2.1
        (verifier.verify reading request clients nonces).2.2,
          R ⟨reading, request, (verifier.verify reading request clients nonces).1⟩ later)
    (calls : List (Option Instant × Request)) (clients : σ) (nonces : NonceTable) :
    (verifier.visits calls clients nonces).Pairwise R := by
  induction calls generalizing clients nonces with
  | nil => exact .nil
  | cons call rest ih => exact .cons (step call.1 call.2 clients nonces rest) (ih _ _)

omit inMemory in
theorem exists_call_of_mem_visits {calls : List (Option Instant × Request)} {clients : σ}
    {nonces : NonceTable} {visit : Visit} (member : visit ∈ verifier.visits calls clients nonces) :
    ∃ before used, visit.result = (verifier.verify visit.reading visit.request before used).1 := by
  induction calls generalizing clients nonces with
  | nil => simp [visits] at member
  | cons call rest ih =>
    rcases List.mem_cons.1 member with rfl | later
    · exact ⟨clients, nonces, rfl⟩
    · exact ih later

omit inMemory in
theorem Visit.Accepts.accepted {visit : Visit} {now : Instant} {client : Client}
    {signature : Signature} (accepts : visit.Accepts now client signature) {clients : σ}
    {nonces : NonceTable}
    (called : visit.result = (verifier.verify visit.reading visit.request clients nonces).1) :
    verifier.Accepted now visit.request clients nonces client signature := by
  obtain ⟨read, success⟩ := accepts
  obtain ⟨moment, reading, accepted⟩ := verifier.accepted_of_verify (called.symm.trans success)
  obtain rfl := Option.some.inj (read.symm.trans reading)
  exact accepted

omit inMemory in
theorem accepted_of_mem_visits {calls : List (Option Instant × Request)} {clients : σ}
    {nonces : NonceTable} {visit : Visit} (member : visit ∈ verifier.visits calls clients nonces)
    {now : Instant} {client : Client} {signature : Signature}
    (accepts : visit.Accepts now client signature) :
    ∃ before used, verifier.Accepted now visit.request before used client signature := by
  obtain ⟨before, used, called⟩ := verifier.exists_call_of_mem_visits member
  exact ⟨before, used, accepts.accepted verifier called⟩

/-- Two acceptances of one nonce of a client lie at least the lifetime apart that was in force at
the first of them. -/
theorem visits_nonce_apart (calls : List (Option Instant × Request)) (clients : σ)
    (nonces : NonceTable) :
    (verifier.visits calls clients nonces).Pairwise fun earlier later =>
      ∀ (first second : Instant) (client other : Client) (signature again : Signature)
        (value : String), earlier.Accepts first client signature →
          later.Accepts second other again → client.keyId = other.keyId →
            signature.nonce = some value → again.nonce = some value →
              first.nanos + (client.nonceLifetime.getD verifier.options.nonceLifetime).nanos ≤
                second.nanos := by
  refine verifier.visits_pairwise ?_ calls clients nonces
  intro reading request clients nonces calls later member first second client other signature again
    value accepted repeated same told toldAgain
  exact verifier.le_of_accepted_again inMemory accepted told calls later member second other again
    repeated same.symm toldAgain

end RequestVerifier

namespace Captured
open RequestVerifier

def calls (nonce : String) (later : Instant) (again : String) :
    List (Option Instant × Request) :=
  [(some .epoch, request nonce), (some later, request again)]

theorem nonce_apart :
    verifier.nonces = .inMemory ∧
      ∃ earlier later, verifier.visits (calls "abc" lapse "abc") clients .empty = [earlier, later] ∧
        ∃ first second signature again, earlier.Accepts .epoch first signature ∧
          later.Accepts lapse second again ∧ first.keyId = second.keyId ∧
            signature.nonce = some "abc" ∧ again.nonce = some "abc" ∧
              first.nonceLifetime.getD verifier.options.nonceLifetime = .ofSeconds 300 ∧
              Instant.epoch.nanos +
                (first.nonceLifetime.getD verifier.options.nonceLifetime).nanos ≤ lapse.nanos := by
  have used : (verifier.visits (calls "abc" lapse "abc") clients .empty).map Visit.used? =
      [some (client.keyId, none, some "abc"), some (client.keyId, none, some "abc")] := by
    decide +kernel
  have pairs := verifier.visits_nonce_apart rfl (calls "abc" lapse "abc") clients .empty
  rw [calls, visits_pair] at pairs used
  obtain ⟨head, last⟩ := List.cons.inj used
  obtain ⟨first, signature, accepted, named, customary, told⟩ := Visit.accepts_of_used rfl head
  obtain ⟨second, again, repeated, same, _, toldAgain⟩ :=
    Visit.accepts_of_used rfl (List.cons.inj last).1
  have lifetime : first.nonceLifetime.getD verifier.options.nonceLifetime = .ofSeconds 300 := by
    rw [customary]
    rfl
  have apart := List.pairwise_pair.1 pairs
  exact ⟨rfl, _, _, visits_pair .., first, second, signature, again, accepted, repeated,
    named.trans same.symm, told, toldAgain, lifetime,
    apart _ _ first second signature again "abc" accepted repeated (named.trans same.symm) told
      toldAgain⟩

end Captured
end SignedRequest
