import SignedRequest.Proofs.Verification.Replay

/-!
What one call leaves in the table of nonces. Only a request that is accepted uses up a nonce, and it
uses up its own: nobody who cannot sign for a client can take a nonce from it.
-/

namespace SignedRequest

theorem NonceTable.expiration_le_of_not_live {table : NonceTable} {keyId : KeyId} {value : String}
    {now : Instant} (lapsed : table.isLive keyId value now = false) {nonce : Nonce}
    (registered : table.get? keyId value = some nonce) :
    nonce.expiration.nanos ≤ now.nanos :=
  Guards.le_of_not_live ⟨nonce, registered, Int.le_refl _⟩ lapsed

namespace RequestVerifier

variable {σ : Type} (verifier : RequestVerifier σ NonceTable) {nonces : NonceTable}
  {reading : Option Instant} {result : Except Error VerificationOutcome} {after : NonceTable}

theorem NonceEffect.eq_of_unused (effect : verifier.NonceEffect reading nonces result after)
    (silent : ∀ client signature, result = .ok (.success client signature) →
      signature.nonce = none) : after = nonces := by
  cases effect with
  | registered read told lasting lapsed =>
    have missing := silent _ _ rfl
    simp [told] at missing
  | unused _ => rfl

theorem NonceEffect.registers {client : Client} {signature : Signature}
    (effect : verifier.NonceEffect reading nonces (.ok (.success client signature)) after)
    {value : String} (told : signature.nonce = some value) :
    ∃ now expiration : Instant, reading = some now ∧
      expiration.nanos =
        now.nanos + (client.nonceLifetime.getD verifier.options.nonceLifetime).nanos ∧
      (∀ before, nonces.get? client.keyId value = some before →
        before.expiration.nanos ≤ now.nanos) ∧
      nonces.nonces.Puts (client.keyId, value) ⟨client.keyId, value, expiration⟩ after.nonces := by
  cases effect with
  | @registered now _ _ _ expiration read toldAgain lasting lapsed =>
    cases told.symm.trans toldAgain
    exact ⟨now, expiration, read, lasting,
      fun before known => NonceTable.expiration_le_of_not_live lapsed known,
      Table.puts_put ..⟩
  | unused silent => simp [silent client signature rfl] at told

/-- A call leaves the table of nonces as it was, unless it accepts a request with a nonce. Then it
registers that nonce of the client until the end of its lifetime, which was free until now, and
nothing else. -/
theorem verify_nonces (inMemory : verifier.nonces = .inMemory) (reading : Option Instant)
    (request : Request) (clients : σ) (nonces : NonceTable) :
    ((∀ client signature,
        (verifier.verify reading request clients nonces).1 = .ok (.success client signature) →
          signature.nonce = none) →
      (verifier.verify reading request clients nonces).2.2 = nonces) ∧
    ∀ client signature value,
      (verifier.verify reading request clients nonces).1 = .ok (.success client signature) →
      signature.nonce = some value →
        ∃ now expiration : Instant, reading = some now ∧
          expiration.nanos =
            now.nanos + (client.nonceLifetime.getD verifier.options.nonceLifetime).nanos ∧
          (∀ before, nonces.get? client.keyId value = some before →
            before.expiration.nanos ≤ now.nanos) ∧
          nonces.nonces.Puts (client.keyId, value) ⟨client.keyId, value, expiration⟩
            (verifier.verify reading request clients nonces).2.2.nonces := by
  have effect : verifier.NonceEffect reading nonces _ _ :=
    verifier.verify_effect inMemory reading request clients
  constructor
  · exact effect.eq_of_unused verifier
  · intro client signature value success told
    rw [success] at effect
    exact effect.registers verifier told

end RequestVerifier

namespace Captured
open RequestVerifier

theorem nonce_used_up :
    verifier.nonces = .inMemory ∧
      ∃ used, verifier.verify (some .epoch) (request "abc") clients .empty =
          (.ok (.success client (signature "abc")), clients, used) ∧
        Table.empty.Puts (client.keyId, "abc") ⟨client.keyId, "abc", lapse⟩ used.nonces ∧
        (∀ owner told, (verifier.verify (some .epoch) (request "abc") clients used).1 ≠
          .ok (.success owner told)) ∧
        (verifier.verify (some .epoch) (request "abc") clients used).2.2 = used := by
  obtain ⟨used, answered⟩ := answered
  have registered := (verifier.verify_nonces rfl (some .epoch) (request "abc") clients .empty).2
    client (signature "abc") "abc" (by rw [answered]) rfl
  rw [answered] at registered
  obtain ⟨now, expiration, read, lasting, -, registers⟩ := registered
  cases read
  obtain rfl : expiration = lapse := by
    obtain ⟨nanos, inRange⟩ := expiration
    obtain rfl : nanos = lapse.nanos := lasting
    rfl
  have refused : ∀ owner told, (verifier.verify (some .epoch) (request "abc") clients used).1 ≠
      .ok (.success owner told) := by
    intro owner told success
    have received : received? verifier.options (request "abc") = some (signature "abc") :=
      received_of_isSignature (by decide +kernel)
    obtain ⟨identified, -⟩ := (verifier.verify_success_iff_judged _ _ _ _ _ _).1 success
    obtain rfl := Option.some.inj (received.symm.trans identified.received)
    obtain rfl : client = owner := Except.ok.inj identified.known
    have effect : verifier.NonceEffect (some .epoch) used _ _ :=
      verifier.verify_effect rfl (some .epoch) (request "abc") clients
    rw [success] at effect
    have late := effect.bound_le verifier rfl ⟨_, registers.entry, Int.le_refl _⟩
    exact absurd late (by decide)
  have kept := (verifier.verify_nonces rfl (some .epoch) (request "abc") clients used).1
    fun owner told success => absurd success (refused owner told)
  exact ⟨rfl, used, answered, registers, refused, kept⟩

end Captured
end SignedRequest
