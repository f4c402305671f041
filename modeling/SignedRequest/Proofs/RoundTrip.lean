import SignedRequest.Proofs.Authorization.RoundTrip
import SignedRequest.Proofs.Authorization.Scheme
import SignedRequest.Proofs.Signing.Additions
import SignedRequest.Proofs.Signing.Standard
import SignedRequest.Proofs.SigningString
import SignedRequest.Proofs.Time
import SignedRequest.Proofs.Verification.Acceptance

/-!
A request that was signed is accepted. What the receiver reads from the authorization header is the
normal form of the signature, the text that it composes is the one that was signed, and the standard
policy asks of it what it asked of the sender.
-/

namespace SignedRequest
open Authorization

namespace SigningSteps

variable {steps : SigningSteps} {signer : RequestSigner} {reading : Option Instant} {draws : Draws}
  {request signed : Request} {signature : Signature}

theorem Lead.isWhole (lead : steps.Lead signer reading draws request signature signed) :
    steps.time.IsWhole := by
  have begun := lead.begun
  unfold RequestSigner.signingTime at begun
  split at begun
  · simp at begun
  · rename_i now
    split at begun
    · rename_i time whole
      obtain rfl := Except.ok.inj begun
      exact Instant.isWhole_of_wholeSecond? whole
    · simp at begun

variable (lead : steps.Lead signer reading draws request signature signed)
  (policy : signer.policy = .standard) (registry : signer.registry = .standard)
  (portable : signer.settings.Portable)
include lead policy

theorem Lead.requirement_cases :
    steps.requirement = ⟨[.date], [.created, .expires]⟩ ∨
      steps.requirement = ⟨[.created, .expires], []⟩ := by
  have permitted := lead.permitted
  rw [policy] at permitted
  exact HeaderPolicy.standard_requirement permitted

include portable

theorem Lead.signable :
    ∀ name ∈ steps.names signer.settings request, name.Signable :=
  HeaderList.signable_of_mem lead.valid portable (lead.requirement_cases policy)

theorem Lead.unlisted :
    ¬(HeaderName.mk "authorization").Occurs (steps.names signer.settings request) := by
  have others : ∀ special ∈ HeaderName.special,
      special.key ≠ (HeaderName.mk "authorization").key := by decide
  intro found
  obtain ⟨name, member, same⟩ := found
  rcases HeaderList.configured_or_special (lead.requirement_cases policy) member with
    configured | added
  · exact portable.unlisted ⟨name, configured, same⟩
  · exact others name added same

include registry

theorem Lead.plain : Authorization.Plain signature := by
  have named := SigningSettings.named_algorithmParameter (registry ▸ lead.made)
  have keyId : signature.keyId = signer.settings.keyId := by rw [lead.told]
  have algorithm : signature.algorithm =
      some (signer.settings.algorithmParameter steps.algorithm) := by rw [lead.told]
  have headers : signature.headers = steps.names signer.settings request := by rw [lead.told]
  exact
    { keyId := keyId ▸ portable.keyId
      algorithm := by
        intro text told
        obtain rfl := Option.some.inj (algorithm.symm.trans told)
        exact named.plain
      headers := fun name member quote =>
        ((lead.signable policy portable name (headers ▸ member)).chars '"' quote).1 rfl
      nonce := fun text told quote => (lead.solid_nonce told '"' quote).2 rfl
      string := fun quote => (lead.solid_string '"' quote).2 rfl }

theorem Lead.normal_eq {floor : Instant}
    (told : Instant.ofUnixSeconds? steps.expires.unixSeconds = some floor) :
    normal signature =
      { keyId := signer.settings.keyId
        algorithm := some (signer.settings.algorithmParameter steps.algorithm)
        created := some steps.time
        expires := some floor
        headers := lowered (steps.names signer.settings request)
        string := Base64.encode steps.octets
        nonce := (signer.settings.nonce? draws).filter fun text => !text.isEmpty } := by
  have named := SigningSettings.named_algorithmParameter (registry ▸ lead.made)
  have carried : (!(signer.settings.algorithmParameter steps.algorithm).isEmpty) = true := by
    simpa using named.nonempty
  have created : (some steps.time).bind (fun time => Instant.ofUnixSeconds? time.unixSeconds) =
      some steps.time := by
    rw [Option.bind_some]
    exact lead.isWhole.ofUnixSeconds?
  have expires : (some steps.expires).bind
      (fun time => Instant.ofUnixSeconds? time.unixSeconds) = some floor := by
    rw [Option.bind_some]
    exact told
  rw [lead.told]
  simp only [normal, created, expires, words_headerList (lead.signable policy portable),
    Option.filter_some, carried, ↓reduceIte]

theorem Lead.received {options : VerificationOptions}
    (scheme : Text.asciiLower signer.settings.scheme = Text.asciiLower options.scheme) :
    ∃ value parameters, signed.firstFieldText? "authorization" = some value ∧
      stripScheme? value options.scheme = some parameters ∧
        parse parameters = .ok (normal signature) := by
  refine ⟨headerValue signer.settings.scheme signature, render signature, ?_, ?_, ?_⟩
  · rw [lead.left, ← FieldValue.text_of_ofText? lead.written]
    exact steps.completed.firstFieldText?_setField_self .authorization steps.value
  · exact stripScheme?_headerValue (signer.settings.validate_eq_ok_iff.1 lead.valid).scheme
      (.of_solid portable.scheme) scheme signature
  · exact parse_render_eq (lead.plain policy registry portable)

omit registry in
theorem Lead.compose_signed (lifetime : Duration) (nonce : Option String) :
    SigningString.compose signed (steps.names signer.settings request) steps.time lifetime nonce =
      SigningString.compose steps.completed (steps.names signer.settings request) steps.time
        lifetime nonce := by
  rw [lead.left]
  apply SigningString.compose_congr
  apply SigningString.agrees_setField
  intro name member same
  refine lead.unlisted policy portable ⟨name, member, same.trans ?_⟩
  decide +kernel

omit registry in
/-- Of any request the receiver composes the text that the sender would sign: the names may be in
lower case, an empty nonce may be left out, and of the lifetime whole seconds count. -/
theorem Lead.compose_normal (other : Request) {floor : Instant}
    (told : Instant.ofUnixSeconds? steps.expires.unixSeconds = some floor) (nonce : Option String) :
    SigningString.compose other (lowered (steps.names signer.settings request)) steps.time
        (floor.since steps.time) (nonce.filter fun text => !text.isEmpty) =
      SigningString.compose other (steps.names signer.settings request) steps.time
        signer.settings.expires nonce := by
  rw [SigningString.compose_filter,
    SigningString.compose_lifetime steps.time nonce (lead.isWhole.seconds_since lead.lasting told),
    lowered, SigningString.compose_lower steps.time nonce fun name member =>
      (lead.signable policy portable name member).legible]

omit registry in
theorem Lead.compose_received {floor : Instant}
    (told : Instant.ofUnixSeconds? steps.expires.unixSeconds = some floor) (nonce : Option String) :
    SigningString.compose signed (lowered (steps.names signer.settings request)) steps.time
        (floor.since steps.time) (nonce.filter fun text => !text.isEmpty) =
      SigningString.compose steps.completed (steps.names signer.settings request) steps.time
        signer.settings.expires nonce :=
  (lead.compose_normal policy portable signed told nonce).trans
    (lead.compose_signed policy portable _ nonce)

omit portable policy registry in
theorem Lead.digested (digest : ∀ value, request.firstFieldText? "digest" = some value →
      matchesDigest value (request.body.getD []) = true)
    (listed : HeaderName.digest.Occurs (steps.names signer.settings request)) :
    ∃ value, signed.firstFieldText? "digest" = some value ∧
      matchesDigest value (signed.body.getD []) = true := by
  have present := ((HeaderList.occurs_sanitize_iff _ _ _).1 listed).2
  have known : request.body.isSome = true ∨ request.hasField "digest" = true := by
    have self : (HeaderName.digest == HeaderName.digest) = true := by decide
    rw [HeaderList.isPresent, if_pos self, Bool.or_eq_true] at present
    exact present
  obtain ⟨value, first, matching⟩ := lead.completed.digested listed known digest
  have other : FieldName.digest ≠ .authorization := by decide
  refine ⟨value, ?_, ?_⟩
  · rw [lead.left]
    exact (steps.completed.firstFieldText?_setField_of_ne .authorization steps.value other).trans
      first
  · rw [lead.left]
    simpa [Request.setField, lead.completed.body] using matching

omit portable policy registry in
theorem Lead.carried (digest : ∀ value, request.firstFieldText? "digest" = some value →
      matchesDigest value (request.body.getD []) = true) {name : HeaderName}
    (member : name ∈ steps.names signer.settings request) (header : ¬name.isPseudo = true) :
    signed.hasField name.text = true := by
  have present := (HeaderList.mem_of_mem_sanitize member).2
  have kept {text : String} (carried : steps.completed.hasField text = true) :
      signed.hasField text = true := by
    rw [lead.left]
    exact Injection.carried_setField .authorization steps.value carried
  have spelled {special : HeaderName} (same : (name == special) = true) :
      special.Occurs (steps.names signer.settings request) ∧
        signed.hasField name.text = signed.hasField special.text := by
    have key := (HeaderName.beq_iff name special).1 same
    exact ⟨⟨name, member, key⟩, signed.hasField_congr key⟩
  unfold HeaderList.isPresent at present
  split at present
  · rename_i digesting
    obtain ⟨listed, same⟩ := spelled digesting
    obtain ⟨value, first, _⟩ := lead.digested digest listed
    rw [same, Request.hasField_iff]
    intro nothing
    exact absurd (first.symm.trans (congrArg List.head? nothing)) (by simp)
  · simp only [Bool.or_eq_true, header] at present
    rcases present with (pseudo | dating) | carried
    · exact absurd pseudo (by decide)
    · obtain ⟨listed, same⟩ := spelled dating
      rw [same]
      exact kept (lead.completed.dated listed)
    · exact kept (lead.completed.carried name.text carried)

omit registry in
theorem Lead.present (digest : ∀ value, request.firstFieldText? "digest" = some value →
      matchesDigest value (request.body.getD []) = true) {name : HeaderName}
    (member : name ∈ lowered (steps.names signer.settings request))
    (header : ¬name.isPseudo = true) : signed.fieldTexts name.text ≠ [] := by
  obtain ⟨original, listed, rfl⟩ := List.mem_map.1 member
  have spelled : ¬original.isPseudo = true :=
    fun pseudo => header (HeaderName.isPseudo_lower pseudo)
  have ascii := (lead.signable policy portable original listed).legible.resolve_left spelled
  have carried := lead.carried digest listed spelled
  rw [← signed.hasField_congr (HeaderName.key_lower ascii)] at carried
  exact (signed.hasField_iff _).1 carried

theorem Lead.admissible {σ ν : Type} {verifier : RequestVerifier σ ν} {client : Client}
    {now : Instant} (standard : verifier.policy = .standard)
    (digest : ∀ value, request.firstFieldText? "digest" = some value →
      matchesDigest value (request.body.getD []) = true)
    (matching : signer.settings.Matches draws
      (SigningString.compose steps.completed (steps.names signer.settings request) steps.time
        signer.settings.expires (signer.settings.nonce? draws)) client.algorithm)
    (begun : steps.time.nanos ≤
      now.nanos + (client.clockSkew.getD verifier.options.clockSkew).nanos)
    (lasting : now.nanos ≤ steps.expires.unixSeconds * 1000000000 +
      (client.clockSkew.getD verifier.options.clockSkew).nanos) :
    (verifier.evidence signed (normal signature) client now).Admissible steps.requirement := by
  obtain ⟨floor, told⟩ := steps.expires.exists_ofUnixSeconds?
  have floorNanos := (Instant.ofUnixSeconds?_eq_some_iff _ floor).1 told
  have made := lead.made
  rw [registry] at made
  have named := SigningSettings.named_algorithmParameter made
  have cases := lead.requirement_cases policy
  obtain ⟨target, required⟩ :
      HeaderName.requestTarget.Occurs (steps.names signer.settings request) ∧
      ∀ name ∈ steps.requirement.required, name ∈ HeaderName.special ∧
        name.Occurs (steps.names signer.settings request) :=
    HeaderList.target_and_required_occur cases
  have occurs {special : HeaderName} (known : special ∈ HeaderName.special) :=
    occurs_lowered_iff known (steps.names signer.settings request)
  rw [lead.normal_eq policy registry portable told]
  exact
    { family := by
        have permitted := lead.permitted
        rw [policy] at permitted
        change verifier.policy.requirement (HeaderPolicy.familyOf (some _)) = _
        rw [standard, named.family, permitted]
      algorithm := by
        intro text told
        cases told
        rcases named.identifier with token | same
        · exact .inl token
        · refine .inr ?_
          rw [same, ← matching.identifier steps.algorithm made]
          rfl
      createdAllowed := fun listed =>
        HeaderList.not_forbidden_of_occurs ((occurs (by simp [HeaderName.special])).1 listed)
          (by decide)
      expiresAllowed := fun listed =>
        HeaderList.not_forbidden_of_occurs ((occurs (by simp [HeaderName.special])).1 listed)
          (by decide)
      target := (occurs (by simp [HeaderName.special])).2 target
      required := fun name member => (occurs (required name member).1).2 (required name member).2
      present := fun name member header => lead.present policy portable digest member
        fun pseudo => header ((HeaderName.isPseudo_iff name).1 pseudo)
      digest := fun listed =>
        lead.digested digest ((occurs (by simp [HeaderName.special])).1 listed)
      signed := by
        refine ⟨steps.time, floor, steps.octets, rfl, rfl, begun, ?_, Base64.decode?_encode _, ?_⟩
        · rw [floorNanos]
          exact lasting
        · have same := lead.compose_received policy portable told (signer.settings.nonce? draws)
          obtain ⟨_, verified⟩ := matching.accepts steps.algorithm steps.octets made lead.answered
          rw [← same] at verified
          exact verified }

end SigningSteps

/-- A request that was signed is accepted. Its client has to be known under the key identifier and
to have the counterpart of the sender's algorithm, the times have to be met as far as clocks can be
trusted, and a nonce has to be new. -/
theorem verify_sign {σ ν : Type} {signer : RequestSigner} {verifier : RequestVerifier σ ν}
    (unhooked : signer.hooks = none) (policy : signer.policy = .standard)
    (registry : signer.registry = .standard) (standard : verifier.policy = .standard)
    (portable : signer.settings.Portable)
    (scheme : Text.asciiLower signer.settings.scheme = Text.asciiLower verifier.options.scheme)
    {reading : Option Instant} {draws : Draws} {request : Request} {signature : Signature}
    (success : (signer.sign reading draws request).result = .ok signature)
    (digest : ∀ value, request.firstFieldText? "digest" = some value →
      matchesDigest value (request.body.getD []) = true)
    {client : Client} {now : Instant} {clients : σ} {nonces : ν}
    (known : (verifier.clients.get (some now) signer.settings.keyId clients).1 = .ok client)
    (matching : ∀ time, signature.created = some time →
      signer.settings.Matches draws
        (SigningString.compose (signer.sign reading draws request).request signature.headers time
          signer.settings.expires signature.nonce) client.algorithm)
    (begun : ∀ time, signature.created = some time →
      time.nanos ≤ now.nanos + (client.clockSkew.getD verifier.options.clockSkew).nanos)
    (lasting : ∀ time, signature.expires = some time →
      now.nanos ≤ time.unixSeconds * 1000000000 +
        (client.clockSkew.getD verifier.options.clockSkew).nanos)
    (fresh : verifier.Fresh signature client now nonces) :
    (verifier.verify (some now) (signer.sign reading draws request).request clients nonces).1 =
      .ok (.success client (normal signature)) := by
  obtain ⟨steps, lead⟩ := RequestSigner.exists_steps unhooked success
  have told := lead.told
  obtain ⟨floor, whole⟩ := steps.expires.exists_ofUnixSeconds?
  have received := lead.normal_eq policy registry portable whole
  have matched := matching steps.time (by rw [told])
  rw [told] at matched
  change signer.settings.Matches draws (SigningString.compose _ (steps.names _ _) _ _ _) _
    at matched
  rw [lead.compose_signed policy portable] at matched
  apply verifier.verify_of_accepted
  exact
    { received := lead.received policy registry portable scheme
      named := by
        rw [received]
        exact (signer.settings.validate_eq_ok_iff.1 lead.valid).keyId
      signed := by
        rw [received]
        intro empty
        have own := registry ▸ lead.made
        exact (matched.accepts steps.algorithm steps.octets own lead.answered).1
          ((Base64.encode_eq_empty_iff steps.octets).1 empty)
      known := by
        rw [received]
        exact known
      admissible := ⟨steps.requirement, lead.admissible policy registry portable standard digest
        matched (begun _ (by rw [told])) (lasting _ (by rw [told]))⟩
      fresh := fun value nonce => fresh value (Option.filter_eq_some_iff.1 nonce).1 }

namespace Exchange

def signer : RequestSigner where
  settings := { keyId := ⟨"a"⟩, secret := .ofText "s", algorithm := .hmac, withNonce := true }

def request : Request := .ofMethodAndTarget .get (.origin "/")

def draws : Draws := ⟨[0], []⟩

def verifier : RequestVerifier ClientTable NonceTable where
  clients := .inMemory
  nonces := .inMemory

def client (algorithm : SignatureAlgorithm) : Client where
  keyId := ⟨"a"⟩
  name := "Unit test app"
  algorithm

def clients (algorithm : SignatureAlgorithm) : ClientTable :=
  ⟨.put .empty ⟨"a"⟩ (client algorithm)⟩

theorem portable : signer.settings.Portable where
  keyId := by decide
  names := by
    intro name listed
    obtain rfl := List.mem_singleton.1 listed
    exact Text.forall_mem_of_all (by decide)
  scheme := Text.forall_mem_of_all (by decide)
  unlisted := by
    rw [← HeaderName.contains_iff]
    decide +kernel

theorem signed_facts :
    (signer.sign (some .epoch) draws request).result.toOption.map (fun signature =>
      (signature.created, signature.expires, signature.nonce)) =
        some (some .epoch, some ⟨300000000000, by decide⟩, some "AA==") := by
  decide +kernel

/-- A signed request is accepted at the time of signing from the client that shares the secret. -/
theorem signed_accepted :
    ∃ algorithm signature, HmacAlgorithm.ofSecret .sha256 [115] = .ok algorithm ∧
      (signer.sign (some .epoch) draws request).result = .ok signature ∧
        (verifier.verify (some .epoch) (signer.sign (some .epoch) draws request).request
          (clients algorithm) .empty).1 = .ok (.success (client algorithm) (normal signature)) := by
  obtain ⟨signature, told, facts⟩ := Option.map_eq_some_iff.1 signed_facts
  have result := (Outcome.toOption_eq_some_iff _ _).1 told
  obtain ⟨created, expires, nonce⟩ : signature.created = _ ∧ signature.expires = _ ∧
    signature.nonce = _ := by simpa only [Prod.mk.injEq] using facts
  refine ⟨_, signature, rfl, result, ?_⟩
  refine verify_sign rfl rfl rfl rfl portable (congrArg Text.asciiLower rfl) result
    ?_ ?_ ?_ ?_ ?_ ?_
  · have missing : request.firstFieldText? "digest" = none := by decide +kernel
    simp [missing]
  · rfl
  · intro time _
    exact SigningSettings.matches_hmac rfl rfl draws _
  · intro time told
    rw [created] at told
    cases told
    decide
  · intro time told
    rw [expires] at told
    cases told
    decide
  · intro value told
    rw [nonce] at told
    cases told
    exact ⟨⟨300000000000, by decide⟩, rfl, rfl⟩

end Exchange
end SignedRequest
