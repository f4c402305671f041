import SignedRequest.Proofs.CommandLine.Rebuilt
import SignedRequest.Proofs.CommandLine.Receiver
import SignedRequest.Proofs.RoundTrip
import SignedRequest.Proofs.Signing.ReadBack

/-!
The trip of a request: it is built from a command line and signed, and its lines are printed and given
to a receiver that shares the secret. What signing went through is known from its success, and the
receiver knows the sender under its key identifier.
-/

namespace SignedRequest

def HttpDate.weekdayValue (t : Instant) : FieldValue where
  octets := Bytes.ofText (weekday t)
  valid := by
    have each : ∀ day ∈ weekdays, (Bytes.ofText day).all isFieldOctet = true := by decide
    exact each _ (weekday_mem t)

theorem HttpDate.text_weekdayValue (t : Instant) : (weekdayValue t).text = weekday t :=
  Text.Utf8.lossy_ofText (weekday t)

theorem RequestSigner.floor_of_signingTime {now time : Instant}
    (begun : signingTime (some now) = .ok time) : time = now.floor ∧ 0 ≤ now.nanos := by
  unfold signingTime Instant.wholeSecond? at begun
  dsimp only at begun
  split at begun
  · rename_i found
    split at found
    · simp at found
    · rename_i late
      rw [now.ofUnixSeconds?_unixSeconds] at found
      obtain rfl := Except.ok.inj begun
      exact ⟨(Option.some.inj found).symm, by omega⟩
  · simp at begun

open Authorization

namespace SigningSteps

variable {steps : SigningSteps} {signer : RequestSigner} {reading : Option Instant} {draws : Draws}
  {request signed : Request} {signature : Signature}
  (lead : steps.Lead signer reading draws request signature signed)
  (policy : signer.policy = .standard) (portable : signer.settings.Portable)
  {sign : Char} (known : sign = ':' ∨ sign = ',')
include lead policy portable known

theorem Lead.isItem {name : HeaderName} (listed : name ∈ signature.headers) :
    IsItem sign name.lower.toList := by
  have signs : isTokenChar sign = false ∧ sign ≠ ')' := by rcases known with rfl | rfl <;> decide
  rw [lead.told] at listed
  obtain ⟨legible, nonempty, chars⟩ := lead.signable policy portable name listed
  exact
    { filled := mt String.toList_eq_nil_iff.1 (Text.lower_ne_empty nonempty)
      unspaced := fun space => by
        have solid := Text.solid_lower (fun c member => (chars c member).2) ' ' space
        exact absurd solid (by decide)
      last := fun last => by
        by_cases pseudo : name.isPseudo = true
        · have closed := HeaderName.isPseudo_lower pseudo
          simp only [HeaderName.isPseudo, last, Bool.and_eq_true, beq_iff_eq] at closed
          exact signs.2 (Option.some.inj closed.2)
        · have named := (HeaderList.isFieldName_of_isPresent
            (HeaderList.mem_of_mem_sanitize listed).2).resolve_left pseudo
          rw [HeaderName.lower_eq_key (legible.resolve_left pseudo)] at last
          have token := (FieldName.chars ⟨name.key, named⟩).2 sign (List.mem_of_mem_getLast? last)
          simp [signs.1] at token }

theorem Lead.compact (shared : HmacAlgorithm.ofSecret signer.settings.hash
      signer.settings.secret.octets = .ok steps.algorithm) : Compact sign signature := by
  have space : Text.isBlank ' ' = true := by decide
  have algorithm : signature.algorithm =
      some (signer.settings.algorithmParameter steps.algorithm) := by rw [lead.told]
  have unspaced : ' ' ∉ (signer.settings.algorithmParameter steps.algorithm).toList := by
    unfold SigningSettings.algorithmParameter
    split
    · rw [HmacAlgorithm.identifier_eq shared]
      cases signer.settings.hash <;> decide
    · decide
  exact
    { algorithm := by
        intro text told
        obtain rfl := Option.some.inj (algorithm.symm.trans told)
        exact unspaced
      headers := fun name listed => lead.isItem policy portable known listed
      nonce := fun text told member => by
        simp [(lead.solid_nonce told ' ' member).1] at space
      string := fun member => by
        simp [(lead.solid_string ' ' member).1] at space }

end SigningSteps

namespace CommandLine

/-- A request that is signed in one place, printed and verified in another. -/
structure Trip where
  here : Surroundings
  there : Surroundings
  signingPath : String
  verifyingPath : String
  options : RequestOptions
  sending : SigningConfiguration
  receiving : VerificationConfiguration
  client : ClientConfiguration
  request : Request
  signature : Signature
  printed : List String
  start : Instant
  now : Instant

namespace Trip

variable (trip : Trip)

def signer : RequestSigner := { settings := trip.sending.settings }

def signed : Request := (trip.signer.sign trip.here.now trip.here.draws trip.request).request

/-- How far the clocks of the two places may be apart. -/
def skew : Duration :=
  (trip.client.clockSkewSeconds.map Duration.ofSeconds).getD trip.receiving.options.clockSkew

def nonceLifetime : Duration :=
  (trip.client.nonceLifetimeSeconds.map Duration.ofSeconds).getD
    trip.receiving.options.nonceLifetime

/-- The request is built and signed, its lines are printed, and the receiver knows the sender by the
secret that they share and is asked while the signature lasts. -/
structure Possible : Prop where
  begun : trip.here.now = some trip.start
  sends : loadConfiguration trip.here SigningConfiguration.ofValue? trip.signingPath =
    .ok trip.sending
  hmac : trip.sending.algorithm = .hmac
  portable : trip.sending.settings.Portable
  built : buildRequest trip.here trip.options = .ok trip.request
  undigested : trip.request.hasField "digest" = false
  unauthorized : trip.request.hasField "authorization" = false
  signs : (trip.signer.sign trip.here.now trip.here.draws trip.request).result = .ok trip.signature
  prints : runSign trip.here trip.signingPath trip.options = .ok trip.printed
  receives : loadConfiguration trip.there VerificationConfiguration.ofValue? trip.verifyingPath =
    .ok trip.receiving
  sameScheme : Text.asciiLower trip.sending.scheme = Text.asciiLower trip.receiving.scheme
  sameBody : ∀ path, trip.options.body = some path → trip.there.file? path = trip.here.file? path
  known : trip.client ∈ trip.receiving.clients
  distinct : (trip.receiving.clients.map ClientConfiguration.keyId).Nodup
  others : ∀ other ∈ trip.receiving.clients, other ≠ trip.client →
    ∃ made, other.toClient .standard = .ok made
  keyId : trip.client.keyId = trip.sending.keyId
  kind : trip.client.algorithm = .hmac
  hash : trip.client.hash = trip.sending.hash
  secret : trip.client.secret = some trip.sending.secret
  noPublicKey : trip.client.publicKey = none
  arrived : trip.there.now = some trip.now
  early : trip.start.floor.nanos ≤ trip.now.nanos + trip.skew.nanos
  late : trip.now.nanos ≤ trip.start.floor.nanos +
    (Duration.ofSeconds trip.sending.expiresSeconds).nanos + trip.skew.nanos

/-- No line of the authorization header breaks or is cut: neither a colon nor a comma has a space
behind it in the key identifier, and none ends the scheme. -/
def Readable : Prop :=
  ∀ sign ∈ [':', ','], trip.sending.scheme.toList.getLast? ≠ some sign ∧
    ¬[sign, ' '] <:+: trip.sending.keyId.text.toList

/-- The point in time until which a nonce has to be remembered can be represented. -/
def Memorable : Prop :=
  ∀ nonce, trip.signature.nonce = some nonce → nonce ≠ "" →
    ∃ expiration : Instant, expiration.nanos = trip.now.nanos + trip.nonceLifetime.nanos

/-- What would be signed of a request. -/
def text (request : Request) : String :=
  SigningString.compose request trip.signature.headers trip.start.floor
    trip.sending.settings.expires trip.signature.nonce

def tag (request : Request) : Bytes :=
  trip.sending.hash.hmac trip.sending.secret.octets (Bytes.ofText (trip.text request))

def cut : Request := trip.signed.setField .date (HttpDate.weekdayValue trip.start.floor)

/-- Whether signing added the date. -/
def Dated : Prop := DateAdded trip.signature.headers trip.request

variable {trip} {steps : SigningSteps} {made : Client} {other : Request}

/-- What a trip goes through: the steps of signing, and the client that the receiver knows. -/
structure Course (trip : Trip) (steps : SigningSteps) (made : Client) : Prop where
  lead : steps.Lead trip.signer trip.here.now trip.here.draws trip.request trip.signature
    trip.signed
  time : steps.time = trip.start.floor
  shared : HmacAlgorithm.ofSecret trip.sending.hash trip.sending.secret.octets =
    .ok made.algorithm
  own : steps.algorithm = made.algorithm
  loaded : trip.client.toClient .standard = .ok made
  skew : made.clockSkew.getD trip.receiving.options.clockSkew = trip.skew
  lifetime : made.nonceLifetime.getD trip.receiving.options.nonceLifetime = trip.nonceLifetime

theorem Possible.exists_course (possible : trip.Possible) :
    ∃ steps made, trip.Course steps made := by
  obtain ⟨steps, lead⟩ := RequestSigner.exists_steps rfl possible.signs
  have shared : HmacAlgorithm.ofSecret trip.sending.hash trip.sending.secret.octets =
      .ok steps.algorithm := by
    have created := lead.made
    rw [show trip.signer.settings.algorithm = .hmac from possible.hmac] at created
    exact AlgorithmRegistry.standard_create_hmac _ _ ▸ created
  have begun := lead.begun
  rw [possible.begun] at begun
  have set : trip.client.keyId.isUnset = false := by
    have filled : trip.sending.keyId.text ≠ "" :=
      (trip.signer.settings.validate_eq_ok_iff.1 lead.valid).keyId
    rw [possible.keyId]
    simpa [KeyId.isUnset] using filled
  have material : trip.client.material = .ok trip.sending.secret.octets := by
    rw [ClientConfiguration.material, possible.secret, possible.noPublicKey]
  refine ⟨steps, ⟨trip.client.keyId, trip.client.name, steps.algorithm,
    trip.client.nonceLifetimeSeconds.map Duration.ofSeconds,
    trip.client.clockSkewSeconds.map Duration.ofSeconds, trip.client.claims⟩, ?_⟩
  exact
    { lead
      time := (RequestSigner.floor_of_signingTime begun).1
      shared
      own := rfl
      loaded := by
        rw [ClientConfiguration.toClient, set, if_neg (by decide), material, possible.kind,
          possible.hash]
        simp only [bind, Except.bind, AlgorithmRegistry.standard_create_hmac, shared]
      skew := rfl
      lifetime := rfl }

section
variable (course : trip.Course steps made)
include course

theorem Course.names :
    trip.signature.headers = steps.names trip.sending.settings trip.request := by
  rw [course.lead.told]
  rfl

theorem Course.compose_eq (request : Request) :
    SigningString.compose request (steps.names trip.sending.settings trip.request) steps.time
      trip.sending.settings.expires (trip.sending.settings.nonce? trip.here.draws) =
        trip.text request := by
  rw [text, course.names, course.time, course.lead.told]
  rfl

theorem Course.text_ne_empty (request : Request) : trip.text request ≠ "" := by
  obtain ⟨name, listed, key⟩ : HeaderName.requestTarget.Occurs
      (steps.names trip.sending.settings trip.request) :=
    (HeaderList.target_and_required_occur (course.lead.requirement_cases rfl)).1
  rw [← course.compose_eq]
  refine SigningString.compose_ne_empty _ _ _ listed ?_
  simp [SigningString.contributes, (HeaderName.beq_iff name .requestTarget).2 key]

variable (possible : trip.Possible)
include possible

theorem Course.octets_eq : steps.octets = trip.tag trip.signed := by
  have answered := course.lead.answered
  rw [course.own, HmacAlgorithm.sign_eq_ok_iff course.shared,
    ← course.lead.compose_signed rfl possible.portable] at answered
  rw [tag, ← course.compose_eq]
  exact answered.2.symm

theorem Course.string_eq : trip.signature.string = Base64.encode (trip.tag trip.signed) := by
  rw [← course.octets_eq possible, course.lead.told]

theorem Course.verify_iff (other : Request) {floor : Instant}
    (told : Instant.ofUnixSeconds? steps.expires.unixSeconds = some floor) :
    made.algorithm.verify (Bytes.ofText (SigningString.compose other
        (lowered (steps.names trip.sending.settings trip.request)) steps.time
        (floor.since steps.time) ((trip.sending.settings.nonce? trip.here.draws).filter
          fun text => !text.isEmpty))) steps.octets = .ok true ↔
      trip.tag other = trip.tag trip.signed := by
  have nonempty := trip.sending.hash.hmac_ne_nil trip.sending.secret.octets
    (Bytes.ofText (trip.text trip.signed))
  have filled := mt (Text.Utf8.ofText_eq_nil_iff _).1 (course.text_ne_empty other)
  have same := course.lead.compose_normal rfl possible.portable other told
    (trip.sending.settings.nonce? trip.here.draws)
  rw [show trip.signer.settings = trip.sending.settings from rfl] at same
  rw [same, course.compose_eq, HmacAlgorithm.verify_eq_ok_true_iff course.shared,
    course.octets_eq possible]
  exact ⟨fun accepted => accepted.2.2, fun equal => ⟨filled, nonempty, equal⟩⟩

theorem Course.readable_iff :
    trip.Readable ↔ ∀ sign ∈ [':', ','],
      ¬[sign, ' '] <:+: (headerValue trip.sending.scheme trip.signature).toList := by
  have unspaced : ' ' ∉ trip.sending.scheme.toList := fun space =>
    absurd (possible.portable.scheme ' ' space) (by decide)
  have keyId : trip.signature.keyId = trip.sending.keyId := by
    rw [course.lead.told]
    rfl
  refine forall₂_congr fun sign among => ?_
  have known : sign = ':' ∨ sign = ',' := by simpa using among
  have compact := course.lead.compact rfl possible.portable known (course.own ▸ course.shared)
  rw [pair_infix_headerValue_iff unspaced compact known, keyId, not_or]

end

end Trip

end CommandLine
end SignedRequest
