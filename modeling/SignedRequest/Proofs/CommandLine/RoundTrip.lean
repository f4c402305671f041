import SignedRequest.Proofs.CommandLine.Trip

/-!
From the command line to the command line. A request is signed, the lines that are printed are given
with it, and the signature is verified. It is reported as valid if no line was cut; but the line of a
date that was added always is, and what is left of the request has another text than the one that was
signed.
-/

namespace SignedRequest.CommandLine
open Authorization Outcome

namespace Trip

variable {trip : Trip} {steps : SigningSteps} {made : Client} {other : Request}

def line (trip : Trip) : String := headerValue trip.sending.scheme trip.signature

theorem Possible.withPrinted_eq (possible : trip.Possible) :
    trip.options.withPrinted trip.printed =
      trip.options.withLines ((addedFields trip.request.fields trip.signed.fields).map lineOf) := by
  obtain ⟨-, -, printed⟩ := (runSign_eq_ok_iff possible.sends possible.built _).1 possible.prints
  have greeting : isAddedLine "✅ Request signed! (^///^)" = false := by decide
  rw [RequestOptions.withPrinted, ← printed, List.filter_cons, greeting,
    ← filter_flatMap_changedLines]
  rfl

theorem date_cut (trip : Trip) :
    trip.cut.firstFieldText? "date" = some (HttpDate.weekday trip.start.floor) := by
  rw [← HttpDate.text_weekdayValue]
  exact trip.signed.firstFieldText?_setField_self .date _

section
variable (course : trip.Course steps made)
include course

theorem Course.date_eq (dated : trip.Dated) :
    ∃ rest, trip.signed.firstFieldText? "date" =
      some (HttpDate.weekday trip.start.floor ++ ", " ++ rest) := by
  unfold Dated at dated
  rw [course.names] at dated
  rcases course.lead.values_date with ⟨-, text, value, told, written, values⟩ | ⟨other, -⟩
  · rw [course.time] at told
    obtain ⟨⟨rest, rfl⟩, -⟩ := HttpDate.exists_of_format? told
    refine ⟨rest, ?_⟩
    rw [Request.firstFieldText?, show "date" = FieldName.date.text from rfl,
      Request.fieldTexts_text, values]
    simp [FieldValue.text_of_ofText? written]
  · exact absurd dated other

theorem Course.hasField_cut (dated : trip.Dated) (text : String) :
    trip.cut.hasField text = trip.signed.hasField text := by
  have carried : trip.signed.hasField "date" = true := by
    obtain ⟨rest, first⟩ := course.date_eq dated
    rw [Request.hasField_eq_isSome, first, Option.isSome_some]
  rw [cut, Request.hasField_setField]
  by_cases day : Text.asciiLower text = FieldName.date.text
  · have spelled : Text.asciiLower text = Text.asciiLower "date" :=
      day.trans FieldName.date.asciiLower_text.symm
    rw [trip.signed.hasField_congr spelled, carried, Bool.or_true]
  · rw [beq_eq_false_iff_ne.2 day, Bool.false_or]

theorem Course.text_cut_ne (dated : trip.Dated) : trip.text trip.cut ≠ trip.text trip.signed := by
  obtain ⟨rest, first⟩ := course.date_eq dated
  intro same
  have sameNames : SigningString.SameNames trip.cut trip.signed := by
    intro name
    rw [← Request.hasField_text, ← Request.hasField_text, course.hasField_cut dated]
  have alike := SigningString.date_of_compose_eq sameNames same dated.1
  have texts := congrArg (fun text => text.toList.length)
    (Option.some.inj ((trip.date_cut.symm.trans alike).trans first))
  simp only [String.toList_append, List.length_append] at texts
  -- With equal texts the day of the week would be as long as the whole date.
  have positive : ", ".toList.length = 2 := by decide
  omega

variable (possible : trip.Possible)
include possible

theorem Course.unlisted : ¬(HeaderName.mk "authorization").Occurs trip.signature.headers := by
  rw [course.names]
  exact course.lead.unlisted rfl possible.portable

variable (rebuilt : Rebuilt trip.signature.headers trip.start.floor trip.line trip.request
    trip.signed other)
  (unbroken : ¬[':', ' '] <:+: trip.line.toList)
include rebuilt unbroken

theorem Course.fieldTexts_authorization (single : ¬[',', ' '] <:+: trip.line.toList) :
    other.fieldTexts "authorization" = trip.signed.fieldTexts "authorization" := by
  have filled := (trip.signer.settings.validate_eq_ok_iff.1 course.lead.valid).scheme
  rw [rebuilt.authorization, course.lead.fieldTexts_authorization]
  exact settle_headerValue filled (.of_solid possible.portable.scheme) unbroken single

variable (single : ¬[',', ' '] <:+: trip.line.toList)
include single

theorem Course.hasField_eq (text : String) : other.hasField text = trip.signed.hasField text := by
  by_cases carrier : Text.asciiLower text = "authorization"
  · have spelled : Text.asciiLower text = Text.asciiLower "authorization" :=
      carrier.trans FieldName.authorization.asciiLower_text.symm
    rw [other.hasField_congr spelled, trip.signed.hasField_congr spelled, Request.hasField_eq,
      Request.hasField_eq, course.fieldTexts_authorization possible rebuilt unbroken single]
  · by_cases day : Text.asciiLower text = "date"
    · have spelled : Text.asciiLower text = Text.asciiLower "date" :=
        day.trans FieldName.date.asciiLower_text.symm
      rw [other.hasField_congr spelled, trip.signed.hasField_congr spelled,
        Request.hasField_eq_isSome, Request.hasField_eq_isSome]
      by_cases dated : trip.Dated
      · obtain ⟨rest, first⟩ := course.date_eq dated
        rw [first, rebuilt.dated dated, Option.isSome_some, Option.isSome_some]
      · rw [rebuilt.undated dated]
    · rw [Request.hasField_eq, Request.hasField_eq, rebuilt.others text day carrier]

theorem Course.text_rebuilt :
    (trip.Dated → trip.text other = trip.text trip.cut) ∧
      (¬trip.Dated → trip.text other = trip.text trip.signed) := by
  have carried := course.hasField_eq possible rebuilt unbroken single
  have unlisted := course.unlisted possible
  constructor
  · intro dated
    have cutMethod : other.method = trip.cut.method := rebuilt.method
    refine compose_alike cutMethod rebuilt.target
      (fun text => (carried text).trans (course.hasField_cut dated text).symm)
      (fun text day carrier => ?_) ?_ unlisted _ _ _
    · rw [rebuilt.others text day carrier, cut, Request.fieldTexts_setField]
      exact (if_neg day).symm
    · rw [rebuilt.dated dated, trip.date_cut]
  · intro undated
    exact compose_alike rebuilt.method rebuilt.target carried rebuilt.others
      (rebuilt.undated undated) unlisted _ _ _

theorem Course.tag_rebuilt_iff :
    trip.tag other = trip.tag trip.signed ↔
      (trip.Dated → trip.tag trip.cut = trip.tag trip.signed) := by
  obtain ⟨dated, undated⟩ := course.text_rebuilt possible rebuilt unbroken single
  by_cases added : trip.Dated
  · simp only [tag, dated added, added, forall_const]
  · simp only [tag, undated added, added, false_implies]

theorem Course.received :
    RequestVerifier.received? trip.receiving.options other = some (normal trip.signature) := by
  have first : other.firstFieldText? "authorization" =
      trip.signed.firstFieldText? "authorization" :=
    congrArg List.head? (course.fieldTexts_authorization possible rebuilt unbroken single)
  rw [RequestVerifier.received?_eq_some_iff, first]
  exact course.lead.received rfl rfl possible.portable possible.sameScheme

end

section
variable (course : trip.Course steps made) (possible : trip.Possible)
include course possible

theorem Course.admissible :
    ((receiver trip.receiving).evidence trip.signed (normal trip.signature) made
      trip.now).Admissible steps.requirement := by
  have lasting : steps.expires.nanos = trip.start.floor.nanos +
      (Duration.ofSeconds trip.sending.expiresSeconds).nanos :=
    course.time ▸ (Instant.add?_eq_some_iff _ _ _).1 course.lead.lasting
  have early := possible.early
  have late := possible.late
  refine course.lead.admissible rfl rfl possible.portable rfl ?_ ?_ ?_ ?_
  · intro value first
    have none := possible.undigested
    rw [Request.hasField_eq_isSome, first] at none
    simp at none
  · exact SigningSettings.matches_hmac possible.hmac course.shared _ _
  · rw [course.time]
    exact course.skew ▸ early
  · have whole : trip.now.nanos ≤ steps.expires.unixSeconds * 1000000000 + trip.skew.nanos := by
      simp only [Instant.unixSeconds, Instant.floor, Duration.ofSeconds] at lasting late ⊢
      omega
    exact course.skew ▸ whole

theorem Course.signed_iff {created expires : Instant} {octets : Bytes}
    (begun : (normal trip.signature).created = some created)
    (ended : (normal trip.signature).expires = some expires)
    (decoded : Base64.decode? (normal trip.signature).string = some octets) :
    made.algorithm.verify (Bytes.ofText (SigningString.compose other
        (normal trip.signature).headers created (expires.since created)
        (normal trip.signature).nonce)) octets = .ok true ↔
      trip.tag other = trip.tag trip.signed := by
  obtain ⟨floor, told⟩ := steps.expires.exists_ofUnixSeconds?
  rw [course.lead.normal_eq rfl rfl possible.portable told] at begun ended decoded ⊢
  obtain rfl := Option.some.inj begun
  obtain rfl := Option.some.inj ended
  obtain rfl := Option.some.inj ((Base64.decode?_encode _).symm.trans decoded)
  exact course.verify_iff possible other told

omit possible in
theorem Course.fresh_iff :
    (receiver trip.receiving).Fresh (normal trip.signature) made trip.now .empty ↔
      trip.Memorable := by
  have lifetime : made.nonceLifetime.getD (receiver trip.receiving).options.nonceLifetime =
      trip.nonceLifetime :=
    course.lifetime
  have nonce : (normal trip.signature).nonce =
      trip.signature.nonce.filter fun text => !text.isEmpty := rfl
  simp only [RequestVerifier.Fresh, Memorable, nonce, lifetime, registers_receiver,
    Option.filter_eq_some_iff, and_imp, and_true]
  simp

section
variable {table : ClientTable} (found : table.get trip.client.keyId = .ok made)
  (rebuilt : Rebuilt trip.signature.headers trip.start.floor trip.line trip.request trip.signed
    other)
  (unbroken : ¬[':', ' '] <:+: trip.line.toList)
include found

theorem Course.known :
    ((receiver trip.receiving).clients.get (some trip.now) (normal trip.signature).keyId
      (table, .empty)).1 = .ok made := by
  have keyId : (normal trip.signature).keyId = trip.client.keyId := by
    rw [possible.keyId, normal, course.lead.told]
    rfl
  rw [get_receiver, keyId, found]

include rebuilt unbroken

theorem Course.of_accepted {client : Client} {signature : Signature}
    (accepted : (receiver trip.receiving).Accepted trip.now other (table, .empty) .empty client
      signature) :
    ¬[',', ' '] <:+: trip.line.toList ∧ trip.Memorable ∧
      trip.tag other = trip.tag trip.signed := by
  obtain ⟨value, parameters, first, stripped, parsed⟩ := accepted.received
  have compact : Compact ',' trip.signature :=
    course.lead.compact rfl possible.portable (.inr rfl) (course.own ▸ course.shared)
  have plain : '"' ∉ trip.signature.keyId.text.toList := by
    rw [course.lead.told]
    exact possible.portable.keyId
  -- Of a header value that was cut no signature is read, so this one was whole.
  have single : ¬[',', ' '] <:+: trip.line.toList := by
    refine not_pair_of_read possible.portable.scheme compact plain possible.sameScheme unbroken ?_
      stripped parsed
    rw [← first, Request.firstFieldText?, rebuilt.authorization]
    rfl
  obtain rfl := Option.some.inj ((course.received possible rebuilt unbroken single).symm.trans
    ((RequestVerifier.received?_eq_some_iff _ _ _).2 accepted.received))
  obtain rfl := Except.ok.inj ((course.known possible found).symm.trans accepted.known)
  obtain ⟨_, admissible⟩ := accepted.admissible
  obtain ⟨created, expires, octets, begun, ended, -, -, decoded, verified⟩ := admissible.signed
  exact ⟨single, course.fresh_iff.1 accepted.fresh,
    (course.signed_iff possible begun ended decoded).1 verified⟩

theorem Course.accepted (single : ¬[',', ' '] <:+: trip.line.toList) (memorable : trip.Memorable)
    (same : trip.tag other = trip.tag trip.signed) :
    (receiver trip.receiving).Accepted trip.now other (table, .empty) .empty made
      (normal trip.signature) where
  received := (RequestVerifier.received?_eq_some_iff _ _ _).1
    (course.received possible rebuilt unbroken single)
  named := by
    rw [normal, course.lead.told]
    exact (trip.signer.settings.validate_eq_ok_iff.1 course.lead.valid).keyId
  signed := by
    have string : (normal trip.signature).string = trip.signature.string := rfl
    rw [string, course.string_eq possible, Ne, Base64.encode_eq_empty_iff]
    exact HashAlgorithm.hmac_ne_nil _ _ _
  known := course.known possible found
  admissible := by
    refine ⟨_, (course.admissible possible).of_request ?_ ?_ rebuilt.body ?_⟩
    · intro name _ present
      rw [← Request.hasField_iff] at present ⊢
      exact (course.hasField_eq possible rebuilt unbroken single _).trans present
    · rw [Request.firstFieldText?, rebuilt.others "digest" (by decide) (by decide)]
      rfl
    · intro created expires octets begun ended decoded
      exact (course.signed_iff possible begun ended decoded).2 same
  fresh := course.fresh_iff.2 memorable

/-- The receiver accepts a request that is built again exactly if the authorization header is one
value, the nonce can be remembered, and the request has the tag that was sent. -/
theorem Course.accepted_iff :
    (∃ client signature, ((receiver trip.receiving).verify (some trip.now) other (table, .empty)
        .empty).1 = .ok (.success client signature)) ↔
      ¬[',', ' '] <:+: trip.line.toList ∧ trip.Memorable ∧
        trip.tag other = trip.tag trip.signed := by
  constructor
  · rintro ⟨client, signature, success⟩
    obtain ⟨_, ⟨⟩, accepted⟩ := RequestVerifier.accepted_of_verify _ success
    exact course.of_accepted possible found rebuilt unbroken accepted
  · rintro ⟨single, memorable, same⟩
    exact ⟨made, _, RequestVerifier.verify_of_accepted _
      (course.accepted possible found rebuilt unbroken single memorable same)⟩

end

theorem Course.mem_addedFields :
    (FieldName.authorization, trip.line) ∈
      addedFields trip.request.fields trip.signed.fields := by
  have changed := changed_authorization course.lead possible.unauthorized
  refine List.mem_flatMap.2 ⟨.authorization, List.mem_filter.2 ⟨?_, by decide⟩, ?_⟩
  · rw [Fields.mem_names_iff, course.lead.values_authorization]
    simp
  · rw [changed]
    exact List.mem_singleton.2 rfl

theorem Course.built_iff :
    (∃ other, buildRequest trip.there (trip.options.withPrinted trip.printed) = .ok other) ↔
      ¬[':', ' '] <:+: trip.line.toList := by
  rw [possible.withPrinted_eq]
  constructor
  · rintro ⟨other, built⟩
    exact (buildRequest_withLines possible.built possible.sameBody built).1 _
      (course.mem_addedFields possible)
  · intro unbroken
    refine exists_buildRequest_withLines possible.built possible.sameBody fun field member => ?_
    obtain ⟨writable, rfl | clear⟩ := sound_of_mem_addedFields course.lead possible.undigested
      possible.unauthorized (given_of_buildRequest possible.built "date") member
    · exact ⟨unbroken, writable⟩
    · exact ⟨clear, writable⟩

theorem Course.rebuilt (built : buildRequest trip.there
    (trip.options.withPrinted trip.printed) = .ok other) :
    Rebuilt trip.signature.headers trip.start.floor trip.line trip.request trip.signed other := by
  rw [possible.withPrinted_eq] at built
  have longer := (buildRequest_withLines possible.built possible.sameBody built).2
  rw [course.names, ← course.time]
  exact rebuilt_of_extends longer course.lead possible.undigested possible.unauthorized

end

/-- A request that was signed on one command line is reported as valid on the other exactly if the
line of its authorization header is read whole and its nonce can be remembered, unless a date was
added: of that the day of the week is left, and two texts that differ would have to have one tag. -/
theorem verify_printed_iff (possible : trip.Possible) :
    (ReportsValid (runVerify trip.there trip.verifyingPath
        (trip.options.withPrinted trip.printed)) ↔
      trip.Readable ∧ trip.Memorable ∧
        (trip.Dated → trip.tag trip.cut = trip.tag trip.signed)) ∧
      (trip.Dated → trip.text trip.cut ≠ trip.text trip.signed) := by
  obtain ⟨steps, made, course⟩ := possible.exists_course
  refine ⟨?_, course.text_cut_ne⟩
  have sound : ∀ client ∈ trip.receiving.clients, ∃ made, client.toClient .standard = .ok made := by
    intro client member
    by_cases own : client = trip.client
    · exact own ▸ ⟨made, course.loaded⟩
    · exact possible.others client member own
  obtain ⟨table, found, reports⟩ := exists_table possible.receives ⟨sound, possible.distinct⟩
  have sender := found trip.client possible.known made course.loaded
  rw [reports, possible.arrived, course.readable_iff possible]
  simp only [List.forall_mem_cons, List.not_mem_nil, false_implies, implies_true, and_true]
  constructor
  · rintro ⟨other, client, signature, built, success⟩
    have unbroken := (course.built_iff possible).1 ⟨other, built⟩
    have rebuilt := course.rebuilt possible built
    obtain ⟨single, memorable, same⟩ :=
      (course.accepted_iff possible sender rebuilt unbroken).1 ⟨client, signature, success⟩
    exact ⟨⟨unbroken, single⟩, memorable,
      (course.tag_rebuilt_iff possible rebuilt unbroken single).1 same⟩
  · rintro ⟨⟨unbroken, single⟩, memorable, same⟩
    obtain ⟨other, built⟩ := (course.built_iff possible).2 unbroken
    have rebuilt := course.rebuilt possible built
    obtain ⟨client, signature, success⟩ := (course.accepted_iff possible sender rebuilt unbroken).2
      ⟨single, memorable, (course.tag_rebuilt_iff possible rebuilt unbroken single).2 same⟩
    exact ⟨other, client, signature, built, success⟩

end Trip

namespace Posted

def surroundings : Surroundings where
  file? := fun path =>
    if path = "sender" then some (.ofText "key-id='a'\nsecret='s'\nalgorithm='hmac'")
    else if path = "receiver" then
      some (.ofText "[[clients]]\nkey-id='a'\nname='b'\nalgorithm='hmac'\nsecret='s'")
    else none
  now := some .epoch
  draws := ⟨[], []⟩

def options : RequestOptions := ⟨"GET", "http://a/", [], none⟩

def request : Request := .ofMethodAndTarget .get (.absolute "http" "a" "/")

def sending : SigningConfiguration where
  keyId := ⟨"a"⟩
  secret := .ofText "s"
  algorithm := .hmac
  hash := .sha256
  expiresSeconds := 300
  headers := [.requestTarget]
  scheme := defaultScheme
  digest := none
  parameter := .explicit
  withNonce := false

def client : ClientConfiguration where
  keyId := ⟨"a"⟩
  name := "b"
  algorithm := .hmac
  hash := .sha256
  secret := some (.ofText "s")
  publicKey := none
  nonceLifetimeSeconds := none
  clockSkewSeconds := none
  claims := []

def receiving : VerificationConfiguration where
  scheme := defaultScheme
  clockSkewSeconds := 60
  nonceLifetimeSeconds := 300
  cacheSeconds := 0
  clients := [client]

def outcome : SigningOutcome :=
  RequestSigner.sign { settings := sending.settings } (some .epoch) ⟨[], []⟩ request

def left : Request :=
  outcome.request.setField .date (HttpDate.weekdayValue Instant.epoch.floor)

def trip (signature : Signature) (printed : List String) : Trip where
  here := surroundings
  there := surroundings
  signingPath := "sender"
  verifyingPath := "receiver"
  options
  sending
  receiving
  client
  request
  signature
  printed
  start := .epoch
  now := .epoch

theorem sends :
    loadConfiguration surroundings SigningConfiguration.ofValue? "sender" = .ok sending := by
  have read : (loadConfiguration surroundings SigningConfiguration.ofValue?
      "sender").toOption.any (fun read => read.keyId == ⟨"a"⟩ && read.secret == .ofText "s" &&
        read.algorithm == .hmac && read.hash == .sha256 && read.expiresSeconds == 300 &&
        read.headers.map HeaderName.text == ["(request-target)"] &&
        read.scheme == defaultScheme && read.digest == none && read.parameter == .explicit &&
        read.withNonce == false) = true := by
    decide +kernel
  obtain ⟨⟨⟩, told, same⟩ := (Option.any_eq_true _ _).1 read
  rw [(toOption_eq_some_iff _ _).1 told]
  simp only [Bool.and_eq_true, beq_iff_eq, List.map_eq_singleton_iff] at same
  obtain ⟨⟨⟨⟨⟨⟨⟨⟨⟨rfl, rfl⟩, rfl⟩, rfl⟩, rfl⟩, ⟨⟨_⟩, rfl, rfl⟩⟩, rfl⟩, rfl⟩, rfl⟩, rfl⟩ := same
  rfl

theorem receives :
    loadConfiguration surroundings VerificationConfiguration.ofValue? "receiver" =
      .ok receiving := by
  have read : (loadConfiguration surroundings VerificationConfiguration.ofValue?
      "receiver").toOption.any (fun read => read.scheme == defaultScheme &&
        read.clockSkewSeconds == 60 && read.nonceLifetimeSeconds == 300 && read.cacheSeconds == 0 &&
        read.clients.map (fun client => (client.keyId, client.name, client.algorithm, client.hash,
          client.secret)) == [(⟨"a"⟩, "b", .hmac, .sha256, some (.ofText "s"))] &&
        read.clients.all fun client => client.publicKey == none &&
          client.nonceLifetimeSeconds == none && client.clockSkewSeconds == none &&
            client.claims.length == 0) = true := by
    decide +kernel
  obtain ⟨⟨⟩, told, same⟩ := (Option.any_eq_true _ _).1 read
  rw [(toOption_eq_some_iff _ _).1 told]
  simp only [Bool.and_eq_true, beq_iff_eq, List.map_eq_singleton_iff, Prod.mk.injEq] at same
  obtain ⟨⟨⟨⟨⟨rfl, rfl⟩, rfl⟩, rfl⟩, ⟨⟨⟩, rfl, rfl, rfl, rfl, rfl, rfl⟩⟩, others⟩ := same
  simp only [List.all_cons, List.all_nil, Bool.and_true, Bool.and_eq_true, beq_iff_eq,
    List.length_eq_zero_iff] at others
  obtain ⟨⟨⟨rfl, rfl⟩, rfl⟩, rfl⟩ := others
  rfl

theorem built : buildRequest surroundings options = .ok request := by
  refine (buildRequest_eq_ok_iff _ _ _).2 ⟨.get, .absolute "http" "a" "/", _, ?_, ?_, rfl,
    .inl ⟨rfl, rfl⟩⟩
  · rfl
  · rfl

theorem portable : sending.settings.Portable where
  keyId := by decide
  names := by
    intro name listed
    obtain rfl := List.mem_singleton.1 listed
    exact Text.forall_mem_of_all (by decide)
  scheme := Text.forall_mem_of_all (by decide)
  unlisted := by
    rw [← HeaderName.contains_iff]
    decide

theorem exists_printed {signature : Signature} (signs : outcome.result = .ok signature) :
    ∃ printed, runSign surroundings "sender" options = .ok printed :=
  ⟨_, (runSign_eq_ok_iff sends built _).2 ⟨rfl, ⟨signature, signs⟩, rfl⟩⟩

theorem possible {signature : Signature} {printed : List String}
    (signs : outcome.result = .ok signature)
    (prints : runSign surroundings "sender" options = .ok printed) :
    (trip signature printed).Possible where
  begun := rfl
  sends := sends
  hmac := rfl
  portable := portable
  built := built
  undigested := rfl
  unauthorized := rfl
  signs := signs
  prints := prints
  receives := receives
  sameScheme := rfl
  sameBody := fun _ _ => rfl
  known := List.mem_singleton.2 rfl
  distinct := List.nodup_singleton _
  others := fun other member apart => absurd (List.mem_singleton.1 member) apart
  keyId := rfl
  kind := rfl
  hash := rfl
  secret := rfl
  noPublicKey := rfl
  arrived := rfl
  early := show Instant.epoch.floor.nanos ≤ Instant.epoch.nanos + (Duration.ofSeconds 60).nanos by
    decide
  late := show Instant.epoch.nanos ≤ Instant.epoch.floor.nanos + (Duration.ofSeconds 300).nanos +
      (Duration.ofSeconds 60).nanos by
    decide

theorem sign_eq (signature : Signature) (printed : List String) :
    let trip := trip signature printed
    trip.signer.sign trip.here.now trip.here.draws trip.request = outcome := rfl

theorem cut_eq (signature : Signature) (printed : List String) :
    (trip signature printed).cut = left := by
  rw [Trip.cut, Trip.signed, sign_eq]
  rfl

theorem tag_eq (signature : Signature) (printed : List String) (request : Request) :
    (trip signature printed).tag request = (trip signature []).tag request := rfl

theorem signed_facts :
    outcome.result.toOption.any (fun signature => signature.headers.contains .date &&
      signature.string != Base64.encode ((trip signature []).tag left)) = true := by
  decide +kernel

/-- A date is added to the request, and so it is not reported as valid. -/
theorem not_reported :
    ∃ printed, runSign surroundings "sender" options = .ok printed ∧
      ¬ReportsValid (runVerify surroundings "receiver" (options.withPrinted printed)) := by
  obtain ⟨signature, told, facts⟩ := (Option.any_eq_true _ _).1 signed_facts
  simp only [Bool.and_eq_true, bne_iff_ne] at facts
  have signs := (toOption_eq_some_iff _ _).1 told
  obtain ⟨printed, prints⟩ := exists_printed signs
  have possible := possible signs prints
  obtain ⟨steps, made, course⟩ := possible.exists_course
  have dated : (trip signature printed).Dated :=
    ⟨(HeaderName.contains_iff _ _).1 facts.1, rfl⟩
  refine ⟨printed, prints, fun valid => facts.2 ?_⟩
  have same := ((Trip.verify_printed_iff possible).1.1 valid).2.2 dated
  rw [cut_eq, tag_eq] at same
  rw [same]
  exact course.string_eq possible

end Posted

end SignedRequest.CommandLine
