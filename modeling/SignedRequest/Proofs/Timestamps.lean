import SignedRequest.Algorithm.Custom
import SignedRequest.Proofs.Authorization.RoundTrip
import SignedRequest.Proofs.Signing.Steps
import SignedRequest.Proofs.SigningString.Lines
import SignedRequest.Proofs.Time
import SignedRequest.Verification.Check

/-!
The times that are signed, beside those that are written among the parameters. The text is composed
of the time of signing and a length of time, of which it adds the whole seconds; the parameters tell
the two times themselves. Both agree on when a signature was made. They agree on when it expires
exactly if the sender's seconds add up without their fractions, and the receiver does not find a
time of expiry that comes before the time of signing.
-/

namespace SignedRequest
open Outcome

def Timestamp.name : Timestamp → HeaderName
  | created => .created
  | expires => .expires

def Signature.time? (signature : Signature) : Timestamp → Option Instant
  | .created => signature.created
  | .expires => signature.expires

namespace Authorization

theorem Written.render_eq_bare_iff {parameter : Written} {key : String} (n : Nat)
    (named : '=' ∉ parameter.key.toList) (keyed : '=' ∉ key.toList) :
    parameter.render = bare key n ↔ parameter = ⟨key, .bare n⟩ := by
  obtain ⟨name, value⟩ := parameter
  constructor
  · intro same
    have parts {rest : String} (written : name ++ "=" ++ rest = bare key n) :
        name = key ∧ rest = toString n := by
      have chars := congrArg String.toList written
      simp only [bare, String.toList_append, List.append_assoc] at chars
      obtain ⟨names, rests⟩ := Text.append_cons_inj
        ((List.count_eq_zero.2 named).trans (List.count_eq_zero.2 keyed).symm) chars
      exact ⟨String.toList_injective names, String.toList_injective rests⟩
    cases value with
    | quoted text =>
      have written : name ++ "=" ++ ("\"" ++ text ++ "\"") = bare key n := by
        rw [← same]
        apply String.toList_injective
        simp [Written.render, quoted, String.toList_append]
      obtain ⟨-, digits⟩ := parts written
      have quotes : '"' ∈ (toString n).toList := by simp [← digits, String.toList_append]
      exact absurd (isDigit_of_mem_toString quotes) (by decide)
    | bare m =>
      obtain ⟨rfl, digits⟩ := parts same
      rw [toString_inj.1 digits]
  · rintro ⟨rfl, rfl⟩
    rfl

theorem equals_not_mem_key {signature : Signature} {parameter : Written}
    (member : parameter ∈ written signature) : '=' ∉ parameter.key.toList := by
  simp only [written, List.mem_append, List.mem_singleton, Option.mem_toList,
    Option.map_eq_some_iff] at member
  rcases member with ((((((rfl | ⟨_, _, rfl⟩) | ⟨_, _, rfl⟩) | ⟨_, _, rfl⟩) | rfl) |
    ⟨_, _, rfl⟩) | rfl)
  all_goals simp

theorem bare_mem_parameters_iff (signature : Signature) (timestamp : Timestamp) (n : Nat) :
    bare timestamp.parameter n ∈ parameters signature ↔
      (signature.time? timestamp).map Instant.unixSeconds = some n := by
  have found : bare timestamp.parameter n ∈ parameters signature ↔
      ⟨timestamp.parameter, .bare n⟩ ∈ written signature := by
    rw [← map_render_written, List.mem_map]
    constructor
    · rintro ⟨parameter, member, same⟩
      have keyed : '=' ∉ timestamp.parameter.toList := by cases timestamp <;> decide
      rwa [(Written.render_eq_bare_iff n (equals_not_mem_key member) keyed).1 same] at member
    · exact fun member => ⟨_, member, rfl⟩
  rw [found]
  cases timestamp <;> simp [written, Signature.time?, Timestamp.parameter]

end Authorization

namespace SigningString

/-- The number that a text composed at a time for a length of time tells for a timestamp. -/
def secondsOf (time : Instant) (lifetime : Duration) : Timestamp → Nat
  | .created => time.unixSeconds
  | .expires => expiresSeconds time lifetime

variable (request : Request) (time : Instant) (lifetime : Duration) (signature : Signature)

theorem line?_of_timestamp {name : HeaderName} {timestamp : Timestamp}
    (named : (name == timestamp.name) = true) :
    line? request time lifetime name =
      some (name.lower ++ ": " ++ toString (secondsOf time lifetime timestamp)) := by
  have key := (HeaderName.beq_iff name timestamp.name).1 named
  have other {special : HeaderName} (different : timestamp.name.key ≠ special.key) :
      (name == special) = false :=
    HeaderName.beq_eq_false (key ▸ different)
  cases timestamp with
  | created =>
    rw [line?, other (by decide), show (name == .created) = true from named]
    rfl
  | expires =>
    rw [line?, other (by decide), other (by decide), show (name == .expires) = true from named]
    rfl

/-- Wherever a timestamp is listed, the text tells the number that is written for it among the
parameters of the signature. -/
def TellsAsWritten (timestamp : Timestamp) : Prop :=
  ∀ name ∈ signature.headers, (name == timestamp.name) = true → ∃ n,
    line? request time lifetime name = some (name.lower ++ ": " ++ toString n) ∧
      Authorization.bare timestamp.parameter n ∈ Authorization.parameters signature

theorem tellsAsWritten_iff (timestamp : Timestamp) :
    TellsAsWritten request time lifetime signature timestamp ↔
      (timestamp.name.Occurs signature.headers →
        (signature.time? timestamp).map Instant.unixSeconds =
          some (secondsOf time lifetime timestamp)) := by
  constructor
  · rintro told ⟨name, member, key⟩
    have named := (HeaderName.beq_iff name timestamp.name).2 key
    obtain ⟨n, line, written⟩ := told name member named
    rw [line?_of_timestamp request time lifetime named, Option.some.injEq, String.append_right_inj,
      Authorization.toString_inj] at line
    exact line ▸ (Authorization.bare_mem_parameters_iff signature timestamp n).1 written
  · intro agrees name member named
    have listed : timestamp.name.Occurs signature.headers :=
      ⟨name, member, (HeaderName.beq_iff name timestamp.name).1 named⟩
    exact ⟨_, line?_of_timestamp request time lifetime named,
      (Authorization.bare_mem_parameters_iff signature timestamp _).2 (agrees listed)⟩

variable {request time lifetime signature}

theorem tellsAsWritten_created (made : signature.created = some time) :
    TellsAsWritten request time lifetime signature .created := by
  rw [tellsAsWritten_iff, Signature.time?, made]
  exact fun _ => rfl

theorem tellsAsWritten_expires_iff {later expires : Instant}
    (sum : time.add? lifetime = some later) (ends : signature.expires = some expires) :
    TellsAsWritten request time lifetime signature .expires ↔
      (HeaderName.expires.Occurs signature.headers →
        time.unixSeconds + lifetime.seconds = expires.unixSeconds) := by
  rw [tellsAsWritten_iff, Signature.time?, ends, secondsOf, expiresSeconds_of_add? sum]
  simp only [Option.map_some, Option.some.injEq, Timestamp.name, @eq_comm _ expires.unixSeconds]

end SigningString

open SigningString

theorem SigningSettings.tells_expires_iff {settings : SigningSettings}
    {registry : AlgorithmRegistry} {draws : Draws} {time : Instant} {request : Request}
    {signature : Signature}
    (created : settings.createSignature registry draws time request = .ok signature) :
    TellsAsWritten request time settings.expires signature .expires ↔
      (HeaderName.expires.Occurs settings.headers → time.AddsWhole settings.expires) := by
  obtain ⟨expires, algorithm, octets, lasting, -, -, told⟩ :=
    RequestSigner.createSignature_eq_ok created
  have ends : signature.expires = some expires := by rw [told]
  rw [tellsAsWritten_expires_iff lasting ends, Instant.unixSeconds_add_iff lasting, told]

theorem Evidence.tells_expires_iff {evidence : Evidence} {created expires : Instant}
    (ends : evidence.signature.expires = some expires) (whole : created.IsWhole)
    (wholeEnd : expires.IsWhole) :
    TellsAsWritten evidence.request created (expires.since created) evidence.signature .expires ↔
      (HeaderName.expires.Occurs evidence.signature.headers →
        created.nanos ≤ expires.nanos) := by
  obtain ⟨later, sum⟩ := Instant.exists_add?_since created expires
  have ordered : max created.unixSeconds expires.unixSeconds = expires.unixSeconds ↔
      created.nanos ≤ expires.nanos := by
    unfold Instant.IsWhole at whole wholeEnd
    omega
  rw [tellsAsWritten_expires_iff sum ends, whole.unixSeconds_add_since wholeEnd, ordered]

/-- A sender signs a text that tells the time of signing as it is written, and the time of expiry
exactly if that is not listed or the seconds add up without their fractions. A receiver recomposes a
text that tells the time of signing as it is written, and the time of expiry exactly if that is not
listed or does not come first. -/
theorem timestamps_told_iff (settings : SigningSettings) (registry : AlgorithmRegistry)
    (draws : Draws) (time : Instant) (request : Request) (evidence : Evidence) :
    (∀ signature, settings.createSignature registry draws time request = .ok signature →
      (∃ algorithm octets,
        registry.create settings.algorithm settings.hash settings.secret.octets = .ok algorithm ∧
        algorithm.sign draws (Bytes.ofText (compose request signature.headers time
          settings.expires signature.nonce)) = .ok octets ∧
        signature.string = Base64.encode octets) ∧
      TellsAsWritten request time settings.expires signature .created ∧
      (TellsAsWritten request time settings.expires signature .expires ↔
        (HeaderName.expires.Occurs settings.headers → time.AddsWhole settings.expires))) ∧
    ∀ created expires : Instant,
      evidence.signature.created = some created → evidence.signature.expires = some expires →
      created.IsWhole → expires.IsWhole →
        evidence.signingString created expires =
          compose evidence.request evidence.signature.headers created (expires.since created)
            evidence.signature.nonce ∧
        TellsAsWritten evidence.request created (expires.since created) evidence.signature
          .created ∧
        (TellsAsWritten evidence.request created (expires.since created) evidence.signature
            .expires ↔
          (HeaderName.expires.Occurs evidence.signature.headers →
            created.nanos ≤ expires.nanos)) := by
  constructor
  · intro signature created
    obtain ⟨expires, algorithm, octets, -, made, signed, told⟩ :=
      RequestSigner.createSignature_eq_ok created
    have text : ∃ algorithm octets,
        registry.create settings.algorithm settings.hash settings.secret.octets = .ok algorithm ∧
        algorithm.sign draws (Bytes.ofText (compose request signature.headers time
          settings.expires signature.nonce)) = .ok octets ∧
        signature.string = Base64.encode octets := by
      rw [told]
      exact ⟨algorithm, octets, made, signed, rfl⟩
    exact ⟨text, tellsAsWritten_created (by rw [told]), SigningSettings.tells_expires_iff created⟩
  · intro created expires begins ends whole wholeEnd
    exact ⟨rfl, tellsAsWritten_created begins,
      Evidence.tells_expires_iff ends whole wholeEnd⟩

namespace Halves

def half : Instant := ⟨500000000, by decide⟩

def settings : SigningSettings where
  keyId := ⟨"client"⟩
  secret := .ofText "s"
  algorithm := .hmac
  expires := ⟨500000000, by decide⟩
  headers := [.requestTarget, .created, .expires]

def request : Request := .ofMethodAndTarget .get (.origin "/")

def second : Instant := ⟨1000000000, by decide⟩

def evidence : Evidence where
  request
  signature :=
    { keyId := ⟨"client"⟩
      algorithm := none
      created := some second
      expires := some .epoch
      headers := [.requestTarget, .created, .expires]
      string := "AA=="
      nonce := none }
  client :=
    { keyId := ⟨"client"⟩
      name := "client"
      algorithm := CustomAlgorithm.ofFunction "one" .sha256 fun _ _ => .ok [0] }
  policy := .standard
  now := .epoch
  clockSkew := .ofSeconds 60

/-- The sender, half a second after the epoch, and the receiver each have a text that tells another
time of expiry than the parameters. -/
theorem expiry_untold :
    (∃ signature, settings.createSignature .standard ⟨[], []⟩ half request = .ok signature ∧
        ¬TellsAsWritten request half settings.expires signature .expires) ∧
      evidence.signature.created = some second ∧ evidence.signature.expires = some .epoch ∧
        second.IsWhole ∧ Instant.epoch.IsWhole ∧
        ¬TellsAsWritten evidence.request second (Instant.epoch.since second) evidence.signature
          .expires := by
  obtain ⟨sends, receives⟩ :=
    timestamps_told_iff settings .standard ⟨[], []⟩ half request evidence
  have signs : (settings.createSignature .standard ⟨[], []⟩ half request).toOption.isSome =
      true := by decide +kernel
  obtain ⟨signature, created⟩ := exists_eq_ok signs
  obtain ⟨-, -, expires⟩ := sends signature created
  have whole : second.IsWhole ∧ Instant.epoch.IsWhole := ⟨by decide +kernel, by decide +kernel⟩
  obtain ⟨-, -, ends⟩ := receives second .epoch rfl rfl whole.1 whole.2
  refine ⟨⟨signature, created, fun told => ?_⟩, rfl, rfl, whole.1, whole.2, fun told => ?_⟩
  · exact absurd (expires.1 told ⟨.expires, by simp [settings], rfl⟩) (by decide)
  · exact absurd (ends.1 told ⟨.expires, by simp [evidence], rfl⟩) (by decide)

end Halves
end SignedRequest
