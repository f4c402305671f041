import Mathlib.Logic.Basic
import SignedRequest.Authorization.Parameters
import SignedRequest.Proofs.Policy
import SignedRequest.Proofs.Signing.Requirement
import SignedRequest.Proofs.Text.Words

/-!
Settings under the standard policy and registry. Every name that is signed can be written into a
header, what is required is signed, and the signature tells the receiver of the algorithm what leads
to the same entry of the policy.
-/

namespace SignedRequest
open Authorization

/-- Settings whose signatures a header can carry, and whose list of headers does not name that
header itself. -/
structure SigningSettings.Portable (settings : SigningSettings) : Prop where
  keyId : '"' ∉ settings.keyId.text.toList
  names : ∀ name ∈ settings.headers, ∀ c ∈ name.text.toList, c ≠ '"' ∧ Text.isBlank c = false
  scheme : ∀ c ∈ settings.scheme.toList, Text.isBlank c = false
  unlisted : ¬(HeaderName.mk "authorization").Occurs settings.headers

/-- An algorithm under the identifier of the one that the settings describe, which accepts what that
one makes of a text. -/
structure SigningSettings.Matches (settings : SigningSettings) (draws : Draws) (text : String)
    (algorithm : SignatureAlgorithm) : Prop where
  identifier : ∀ own, AlgorithmRegistry.standard.create settings.algorithm settings.hash
    settings.secret.octets = .ok own → algorithm.identifier = own.identifier
  accepts : ∀ own octets, AlgorithmRegistry.standard.create settings.algorithm settings.hash
    settings.secret.octets = .ok own → own.sign draws (Bytes.ofText text) = .ok octets →
      octets ≠ [] ∧ algorithm.verify (Bytes.ofText text) octets = .ok true

theorem HashAlgorithm.hmac_ne_nil (hash : HashAlgorithm) (key message : Bytes) :
    hash.hmac key message ≠ [] := by
  apply List.ne_nil_of_length_pos
  cases hash with
  | sha256 => exact Nat.lt_of_lt_of_eq (by decide) (Sha2.length_sha256 _).symm
  | sha384 => exact Nat.lt_of_lt_of_eq (by decide) (Sha2.length_sha384 _).symm
  | sha512 => exact Nat.lt_of_lt_of_eq (by decide) (Sha2.length_sha512 _).symm

namespace HmacAlgorithm

variable {hash : HashAlgorithm} {secret : Bytes} {algorithm : SignatureAlgorithm}
  (made : ofSecret hash secret = .ok algorithm)
include made

theorem identifier_eq : algorithm.identifier = SignatureAlgorithm.identifierOf "HMAC" hash := by
  unfold ofSecret at made
  split at made
  · simp at made
  · obtain rfl := Except.ok.inj made
    rfl

theorem sign_eq_ok_iff (draws : Draws) (content octets : Bytes) :
    algorithm.sign draws content = .ok octets ↔ content ≠ [] ∧ hash.hmac secret content = octets := by
  unfold ofSecret at made
  split at made
  · simp at made
  · obtain rfl := Except.ok.inj made
    by_cases empty : content = []
    · simp [ensureContent, empty, bind, Except.bind]
    · simp [ensureContent, empty, bind, Except.bind]

theorem verify_eq_ok_true_iff (content signature : Bytes) :
    algorithm.verify content signature = .ok true ↔
      content ≠ [] ∧ signature ≠ [] ∧ hash.hmac secret content = signature := by
  unfold ofSecret at made
  split at made
  · simp at made
  · obtain rfl := Except.ok.inj made
    by_cases empty : content = []
    · simp [ensureSignature, ensureContent, empty, bind, Except.bind]
    · by_cases unsigned : signature = []
      · simp [ensureSignature, ensureContent, empty, unsigned, bind, Except.bind]
      · simp [ensureSignature, ensureContent, empty, unsigned, bind, Except.bind]

end HmacAlgorithm

theorem SigningSettings.matches_hmac {settings : SigningSettings}
    (kind : settings.algorithm = .hmac) {algorithm : SignatureAlgorithm}
    (shared : HmacAlgorithm.ofSecret settings.hash settings.secret.octets = .ok algorithm)
    (draws : Draws) (text : String) : settings.Matches draws text algorithm := by
  have same {own : SignatureAlgorithm} (made : AlgorithmRegistry.standard.create settings.algorithm
      settings.hash settings.secret.octets = .ok own) : own = algorithm := by
    rw [kind, AlgorithmRegistry.standard_create_hmac, shared] at made
    exact (Except.ok.inj made).symm
  refine ⟨fun own made => by rw [same made], ?_⟩
  intro own octets made signed
  rw [same made, HmacAlgorithm.sign_eq_ok_iff shared] at signed
  obtain ⟨filled, rfl⟩ := signed
  have nonempty := settings.hash.hmac_ne_nil settings.secret.octets (Bytes.ofText text)
  exact ⟨nonempty, (HmacAlgorithm.verify_eq_ok_true_iff shared _ _).2 ⟨filled, nonempty, rfl⟩⟩

/-- What is known of each name that is signed. -/
structure HeaderName.Signable (name : HeaderName) : Prop where
  legible : name.isPseudo = true ∨ Text.IsAscii name.text
  nonempty : name.text ≠ ""
  chars : ∀ c ∈ name.text.toList, c ≠ '"' ∧ Text.isBlank c = false

theorem HeaderList.legible_of_isPresent {request : Request} {name : HeaderName}
    (present : isPresent request name = true) :
    name.isPseudo = true ∨ Text.IsAscii name.text := by
  by_cases pseudo : name.isPseudo = true
  · exact .inl pseudo
  · refine .inr fun c member => ?_
    rw [← Text.isAscii_toLower]
    exact isAscii_of_isTokenChar ((isTokenChar_of_isPresent present pseudo).2 c member)

def lowered (names : List HeaderName) : List HeaderName := names.map fun name => ⟨name.lower⟩

theorem words_headerList {names : List HeaderName}
    (signable : ∀ name ∈ names, name.Signable) :
    (Text.words (headerList names)).map HeaderName.mk = lowered names := by
  have solid : ∀ word ∈ names.map HeaderName.lower,
      word ≠ "" ∧ ∀ c ∈ word.toList, Text.isBlank c = false := by
    intro word member
    obtain ⟨name, listed, rfl⟩ := List.mem_map.1 member
    obtain ⟨_, nonempty, chars⟩ := signable name listed
    exact ⟨Text.lower_ne_empty nonempty, Text.solid_lower fun c inside => (chars c inside).2⟩
  rw [headerList, Text.words_intercalate_of_solid _ solid, List.map_map]
  rfl

theorem occurs_lowered_iff {special : HeaderName} (known : special ∈ HeaderName.special)
    (names : List HeaderName) : special.Occurs (lowered names) ↔ special.Occurs names := by
  simp only [HeaderName.Occurs, lowered, List.mem_map, exists_exists_and_eq_and,
    HeaderName.key_lower_eq_iff (HeaderName.plain_special special known)]

variable {settings : SigningSettings} {request : Request} {requirement : HeaderRequirement}

theorem HeaderList.configured_or_special
    (standard : requirement = ⟨[.date], [.created, .expires]⟩ ∨
      requirement = ⟨[.created, .expires], []⟩) {name : HeaderName}
    (member : name ∈ sanitize settings request requirement) :
    name ∈ settings.headers ∨ name ∈ HeaderName.special := by
  rcases (mem_of_mem_sanitize member).1 with configured | rfl | required | rfl
  · exact .inl configured
  · exact .inr (by simp [HeaderName.special])
  · rcases standard with rfl | rfl
    · exact .inr (by simp_all [HeaderName.special])
    · exact .inr (List.mem_cons_of_mem _ (List.mem_append_left _ required))
  · exact .inr (by simp [HeaderName.special])

theorem HeaderList.target_and_required_occur
    (standard : requirement = ⟨[.date], [.created, .expires]⟩ ∨
      requirement = ⟨[.created, .expires], []⟩) :
    HeaderName.requestTarget.Occurs (sanitize settings request requirement) ∧
      ∀ name ∈ requirement.required, name ∈ HeaderName.special ∧
        name.Occurs (sanitize settings request requirement) := by
  rcases standard with rfl | rfl
  · refine ⟨target_occurs (by decide +kernel), fun name required => ?_⟩
    obtain rfl := List.mem_singleton.1 required
    have supplied : request.Supplies .date := .date rfl
    exact ⟨by simp [HeaderName.special], (required_occurs_iff (HeaderName.occurs_of_mem required)
      (by decide +kernel)).2 supplied⟩
  · have allowed (name : HeaderName) : ¬name.Occurs [] := by simp [HeaderName.Occurs]
    refine ⟨target_occurs (allowed _), fun name required => ?_⟩
    have known : name ∈ HeaderName.special :=
      List.mem_cons_of_mem _ (List.mem_append_left _ required)
    have supplied : request.Supplies name := by
      rcases List.mem_pair.1 required with rfl | rfl
      · exact .pseudo "created" rfl
      · exact .pseudo "expires" rfl
    exact ⟨known, (required_occurs_iff (HeaderName.occurs_of_mem required) (allowed name)).2
      supplied⟩

theorem HeaderList.signable_of_mem (valid : settings.validate = .ok ())
    (portable : settings.Portable)
    (standard : requirement = ⟨[.date], [.created, .expires]⟩ ∨
      requirement = ⟨[.created, .expires], []⟩) :
    ∀ name ∈ sanitize settings request requirement, name.Signable := by
  intro name member
  have special : ∀ special ∈ HeaderName.special, special.text ≠ "" ∧
      (special.text.toList.all fun c => decide (c ≠ '"' ∧ Text.isBlank c = false)) = true := by
    decide +kernel
  have known : name.text ≠ "" ∧ ∀ c ∈ name.text.toList, c ≠ '"' ∧ Text.isBlank c = false := by
    rcases configured_or_special standard member with configured | added
    · have filled := (settings.validate_eq_ok_iff.1 valid).names name configured
      refine ⟨?_, portable.names name configured⟩
      intro empty
      rw [HeaderName.isBlank, empty] at filled
      exact absurd filled (by decide)
    · exact ⟨(special name added).1, Text.forall_mem_of_all (special name added).2⟩
  exact ⟨legible_of_isPresent (mem_of_mem_sanitize member).2, known.1, known.2⟩

/-- What the signature says of its algorithm leads the receiver to the entry of the policy that the
sender looked up. -/
structure SigningSettings.Named (settings : SigningSettings) (own : SignatureAlgorithm)
    (parameter : String) : Prop where
  nonempty : parameter ≠ ""
  plain : '"' ∉ parameter.toList
  family : HeaderPolicy.familyOf (some parameter) = settings.policyFamily
  identifier : Text.asciiLower parameter = hs2019 ∨ parameter = own.identifier

theorem SigningSettings.named_algorithmParameter {own : SignatureAlgorithm}
    (made : AlgorithmRegistry.standard.create settings.algorithm settings.hash
      settings.secret.octets = .ok own) :
    settings.Named own (settings.algorithmParameter own) := by
  obtain ⟨name, known, called, bound⟩ := AlgorithmRegistry.standard_create made
  have identifier : own.identifier = SignatureAlgorithm.identifierOf name settings.hash := by
    rw [SignatureAlgorithm.identifier, called, bound]
  unfold algorithmParameter
  cases parameter : settings.parameter with
  | explicit =>
    have texts := known.identifier_plain settings.hash
    exact
      { nonempty := identifier ▸ texts.1
        plain := identifier ▸ texts.2
        family := by
          simp only [identifier, policyFamily, parameter]
          exact HeaderPolicy.familyOf_identifier known settings.hash
        identifier := .inr rfl }
  | hs2019 =>
    exact
      { nonempty := show SignedRequest.hs2019 ≠ "" by decide
        plain := show '"' ∉ SignedRequest.hs2019.toList by decide
        family := by
          simp only [policyFamily, parameter]
          exact HeaderPolicy.familyOf_hs2019
        identifier := .inl (show Text.asciiLower SignedRequest.hs2019 = _ by decide +kernel) }

end SignedRequest
