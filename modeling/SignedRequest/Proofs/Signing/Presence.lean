import SignedRequest.Proofs.Http.Writable
import SignedRequest.Proofs.HttpDate
import SignedRequest.Proofs.Signing.Additions
import SignedRequest.Proofs.Signing.Requirement

/-!
What is signed is on the request. A name is listed although the request lacks it only where a date or
a digest is made up for it, and these can be written; so once they are added, every name that is
listed and stands in no parentheses has a value, and every header that was there has its old ones.
-/

namespace SignedRequest

theorem Base64.printable_encode (bytes : Bytes) : Printable (encode bytes) := by
  have letters : ∀ n ∈ List.range 64, 0x20 ≤ (letter n).toNat ∧ (letter n).toNat < 0x7F := by
    decide +kernel
  intro c member
  rcases mem_encode member with rfl | ⟨n, rfl⟩
  · decide
  · by_cases small : n < 64
    · exact letters n (List.mem_range.2 small)
    · have last : letter n = '/' := by
        unfold letter
        repeat rw [if_neg (by omega)]
      rw [last]
      decide

theorem DigestAlgorithm.writable_headerValue (algorithm : DigestAlgorithm) (body : Bytes) :
    FieldValue.Writable (algorithm.headerValue body) := by
  have named : Printable algorithm.name := by cases algorithm <;> decide
  apply FieldValue.writable_of_printable
  rw [headerValue, printable_append_iff, printable_append_iff]
  exact ⟨⟨named, by decide⟩, Base64.printable_encode _⟩

namespace HttpDate

theorem printable_padded (width n : Nat) : Printable (padded width n) := by
  intro c member
  have digit := digits_padded.2 c member
  rw [Char.isDigit_iff_toNat] at digit
  change 48 ≤ c.toNat ∧ c.toNat ≤ 57 at digit
  omega

theorem printable_getD {texts : List String} (each : ∀ text ∈ texts, Printable text) (n : Nat) :
    Printable (texts.getD n "") := by
  rw [List.getD_eq_getElem?_getD]
  cases found : texts[n]? with
  | none => decide
  | some text => exact each text (List.mem_of_getElem? found)

theorem writable_of_format? {t : Instant} {text : String} (written : format? t = some text) :
    FieldValue.Writable text := by
  unfold format? at written
  dsimp only at written
  split at written
  · simp at written
  · obtain rfl := Option.some.inj written
    have days (n : Nat) : Printable (weekdays.getD n "") := printable_getD (by decide) n
    have names (n : Nat) : Printable (months.getD n "") := printable_getD (by decide) n
    have signs : Printable ", " ∧ Printable " " ∧ Printable ":" ∧ Printable " GMT" := by decide
    apply FieldValue.writable_of_printable
    simp only [printable_append_iff, days, names, printable_padded, signs, and_self]

theorem exists_format? {t : Instant} (year : (civil (t.unixSeconds / 86400)).year < 10000) :
    ∃ text, format? t = some text := by
  unfold format?
  dsimp only
  rw [if_neg (by omega)]
  exact ⟨_, rfl⟩

end HttpDate

namespace Injection
open Outcome

variable {names : List HeaderName} {time : Instant} {algorithm : DigestAlgorithm}
  {request completed : Request}

theorem exists_withDate (year : (HttpDate.civil (time.unixSeconds / 86400)).year < 10000)
    (names : List HeaderName) (request : Request) :
    ∃ dated, withDate names time request = .ok dated := by
  obtain ⟨text, told⟩ := HttpDate.exists_format? year
  obtain ⟨value, written⟩ := HttpDate.writable_of_format? told
  unfold withDate
  split
  · rw [told, Option.bind_some, written]
    exact ⟨_, rfl⟩
  · exact ⟨_, rfl⟩

theorem exists_withDigest (names : List HeaderName) (algorithm : DigestAlgorithm)
    (request : Request) : ∃ digested, withDigest names algorithm request = .ok digested := by
  unfold withDigest
  cases body : request.body with
  | none => exact ⟨_, rfl⟩
  | some octets =>
    obtain ⟨value, written⟩ := algorithm.writable_headerValue octets
    simp only [written]
    split
    · exact ⟨_, rfl⟩
    · exact ⟨_, rfl⟩

theorem exists_ensure (year : (HttpDate.civil (time.unixSeconds / 86400)).year < 10000)
    (names : List HeaderName) (algorithm : DigestAlgorithm) (request : Request) :
    ∃ completed, ensure names time algorithm request = .ok completed := by
  obtain ⟨dated, first⟩ := exists_withDate year names request
  obtain ⟨completed, second⟩ := exists_withDigest names algorithm dated
  exact ⟨completed, (bind_eq_ok_iff _ _ _).2 ⟨dated, first, second⟩⟩

variable (ensured : ensure names time algorithm request = .ok completed)
include ensured

theorem hasField_of_supplies {name : HeaderName} (listed : name.Occurs names)
    (supplied : request.Supplies name) (header : name.isPseudo = false) :
    completed.hasField name.text = true := by
  have completion := completed_of_ensure ensured
  cases supplied with
  | pseudo inner text =>
    have pseudo := (HeaderName.isPseudo_iff name).2 ⟨inner, text⟩
    simp [header] at pseudo
  | date same =>
    have dated := completion.dated ((HeaderName.occurs_of_key same).1 listed)
    exact (completed.hasField_congr same).trans dated
  | digest same octets carried =>
    have body : completed.body.isSome = true := by
      rw [completion.body, carried]
      rfl
    have digested := digest_of_ensure ensured ((HeaderName.occurs_of_key same).1 listed) body
    exact (completed.hasField_congr same).trans digested
  | header carried => exact completion.carried _ ((request.hasField_iff _).2 carried)

theorem values_of_ensure {name : FieldName} (carried : request.fields.values name ≠ []) :
    completed.fields.values name = request.fields.values name := by
  have added := added_of_ensure ensured
  by_cases date : name = .date
  · subst date
    rcases added.date with ⟨⟨-, missing⟩, -⟩ | ⟨-, same⟩
    · exact absurd (Request.values_eq_nil missing) carried
    · exact same
  · by_cases digest : name = .digest
    · subst digest
      rcases added.digest with ⟨missing, -⟩ | same
      · exact absurd missing carried
      · exact same
    · exact added.others name date digest

end Injection

namespace HeaderList

/-- Once the headers are added that a signature needs and the request lacks, every name that is signed,
and that is not in parentheses, names a header of the request, and every header that was there before
has the values that it had. Since the epoch and up to the last year of four digits, the headers that
are missing can always be added. -/
theorem sanitize_ensured (settings : SigningSettings) (request : Request)
    (requirement : HeaderRequirement) (time : Instant) (algorithm : DigestAlgorithm) :
    (∀ completed, Injection.ensure (sanitize settings request requirement) time algorithm request =
        .ok completed →
      (∀ name ∈ sanitize settings request requirement,
        (¬∃ inner, name.text = "(" ++ inner ++ ")") → completed.hasField name.text = true) ∧
      ∀ name, request.fields.contains name = true →
        completed.fields.values name = request.fields.values name) ∧
    (0 ≤ time.nanos → (HttpDate.civil (time.unixSeconds / 86400)).year < 10000 →
      ∃ completed, Injection.ensure (sanitize settings request requirement) time algorithm request =
        .ok completed) := by
  refine ⟨fun completed ensured => ⟨fun name signed header => ?_, fun name carried => ?_⟩, ?_⟩
  · have supplied := isPresent_iff.1 (mem_of_mem_sanitize signed).2
    rw [← HeaderName.isPseudo_iff, Bool.not_eq_true] at header
    exact Injection.hasField_of_supplies ensured (HeaderName.occurs_of_mem signed) supplied header
  · exact Injection.values_of_ensure ensured ((request.fields.contains_iff name).1 carried)
  · intro _ year
    exact Injection.exists_ensure year (sanitize settings request requirement) algorithm request

namespace Searching

def settings : SigningSettings where
  keyId := ⟨"client"⟩
  secret := .ofText "s"
  algorithm := .hmac
  headers := [⟨"Etag"⟩, ⟨"X-Gone"⟩, ⟨"DIGEST"⟩, .created]

def request : Request where
  method := ⟨"SEARCH", by decide +kernel⟩
  target := .origin "/"
  fields := ⟨[(⟨"etag", by decide +kernel⟩, ⟨[120], rfl⟩)]⟩
  body := some [99]

def requirement : HeaderRequirement where
  required := [⟨"Date"⟩]
  forbidden := []

theorem signed_names :
    (sanitize settings request requirement).map HeaderName.text =
      ["(request-target)", "Etag", "DIGEST", "(created)", "Date"] := by
  decide +kernel

theorem mem_signed {text : String}
    (listed : text ∈ ["(request-target)", "Etag", "DIGEST", "(created)", "Date"]) :
    HeaderName.mk text ∈ sanitize settings request requirement := by
  rw [← signed_names] at listed
  obtain ⟨name, member, rfl⟩ := List.mem_map.1 listed
  exact member

theorem sanitize_searching :
    ∃ completed, Injection.ensure (sanitize settings request requirement) .epoch .sha512 request =
        .ok completed ∧
      request.hasField "DIGEST" = false ∧ completed.hasField "DIGEST" = true ∧
      request.hasField "Date" = false ∧ completed.hasField "Date" = true ∧
      request.hasField "X-Gone" = false ∧
      ∀ name, request.fields.contains name = true →
        completed.fields.values name = request.fields.values name := by
  obtain ⟨carries, succeeds⟩ := sanitize_ensured settings request requirement .epoch .sha512
  obtain ⟨completed, ensured⟩ := succeeds (by decide) (by decide +kernel)
  obtain ⟨carried, kept⟩ := carries completed ensured
  have header {text : String} (other : (HeaderName.mk text).isPseudo = false) :
      ¬∃ inner, text = "(" ++ inner ++ ")" := by
    rw [← HeaderName.isPseudo_iff ⟨text⟩, other]
    decide
  refine ⟨completed, ensured, by decide +kernel, ?_, by decide +kernel, ?_, by decide +kernel, kept⟩
  · exact carried ⟨"DIGEST"⟩ (mem_signed (by decide)) (header (by decide))
  · exact carried ⟨"Date"⟩ (mem_signed (by decide)) (header (by decide))

end Searching

end HeaderList
end SignedRequest
