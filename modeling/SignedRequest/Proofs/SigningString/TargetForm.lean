import SignedRequest.Proofs.SigningString.Tampering
import SignedRequest.Proofs.Text.Utf8

/-!
The two forms of a request target. A sender has an absolute URI, of which a receiver gets the path
and the query, with the root for a path that is empty. What is signed is the same in both forms,
unless the target is listed and a query follows an empty path: then the sender signs the query
alone, and the receiver looks for the root before it.
-/

namespace SignedRequest

namespace Percent

theorem decode_of_ne {b : UInt8} (plain : b ≠ 37) (rest : Bytes) :
    decode (b :: rest) = b :: decode rest := by
  rw [decode, if_neg plain]

theorem decodeText_slash (text : String) : decodeText ("/" ++ text) = "/" ++ decodeText text := by
  have slash : Bytes.ofText "/" = [47] := by decide
  rw [decodeText, Bytes.ofText_append, slash, List.singleton_append, decode_of_ne (by decide),
    Text.Utf8.lossy, Text.Utf8.decode_cons, Text.Utf8.first_one (by decide)]
  apply String.toList_injective
  simp [decodeText, Text.Utf8.lossy, String.toList_append]

end Percent

namespace Target

def queryText : Option String → String
  | none => ""
  | some query => "?" ++ query

/-- The target as a sender has it. The path may be empty. -/
def absoluteForm (scheme authority path : String) (query : Option String) : Target :=
  .absolute scheme authority (path ++ queryText query)

/-- The target as a receiver gets it, with the root for an empty path. -/
def originForm (path : String) (query : Option String) : Target :=
  .origin ((if path = "" then "/" else path) ++ queryText query)

variable (scheme authority path : String) (query : Option String)

theorem pathAndQuery?_originForm (told : path ≠ "" ∨ query = none) :
    (originForm path query).pathAndQuery? =
      (absoluteForm scheme authority path query).pathAndQuery? := by
  by_cases empty : path = ""
  · obtain rfl := told.resolve_left (not_not_intro empty)
    rw [originForm, if_pos empty, absoluteForm, empty]
    rfl
  · rw [originForm, if_neg empty, absoluteForm]
    rfl

theorem pathAndQuery?_query (query : String) :
    (absoluteForm scheme authority "" (some query)).pathAndQuery? = some ("?" ++ query) ∧
      (originForm "" (some query)).pathAndQuery? = some ("/" ++ ("?" ++ query)) := by
  simp [absoluteForm, originForm, pathAndQuery?, rooted, queryText]

end Target

namespace Request

variable (request : Request) (scheme authority path : String) (query : Option String)

def inAbsoluteForm : Request :=
  { request with target := .absoluteForm scheme authority path query }

def inOriginForm : Request := { request with target := .originForm path query }

end Request

namespace SigningString

variable (request : Request) (scheme authority path : String) (query : Option String)

theorem sameNames_inOriginForm : SameNames (request.inAbsoluteForm scheme authority path query)
    (request.inOriginForm path query) :=
  fun _ => rfl

theorem decodedTarget_inOriginForm_iff :
    decodedTarget (request.inAbsoluteForm scheme authority path query) =
      decodedTarget (request.inOriginForm path query) ↔ path ≠ "" ∨ query = none := by
  unfold decodedTarget Request.inAbsoluteForm Request.inOriginForm
  constructor
  · intro same
    by_contra untold
    obtain ⟨rfl, asked⟩ : path = "" ∧ query ≠ none := by simpa [not_or] using untold
    obtain ⟨query, rfl⟩ := Option.ne_none_iff_exists'.1 asked
    obtain ⟨absolute, origin⟩ := Target.pathAndQuery?_query scheme authority query
    -- A slash is decoded as it stands, so one of the texts is longer.
    rw [absolute, origin, Option.getD_some, Option.getD_some, Percent.decodeText_slash] at same
    simpa using congrArg String.length same
  · intro told
    rw [Target.pathAndQuery?_originForm scheme authority path query told]

/-- Under a list of names, at any times and with any nonce, the texts of a request with an absolute
target and with its path and query alone are the same exactly if the target is not listed, or its
path is not empty, or there is no query. -/
theorem compose_inOriginForm_iff (request : Request) (scheme authority path : String)
    (query : Option String) (names : List HeaderName) (time : Instant) (lifetime : Duration)
    (nonce : Option String) :
    compose (request.inAbsoluteForm scheme authority path query) names time lifetime nonce =
        compose (request.inOriginForm path query) names time lifetime nonce ↔
      (HeaderName.requestTarget.Occurs names → path ≠ "" ∨ query = none) := by
  have sameNames := sameNames_inOriginForm request scheme authority path query
  rw [← decodedTarget_inOriginForm_iff request scheme authority path query]
  constructor
  · intro same listed
    exact (target_of_compose_eq sameNames same listed).2
  · intro told
    exact compose_eq_of_signedAlike time lifetime sameNames
      { target := fun listed => ⟨rfl, told listed⟩
        values := fun _ _ _ => rfl
        date := fun _ => rfl } nonce

theorem query_of_host_apart :
    Target.ofText? "http://example.test?x=1" =
        some (.absoluteForm "http" "example.test" "" (some "x=1")) ∧
      Target.ofText? "/?x=1" = some (.originForm "" (some "x=1")) ∧
      let request := Request.ofMethodAndTarget .get (.origin "/")
      compose (request.inAbsoluteForm "http" "example.test" "" (some "x=1")) [.requestTarget] .epoch
          .zero none = "(request-target): get ?x=1" ∧
        compose (request.inOriginForm "" (some "x=1")) [.requestTarget] .epoch .zero none =
          "(request-target): get /?x=1" ∧
        compose (request.inAbsoluteForm "http" "example.test" "" (some "x=1")) [.requestTarget]
            .epoch .zero none ≠
          compose (request.inOriginForm "" (some "x=1")) [.requestTarget] .epoch .zero none := by
  decide +kernel

end SigningString
end SignedRequest
