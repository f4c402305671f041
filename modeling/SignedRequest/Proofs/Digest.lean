import SignedRequest.Digest
import SignedRequest.Proofs.Encoding.Base64
import SignedRequest.Proofs.Text.Words

/-!
Which values of a digest header belong to a body. A value names an algorithm before its first equals
sign, in any case, and has behind it the Base64 text of what this algorithm makes of the body. That
is what is written, and nothing else matches; so a value binds a body as far as its algorithm does.
-/

namespace SignedRequest
namespace DigestAlgorithm

/-- The names of an algorithm, in which the case of ASCII letters does not matter. -/
def Named : DigestAlgorithm → String → Prop
  | sha256, name => Text.asciiLower name = "sha-256" ∨ Text.asciiLower name = "id-sha-256"
  | sha512, name => Text.asciiLower name = "sha-512" ∨ Text.asciiLower name = "id-sha-512"

theorem ofName?_eq_some_iff (name : String) (algorithm : DigestAlgorithm) :
    ofName? name = some algorithm ↔ algorithm.Named name := by
  have short : Text.asciiLower "SHA-256" = "sha-256" := by decide +kernel
  have otherShort : Text.asciiLower "id-sha-256" = "id-sha-256" := by decide +kernel
  have long : Text.asciiLower "SHA-512" = "sha-512" := by decide +kernel
  have otherLong : Text.asciiLower "id-sha-512" = "id-sha-512" := by decide +kernel
  simp only [ofName?, all, List.find?_cons, List.find?_nil, Text.sameAscii,
    DigestAlgorithm.name, otherName, short, otherShort, long, otherLong]
  -- No two of the four names are the same, so the order in which they are tried does not matter.
  cases algorithm with
  | sha256 =>
    unfold Named
    grind
  | sha512 =>
    unfold Named
    grind

theorem named_name (algorithm : DigestAlgorithm) : algorithm.Named algorithm.name := by
  cases algorithm with
  | sha256 => exact .inl (by decide +kernel)
  | sha512 => exact .inl (by decide +kernel)

theorem chars_headerValue (algorithm : DigestAlgorithm) (body : Bytes) :
    '=' ∉ algorithm.name.toList ∧
      ∀ c ∈ (algorithm.headerValue body).toList, Text.isBlank c = false := by
  have named : ∀ c ∈ algorithm.name.toList, Text.isBlank c = false ∧ c ≠ '=' :=
    Text.forall_mem_of_all (by cases algorithm <;> decide)
  refine ⟨fun member => (named '=' member).2 rfl, fun c member => ?_⟩
  simp only [headerValue, String.toList_append, List.mem_append] at member
  rcases member with (inName | sign) | encoded
  · exact (named c inName).1
  · obtain rfl := List.mem_singleton.1 sign
    decide
  · exact (Base64.solid_of_mem_encode encoded).1

theorem trim_headerValue (algorithm : DigestAlgorithm) (body : Bytes) :
    Text.trim (algorithm.headerValue body) = algorithm.headerValue body := by
  have solid := (algorithm.chars_headerValue body).2
  exact Text.trim_eq_self (fun c first => solid c (List.mem_of_mem_head? first))
    (fun c last => solid c (List.mem_of_mem_getLast? last))

/-- A header value, but for white space at its ends, is a name of the algorithm before its first
equals sign and a text behind it. -/
def Labels (algorithm : DigestAlgorithm) (value encoded : String) : Prop :=
  ∃ name, Text.trim value = name ++ "=" ++ encoded ∧ '=' ∉ name.toList ∧ algorithm.Named name

theorem labels_iff (algorithm : DigestAlgorithm) (value encoded : String) :
    algorithm.Labels value encoded ↔
      ∃ name, Text.cut? '=' (Text.trim value) = some (name, encoded) ∧
        ofName? name = some algorithm := by
  simp only [Labels, Text.cut?_eq_some_iff, ofName?_eq_some_iff, and_assoc]
  rfl

theorem Labels.unique {algorithm other : DigestAlgorithm} {value encoded again : String}
    (labels : algorithm.Labels value encoded) (labelsAgain : other.Labels value again) :
    algorithm = other ∧ encoded = again := by
  obtain ⟨name, cut, named⟩ := (labels_iff algorithm value encoded).1 labels
  obtain ⟨nameAgain, cutAgain, namedAgain⟩ := (labels_iff other value again).1 labelsAgain
  obtain ⟨rfl, rfl⟩ := Prod.mk.inj (Option.some.inj (cut.symm.trans cutAgain))
  exact ⟨Option.some.inj (named.symm.trans namedAgain), rfl⟩

theorem labels_headerValue (algorithm : DigestAlgorithm) (body : Bytes) :
    algorithm.Labels (algorithm.headerValue body) (Base64.encode (algorithm.digest body)) :=
  ⟨algorithm.name, algorithm.trim_headerValue body, (algorithm.chars_headerValue body).1,
    algorithm.named_name⟩

end DigestAlgorithm

theorem matchesDigest_iff_labels (value : String) (body : Bytes) :
    matchesDigest value body = true ↔
      ∃ algorithm : DigestAlgorithm,
        algorithm.Labels value (Base64.encode (algorithm.digest body)) := by
  simp only [DigestAlgorithm.labels_iff]
  unfold matchesDigest
  cases cut : Text.cut? '=' (Text.trim value) with
  | none => simp
  | some parts =>
    obtain ⟨name, encoded⟩ := parts
    cases named : DigestAlgorithm.ofName? name with
    | none => simp [named]
    | some algorithm =>
      have labelled : (∃ known : DigestAlgorithm, ∃ again,
          some (name, encoded) = some (again, Base64.encode (known.digest body)) ∧
            DigestAlgorithm.ofName? again = some known) ↔
          encoded = Base64.encode (algorithm.digest body) := by
        simp [named]
      rw [labelled, ← Base64.decode?_eq_some_iff]
      simp only [named]
      cases Base64.decode? encoded with
      | none => simp
      | some received =>
        rw [beq_iff_eq, Option.some.injEq]
        exact eq_comm

theorem matchesDigest_headerValue (algorithm : DigestAlgorithm) (body : Bytes) :
    matchesDigest (algorithm.headerValue body) body = true :=
  (matchesDigest_iff_labels _ body).2 ⟨algorithm, algorithm.labels_headerValue body⟩

/-- A value of a digest header matches a body exactly if, but for white space at its ends, it is a
name of an algorithm in any case, an equals sign that is its first, and the Base64 text of the
digest that this algorithm gives for the body. The value that is written for a body is one of these,
and of all the other bodies a value matches those alone for which its algorithm gives the same. -/
theorem matchesDigest_exact (value : String) (body : Bytes) :
    (matchesDigest value body = true ↔
      ∃ (algorithm : DigestAlgorithm) (name encoded : String),
        Text.trim value = name ++ "=" ++ encoded ∧ '=' ∉ name.toList ∧ algorithm.Named name ∧
          encoded = Base64.encode (algorithm.digest body)) ∧
      (∀ algorithm : DigestAlgorithm, matchesDigest (algorithm.headerValue body) body = true) ∧
      ∀ (algorithm : DigestAlgorithm) (encoded : String) (other : Bytes),
        algorithm.Labels value encoded → matchesDigest value body = true →
          (matchesDigest value other = true ↔ algorithm.digest other = algorithm.digest body) := by
  refine ⟨?_, fun algorithm => matchesDigest_headerValue algorithm body, ?_⟩
  · rw [matchesDigest_iff_labels]
    constructor
    · rintro ⟨algorithm, name, parts, new, named⟩
      exact ⟨algorithm, name, _, parts, new, named, rfl⟩
    · rintro ⟨algorithm, name, _, parts, new, named, rfl⟩
      exact ⟨algorithm, name, parts, new, named⟩
  · intro algorithm encoded other labels matching
    obtain ⟨known, labelsBody⟩ := (matchesDigest_iff_labels value body).1 matching
    obtain ⟨rfl, rfl⟩ := labels.unique labelsBody
    rw [matchesDigest_iff_labels]
    constructor
    · rintro ⟨again, labelsOther⟩
      obtain ⟨rfl, same⟩ := labels.unique labelsOther
      exact (Base64.encode_inj.1 same).symm
    · intro same
      exact ⟨algorithm, same ▸ labels⟩

theorem matchesDigest_empty :
    let value := " iD-ShA-256=47DEQpj8HBSa+/TImW+5JCeuQeRkm5NMpJWZG3hSuFU=\u3000"
    let encoded := "47DEQpj8HBSa+/TImW+5JCeuQeRkm5NMpJWZG3hSuFU="
    DigestAlgorithm.sha256.Labels value encoded ∧ matchesDigest value [] = true ∧
      ¬matchesDigest value (Bytes.ofText "\x7b\x7d") = true := by
  intro value encoded
  have labels : DigestAlgorithm.sha256.Labels value encoded :=
    ⟨"iD-ShA-256", by decide +kernel, by decide, .inr (by decide +kernel)⟩
  have matching : matchesDigest value [] = true := by decide +kernel
  obtain ⟨-, -, bound⟩ := matchesDigest_exact value []
  refine ⟨labels, matching, fun other => ?_⟩
  have same := (bound .sha256 encoded (Bytes.ofText "\x7b\x7d") labels matching).1 other
  exact absurd same (by decide +kernel)

end SignedRequest
