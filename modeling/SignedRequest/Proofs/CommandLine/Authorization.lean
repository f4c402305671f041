import SignedRequest.Proofs.Authorization.Separators
import SignedRequest.Proofs.CommandLine.HeaderLines
import SignedRequest.Proofs.Header

/-!
The authorization header on a header line. It is one value again if no comma in it has a space behind
it; otherwise the line leaves several, and of the first of them no signature is read.
-/

namespace SignedRequest.CommandLine
open Authorization

variable {scheme other : String} {signature : Signature}

theorem count_asciiLower {sign : Char} (small : sign.isLower = false)
    (folded : sign.toLower = sign) (text : String) :
    (Text.asciiLower text).toList.count sign = text.toList.count sign := by
  rw [Text.toList_asciiLower, List.count_eq_countP, List.count_eq_countP, List.countP_map]
  refine List.countP_congr fun c _ => ?_
  simp [HeaderName.toLower_eq_iff small folded]

theorem settle_headerValue (filled : Text.isAllBlank scheme = false) (front : IsFront scheme)
    (unbroken : ¬[':', ' '] <:+: (headerValue scheme signature).toList)
    (single : ¬[',', ' '] <:+: (headerValue scheme signature).toList) :
    settle (headerValue scheme signature) = [headerValue scheme signature] :=
  Settled.settle_eq
    { unbroken
      single
      trimmed := trim_headerValue filled front signature
      filled := fun empty => by
        have parts := toList_headerValue scheme signature
        simp [empty] at parts }

theorem not_stripped_of_comma {value parameters : String} (settled : Settled value)
    (same : Text.asciiLower scheme = Text.asciiLower other)
    (stripped : stripScheme? value other = some parameters) :
    scheme.toList.getLast? ≠ some ',' := by
  intro comma
  obtain ⟨found, rest, parts, -, known, -⟩ := exists_of_stripScheme? stripped
  have last := congrArg (fun text => text.toList.getLast?) (known.trans same.symm)
  simp only [Text.toList_asciiLower, List.getLast?_map, comma, Option.map_some,
    Option.map_eq_some_iff] at last
  obtain ⟨c, ending, folded⟩ := last
  obtain rfl : c = ',' := (HeaderName.toLower_eq_iff (by decide) (by decide)).1 folded
  rw [settled.trimmed] at parts
  refine settled.single ?_
  rw [parts, Text.pair_infix_append_iff]
  exact .inr (.inr ⟨ending, rfl⟩)

theorem not_parsed_of_open {before value parameters : String}
    (opened : before.toList.count '"' = scheme.toList.count '"' + 1)
    (same : Text.asciiLower scheme = Text.asciiLower other) (cut : value = Text.trim before)
    (stripped : stripScheme? value other = some parameters) : parse parameters ≠ .ok signature := by
  intro parsed
  obtain ⟨found, rest, parts, -, known, rfl⟩ := exists_of_stripScheme? stripped
  obtain ⟨pairs, sequence, -⟩ := exists_reads_of_parse parsed
  have quote : Text.isBlank '"' = false := by decide
  have fixed (text : String) : (Text.asciiLower text).toList.count '"' = text.toList.count '"' :=
    count_asciiLower (by decide) (by decide) text
  have inScheme : found.toList.count '"' = scheme.toList.count '"' := by
    rw [← fixed, known, ← same, fixed]
  have whole : found.toList.count '"' + rest.toList.count '"' = before.toList.count '"' := by
    have counted := congrArg (List.count '"') parts
    rw [cut, Text.trim_trim, Text.count_trim quote] at counted
    simpa using counted.symm
  have odd : (Text.trim rest).toList.count '"' = 1 := by
    rw [Text.count_trim quote]
    omega
  exact absurd (odd ▸ sequence.even_count) (by decide)

theorem exists_open_of_pair (solid : ' ' ∉ scheme.toList) (compact : Compact ',' signature)
    (plain : '"' ∉ signature.keyId.text.toList) (ending : scheme.toList.getLast? ≠ some ',')
    (inside : [',', ' '] <:+: signature.keyId.text.toList) :
    ∃ before : String, before.toList.count '"' = scheme.toList.count '"' + 1 ∧
      (settle (headerValue scheme signature)).head? = some (Text.trim before) := by
  obtain ⟨front, back, parts, alone⟩ := Text.exists_first_pair inside
  obtain ⟨rest, -, whole⟩ := exists_toList_headerValue scheme compact (.inr rfl)
  obtain ⟨before, chars⟩ : ∃ before : String,
      before.toList = scheme.toList ++ ' ' :: ("keyId=\"".toList ++ front) :=
    ⟨_, String.toList_ofList⟩
  have cut : (headerValue scheme signature).toList =
      before.toList ++ ',' :: ' ' :: (back ++ '"' :: rest) := by
    simp [whole, parts, chars]
  have unquoted : front.count '"' = 0 :=
    List.count_eq_zero.2 fun quote => plain (by simp [parts, quote])
  have opened : before.toList.count '"' = scheme.toList.count '"' + 1 := by
    simp [chars, unquoted]
  refine ⟨before, opened, head?_settle cut ?_ ?_⟩
  · rw [chars, pair_infix_front_iff solid (.inr rfl), not_or]
    exact ⟨ending, alone⟩
  · -- A quotation mark is left when blanks are trimmed.
    intro empty
    have counted := Text.count_trim (c := '"') (by decide) before
    rw [empty, opened] at counted
    simp at counted

/-- Of a header value that the line cuts, no signature is read. -/
theorem not_pair_of_read {value parameters : String} {read : Signature}
    (unspaced : ∀ c ∈ scheme.toList, Text.isBlank c = false)
    (compact : Compact ',' signature) (plain : '"' ∉ signature.keyId.text.toList)
    (same : Text.asciiLower scheme = Text.asciiLower other)
    (unbroken : ¬[':', ' '] <:+: (headerValue scheme signature).toList)
    (first : (settle (headerValue scheme signature)).head? = some value)
    (stripped : stripScheme? value other = some parameters)
    (parsed : parse parameters = .ok read) :
    ¬[',', ' '] <:+: (headerValue scheme signature).toList := by
  have solid : ' ' ∉ scheme.toList := fun space => absurd (unspaced ' ' space) (by decide)
  have settled := (settled_of_mem_settle unbroken (List.mem_of_mem_head? first)).1
  have ending := not_stripped_of_comma settled same stripped
  rw [pair_infix_headerValue_iff solid compact (.inr rfl)]
  rintro (comma | inside)
  · exact ending comma
  · obtain ⟨before, opened, cut⟩ := exists_open_of_pair solid compact plain ending inside
    exact not_parsed_of_open opened same (Option.some.inj (first.symm.trans cut)) stripped parsed

end SignedRequest.CommandLine
