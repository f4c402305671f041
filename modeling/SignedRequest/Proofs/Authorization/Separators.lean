import Mathlib.Algebra.Group.Nat.Even
import SignedRequest.Proofs.Authorization.NormalForm
import SignedRequest.Proofs.Authorization.Scheme
import SignedRequest.Proofs.Text.Pieces

/-!
Where a header value has a colon or a comma with a space behind it. Of what a sender writes this can
be at the end of the scheme or in the key identifier alone; and what is left in front of such a place
in a key identifier has a single quotation mark, while parameters that are read have an even number
of them.
-/

namespace SignedRequest.Authorization

/-- Parts that can be joined without a sign and a space coming together. -/
structure Clear (sign : Char) (cs : List Char) : Prop where
  apart : ¬[sign, ' '] <:+: cs
  solid : cs.head? ≠ some ' '

section
variable {sign : Char} {front back : List Char}

theorem clear_of_not_mem (unspaced : ' ' ∉ back) : Clear sign back where
  apart := Text.not_pair_infix_of_not_mem unspaced
  solid := fun first => unspaced (List.mem_of_mem_head? first)

theorem Clear.append (one : Clear sign front) (two : Clear sign back) :
    Clear sign (front ++ back) where
  apart := by
    rw [Text.pair_infix_append_iff]
    rintro (here | there | ⟨-, space⟩)
    · exact one.apart here
    · exact two.apart there
    · exact two.solid space
  solid := by
    cases front with
    | nil => exact two.solid
    | cons c front => exact one.solid

theorem Clear.intercalate {separator : List Char} (between : Clear sign separator)
    {parts : List (List Char)} (each : ∀ part ∈ parts, Clear sign part) :
    Clear sign (separator.intercalate parts) := by
  induction parts with
  | nil => exact clear_of_not_mem (by simp)
  | cons part rest ih =>
    obtain ⟨here, later⟩ := List.forall_mem_cons.1 each
    cases rest with
    | nil => simpa using here
    | cons next rest =>
      rw [List.intercalate_cons_cons]
      exact (here.append between).append (ih later)

end

/-- A word that can stand in a list of words: it has no space and ends neither with a colon nor with
a comma. -/
structure IsItem (sign : Char) (word : List Char) : Prop where
  filled : word ≠ []
  unspaced : ' ' ∉ word
  last : word.getLast? ≠ some sign

theorem clear_intercalate_space {sign : Char} (other : sign ≠ ' ') {words : List (List Char)}
    (items : ∀ word ∈ words, IsItem sign word) : Clear sign ([' '].intercalate words) := by
  induction words with
  | nil => exact clear_of_not_mem (by simp)
  | cons word rest ih =>
    obtain ⟨here, later⟩ := List.forall_mem_cons.1 items
    cases rest with
    | nil => simpa using clear_of_not_mem here.unspaced
    | cons next rest =>
      obtain ⟨c, more, rfl⟩ := List.exists_cons_of_ne_nil here.filled
      rw [List.intercalate_cons_cons, List.append_assoc, List.singleton_append]
      refine ⟨?_, fun space => here.unspaced ?_⟩
      · have behind : ¬[sign, ' '] <:+: ' ' :: [' '].intercalate (next :: rest) := by
          rw [List.infix_cons_iff, Text.pair_prefix_cons_iff, not_or]
          exact ⟨fun ⟨same, _⟩ => other same, (ih later).apart⟩
        rw [Text.pair_infix_append_iff]
        rintro (inside | between | ⟨last, -⟩)
        · exact Text.not_pair_infix_of_not_mem here.unspaced inside
        · exact behind between
        · exact here.last last
      · obtain rfl := Option.some.inj (by simpa using space : some c = some ' ')
        exact List.mem_cons_self

/-- What is known of the texts of a signature that a sender makes itself. -/
structure Compact (sign : Char) (signature : Signature) : Prop where
  algorithm : ∀ text, signature.algorithm = some text → ' ' ∉ text.toList
  headers : ∀ name ∈ signature.headers, IsItem sign name.lower.toList
  nonce : ∀ text, signature.nonce = some text → ' ' ∉ text.toList
  string : ' ' ∉ signature.string.toList

theorem not_mem_quoted {key text : String} (named : ' ' ∉ key.toList) (inside : ' ' ∉ text.toList) :
    ' ' ∉ (quoted key text).toList := by
  simp [quoted, String.toList_append, named, inside]

theorem not_mem_bare {key : String} (named : ' ' ∉ key.toList) (n : Nat) :
    ' ' ∉ (bare key n).toList := by
  have digits : ' ' ∉ (toString n).toList := fun member =>
    absurd (isDigit_of_mem_toString member) (by decide)
  simpa [bare, String.toList_append, named] using digits

theorem Compact.clear_parameters {sign : Char} {signature : Signature}
    (compact : Compact sign signature) (known : sign = ':' ∨ sign = ',') :
    ∀ parameter ∈ (parameters signature).tail, Clear sign parameter.toList := by
  have list : Clear sign (quoted "headers" (headerList signature.headers)).toList := by
    have names : Clear sign (headerList signature.headers).toList := by
      rw [headerList, String.toList_intercalate, show " ".toList = [' '] from rfl]
      refine clear_intercalate_space (by rcases known with rfl | rfl <;> decide) ?_
      simpa using compact.headers
    have parts : (quoted "headers" (headerList signature.headers)).toList =
        "headers=\"".toList ++ (headerList signature.headers).toList ++ ['"'] := by
      simp [quoted, String.toList_append]
    rw [parts]
    exact ((clear_of_not_mem (by decide)).append names).append (clear_of_not_mem (by decide))
  intro parameter member
  simp only [parameters, List.cons_append, List.nil_append, List.tail_cons, List.mem_append,
    List.mem_singleton, Option.mem_toList, Option.map_eq_some_iff] at member
  rcases member with ((((⟨text, told, rfl⟩ | ⟨time, -, rfl⟩) | ⟨time, -, rfl⟩) | rfl) |
    ⟨text, told, rfl⟩) | rfl
  · exact clear_of_not_mem (not_mem_quoted (by decide) (compact.algorithm text told))
  · exact clear_of_not_mem (not_mem_bare (by decide) _)
  · exact clear_of_not_mem (not_mem_bare (by decide) _)
  · exact list
  · exact clear_of_not_mem (not_mem_quoted (by decide) (compact.nonce text told))
  · exact clear_of_not_mem (not_mem_quoted (by decide) compact.string)

theorem exists_toList_headerValue (scheme : String) {sign : Char} {signature : Signature}
    (compact : Compact sign signature) (known : sign = ':' ∨ sign = ',') :
    ∃ rest, Clear sign rest ∧ (headerValue scheme signature).toList =
      scheme.toList ++ ' ' ::
        ("keyId=\"".toList ++ signature.keyId.text.toList ++ '"' :: rest) := by
  have front : parameters signature = (quoted "keyId" signature.keyId.text ::
      (parameters signature).tail) := rfl
  have some : (parameters signature).tail ≠ [] := by simp [parameters]
  refine ⟨(',' :: (",".intercalate (parameters signature).tail).toList), ?_, ?_⟩
  · rw [String.toList_intercalate]
    have comma : Clear sign [','] := clear_of_not_mem (by decide)
    refine comma.append (Clear.intercalate (clear_of_not_mem (by decide)) ?_)
    exact List.forall_mem_map.2 (compact.clear_parameters known)
  · rw [toList_headerValue, render, front, String.intercalate_cons_of_ne_nil some]
    simp [quoted, String.toList_append]

theorem pair_infix_front_iff {scheme : String} (unspaced : ' ' ∉ scheme.toList) {sign : Char}
    (known : sign = ':' ∨ sign = ',') (text : List Char) :
    [sign, ' '] <:+: scheme.toList ++ ' ' :: ("keyId=\"".toList ++ text) ↔
      scheme.toList.getLast? = some sign ∨ [sign, ' '] <:+: text := by
  have signs : sign ≠ ' ' ∧ sign ≠ '"' := by rcases known with rfl | rfl <;> decide
  have front : ¬[sign, ' '] <:+: "keyId=\"".toList :=
    Text.not_pair_infix_of_not_mem (by decide)
  have last : ¬"keyId=\"".toList.getLast? = some sign :=
    fun same => signs.2 (Option.some.inj same).symm
  rw [Text.pair_infix_append_iff, List.infix_cons_iff, Text.pair_prefix_cons_iff,
    Text.pair_infix_append_iff]
  simp only [Text.not_pair_infix_of_not_mem unspaced, signs.1, front, last, List.head?_cons,
    false_and, false_or, or_false, and_true]
  exact or_comm

/-- A sign and a space come together in a header value where the scheme ends with the sign, or in
the key identifier. -/
theorem pair_infix_headerValue_iff {scheme : String} (unspaced : ' ' ∉ scheme.toList) {sign : Char}
    {signature : Signature} (compact : Compact sign signature) (known : sign = ':' ∨ sign = ',') :
    [sign, ' '] <:+: (headerValue scheme signature).toList ↔
      scheme.toList.getLast? = some sign ∨ [sign, ' '] <:+: signature.keyId.text.toList := by
  obtain ⟨rest, clear, parts⟩ := exists_toList_headerValue scheme compact known
  have behind : Clear sign ('"' :: rest) :=
    (clear_of_not_mem (by decide : ' ' ∉ ['"'])).append clear
  rw [parts, List.append_assoc, pair_infix_front_iff unspaced known, Text.pair_infix_append_iff]
  simp only [behind.apart, behind.solid, and_false, or_false]

theorem Spelling.count_key {text spelt : List Char} (spelling : Spelling .key text spelt) :
    spelt.count '"' = 0 := by
  cases spelling with
  | key letter all =>
    rw [List.count_eq_zero, List.mem_cons, not_or]
    refine ⟨?_, fun quote => absurd (all _ quote) (by decide)⟩
    rintro rfl
    exact absurd letter (by decide)

theorem Spelling.even_count_value {text spelt : List Char}
    (valued : Spelling .quoted text spelt ∨ Spelling .number text spelt) :
    Even (spelt.count '"') := by
  have plain := Spelling.not_mem_of_value valued
  rcases valued with spelling | spelling
  · cases spelling with
    | quoted _ =>
      rw [List.count_cons_self, List.count_append, List.count_eq_zero.2 plain]
      decide
  · cases spelling with
    | number _ _ =>
      rw [List.count_eq_zero.2 plain]
      exact Even.zero

theorem IsSequence.even_count {pairs : List (String × String)} {cs : List Char}
    (sequence : IsSequence pairs cs) : Even (cs.count '"') := by
  have gap {cs : List Char} (blank : IsGap cs) : cs.count '"' = 0 :=
    List.count_eq_zero.2 fun quote => by simpa using blank _ quote
  have each {pair : String × String} {cs : List Char} (parameter : IsParameter pair cs) :
      Even (cs.count '"') := by
    cases parameter with
    | intro before named between after valued behind =>
      simpa [gap before, gap between, gap after, gap behind, named.count_key] using
        Spelling.even_count_value valued
  induction sequence with
  | nil blank => simp [gap blank]
  | last parameter => exact each parameter
  | cons parameter _ ih => simpa using (each parameter).add ih

end SignedRequest.Authorization
