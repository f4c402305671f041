import Mathlib.Data.List.TakeWhile
import SignedRequest.Authorization.Parameters
import SignedRequest.Proofs.Text.Ascii
import SignedRequest.Proofs.Text.Words

/-!
The scheme in front of a header value. It is taken off exactly if it stands before the first space of
the value and no white space stands before it.
-/

namespace SignedRequest.Authorization

theorem render_ends (signature : Signature) :
    ∃ inner, (render signature).toList = 'k' :: (inner ++ ['"']) := by
  have front : parameters signature = (quoted "keyId" signature.keyId.text ::
      (parameters signature).tail) := rfl
  have back : ∃ init, init ≠ [] ∧
      (parameters signature).tail = init ++ [quoted "signature" signature.string] := by
    refine ⟨(signature.algorithm.map (quoted "algorithm")).toList ++
      (signature.created.map fun time => bare "created" time.unixSeconds).toList ++
      (signature.expires.map fun time => bare "expires" time.unixSeconds).toList ++
      [quoted "headers" (headerList signature.headers)] ++
      (signature.nonce.map (quoted "nonce")).toList, by simp, ?_⟩
    simp [parameters]
  obtain ⟨init, nonempty, last⟩ := back
  rw [render, front, last, String.intercalate_cons_of_ne_nil (by simp),
    String.intercalate_append_of_ne_nil nonempty (by simp), String.intercalate_singleton]
  refine ⟨"eyId=".toList ++ ("\"" ++ signature.keyId.text ++ "\"" ++ "," ++
    ",".intercalate init ++ "," ++ "signature=\"" ++ signature.string).toList, ?_⟩
  simp [quoted, String.toList_append]

theorem toList_headerValue (scheme : String) (signature : Signature) :
    (headerValue scheme signature).toList = scheme.toList ++ ' ' :: (render signature).toList := by
  simp [headerValue, String.toList_append]

theorem trim_render (signature : Signature) :
    Text.trim (render signature) = render signature := by
  obtain ⟨inner, ends⟩ := render_ends signature
  apply Text.trim_eq_self
  · rw [ends]
    intro c first
    cases first
    decide
  · rw [ends, ← List.cons_append, List.getLast?_concat]
    intro c last
    cases last
    decide

theorem toList_trim_headerValue {scheme : String} (filled : Text.isAllBlank scheme = false)
    (signature : Signature) :
    (Text.trim (headerValue scheme signature)).toList =
      scheme.toList.dropWhile Text.isBlank ++ ' ' :: (render signature).toList := by
  obtain ⟨inner, ends⟩ := render_ends signature
  have solid : (scheme.toList.dropWhile Text.isBlank).isEmpty = false := by
    rw [← Bool.not_eq_true, List.isEmpty_iff, List.dropWhile_eq_nil_iff, ← List.all_eq_true]
    simpa [Text.isAllBlank] using filled
  have back (front : List Char) : Text.trimEnd (front ++ ['"']) = front ++ ['"'] := by
    simp [Text.trimEnd, show Text.isBlank '"' = false by decide]
  rw [Text.trim, String.toList_ofList, toList_headerValue, Text.trimChars, List.dropWhile_append,
    solid, if_neg (by simp), ends, ← List.cons_append, ← List.cons_append, ← List.append_assoc, back]

/-- A scheme that is found before the first space of what it begins. -/
structure IsFront (scheme : String) : Prop where
  first : ∀ c, scheme.toList.head? = some c → Text.isBlank c = false
  unbroken : ' ' ∉ scheme.toList

theorem IsFront.of_solid {scheme : String} (solid : ∀ c ∈ scheme.toList, Text.isBlank c = false) :
    IsFront scheme where
  first := fun c first => solid c (List.mem_of_mem_head? first)
  unbroken := fun space => absurd (solid ' ' space) (by decide)

theorem exists_of_stripScheme? {value scheme parameters : String}
    (stripped : stripScheme? value scheme = some parameters) :
    ∃ found rest : String, (Text.trim value).toList = found.toList ++ ' ' :: rest.toList ∧
      ' ' ∉ found.toList ∧ Text.asciiLower found = Text.asciiLower scheme ∧
      parameters = Text.trim rest := by
  obtain ⟨⟨found, rest⟩, cut, same⟩ := Option.bind_eq_some_iff.1 stripped
  obtain ⟨parts, unbroken⟩ := Text.parts_of_cut? cut
  dsimp only at same
  split at same
  · rename_i known
    exact ⟨found, rest, parts, unbroken, (Text.sameAscii_iff _ _).1 known,
      (Option.some.inj same).symm⟩
  · simp at same

theorem trim_headerValue {scheme : String} (filled : Text.isAllBlank scheme = false)
    (front : IsFront scheme) (signature : Signature) :
    Text.trim (headerValue scheme signature) = headerValue scheme signature := by
  apply String.toList_injective
  rw [toList_trim_headerValue filled, toList_headerValue, Text.dropWhile_eq_self front.first]

theorem stripScheme?_headerValue {scheme other : String} (filled : Text.isAllBlank scheme = false)
    (front : IsFront scheme) (same : Text.asciiLower scheme = Text.asciiLower other)
    (signature : Signature) :
    stripScheme? (headerValue scheme signature) other = some (render signature) := by
  have cut : Text.cut? ' ' (headerValue scheme signature) = some (scheme, render signature) :=
    Text.cut?_append front.unbroken (render signature)
  simp only [stripScheme?, trim_headerValue filled front, cut, bind, Option.bind]
  rw [if_pos ((Text.sameAscii_iff _ _).2 same), trim_render]

/-- Only such a scheme is taken off. What is found before the first space is the scheme without white
space before it, or begins it, and it is as long as the scheme. -/
theorem isFront_of_stripScheme? {scheme parameters : String}
    (filled : Text.isAllBlank scheme = false) {signature : Signature}
    (stripped : stripScheme? (headerValue scheme signature) scheme = some parameters) :
    IsFront scheme := by
  obtain ⟨found, rest, parts, unbroken, same, -⟩ := exists_of_stripScheme? stripped
  have length : found.toList.length = scheme.toList.length := by
    have lengths := congrArg (fun text => text.toList.length) same
    simpa only [Text.toList_asciiLower, List.length_map] using lengths
  have bare : scheme.toList.dropWhile Text.isBlank <:+ scheme.toList := List.dropWhile_suffix _
  have short := bare.length_le
  rw [toList_trim_headerValue filled, List.append_eq_append_iff] at parts
  have whole : scheme.toList.dropWhile Text.isBlank = found.toList := by
    rcases parts with ⟨more, longer, behind⟩ | ⟨more, longer, -⟩
    · cases more with
      | nil => rw [longer, List.append_nil]
      | cons c more =>
        obtain ⟨rfl, -⟩ := List.cons.inj behind
        exact absurd (by simp [longer]) unbroken
    · have lengths := congrArg List.length longer
      rw [List.length_append] at lengths
      obtain rfl : more = [] := List.eq_nil_of_length_eq_zero (by omega)
      rw [longer, List.append_nil]
  have unpadded := bare.eq_of_length (by rw [whole, length])
  refine ⟨fun c first => ?_, by rwa [← unpadded, whole]⟩
  have head := List.head?_dropWhile_not Text.isBlank scheme.toList
  rwa [unpadded, first] at head

end SignedRequest.Authorization
