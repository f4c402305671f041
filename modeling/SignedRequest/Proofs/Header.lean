import SignedRequest.Header
import SignedRequest.Proofs.Text.LowerCase

/-!
Names of headers. A name is known by its key, in which the case of ASCII letters is ignored; being
in parentheses, and being one of the names with a meaning of their own, depend on the key alone and
are kept when the name is written in lower case.
-/

namespace SignedRequest.HeaderName

theorem isPseudo_iff (name : HeaderName) :
    name.isPseudo = true ↔ ∃ inner, name.text = "(" ++ inner ++ ")" := by
  simp only [isPseudo, Bool.and_eq_true, beq_iff_eq]
  constructor
  · intro found
    obtain ⟨opened, closed⟩ := found
    obtain ⟨tail, parts⟩ := List.head?_eq_some_iff.1 opened
    obtain ⟨front, whole⟩ := List.getLast?_eq_some_iff.1 closed
    cases front with
    | nil => simp [parts] at whole
    | cons c inner =>
      have first : c = '(' := by
        rw [parts] at whole
        exact (List.cons.inj whole).1.symm
      refine ⟨String.ofList inner, String.toList_injective ?_⟩
      rw [whole, first]
      simp [String.toList_append]
  · intro found
    obtain ⟨inner, same⟩ := found
    have parts : name.text.toList = '(' :: inner.toList ++ [')'] := by
      rw [same]
      simp [String.toList_append]
    rw [parts]
    exact ⟨rfl, List.getLast?_concat⟩

/-- Names match if they differ in the case of ASCII letters at most. -/
def Occurs (name : HeaderName) (names : List HeaderName) : Prop :=
  ∃ other ∈ names, other.key = name.key

theorem beq_eq_false {name other : HeaderName} (different : name.key ≠ other.key) :
    (name == other) = false := by
  rw [Bool.eq_false_iff, ne_eq, beq_iff]
  exact different

theorem contains_iff (names : List HeaderName) (name : HeaderName) :
    names.contains name = true ↔ name.Occurs names := by
  rw [List.contains_iff_exists_mem_beq]
  simp only [beq_iff, Occurs, @eq_comm _ name.key]

instance (name : HeaderName) (names : List HeaderName) : Decidable (name.Occurs names) :=
  decidable_of_iff (names.contains name = true) (contains_iff names name)

theorem occurs_of_key {name other : HeaderName} {names : List HeaderName}
    (same : name.key = other.key) : name.Occurs names ↔ other.Occurs names := by
  simp only [Occurs, same]

theorem occurs_of_mem {name : HeaderName} {names : List HeaderName} (member : name ∈ names) :
    name.Occurs names :=
  ⟨name, member, rfl⟩

theorem toLower_eq_iff {c sign : Char} (small : sign.isLower = false)
    (folded : sign.toLower = sign) : c.toLower = sign ↔ c = sign := by
  constructor
  · intro same
    rcases Text.toLower_eq_or_isLower c with kept | letter
    · exact kept.symm.trans same
    · rw [same, small] at letter
      exact absurd letter (by decide)
  · intro same
    subst same
    exact folded

theorem isPseudo_key (name : HeaderName) : (mk name.key).isPseudo = name.isPseudo := by
  have opened (c : Char) : c.toLower = '(' ↔ c = '(' := toLower_eq_iff (by decide) (by decide)
  have closed (c : Char) : c.toLower = ')' ↔ c = ')' := toLower_eq_iff (by decide) (by decide)
  rw [Bool.eq_iff_iff]
  simp only [isPseudo, key, Text.toList_asciiLower, List.head?_map, List.getLast?_map,
    Bool.and_eq_true, beq_iff_eq, Option.map_eq_some_iff, opened, closed, exists_eq_right]

theorem isPseudo_congr {name other : HeaderName} (same : name.key = other.key) :
    name.isPseudo = other.isPseudo := by
  rw [← isPseudo_key name, same, isPseudo_key]

theorem isPseudo_lower {name : HeaderName} (pseudo : name.isPseudo = true) :
    (mk name.lower).isPseudo = true := by
  obtain ⟨inner, same⟩ := (isPseudo_iff name).1 pseudo
  obtain ⟨lowered, parts⟩ := Text.lower_parenthesized inner
  exact (isPseudo_iff _).2 ⟨lowered, by rw [← parts, ← same]; rfl⟩

theorem lower_eq_key {name : HeaderName} (ascii : Text.IsAscii name.text) : name.lower = name.key :=
  Text.lower_of_isAscii ascii

theorem key_lower {name : HeaderName} (ascii : Text.IsAscii name.text) :
    (mk name.lower).key = name.key := by
  rw [lower_eq_key ascii]
  exact Text.asciiLower_asciiLower name.text

theorem lower_lower {name : HeaderName} (ascii : Text.IsAscii name.text) :
    (mk name.lower).lower = name.lower := by
  have again := (Text.isAscii_asciiLower_iff name.text).2 ascii
  rw [lower_eq_key ascii]
  exact (Text.lower_of_isAscii again).trans (Text.asciiLower_asciiLower name.text)

/-- A key that no lower case beyond ASCII gives: one of ASCII without the letter that the sign of
the kelvin becomes. -/
structure Plain (key : String) : Prop where
  ascii : Text.IsAscii key
  noKelvin : 'k' ∉ key.toList

theorem isAscii_of_key {name : HeaderName} {key : String} (ascii : Text.IsAscii key)
    (same : name.key = key) : Text.IsAscii name.text := by
  apply (Text.isAscii_asciiLower_iff name.text).1
  rwa [← same] at ascii

theorem key_lower_eq_iff {key : String} (plain : Plain key) (name : HeaderName) :
    (mk name.lower).key = key ↔ name.key = key := by
  constructor
  · intro same
    have ascii : Text.IsAscii name.lower := isAscii_of_key plain.ascii same
    have noKelvin : 'k' ∉ name.lower.toList := by
      intro member
      apply plain.noKelvin
      rw [← same, HeaderName.key, Text.toList_asciiLower]
      exact List.mem_map.2 ⟨'k', member, by decide⟩
    rw [← same, key_lower (Text.isAscii_of_lower ascii noKelvin)]
  · intro same
    rw [key_lower (isAscii_of_key plain.ascii same), same]

/-- The names that have a meaning of their own for signing. -/
def special : List HeaderName := [requestTarget, created, expires, date, digest]

theorem plain_special : ∀ name ∈ special, Plain name.key := by
  have plain : ∀ name ∈ special, Text.IsAscii name.key ∧ 'k' ∉ name.key.toList := by
    decide +kernel
  exact fun name member => ⟨(plain name member).1, (plain name member).2⟩

end SignedRequest.HeaderName
