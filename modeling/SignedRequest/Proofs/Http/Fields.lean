import Mathlib.Data.List.Nodup
import SignedRequest.Http.Request
import SignedRequest.Proofs.Text.Ascii
import SignedRequest.Proofs.Text.Utf8

/-!
What setting a header does: it gives its name one value and touches no other name.
-/

namespace SignedRequest

namespace Fields

theorem values_cons (line : FieldName × FieldValue) (rest : List (FieldName × FieldValue))
    (name : FieldName) :
    values ⟨line :: rest⟩ name =
      (if line.1 = name then [line.2] else []) ++ values ⟨rest⟩ name := by
  by_cases same : line.1 = name <;> simp [values, same]

theorem values_go (name other : FieldName) (value : FieldValue)
    (lines : List (FieldName × FieldValue)) :
    values ⟨set.go name value lines⟩ other =
      if name = other then [value] else values ⟨lines⟩ other := by
  induction lines with
  | nil => by_cases same : name = other <;> simp [set.go, values, same]
  | cons line rest ih =>
    unfold set.go
    by_cases first : line.1 = name
    · have others := values_remove ⟨rest⟩ name other
      rw [if_pos (beq_iff_eq.2 first), values_cons, values_cons, first]
      unfold remove at others
      rw [others]
      by_cases same : name = other <;> simp [same]
    · rw [if_neg (by simpa using first), values_cons, values_cons, ih]
      by_cases same : name = other
      · simp [← same, first]
      · simp [same]

theorem values_set (fields : Fields) (name other : FieldName) (value : FieldValue) :
    (fields.set name value).values other =
      if name = other then [value] else fields.values other :=
  values_go name other value fields.lines

theorem set_set (fields : Fields) (name : FieldName) (first last : FieldValue) :
    (fields.set name first).set name last = fields.set name last := by
  have lines (lines : List (FieldName × FieldValue)) :
      set.go name last (set.go name first lines) = set.go name last lines := by
    induction lines with
    | nil => simp [set.go]
    | cons line rest ih =>
      by_cases same : line.1 = name
      · simp [set.go, same]
      · simp [set.go, same, ih]
  rw [set, set, set, lines]

theorem values_foldl_append (name other : FieldName) (values : List FieldValue) (fields : Fields) :
    (values.foldl (fun fields value => fields.append name value) fields).values other =
      fields.values other ++ if name = other then values else [] := by
  induction values generalizing fields with
  | nil => simp
  | cons value rest ih =>
    rw [List.foldl_cons, ih, values_append, List.append_assoc]
    by_cases same : name = other
    · simp only [if_pos same, List.singleton_append]
    · simp only [if_neg same, List.append_nil]

theorem nodup_eraseDups (names : List FieldName) : names.eraseDups.Nodup := by
  cases names with
  | nil => simp
  | cons name rest =>
    rw [List.eraseDups_cons, List.nodup_cons, List.mem_eraseDups]
    exact ⟨by simp, nodup_eraseDups _⟩
termination_by names.length
decreasing_by exact Nat.lt_succ_of_le (List.length_filter_le _ _)

theorem mem_names_iff (fields : Fields) (name : FieldName) :
    name ∈ fields.names ↔ fields.values name ≠ [] := by
  rw [← contains_iff, names, List.mem_eraseDups, contains, List.any_eq_true]
  simp

theorem filter_names (fields : Fields) (name : FieldName) :
    (fields.names.filter fun other => other == name) =
      if fields.values name = [] then [] else [name] := by
  split
  · rename_i missing
    refine List.filter_eq_nil_iff.2 fun other listed => ?_
    rintro same
    obtain rfl := beq_iff_eq.1 same
    exact (fields.mem_names_iff other).1 listed missing
  · rename_i carried
    have once : fields.names.count name = 1 :=
      List.count_eq_one_of_mem (nodup_eraseDups _) ((fields.mem_names_iff name).2 carried)
    rw [List.filter_beq, once, List.replicate_one]

theorem flatMap_filter_names {α : Type} (fields : Fields) (name : FieldName)
    {part : FieldName → List α} (missing : fields.values name = [] → part name = []) :
    (fields.names.filter fun other => other == name).flatMap part = part name := by
  rw [filter_names]
  split
  · rename_i none
    rw [missing none, List.flatMap_nil]
  · rw [List.flatMap_singleton]

/-- The names of the source take the values that they have there, and no other name is touched. -/
theorem values_replaceBy (target source : Fields) (name : FieldName) :
    (target.replaceBy source).values name =
      if source.values name = [] then target.values name else source.values name := by
  have each (names : List FieldName) (fields : Fields) :
      (names.foldl (fun fields name => (source.values name).foldl
          (fun fields value => fields.append name value) (fields.remove name)) fields).values name =
        if name ∈ names then source.values name else fields.values name := by
    induction names generalizing fields with
    | nil => simp
    | cons first rest ih =>
      rw [List.foldl_cons, ih, values_foldl_append, values_remove]
      by_cases later : name ∈ rest
      · simp [later]
      · by_cases same : first = name
        · simp [same]
        · simp [later, same, Ne.symm same]
  rw [replaceBy, each]
  by_cases missing : source.values name = []
  · rw [if_pos missing, if_neg (mt (source.mem_names_iff name).1 (not_not_intro missing))]
  · rw [if_neg missing, if_pos ((source.mem_names_iff name).2 missing)]

end Fields

theorem FieldName.text_inj {name other : FieldName} : name.text = other.text ↔ name = other := by
  obtain ⟨_, _⟩ := name
  obtain ⟨_, _⟩ := other
  rw [mk.injEq]

theorem FieldValue.text_of_ofText? {text : String} {value : FieldValue}
    (made : FieldValue.ofText? text = some value) : value.text = text := by
  unfold ofText? ofBytes? at made
  split at made
  · cases made
    exact Text.Utf8.lossy_ofText text
  · simp at made

theorem FieldValue.lineFeed_not_mem (value : FieldValue) : '\n' ∉ value.text.toList := by
  intro member
  have found := Text.Utf8.mem_of_lineFeed_mem_lossy member
  have valid := List.all_eq_true.1 value.valid 10 found
  exact absurd valid (by decide)

theorem FieldName.ofText?_eq_some_iff (text : String) (name : FieldName) :
    FieldName.ofText? text = some name ↔ Text.asciiLower text = name.text := by
  obtain ⟨lowered, valid⟩ := name
  unfold ofText?
  dsimp only
  split
  · simp
  · rename_i invalid
    constructor
    · nofun
    · intro same
      subst same
      exact absurd valid invalid

theorem isAscii_of_isTokenChar {c : Char} (token : isTokenChar c = true) :
    Text.isAscii c = true := by
  have signs : ∀ c ∈ "!#$%&'*+-.^_`|~".toList, Text.isAscii c = true :=
    List.all_eq_true.1 (by decide)
  rcases Bool.or_eq_true _ _ ▸ token with alphanum | sign
  · have range := Bool.or_eq_true_iff.1 alphanum
    rw [Text.isAlpha_iff, Text.isUpper_iff, Text.isLower_iff, Char.isDigit_iff_toNat] at range
    simp at range
    simp only [Text.isAscii, decide_eq_true_eq]
    omega
  · exact signs c (by simpa using sign)

theorem FieldName.chars (name : FieldName) :
    name.text ≠ "" ∧ ∀ c ∈ name.text.toList, isTokenChar c = true ∧ c.isUpper = false := by
  have valid := name.valid
  simp only [isFieldName, Bool.and_eq_true, List.all_eq_true, Bool.not_eq_true',
    List.isEmpty_eq_false_iff] at valid
  exact ⟨by simpa using valid.1.1, valid.2⟩

theorem FieldName.asciiLower_text (name : FieldName) : Text.asciiLower name.text = name.text := by
  have small : name.text.toList.map Char.toLower = name.text.toList := by
    refine (List.map_congr_left fun c member => ?_).trans (List.map_id _)
    obtain ⟨token, lower⟩ := name.chars.2 c member
    have each := Text.ascii_forall (p := fun c => c.isUpper || c.toLower == c) (by decide +kernel)
      (isAscii_of_isTokenChar token)
    simpa [lower] using each
  exact String.toList_injective ((Text.toList_asciiLower _).trans small)

theorem FieldName.ofText?_text (name : FieldName) : FieldName.ofText? name.text = some name :=
  (ofText?_eq_some_iff _ _).2 name.asciiLower_text

namespace Request

variable (request : Request) (name : FieldName) (value : FieldValue)

theorem hasField_text : request.hasField name.text = request.fields.contains name := by
  simp [hasField, name.ofText?_text]

theorem fieldTexts_text :
    request.fieldTexts name.text = (request.fields.values name).map FieldValue.text := by
  simp [fieldTexts, name.ofText?_text]

variable {request name} in
theorem values_eq_nil (missing : request.hasField name.text = false) :
    request.fields.values name = [] := by
  rw [hasField_text, ← Bool.not_eq_true, Fields.contains_iff, not_not] at missing
  exact missing

theorem fieldTexts_setField (other : String) :
    (request.setField name value).fieldTexts other =
      if Text.asciiLower other = name.text then [value.text] else request.fieldTexts other := by
  unfold fieldTexts setField
  simp only [← FieldName.ofText?_eq_some_iff]
  cases FieldName.ofText? other with
  | none => simp
  | some found =>
    simp only [Fields.values_set, Option.some.injEq, @eq_comm _ found]
    split
    · rfl
    · rfl

theorem values_setField_self : (request.setField name value).fields.values name = [value] := by
  rw [setField, Fields.values_set, if_pos rfl]

theorem values_setField_of_ne {other : FieldName} (apart : other ≠ name) :
    (request.setField name value).fields.values other = request.fields.values other := by
  rw [setField, Fields.values_set, if_neg apart.symm]

theorem setField_setField (last : FieldValue) :
    (request.setField name value).setField name last = request.setField name last := by
  simp only [setField, Fields.set_set]

theorem hasField_eq (other : String) :
    request.hasField other = !(request.fieldTexts other).isEmpty := by
  rw [Bool.eq_iff_iff, hasField_iff]
  simp

theorem hasField_eq_isSome (other : String) :
    request.hasField other = (request.firstFieldText? other).isSome := by
  rw [hasField_eq, firstFieldText?]
  cases request.fieldTexts other <;> rfl

theorem hasField_setField (other : String) :
    (request.setField name value).hasField other =
      (Text.asciiLower other == name.text || request.hasField other) := by
  simp only [hasField_eq, fieldTexts_setField]
  by_cases same : Text.asciiLower other = name.text
  · simp [same]
  · simp [same]

theorem firstFieldText?_setField (other : String) :
    (request.setField name value).firstFieldText? other =
      if Text.asciiLower other = name.text then some value.text
      else request.firstFieldText? other := by
  unfold firstFieldText?
  rw [fieldTexts_setField]
  split
  · rfl
  · rfl

theorem hasField_setField_self : (request.setField name value).hasField name.text = true := by
  simp [hasField_setField, name.asciiLower_text]

theorem firstFieldText?_setField_self :
    (request.setField name value).firstFieldText? name.text = some value.text := by
  rw [firstFieldText?_setField, if_pos name.asciiLower_text]

theorem firstFieldText?_setField_of_ne {other : FieldName} (apart : other ≠ name) :
    (request.setField name value).firstFieldText? other.text =
      request.firstFieldText? other.text := by
  rw [firstFieldText?_setField, other.asciiLower_text, if_neg (mt FieldName.text_inj.1 apart)]

theorem fieldTexts_congr {text other : String}
    (same : Text.asciiLower text = Text.asciiLower other) :
    request.fieldTexts text = request.fieldTexts other := by
  unfold fieldTexts FieldName.ofText?
  simp only [same]

theorem hasField_congr {text other : String}
    (same : Text.asciiLower text = Text.asciiLower other) :
    request.hasField text = request.hasField other := by
  rw [hasField_eq, hasField_eq, request.fieldTexts_congr same]

theorem lineFeed_not_mem_fieldTexts {other text : String}
    (member : text ∈ request.fieldTexts other) : '\n' ∉ text.toList := by
  unfold fieldTexts at member
  cases named : FieldName.ofText? other with
  | none => simp [named] at member
  | some found =>
    rw [named] at member
    obtain ⟨field, _, rfl⟩ := List.mem_map.1 member
    exact field.lineFeed_not_mem

theorem lineFeed_not_mem {other text : String}
    (carried : request.firstFieldText? other = some text) : '\n' ∉ text.toList :=
  request.lineFeed_not_mem_fieldTexts (List.mem_of_mem_head? carried)

theorem isTokenChar_of_hasField {text : String} (carried : request.hasField text = true) :
    ∀ c ∈ text.toList, isTokenChar c.toLower = true := by
  unfold hasField at carried
  cases named : FieldName.ofText? text with
  | none => simp [named] at carried
  | some name =>
    have lowered := (FieldName.ofText?_eq_some_iff text name).1 named
    have valid := name.valid
    rw [← lowered] at valid
    simp only [isFieldName, Text.toList_asciiLower, Bool.and_eq_true, List.all_eq_true] at valid
    exact fun c member => (valid.2 c.toLower (List.mem_map_of_mem member)).1

theorem isAscii_of_hasField {text : String} (carried : request.hasField text = true) :
    Text.IsAscii text := by
  intro c member
  rw [← Text.isAscii_toLower]
  exact isAscii_of_isTokenChar (request.isTokenChar_of_hasField carried c member)

end Request
end SignedRequest
