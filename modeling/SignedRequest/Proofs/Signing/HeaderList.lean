import SignedRequest.Proofs.Header
import SignedRequest.Proofs.Http.Fields
import SignedRequest.Signing.HeaderList

/-!
Which names a sender signs. A name is in the list if the request has a value for it and it is
configured, required or the request target, and not forbidden; a digest that is asked for is in the
list although it be forbidden. What is in the list is spelled like a header or stands in parentheses.
-/

namespace SignedRequest.HeaderList
open HeaderName (Occurs)

variable {name other : HeaderName} {names : List HeaderName}

theorem occurs_cons_iff :
    other.Occurs (name :: names) ↔ name.key = other.key ∨ other.Occurs names := by
  simp [Occurs]

theorem occurs_append_iff (front back : List HeaderName) :
    name.Occurs (front ++ back) ↔ name.Occurs front ∨ name.Occurs back := by
  simp [Occurs, or_and_right, exists_or]

theorem occurs_go_iff (seen names : List HeaderName) :
    name.Occurs (HeaderName.unique.go seen names) ∨ name.Occurs seen ↔
      name.Occurs names ∨ name.Occurs seen := by
  induction names generalizing seen with
  | nil => rfl
  | cons first rest ih =>
    unfold HeaderName.unique.go
    split
    · rename_i repeated
      have known := (HeaderName.contains_iff seen first).1 repeated
      rw [ih, occurs_cons_iff]
      constructor
      · exact fun found => found.imp_left .inr
      · intro found
        rcases found with (same | later) | earlier
        · exact .inr ((HeaderName.occurs_of_key same).1 known)
        · exact .inl later
        · exact .inr earlier
    · have found := ih (first :: seen)
      simp only [occurs_cons_iff] at found ⊢
      grind

theorem occurs_unique_iff : name.Occurs (HeaderName.unique names) ↔ name.Occurs names := by
  have found : name.Occurs (HeaderName.unique.go [] names) ∨ name.Occurs [] ↔
      name.Occurs names ∨ name.Occurs [] := occurs_go_iff [] names
  have nothing : ¬name.Occurs [] := by simp [Occurs]
  simp only [nothing, or_false] at found
  exact found

theorem occurs_withTarget_iff :
    name.Occurs (withTarget names) ↔
      HeaderName.requestTarget.key = name.key ∨ name.Occurs names := by
  unfold withTarget
  split
  · rename_i listed
    have known := (HeaderName.contains_iff names .requestTarget).1 listed
    exact ⟨.inr, Or.rec (fun same => (HeaderName.occurs_of_key same).1 known) id⟩
  · exact occurs_cons_iff

theorem occurs_withName_iff :
    other.Occurs (withName names name) ↔ other.Occurs names ∨ name.key = other.key := by
  unfold withName
  split
  · rename_i listed
    have known := (HeaderName.contains_iff names name).1 listed
    exact ⟨.inl, Or.rec id (fun same => (HeaderName.occurs_of_key same).1 known)⟩
  · rw [occurs_append_iff]
    simp [Occurs]

theorem occurs_withRequired_iff (required : List HeaderName) :
    name.Occurs (withRequired required names) ↔ name.Occurs names ∨ name.Occurs required := by
  induction required generalizing names with
  | nil => simp [withRequired, Occurs]
  | cons first rest ih =>
    rw [withRequired, List.foldl_cons]
    rw [← withRequired, ih, occurs_withName_iff, occurs_cons_iff, or_assoc]

theorem occurs_filter_iff {p : HeaderName → Bool}
    (congr : ∀ a b : HeaderName, a.key = b.key → p a = p b) :
    name.Occurs (names.filter p) ↔ name.Occurs names ∧ p name = true := by
  simp only [Occurs, List.mem_filter]
  constructor
  · intro found
    obtain ⟨found, ⟨member, kept⟩, same⟩ := found
    exact ⟨⟨found, member, same⟩, congr found name same ▸ kept⟩
  · intro found
    obtain ⟨⟨found, member, same⟩, kept⟩ := found
    exact ⟨found, ⟨member, congr found name same ▸ kept⟩, same⟩

theorem occurs_withoutForbidden_iff (forbidden : List HeaderName) :
    name.Occurs (withoutForbidden forbidden names) ↔
      name.Occurs names ∧ ¬name.Occurs forbidden := by
  have congr (a b : HeaderName) (same : a.key = b.key) :
      (!forbidden.contains a) = !forbidden.contains b := by
    rw [Bool.eq_iff_iff, Bool.not_eq_true', Bool.not_eq_true', ← Bool.not_eq_true,
      ← Bool.not_eq_true, HeaderName.contains_iff, HeaderName.contains_iff,
      HeaderName.occurs_of_key same]
  rw [withoutForbidden, occurs_filter_iff congr, Bool.not_eq_true', ← Bool.not_eq_true,
    HeaderName.contains_iff]

theorem isPresent_congr (request : Request) {a b : HeaderName} (same : a.key = b.key) :
    isPresent request a = isPresent request b := by
  have matching (special : HeaderName) : (a == special) = (b == special) := by
    rw [Bool.eq_iff_iff, HeaderName.beq_iff, HeaderName.beq_iff, same]
  simp only [isPresent, matching, HeaderName.isPseudo_congr same,
    show request.hasField a.text = request.hasField b.text from request.hasField_congr same]

def asksForDigest (settings : SigningSettings) (request : Request) : Bool :=
  settings.digest.isSome && !request.method.isBodyless

/-- The names that would be signed if the request had a value for all of them. -/
def candidates (settings : SigningSettings) (request : Request)
    (requirement : HeaderRequirement) : List HeaderName :=
  withDigest settings.digest request (withoutForbidden requirement.forbidden
    (withRequired requirement.required (withTarget (HeaderName.unique settings.headers))))

theorem sanitize_eq (settings : SigningSettings) (request : Request)
    (requirement : HeaderRequirement) :
    sanitize settings request requirement =
      (candidates settings request requirement).filter (isPresent request) :=
  rfl

theorem candidates_congr (settings : SigningSettings) {request other : Request}
    (method : request.method = other.method) (requirement : HeaderRequirement) :
    candidates settings request requirement = candidates settings other requirement := by
  simp only [candidates, withDigest, method]

theorem occurs_candidates_iff (settings : SigningSettings) (request : Request)
    (requirement : HeaderRequirement) :
    name.Occurs (candidates settings request requirement) ↔
      ((HeaderName.requestTarget.key = name.key ∨ name.Occurs settings.headers) ∨
        name.Occurs requirement.required) ∧ ¬name.Occurs requirement.forbidden ∨
          asksForDigest settings request = true ∧ HeaderName.digest.key = name.key := by
  unfold candidates withDigest
  split
  · rename_i asked
    rw [occurs_withName_iff, occurs_withoutForbidden_iff, occurs_withRequired_iff,
      occurs_withTarget_iff, occurs_unique_iff]
    simp [asksForDigest, asked]
  · rename_i notAsked
    rw [occurs_withoutForbidden_iff, occurs_withRequired_iff, occurs_withTarget_iff,
      occurs_unique_iff]
    simp [asksForDigest, notAsked]

theorem occurs_sanitize_iff (settings : SigningSettings) (request : Request)
    (requirement : HeaderRequirement) :
    name.Occurs (sanitize settings request requirement) ↔
      (((HeaderName.requestTarget.key = name.key ∨ name.Occurs settings.headers) ∨
        name.Occurs requirement.required) ∧ ¬name.Occurs requirement.forbidden ∨
          asksForDigest settings request = true ∧ HeaderName.digest.key = name.key) ∧
        isPresent request name = true := by
  rw [sanitize_eq, occurs_filter_iff fun a b same => isPresent_congr request same,
    occurs_candidates_iff]

/-- Only a digest is signed although it be forbidden. -/
theorem not_forbidden_of_occurs {settings : SigningSettings} {request : Request}
    {requirement : HeaderRequirement}
    (listed : name.Occurs (sanitize settings request requirement))
    (other : HeaderName.digest.key ≠ name.key) : ¬name.Occurs requirement.forbidden := by
  obtain ⟨⟨_, allowed⟩ | ⟨_, same⟩, _⟩ := (occurs_sanitize_iff _ _ _).1 listed
  · exact allowed
  · exact absurd same other

theorem mem_of_mem_go {seen names : List HeaderName}
    (member : name ∈ HeaderName.unique.go seen names) : name ∈ names := by
  induction names generalizing seen with
  | nil => exact member
  | cons first rest ih =>
    unfold HeaderName.unique.go at member
    split at member
    · exact List.mem_cons_of_mem first (ih member)
    · exact List.mem_cons.2 ((List.mem_cons.1 member).imp_right ih)

theorem mem_of_mem_withTarget (member : name ∈ withTarget (HeaderName.unique names)) :
    name ∈ names ∨ name = .requestTarget := by
  unfold withTarget at member
  split at member
  · exact .inl (mem_of_mem_go member)
  · exact (List.mem_cons.1 member).symm.imp_left mem_of_mem_go

theorem mem_of_mem_withName (member : other ∈ withName names name) :
    other ∈ names ∨ other = name := by
  unfold withName at member
  split at member
  · exact .inl member
  · simpa using member

theorem mem_of_mem_withRequired {required : List HeaderName}
    (member : name ∈ withRequired required names) : name ∈ names ∨ name ∈ required := by
  induction required generalizing names with
  | nil => exact .inl member
  | cons first rest ih =>
    have added : name ∈ withRequired rest (withName names first) := member
    rcases ih added with found | later
    · exact (mem_of_mem_withName found).imp_right fun same => by simp [same]
    · exact .inr (List.mem_cons_of_mem first later)

theorem mem_of_mem_sanitize {settings : SigningSettings} {request : Request}
    {requirement : HeaderRequirement} (member : name ∈ sanitize settings request requirement) :
    (name ∈ settings.headers ∨ name = .requestTarget ∨ name ∈ requirement.required ∨
      name = .digest) ∧ isPresent request name = true := by
  obtain ⟨member, present⟩ := List.mem_filter.1 member
  refine ⟨?_, present⟩
  have listed (found : name ∈ withoutForbidden requirement.forbidden
      (withRequired requirement.required (withTarget (HeaderName.unique settings.headers)))) :
      name ∈ settings.headers ∨ name = .requestTarget ∨ name ∈ requirement.required ∨
        name = .digest := by
    rcases mem_of_mem_withRequired (List.mem_filter.1 found).1 with targeted | required
    · exact (mem_of_mem_withTarget targeted).elim .inl (.inr ∘ .inl)
    · exact .inr (.inr (.inl required))
  unfold withDigest at member
  split at member
  · rcases mem_of_mem_withName member with found | same
    · exact listed found
    · exact .inr (.inr (.inr same))
  · exact listed member

theorem isFieldName_of_isPresent {request : Request}
    (present : isPresent request name = true) :
    name.isPseudo = true ∨ isFieldName name.key = true := by
  have known (special : HeaderName) (named : isFieldName special.key = true)
      (same : (name == special) = true) : isFieldName name.key = true :=
    (HeaderName.beq_iff name special).1 same ▸ named
  unfold isPresent at present
  split at present
  · exact .inr (known .digest (by decide) ‹_›)
  · simp only [Bool.or_eq_true] at present
    rcases present with (pseudo | date) | carried
    · exact .inl pseudo
    · exact .inr (known .date (by decide) date)
    · unfold Request.hasField at carried
      cases named : FieldName.ofText? name.text with
      | none => simp [named] at carried
      | some field =>
        refine .inr ?_
        rw [HeaderName.key, (FieldName.ofText?_eq_some_iff _ _).1 named]
        exact field.valid

theorem isTokenChar_of_isPresent {request : Request} (present : isPresent request name = true)
    (header : ¬name.isPseudo = true) :
    name.text ≠ "" ∧ ∀ c ∈ name.text.toList, isTokenChar c.toLower = true := by
  have named := (isFieldName_of_isPresent present).resolve_left header
  simp only [isFieldName, HeaderName.key, Text.toList_asciiLower, Bool.and_eq_true,
    Bool.not_eq_true', List.isEmpty_eq_false_iff, List.all_eq_true] at named
  obtain ⟨⟨nonempty, -⟩, token⟩ := named
  exact ⟨by simpa using nonempty, fun c member =>
    (token c.toLower (List.mem_map_of_mem member)).1⟩

theorem solid_of_isPresent {request : Request} (present : isPresent request name = true) :
    name.text ≠ "" ∧ (¬name.isPseudo = true →
      ∀ c ∈ name.text.toList, c ≠ '"' ∧ Text.isBlank c = false) := by
  by_cases pseudo : name.isPseudo = true
  · refine ⟨?_, fun header => absurd pseudo header⟩
    intro empty
    simp [HeaderName.isPseudo, empty] at pseudo
  · obtain ⟨nonempty, token⟩ := isTokenChar_of_isPresent present pseudo
    refine ⟨nonempty, fun _ c member => ?_⟩
    have ascii := (Text.isAscii_toLower c).symm.trans (isAscii_of_isTokenChar (token c member))
    have each := Text.ascii_forall
      (p := fun c => !isTokenChar c.toLower || (c != '"' && !Text.isBlank c)) (by decide +kernel)
      ascii
    simpa [token c member] using each

theorem isBlank_of_isPresent {request : Request} (present : isPresent request name = true) :
    name.isBlank = false := by
  obtain ⟨nonempty, solid⟩ := solid_of_isPresent present
  have visible : ∃ c ∈ name.text.toList, Text.isBlank c = false := by
    by_cases pseudo : name.isPseudo = true
    · obtain ⟨inner, text⟩ := (HeaderName.isPseudo_iff name).1 pseudo
      exact ⟨'(', by simp [text, String.toList_append], by decide⟩
    · obtain ⟨c, member⟩ := List.exists_mem_of_ne_nil name.text.toList (by simpa using nonempty)
      exact ⟨c, member, (solid pseudo c member).2⟩
  rw [HeaderName.isBlank, Text.isAllBlank, List.all_eq_false]
  simpa using visible

end SignedRequest.HeaderList
