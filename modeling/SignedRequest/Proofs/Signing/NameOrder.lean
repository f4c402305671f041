import SignedRequest.Proofs.Signing.HeaderList

/-!
The list of names that is signed, as a list. No name is in it twice, the configured names that are
not taken away stand in it in their order, and completing it once more changes nothing: what is
taken away is found missing and taken away again, and only a digest that is both forbidden and asked
for comes back, at the end as before.
-/

namespace SignedRequest.HeaderList
open HeaderName (Occurs)
open scoped List

variable {name other : HeaderName} {names : List HeaderName}

def Distinct (names : List HeaderName) : Prop :=
  names.Pairwise fun name other => name.key ≠ other.key

theorem distinct_cons_iff : Distinct (name :: names) ↔ ¬name.Occurs names ∧ Distinct names := by
  unfold Distinct Occurs
  rw [List.pairwise_cons]
  simp only [not_exists, not_and, ne_eq, @eq_comm _ name.key]

section
variable {seen : List HeaderName}

theorem go_cons_of_occurs (known : name.Occurs seen) (rest : List HeaderName) :
    HeaderName.unique.go seen (name :: rest) = HeaderName.unique.go seen rest := by
  rw [HeaderName.unique.go, if_pos ((HeaderName.contains_iff seen name).2 known)]

theorem go_cons_of_new (new : ¬name.Occurs seen) (rest : List HeaderName) :
    HeaderName.unique.go seen (name :: rest) = name :: HeaderName.unique.go (name :: seen) rest := by
  rw [HeaderName.unique.go, if_neg (mt (HeaderName.contains_iff seen name).1 new)]

theorem distinct_go (seen names : List HeaderName) :
    Distinct (HeaderName.unique.go seen names) ∧
      ∀ name ∈ HeaderName.unique.go seen names, ¬name.Occurs seen := by
  induction names generalizing seen with
  | nil => exact ⟨List.Pairwise.nil, by simp [HeaderName.unique.go]⟩
  | cons first rest ih =>
    by_cases known : first.Occurs seen
    · rw [go_cons_of_occurs known]
      exact ih seen
    · obtain ⟨distinct, unseen⟩ := ih (first :: seen)
      rw [go_cons_of_new known, List.forall_mem_cons]
      refine ⟨distinct_cons_iff.2 ⟨?_, distinct⟩, known, fun name member => ?_⟩
      · rintro ⟨found, member, same⟩
        exact unseen found member (occurs_cons_iff.2 (.inl same.symm))
      · exact mt (occurs_cons_iff.2 ∘ .inr) (unseen name member)

theorem go_of_distinct (distinct : Distinct names) (unseen : ∀ name ∈ names, ¬name.Occurs seen) :
    HeaderName.unique.go seen names = names := by
  induction names generalizing seen with
  | nil => rfl
  | cons first rest ih =>
    obtain ⟨single, distinct⟩ := distinct_cons_iff.1 distinct
    rw [List.forall_mem_cons] at unseen
    rw [go_cons_of_new unseen.1, ih distinct]
    intro name member found
    rcases occurs_cons_iff.1 found with same | earlier
    · exact single ⟨name, member, same.symm⟩
    · exact unseen.2 name member earlier

theorem exists_go_append (seen front back : List HeaderName) :
    ∃ known, HeaderName.unique.go seen (front ++ back) =
        HeaderName.unique.go seen front ++ HeaderName.unique.go known back ∧
      ∀ name : HeaderName, name.Occurs known ↔ name.Occurs seen ∨ name.Occurs front := by
  induction front generalizing seen with
  | nil => exact ⟨seen, rfl, fun name => by simp [Occurs]⟩
  | cons first rest ih =>
    rw [List.cons_append]
    by_cases repeated : first.Occurs seen
    · obtain ⟨known, parts, before⟩ := ih seen
      rw [go_cons_of_occurs repeated, go_cons_of_occurs repeated]
      refine ⟨known, parts, fun name => ?_⟩
      have again (same : first.key = name.key) : name.Occurs seen :=
        (HeaderName.occurs_of_key same).1 repeated
      rw [before, occurs_cons_iff]
      tauto
    · obtain ⟨known, parts, before⟩ := ih (first :: seen)
      rw [go_cons_of_new repeated, go_cons_of_new repeated, parts]
      refine ⟨known, rfl, fun name => ?_⟩
      rw [before, occurs_cons_iff, occurs_cons_iff]
      tauto

end

theorem distinct_unique (names : List HeaderName) : Distinct (HeaderName.unique names) :=
  (distinct_go [] names).1

theorem unique_of_distinct (distinct : Distinct names) : HeaderName.unique names = names :=
  go_of_distinct distinct (by simp [Occurs])

theorem pair_sublist_unique {front between back : List HeaderName} (first : ¬name.Occurs front)
    (firstOther : ¬other.Occurs (front ++ name :: between)) :
    [name, other] <+ HeaderName.unique (front ++ name :: (between ++ other :: back)) := by
  obtain ⟨seen, parts, before⟩ := exists_go_append [] front (name :: (between ++ other :: back))
  obtain ⟨known, rest, beforeOther⟩ := exists_go_append (name :: seen) between (other :: back)
  -- Each of the two names is new to all that stands in front of it.
  have new : ¬name.Occurs seen := by
    rw [before]
    simpa [Occurs] using first
  have newOther : ¬other.Occurs known := by
    rw [occurs_append_iff, occurs_cons_iff] at firstOther
    rw [beforeOther, occurs_cons_iff, before]
    have nothing : ¬other.Occurs [] := by simp [Occurs]
    tauto
  change [name, other] <+ HeaderName.unique.go [] _
  rw [parts, go_cons_of_new new, rest, go_cons_of_new newOther]
  apply List.sublist_append_of_sublist_right
  apply List.Sublist.cons_cons
  apply List.sublist_append_of_sublist_right
  exact List.Sublist.cons_cons other (List.nil_sublist _)

theorem distinct_withTarget (distinct : Distinct names) : Distinct (withTarget names) := by
  unfold withTarget
  split
  · exact distinct
  · rename_i missing
    exact distinct_cons_iff.2 ⟨mt (HeaderName.contains_iff names _).2 missing, distinct⟩

theorem distinct_withName (distinct : Distinct names) (name : HeaderName) :
    Distinct (withName names name) := by
  unfold withName
  split
  · exact distinct
  · rename_i missing
    rw [HeaderName.contains_iff] at missing
    refine List.pairwise_append.2 ⟨distinct, List.pairwise_singleton _ name, ?_⟩
    intro other member last same
    rw [List.mem_singleton] at same
    subst same
    exact fun key => missing ⟨other, member, key⟩

theorem distinct_withRequired (distinct : Distinct names) (required : List HeaderName) :
    Distinct (withRequired required names) := by
  induction required generalizing names with
  | nil => exact distinct
  | cons first rest ih => exact ih (distinct_withName distinct first)

theorem distinct_withDigest (distinct : Distinct names) (digest : Option DigestAlgorithm)
    (request : Request) : Distinct (withDigest digest request names) := by
  unfold withDigest
  split
  · exact distinct_withName distinct .digest
  · exact distinct

theorem sublist_withTarget (names : List HeaderName) : names <+ withTarget names := by
  unfold withTarget
  split
  · exact List.Sublist.refl names
  · exact List.sublist_cons_self _ names

theorem sublist_withName (names : List HeaderName) (name : HeaderName) :
    names <+ withName names name := by
  unfold withName
  split
  · exact List.Sublist.refl names
  · exact List.sublist_append_left names _

theorem sublist_withRequired (required names : List HeaderName) :
    names <+ withRequired required names := by
  induction required generalizing names with
  | nil => exact List.Sublist.refl names
  | cons first rest ih => exact (sublist_withName names first).trans (ih (withName names first))

theorem sublist_withDigest (digest : Option DigestAlgorithm) (request : Request)
    (names : List HeaderName) : names <+ withDigest digest request names := by
  unfold withDigest
  split
  · exact sublist_withName names .digest
  · exact List.Sublist.refl names

section
variable {settings : SigningSettings} {request : Request} {requirement : HeaderRequirement}

/-- The names that are configured or required. -/
def demanded (settings : SigningSettings) (requirement : HeaderRequirement) : List HeaderName :=
  withRequired requirement.required (withTarget (HeaderName.unique settings.headers))

theorem occurs_demanded_iff :
    name.Occurs (demanded settings requirement) ↔
      (HeaderName.requestTarget.key = name.key ∨ name.Occurs settings.headers) ∨
        name.Occurs requirement.required := by
  rw [demanded, occurs_withRequired_iff, occurs_withTarget_iff, occurs_unique_iff]

theorem distinct_demanded : Distinct (demanded settings requirement) :=
  distinct_withRequired (distinct_withTarget (distinct_unique settings.headers)) _

theorem distinct_sanitize : Distinct (sanitize settings request requirement) :=
  (distinct_withDigest (distinct_demanded.filter _) settings.digest request).filter _

/-- A name that is not forbidden and has a value. -/
def isSignable (request : Request) (requirement : HeaderRequirement) (name : HeaderName) : Bool :=
  !requirement.forbidden.contains name && isPresent request name

theorem isSignable_iff :
    isSignable request requirement name = true ↔
      ¬name.Occurs requirement.forbidden ∧ isPresent request name = true := by
  rw [isSignable, Bool.and_eq_true, Bool.not_eq_true', ← Bool.not_eq_true, HeaderName.contains_iff]

theorem sublist_sanitize (sublist : names <+ HeaderName.unique settings.headers)
    (signable : ∀ name ∈ names, isSignable request requirement name = true) :
    names <+ sanitize settings request requirement := by
  have listed : names <+ demanded settings requirement :=
    (sublist.trans (sublist_withTarget _)).trans (sublist_withRequired _ _)
  have allowed : names.filter (fun name => !requirement.forbidden.contains name) = names :=
    List.filter_eq_self.2 fun name member => (Bool.and_eq_true_iff.1 (signable name member)).1
  have present : names.filter (isPresent request) = names :=
    List.filter_eq_self.2 fun name member => (Bool.and_eq_true_iff.1 (signable name member)).2
  have kept := listed.filter fun name => !requirement.forbidden.contains name
  rw [allowed] at kept
  have signed := (kept.trans (sublist_withDigest settings.digest request _)).filter
    (isPresent request)
  rwa [present] at signed

/-- A digest is asked for, has a value, and is not among the names that are signed without that. -/
def AddsDigest (settings : SigningSettings) (request : Request) (requirement : HeaderRequirement) :
    Prop :=
  asksForDigest settings request = true ∧ isPresent request .digest = true ∧
    ¬(HeaderName.digest.Occurs (demanded settings requirement) ∧
      ¬HeaderName.digest.Occurs requirement.forbidden)

theorem filter_isPresent :
    (withoutForbidden requirement.forbidden (demanded settings requirement)).filter
        (isPresent request) =
      (demanded settings requirement).filter (isSignable request requirement) := by
  rw [withoutForbidden, List.filter_filter]
  exact List.filter_congr fun name _ => Bool.and_comm _ _

theorem sanitize_of_asks (asked : asksForDigest settings request = true) :
    sanitize settings request requirement =
      (withName (withoutForbidden requirement.forbidden (demanded settings requirement))
        .digest).filter (isPresent request) :=
  congrArg (List.filter (isPresent request)) (if_pos asked)

theorem sanitize_of_not_asks (unasked : ¬asksForDigest settings request = true) :
    sanitize settings request requirement =
      (withoutForbidden requirement.forbidden (demanded settings requirement)).filter
        (isPresent request) :=
  congrArg (List.filter (isPresent request)) (if_neg unasked)

theorem sanitize_of_addsDigest (adds : AddsDigest settings request requirement) :
    sanitize settings request requirement =
      (demanded settings requirement).filter (isSignable request requirement) ++ [.digest] := by
  obtain ⟨asked, present, missing⟩ := adds
  rw [← occurs_withoutForbidden_iff, ← HeaderName.contains_iff] at missing
  rw [sanitize_of_asks asked, withName, if_neg missing, List.filter_append, filter_isPresent,
    List.filter_cons_of_pos present, List.filter_nil]

theorem sanitize_of_not_addsDigest (unadded : ¬AddsDigest settings request requirement) :
    sanitize settings request requirement =
      (demanded settings requirement).filter (isSignable request requirement) := by
  by_cases asked : asksForDigest settings request = true
  · rw [sanitize_of_asks asked, withName, ← filter_isPresent]
    split
    · rfl
    · rename_i missing
      rw [HeaderName.contains_iff, occurs_withoutForbidden_iff] at missing
      have absent : ¬isPresent request .digest = true := fun present =>
        unadded ⟨asked, present, missing⟩
      rw [List.filter_append, List.filter_cons_of_neg absent, List.filter_nil, List.append_nil]
  · rw [sanitize_of_not_asks asked, filter_isPresent]

theorem filter_withName {p : HeaderName → Bool} (idle : name.Occurs names ∨ p name = false) :
    (withName names name).filter p = names.filter p := by
  unfold withName
  split
  · rfl
  · rename_i missing
    rw [HeaderName.contains_iff] at missing
    have dropped := idle.resolve_left missing
    rw [List.filter_append, List.filter_cons_of_neg (by simp [dropped]), List.filter_nil,
      List.append_nil]

theorem filter_withTarget {p : HeaderName → Bool}
    (idle : HeaderName.requestTarget.Occurs names ∨ p .requestTarget = false) :
    (withTarget names).filter p = names.filter p := by
  unfold withTarget
  split
  · rfl
  · rename_i missing
    rw [HeaderName.contains_iff] at missing
    have dropped := idle.resolve_left missing
    rw [List.filter_cons_of_neg (by simp [dropped])]

theorem filter_withRequired {p : HeaderName → Bool} {required : List HeaderName}
    (idle : ∀ name ∈ required, name.Occurs names ∨ p name = false) :
    (withRequired required names).filter p = names.filter p := by
  induction required generalizing names with
  | nil => rfl
  | cons first rest ih =>
    rw [List.forall_mem_cons] at idle
    have later : ∀ name ∈ rest, name.Occurs (withName names first) ∨ p name = false := by
      intro name member
      exact (idle.2 name member).imp_left fun listed => occurs_withName_iff.2 (.inl listed)
    calc
      (withRequired (first :: rest) names).filter p
        = (withRequired rest (withName names first)).filter p := rfl
      _ = (withName names first).filter p := ih later
      _ = names.filter p := filter_withName idle.1

theorem occurs_sanitize_of_signable (listed : name.Occurs (demanded settings requirement))
    (signable : isSignable request requirement name = true) :
    name.Occurs (sanitize settings request requirement) := by
  obtain ⟨allowed, present⟩ := isSignable_iff.1 signable
  rw [occurs_sanitize_iff]
  exact ⟨.inl ⟨occurs_demanded_iff.1 listed, allowed⟩, present⟩

def settled (settings : SigningSettings) (request : Request) (requirement : HeaderRequirement) :
    SigningSettings :=
  { settings with headers := sanitize settings request requirement }

theorem occurs_settled_iff :
    name.Occurs (demanded (settled settings request requirement) requirement) ↔
      (HeaderName.requestTarget.key = name.key ∨
        name.Occurs (sanitize settings request requirement)) ∨ name.Occurs requirement.required :=
  occurs_demanded_iff

theorem filter_settled :
    (demanded (settled settings request requirement) requirement).filter
        (isSignable request requirement) =
      (sanitize settings request requirement).filter (isSignable request requirement) := by
  -- What is demanded is either signed already or cannot be signed.
  have idle {name : HeaderName} (listed : name.Occurs (demanded settings requirement)) :
      name.Occurs (sanitize settings request requirement) ∨
        isSignable request requirement name = false := by
    cases signable : isSignable request requirement name with
    | true => exact .inl (occurs_sanitize_of_signable listed signable)
    | false => exact .inr rfl
  have required : ∀ name ∈ requirement.required,
      name.Occurs (withTarget (HeaderName.unique (settled settings request requirement).headers)) ∨
        isSignable request requirement name = false := by
    intro name member
    refine (idle (occurs_demanded_iff.2 (.inr (HeaderName.occurs_of_mem member)))).imp_left ?_
    intro signed
    exact occurs_withTarget_iff.2 (.inr (occurs_unique_iff.2 signed))
  have target : HeaderName.requestTarget.Occurs
        (HeaderName.unique (settled settings request requirement).headers) ∨
      isSignable request requirement .requestTarget = false :=
    (idle (occurs_demanded_iff.2 (.inl (.inl rfl)))).imp_left occurs_unique_iff.2
  rw [demanded, filter_withRequired required, filter_withTarget target]
  exact congrArg (List.filter _) (unique_of_distinct distinct_sanitize)

theorem filter_isSignable_demanded :
    ((demanded settings requirement).filter (isSignable request requirement)).filter
        (isSignable request requirement) =
      (demanded settings requirement).filter (isSignable request requirement) := by
  simp only [List.filter_filter, Bool.and_self]

theorem addsDigest_settled_iff :
    AddsDigest (settled settings request requirement) request requirement ↔
      AddsDigest settings request requirement ∧
        HeaderName.digest.Occurs requirement.forbidden := by
  constructor
  · intro again
    obtain ⟨asked, present, missing⟩ := again
    rw [occurs_settled_iff, not_and, not_not] at missing
    have adds : AddsDigest settings request requirement := by
      refine ⟨asked, present, ?_⟩
      rintro ⟨listed, allowed⟩
      have signed := occurs_sanitize_of_signable listed (isSignable_iff.2 ⟨allowed, present⟩)
      exact allowed (missing (.inl (.inr signed)))
    refine ⟨adds, missing (.inl (.inr ?_))⟩
    rw [sanitize_of_addsDigest adds, occurs_append_iff]
    exact .inr (HeaderName.occurs_of_mem (List.mem_singleton_self _))
  · intro found
    obtain ⟨⟨asked, present, -⟩, forbidden⟩ := found
    exact ⟨asked, present, fun listed => listed.2 forbidden⟩

theorem sanitize_settled :
    sanitize (settled settings request requirement) request requirement =
      sanitize settings request requirement := by
  by_cases again : AddsDigest (settled settings request requirement) request requirement
  · obtain ⟨adds, forbidden⟩ := addsDigest_settled_iff.1 again
    have dropped : ¬isSignable request requirement .digest = true := fun signable =>
      (isSignable_iff.1 signable).1 forbidden
    rw [sanitize_of_addsDigest again, filter_settled, sanitize_of_addsDigest adds,
      List.filter_append, filter_isSignable_demanded, List.filter_cons_of_neg dropped,
      List.filter_nil, List.append_nil]
  · rw [sanitize_of_not_addsDigest again, filter_settled]
    by_cases adds : AddsDigest settings request requirement
    · have allowed := mt (fun forbidden => addsDigest_settled_iff.2 ⟨adds, forbidden⟩) again
      have signable := isSignable_iff.2 ⟨allowed, adds.2.1⟩
      rw [sanitize_of_addsDigest adds, List.filter_append, filter_isSignable_demanded,
        List.filter_cons_of_pos signable, List.filter_nil]
    · rw [sanitize_of_not_addsDigest adds, filter_isSignable_demanded]

theorem isSignable_of_occurs (signed : name.Occurs (sanitize settings request requirement))
    (allowed : ¬name.Occurs requirement.forbidden) :
    isSignable request requirement name = true :=
  isSignable_iff.2 ⟨allowed, ((occurs_sanitize_iff _ _ _).1 signed).2⟩

end

/-- The names that are signed differ in more than the case of ASCII letters; of the configured names
those that are signed without having been taken away as forbidden keep, as they are spelled where
they first occur, the order of these places; and under the names that are signed the same names are
signed once more. -/
theorem sanitize_projects (settings : SigningSettings) (request : Request)
    (requirement : HeaderRequirement) :
    ((sanitize settings request requirement).Pairwise fun name other =>
        Text.asciiLower name.text ≠ Text.asciiLower other.text) ∧
      (∀ (front between back : List HeaderName) (name other : HeaderName),
        settings.headers = front ++ name :: (between ++ other :: back) →
          ¬name.Occurs front → ¬other.Occurs (front ++ name :: between) →
            name.Occurs (sanitize settings request requirement) →
              other.Occurs (sanitize settings request requirement) →
                ¬name.Occurs requirement.forbidden → ¬other.Occurs requirement.forbidden →
                  [name, other] <+ sanitize settings request requirement) ∧
        sanitize { settings with headers := sanitize settings request requirement } request
            requirement =
          sanitize settings request requirement := by
  refine ⟨distinct_sanitize, ?_, sanitize_settled⟩
  intro front between back name other configured first firstOther signed signedOther allowed
    allowedOther
  apply sublist_sanitize
  · rw [configured]
    exact pair_sublist_unique first firstOther
  · intro found member
    rcases List.mem_pair.1 member with rfl | rfl
    · exact isSignable_of_occurs signed allowed
    · exact isSignable_of_occurs signedOther allowedOther

namespace Overlap

def settings : SigningSettings where
  keyId := ⟨"client"⟩
  secret := .ofText "s"
  algorithm := .hmac
  headers := [.digest, ⟨"X-A"⟩, ⟨"x-a"⟩, ⟨"Host"⟩, ⟨"DIGEST"⟩]
  digest := some .sha256

def request : Request where
  method := ⟨"PATCH", by decide +kernel⟩
  target := .origin "/"
  fields := ⟨[(⟨"host", by decide +kernel⟩, ⟨[97], by decide⟩),
    (⟨"x-a", by decide +kernel⟩, ⟨[98], by decide⟩)]⟩
  body := some [99]

def requirement : HeaderRequirement where
  required := [⟨"digest"⟩, ⟨"host"⟩, .created]
  forbidden := [⟨"Digest"⟩, .requestTarget]

theorem sanitize_overlap :
    sanitize settings request requirement ≠ settings.headers ∧
      HeaderName.digest.Occurs requirement.forbidden ∧
        HeaderName.digest.Occurs (sanitize settings request requirement) ∧
          [(⟨"X-A"⟩ : HeaderName), ⟨"Host"⟩] <+ sanitize settings request requirement ∧
            sanitize { settings with headers := sanitize settings request requirement } request
                requirement =
              sanitize settings request requirement := by
  obtain ⟨-, ordered, again⟩ := sanitize_projects settings request requirement
  refine ⟨?_, by decide +kernel, by decide +kernel, ?_, again⟩
  · intro same
    exact absurd (congrArg List.length same) (by decide +kernel)
  · exact ordered [.digest] [⟨"x-a"⟩] [⟨"DIGEST"⟩] ⟨"X-A"⟩ ⟨"Host"⟩ rfl (by decide +kernel)
      (by decide +kernel) (by decide +kernel) (by decide +kernel) (by decide +kernel)
      (by decide +kernel)

end Overlap
end SignedRequest.HeaderList
