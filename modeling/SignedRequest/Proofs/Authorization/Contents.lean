import SignedRequest.Proofs.Authorization.Grammar
import SignedRequest.Proofs.Time

/-!
What is made of parameters. Their names are checked, and the times among them; a signature is made
of the contents that the parameters have under its names.
-/

namespace SignedRequest.Authorization

theorem checkParameters_eq_ok_iff (earlier : List String) (parameters : List Parameter) :
    checkParameters earlier parameters = .ok () ↔
      (∀ parameter ∈ parameters, parameter.name ∉ earlier) ∧
        (parameters.map Parameter.name).Nodup ∧
        ∀ parameter ∈ parameters, isTimestamp parameter.name = true →
          (secondsOf? parameter.value.text).isSome = true := by
  induction parameters generalizing earlier with
  | nil => simp [checkParameters]
  | cons parameter rest ih =>
    simp only [checkParameters, List.contains_eq_mem, decide_eq_true_eq, List.forall_mem_cons,
      List.map_cons, List.nodup_cons]
    split
    · rename_i repeated
      simp [repeated]
    · rename_i new
      split
      · rename_i untimed
        simp [untimed.1, Option.isNone_iff_eq_none.1 untimed.2]
      · rename_i timed
        have told : isTimestamp parameter.name = true →
            (secondsOf? parameter.value.text).isSome = true := fun stamp =>
          Option.isSome_iff_ne_none.2 fun none => timed ⟨stamp, by simp [none]⟩
        rw [ih]
        simp only [List.mem_cons, not_or, List.mem_map, not_exists, not_and, new]
        grind

def contentOf? (pairs : List (String × String)) (name : String) : Option String :=
  (pairs.find? fun pair => pair.1 == name).map Prod.snd

theorem contentOf?_eq_some_iff {pairs : List (String × String)}
    (distinct : (pairs.map Prod.fst).Nodup) (name text : String) :
    contentOf? pairs name = some text ↔ (name, text) ∈ pairs := by
  induction pairs with
  | nil => simp [contentOf?]
  | cons pair pairs ih =>
    obtain ⟨key, content⟩ := pair
    obtain ⟨new, distinct⟩ := List.nodup_cons.1 distinct
    have elsewhere := ih distinct
    unfold contentOf? at elsewhere ⊢
    by_cases same : key = name
    · subst same
      have none : (key, text) ∉ pairs := fun member =>
        new (List.mem_map.2 ⟨(key, text), member, rfl⟩)
      simp [none, eq_comm]
    · have other : (name, text) ≠ (key, content) := fun equal => same (Prod.mk.inj equal).1.symm
      simp [same, elsewhere, other]

theorem map_text_find? (parameters : List Parameter) (name : String) :
    (find? parameters name).map Parameter.text =
      contentOf? (parameters.map Parameter.pair) name := by
  rw [contentOf?, List.find?_map, Option.map_map]
  rfl

theorem signatureOf_eq_ok (stop : Nat) {parameters : List Parameter} {keyId string : String}
    (named : contentOf? (parameters.map Parameter.pair) "keyId" = some keyId)
    (signed : contentOf? (parameters.map Parameter.pair) "signature" = some string) :
    let content? := contentOf? (parameters.map Parameter.pair)
    signatureOf stop parameters =
      .ok
        { keyId := ⟨keyId⟩
          algorithm := (content? "algorithm").filter fun text => !text.isEmpty
          created := (content? "created").bind fun text => secondsOf? text.toList
          expires := (content? "expires").bind fun text => secondsOf? text.toList
          headers := (Text.words ((content? "headers").getD "")).map HeaderName.mk
          string
          nonce := (content? "nonce").filter fun text => !text.isEmpty } := by
  have timed (name : String) : timestamp? parameters name =
      (contentOf? (parameters.map Parameter.pair) name).bind
        fun text => secondsOf? text.toList := by
    rw [← map_text_find?, Option.bind_map, timestamp?]
    simp only [Function.comp_def, Parameter.text, String.toList_ofList]
  rw [← map_text_find?, Option.map_eq_some_iff] at named signed
  obtain ⟨first, found, rfl⟩ := named
  obtain ⟨last, foundLast, rfl⟩ := signed
  simp only [signatureOf, found, foundLast, nonEmptyText?, map_text_find?, timed]
  rw [← map_text_find? parameters "headers"]
  cases find? parameters "headers" with
  | none => rfl
  | some headers => rfl

/-- Decimal digits, which a plus sign may precede, and the number that they tell. -/
def IsDecimal (cs : List Char) (n : Nat) : Prop :=
  ∃ digits, (cs = digits ∨ cs = '+' :: digits) ∧ digits ≠ [] ∧
    (∀ c ∈ digits, c.isDigit = true) ∧ Nat.ofDigitChars 10 digits 0 = n

theorem foldl_eq_ofDigitChars (digits : List Char) :
    digits.foldl (fun n c => n * 10 + (c.toNat - 48)) 0 = Nat.ofDigitChars 10 digits 0 := by
  rw [Nat.ofDigitChars_eq_foldl]
  simp [Nat.mul_comm]

theorem secondsOf?_of_isDecimal {cs : List Char} {n : Nat} (decimal : IsDecimal cs n) :
    secondsOf? cs = Instant.ofUnixSeconds? n := by
  obtain ⟨digits, signed, nonempty, all, rfl⟩ := decimal
  have unsigned : ¬digits.head? = some '+' := fun plus =>
    absurd (all '+' (List.mem_of_mem_head? plus)) (by decide)
  have found : (if cs.head? = some '+' then cs.drop 1 else cs) = digits := by
    rcases signed with rfl | rfl
    · exact if_neg unsigned
    · exact if_pos rfl
  simp only [secondsOf?, found]
  rw [if_pos ⟨nonempty, List.all_eq_true.2 all⟩, foldl_eq_ofDigitChars]

theorem isDecimal_of_secondsOf? {cs : List Char} {time : Instant}
    (read : secondsOf? cs = some time) : ∃ n, IsDecimal cs n := by
  obtain ⟨digits, found, signed⟩ : ∃ digits,
      (if cs.head? = some '+' then cs.drop 1 else cs) = digits ∧
        (cs = digits ∨ cs = '+' :: digits) := by
    refine ⟨_, rfl, ?_⟩
    split
    · rename_i plus
      obtain ⟨rest, rfl⟩ := List.head?_eq_some_iff.1 plus
      exact .inr rfl
    · exact .inl rfl
  simp only [secondsOf?, found] at read
  split at read
  · rename_i legible
    exact ⟨_, digits, signed, legible.1, List.all_eq_true.1 legible.2, rfl⟩
  · simp at read

theorem secondsOf?_eq_some_iff (cs : List Char) (time : Instant) :
    secondsOf? cs = some time ↔ ∃ n : Nat, IsDecimal cs n ∧ time.nanos = n * 1000000000 := by
  constructor
  · intro read
    obtain ⟨n, decimal⟩ := isDecimal_of_secondsOf? read
    rw [secondsOf?_of_isDecimal decimal] at read
    exact ⟨n, decimal, (Instant.ofUnixSeconds?_eq_some_iff n time).1 read⟩
  · rintro ⟨n, decimal, told⟩
    rw [secondsOf?_of_isDecimal decimal]
    exact (Instant.ofUnixSeconds?_eq_some_iff n time).2 told

theorem secondsOf?_isSome_iff (cs : List Char) :
    (secondsOf? cs).isSome = true ↔ ∃ n, IsDecimal cs n ∧ n ≤ 0x7fffffffffffffff := by
  constructor
  · intro read
    obtain ⟨time, told⟩ := Option.isSome_iff_exists.1 read
    obtain ⟨n, decimal⟩ := isDecimal_of_secondsOf? told
    rw [secondsOf?_of_isDecimal decimal] at read
    exact ⟨n, decimal, (Instant.ofUnixSeconds?_isSome_iff n).1 read⟩
  · rintro ⟨n, decimal, small⟩
    rw [secondsOf?_of_isDecimal decimal]
    exact (Instant.ofUnixSeconds?_isSome_iff n).2 small

end SignedRequest.Authorization
