import SignedRequest.Proofs.Authorization.Continuation
import SignedRequest.Proofs.Authorization.Places

/-!
What the report of a fault says about the input. Every refused parameter string is reported with
the octets of what is wrong in it: the first token out of place, a key that occurred before, a time
that is none, or the end of the input.
-/

namespace SignedRequest.Authorization
open scoped List

/-- What is wrong with the tokens, and where. -/
inductive Blames (stop : Nat) (tokens : List Token) : ParseError → Prop
  | unexpected {before rest : List Token} (parts : tokens = before ++ rest)
      (wrong : OutOfPlace before rest)
      (only : ∀ front others, tokens = front ++ others → OutOfPlace front others →
        front = before) :
      Blames stop tokens (.unexpectedToken (startOf stop rest))
  | duplicate {earlier later : Token} (order : [earlier, later] <+ tokens)
      (keys : earlier.kind = .key ∧ later.kind = .key) (same : earlier.text = later.text) :
      Blames stop tokens (.duplicateParameter later.offset later.length)
  | timestamp {key equals value : Token} (together : [key, equals, value] <:+: tokens)
      (sign : key.kind = .key ∧ equals.kind = .equals)
      (valued : value.kind = .quoted ∨ value.kind = .number)
      (named : String.ofList key.text = "created" ∨ String.ofList key.text = "expires")
      (untimed : secondsOf? value.text = none) :
      Blames stop tokens (.invalidTimestamp value.offset value.length)
  | missing {name : String} (needed : name = "keyId" ∨ name = "signature") :
      Blames stop tokens (.missingParameter name stop)

theorem keys_sublist (stop : Nat) (tokens : List Token) :
    (parametersOf stop tokens).1.map Parameter.key <+ tokens := by
  fun_induction parametersOf stop tokens with
  | case1 | case2 | case3 | case4 | case5 | case6 | case7 | case8 => simp
  | case9 key _ equals _ value _ comma rest _ _ _ read ih =>
    rw [read] at ih
    exact .cons_cons key (.cons equals (.cons value (.cons comma ih)))

theorem exists_infix_of_mem {stop : Nat} {tokens : List Token} {parameter : Parameter}
    (member : parameter ∈ (parametersOf stop tokens).1) :
    ∃ equals, [parameter.key, equals, parameter.value] <:+: tokens ∧
      parameter.key.kind = .key ∧ equals.kind = .equals ∧
      (parameter.value.kind = .quoted ∨ parameter.value.kind = .number) := by
  fun_induction parametersOf stop tokens
  case case7 key keyKind equals equalsKind value valueKind =>
    obtain rfl := List.mem_singleton.1 member
    exact ⟨equals, List.infix_rfl, not_not.1 keyKind, not_not.1 equalsKind,
      (not_ne_and_ne_iff _).1 valueKind⟩
  case case9 key keyKind equals equalsKind value valueKind comma rest _ _ _ read ih =>
    rcases List.mem_cons.1 member with rfl | later
    · exact ⟨equals, ⟨[], comma :: rest, rfl⟩, not_not.1 keyKind, not_not.1 equalsKind,
        (not_ne_and_ne_iff _).1 valueKind⟩
    · rw [read] at ih
      obtain ⟨sign, together, known⟩ := ih later
      exact ⟨sign, together.trans (List.suffix_append [key, equals, value, comma] rest).isInfix,
        known⟩
  all_goals simp at member

theorem exists_of_checkParameters {earlier : List String} {parameters : List Parameter}
    {error : ParseError} (refused : checkParameters earlier parameters = .error error) :
    (∃ front parameter back, parameters = front ++ parameter :: back ∧
      (parameter.name ∈ earlier ∨ ∃ other ∈ front, other.name = parameter.name) ∧
      error = .duplicateParameter parameter.key.offset parameter.key.length) ∨
    ∃ parameter ∈ parameters, isTimestamp parameter.name = true ∧
      secondsOf? parameter.value.text = none ∧
      error = .invalidTimestamp parameter.value.offset parameter.value.length := by
  induction parameters generalizing earlier with
  | nil => simp [checkParameters] at refused
  | cons parameter rest ih =>
    simp only [checkParameters] at refused
    split at refused
    · rename_i repeated
      refine .inl ⟨[], parameter, rest, rfl, .inl ?_, (Except.error.inj refused).symm⟩
      simpa using repeated
    · split at refused
      · rename_i untimed
        exact .inr ⟨parameter, List.mem_cons_self, untimed.1, Option.isNone_iff_eq_none.1 untimed.2,
          (Except.error.inj refused).symm⟩
      · rcases ih refused with ⟨front, other, back, rfl, repeated, told⟩ | ⟨other, member, wrong⟩
        · refine .inl ⟨parameter :: front, other, back, rfl, ?_, told⟩
          rcases repeated with before | ⟨same, among, equal⟩
          · rcases List.mem_cons.1 before with first | before
            · exact .inr ⟨parameter, List.mem_cons_self, first.symm⟩
            · exact .inl before
          · exact .inr ⟨same, List.mem_cons_of_mem _ among, equal⟩
        · exact .inr ⟨other, List.mem_cons_of_mem _ member, wrong⟩

theorem missing_of_signatureOf {stop : Nat} {parameters : List Parameter} {error : ParseError}
    (refused : signatureOf stop parameters = .error error) :
    ∃ name, (name = "keyId" ∨ name = "signature") ∧ error = .missingParameter name stop := by
  unfold signatureOf at refused
  split at refused
  · exact ⟨"keyId", .inl rfl, (Except.error.inj refused).symm⟩
  · exact ⟨"signature", .inr rfl, (Except.error.inj refused).symm⟩
  · simp at refused

theorem blames_of_checkParameters {stop : Nat} {tokens : List Token} {error : ParseError}
    (refused : checkParameters [] (parametersOf stop tokens).1 = .error error) :
    Blames stop tokens error := by
  rcases exists_of_checkParameters refused with
    ⟨front, later, back, parts, repeated, rfl⟩ | ⟨parameter, member, stamp, untimed, rfl⟩
  · obtain ⟨earlier, among, same⟩ := repeated.resolve_left List.not_mem_nil
    have keyKind {parameter : Parameter} (member : parameter ∈ front ++ later :: back) :
        parameter.key.kind = .key := by
      rw [← parts] at member
      obtain ⟨_, -, kind, -⟩ := exists_infix_of_mem member
      exact kind
    have order : [earlier.key, later.key] <+ (front ++ later :: back).map Parameter.key := by
      rw [List.map_append, List.map_cons]
      exact (List.singleton_sublist.2 (List.mem_map_of_mem among)).append
        (.cons_cons later.key (List.nil_sublist _))
    rw [← parts] at order
    exact .duplicate (order.trans (keys_sublist stop tokens))
      ⟨keyKind (List.mem_append_left _ among), keyKind (by simp)⟩ (String.ofList_injective same)
  · obtain ⟨equals, together, keyKind, equalsKind, valued⟩ := exists_infix_of_mem member
    exact .timestamp together ⟨keyKind, equalsKind⟩ valued
      (by simpa [isTimestamp, Parameter.name] using stamp) untimed

theorem parse_eq_error_iff (input : String) (error : ParseError) :
    parse input = .error error ↔
      checkParameters [] (parametersOf input.utf8ByteSize (tokens input)).1 = .error error ∨
        checkParameters [] (parametersOf input.utf8ByteSize (tokens input)).1 = .ok () ∧
          match (parametersOf input.utf8ByteSize (tokens input)).2 with
          | some offset => error = .unexpectedToken offset
          | none => signatureOf input.utf8ByteSize
              (parametersOf input.utf8ByteSize (tokens input)).1 = .error error := by
  cases read : parametersOf input.utf8ByteSize (tokens input) with
  | mk parameters fault =>
    simp only [parse, read]
    cases checked : checkParameters [] parameters with
    | error other => simp [bind, Except.bind]
    | ok =>
      cases fault with
      | some offset => simp [bind, Except.bind, eq_comm]
      | none => simp [bind, Except.bind]

theorem blames_of_parse {input : String} {error : ParseError}
    (refused : parse input = .error error) :
    Blames input.utf8ByteSize (tokens input) error := by
  rcases (parse_eq_error_iff input error).1 refused with wrong | ⟨-, ended⟩
  · exact blames_of_checkParameters wrong
  · cases fault : (parametersOf input.utf8ByteSize (tokens input)).2 with
    | some offset =>
      rw [fault] at ended
      obtain ⟨before, rest, parts, wrong, rfl⟩ := outOfPlace_of_parametersOf fault
      obtain rfl := ended
      refine .unexpected parts wrong fun front others same other => ?_
      exact other.unique (same.symm.trans parts) wrong
    | none =>
      rw [fault] at ended
      obtain ⟨name, needed, rfl⟩ := missing_of_signatureOf ended
      exact .missing needed

theorem Blames.offset_cases {stop : Nat} {tokens : List Token} {error : ParseError}
    (blames : Blames stop tokens error) :
    (∃ token ∈ tokens, error.offset = token.offset) ∨ error.offset = stop := by
  cases blames with
  | @unexpected before rest parts wrong only =>
    cases rest with
    | nil => exact .inr rfl
    | cons token rest => exact .inl ⟨token, by simp [parts], rfl⟩
  | duplicate order => exact .inl ⟨_, order.subset (by simp), rfl⟩
  | timestamp together => exact .inl ⟨_, together.subset (by simp), rfl⟩
  | missing => exact .inr rfl

theorem Blames.length_span {input : String} {error : ParseError}
    (blames : Blames input.utf8ByteSize (tokens input) error) (unlexed : List Char → List Char) :
    (error.span unlexed input).length =
      octetLength (markedChars unlexed (charsFrom error.offset input.toList)) := by
  cases blames with
  | unexpected => rfl
  | duplicate order keys same =>
    exact (octetLength_markedChars_of_mem (order.subset (by simp)) unlexed (by simp [keys.2])).symm
  | timestamp together sign valued =>
    refine (octetLength_markedChars_of_mem (together.subset (by simp)) unlexed ?_).symm
    rcases valued with kind | kind <;> simp [kind]
  | missing =>
    simp only [ParseError.offset, charsFrom_utf8ByteSize]
    rfl

/-- Every report of a fault marks octets of the input that begin and end between characters, and
blames what is there. Of the lexer it is asked that what it gives out where no token begins is a
slice of the text. -/
theorem parse_error_points (unlexed : List Char → List Char) (slice : ∀ rest, unlexed rest <+: rest)
    {input : String} {error : ParseError} (refused : parse input = .error error) :
    (error.span unlexed input).Inside input ∧
      Tiles 0 input.toList (tokens input) ∧ Blames input.utf8ByteSize (tokens input) error ∧
      ∀ token ∈ tokens input, token.kind ≠ .unknown → token.offset = error.offset →
        (error.span unlexed input).length = token.length := by
  have blames := blames_of_parse refused
  have length := blames.length_span unlexed
  obtain ⟨front, rest, parts, start⟩ : ∃ front rest, input.toList = front ++ rest ∧
      error.offset = octetLength front := by
    rcases blames.offset_cases with ⟨token, member, same⟩ | last
    · obtain ⟨front, spelt, back, parts, start, -⟩ := exists_place_of_mem member
      exact ⟨front, spelt ++ back, parts, same.trans start⟩
    · exact ⟨input.toList, [], by simp, by rw [last, octetLength_toList]⟩
  refine ⟨?_, tiles_tokensFrom 0 input.toList, blames, fun token member known same => ?_⟩
  · obtain ⟨back, marked⟩ := markedChars_isPrefix slice rest
    have inside := inside_of_parts
      (show input.toList = front ++ (markedChars unlexed rest ++ back) by rw [marked, parts])
    rw [parts, start, charsFrom_octetLength] at length
    rw [← length, ← start] at inside
    exact inside
  · rw [length, ← same, octetLength_markedChars_of_mem member unlexed known]

def unquoted : String := "keyId=\"é\",created=€"

/-- A character with which no token begins, behind others of more than one octet, is reported where
it stands and as a whole. -/
theorem unquoted_points :
    parse unquoted = .error (.unexpectedToken 19) ∧
      ParseError.span (List.take 1) unquoted (.unexpectedToken 19) = ⟨19, 3⟩ ∧
      (Span.mk 19 3).Inside unquoted ∧
      Blames unquoted.utf8ByteSize (tokens unquoted) (.unexpectedToken 19) := by
  have refused : parse unquoted = .error (.unexpectedToken 19) := by
    have fault : (parametersOf unquoted.utf8ByteSize (tokens unquoted)).2 = some 19 := by
      decide +kernel
    refine (parse_eq_error_iff _ _).2 (.inr ⟨by decide +kernel, ?_⟩)
    rw [fault]
  have marked : ParseError.span (List.take 1) unquoted (.unexpectedToken 19) = ⟨19, 3⟩ := by
    decide +kernel
  obtain ⟨inside, -, blames, -⟩ := parse_error_points (List.take 1) (List.take_prefix 1) refused
  rw [marked] at inside
  exact ⟨refused, marked, inside, blames⟩

end SignedRequest.Authorization
