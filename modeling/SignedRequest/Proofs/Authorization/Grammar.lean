import SignedRequest.Authorization.Parse
import SignedRequest.Proofs.Authorization.Tokens

/-!
The grammar of parameter strings. A text is read without a token out of place exactly if it is a
sequence of parameters, and then what is read is what the sequence says.
-/

namespace SignedRequest.Authorization

def Parameter.pair (parameter : Parameter) : String × String := (parameter.name, parameter.text)

/-- A key, the sign of equality and a value, which is a number or stands in double quotes; there may
be gaps between them and around them. -/
inductive IsParameter : String × String → List Char → Prop
  | intro {key content : String} {name value front left right back : List Char}
      (before : IsGap front) (named : Spelling .key key.toList name) (between : IsGap left)
      (after : IsGap right)
      (valued : Spelling .quoted content.toList value ∨ Spelling .number content.toList value)
      (behind : IsGap back) :
      IsParameter (key, content) (front ++ (name ++ (left ++ '=' :: (right ++ (value ++ back)))))

/-- Parameters with commas between them and perhaps one at the end. -/
inductive IsSequence : List (String × String) → List Char → Prop
  | nil {gap : List Char} (blank : IsGap gap) : IsSequence [] gap
  | last {pair : String × String} {cs : List Char} (parameter : IsParameter pair cs) :
      IsSequence [pair] cs
  | cons {pair : String × String} {pairs : List (String × String)} {cs rest : List Char}
      (parameter : IsParameter pair cs) (later : IsSequence pairs rest) :
      IsSequence (pair :: pairs) (cs ++ ',' :: rest)

theorem tokensFrom_of_isGap {gap : List Char} (blank : IsGap gap) (offset : Nat) :
    tokensFrom offset gap = [] := by
  rw [← List.append_nil gap, tokensFrom_gap blank, tokensFrom]

theorem tokensFrom_of_isParameter {pair : String × String} {cs rest : List Char}
    (parameter : IsParameter pair cs) (stops : ∀ kind, Stops kind rest) (offset : Nat) :
    ∃ key equals value next,
      tokensFrom offset (cs ++ rest) = key :: equals :: value :: tokensFrom next rest ∧
      key.kind = .key ∧ equals.kind = .equals ∧ (value.kind = .quoted ∨ value.kind = .number) ∧
      (Parameter.mk key value).pair = pair := by
  obtain ⟨before, named, between, after, valued, behind⟩ := parameter
  rename_i key content name value front left right back
  obtain ⟨kind, spelling, known⟩ :
      ∃ kind, Spelling kind content.toList value ∧ (kind = .quoted ∨ kind = .number) :=
    valued.elim (fun quoted => ⟨_, quoted, .inl rfl⟩) fun number => ⟨_, number, .inr rfl⟩
  -- The key stops at a gap or at the sign, the value at a gap or at what follows the parameter.
  let others := right ++ (value ++ (back ++ rest))
  have sign : Stops .key (['='] ++ others) := stops_cons (by decide) .key others
  obtain ⟨_, _, next, first⟩ := tokensFrom_of_spelling before named (sign.gap between) offset
  obtain ⟨_, _, next, second⟩ := tokensFrom_of_spelling between .equals (stops_equals others) next
  obtain ⟨_, _, next, third⟩ := tokensFrom_of_spelling after spelling ((stops kind).gap behind) next
  have parts : front ++ (name ++ (left ++ '=' :: (right ++ (value ++ back)))) ++ rest =
      front ++ (name ++ (left ++ (['='] ++ others))) := by
    simp only [others, List.append_assoc, List.cons_append, List.nil_append]
  refine ⟨_, _, _, _, by rw [parts, first, second, third, tokensFrom_gap behind], rfl, rfl, known,
    ?_⟩
  simp [Parameter.pair, Parameter.name, Parameter.text]

theorem isParameter_of_tokensFrom {offset : Nat} {cs : List Char} {key equals value : Token}
    {later : List Token} (read : tokensFrom offset cs = key :: equals :: value :: later)
    (keyKind : key.kind = .key) (equalsKind : equals.kind = .equals)
    (valueKind : value.kind = .quoted ∨ value.kind = .number) :
    ∃ front rest next, cs = front ++ rest ∧ later = tokensFrom next rest ∧
      ∀ back, IsGap back → IsParameter (Parameter.mk key value).pair (front ++ back) := by
  obtain ⟨before, name, rest, _, front, named, parts, second⟩ :=
    spelling_of_tokensFrom read (by simp [keyKind])
  obtain ⟨left, sign, rest, _, between, signed, rfl, third⟩ :=
    spelling_of_tokensFrom second.symm (by simp [equalsKind])
  obtain ⟨right, content, rest, next, after, valued, rfl, following⟩ :=
    spelling_of_tokensFrom third.symm (by rcases valueKind with kind | kind <;> simp [kind])
  rw [keyKind] at named
  rw [equalsKind] at signed
  obtain rfl := signed.eq_equals
  refine ⟨before ++ (name ++ (left ++ '=' :: (right ++ content))), rest, next, by simp [parts],
    following, fun back behind => ?_⟩
  have spelt : Spelling .quoted value.text content ∨ Spelling .number value.text content :=
    valueKind.imp (fun quoted => by rwa [quoted] at valued) fun number => by rwa [number] at valued
  have whole : IsParameter (Parameter.mk key value).pair
      (before ++ (name ++ (left ++ '=' :: (right ++ (content ++ back))))) :=
    .intro front (by simpa [Parameter.name] using named) between after
      (by simpa [Parameter.text] using spelt) behind
  simpa using whole

theorem not_ne_and_ne_iff (kind : TokenKind) :
    ¬(kind ≠ .quoted ∧ kind ≠ .number) ↔ kind = .quoted ∨ kind = .number := by
  cases kind <;> simp

theorem parametersOf_last {key equals value : Token} (keyKind : key.kind = .key)
    (equalsKind : equals.kind = .equals) (valueKind : value.kind = .quoted ∨ value.kind = .number)
    (stop : Nat) : parametersOf stop [key, equals, value] = ([⟨key, value⟩], none) := by
  have valued := (not_ne_and_ne_iff value.kind).2 valueKind
  simp [parametersOf, keyKind, equalsKind, valued]

theorem parametersOf_cons {key equals value comma : Token} (keyKind : key.kind = .key)
    (equalsKind : equals.kind = .equals) (valueKind : value.kind = .quoted ∨ value.kind = .number)
    (commaKind : comma.kind = .comma) (stop : Nat) (rest : List Token) :
    parametersOf stop (key :: equals :: value :: comma :: rest) =
      (⟨key, value⟩ :: (parametersOf stop rest).1, (parametersOf stop rest).2) := by
  have valued := (not_ne_and_ne_iff value.kind).2 valueKind
  simp [parametersOf, keyKind, equalsKind, valued, commaKind]

theorem parametersOf_of_isSequence {pairs : List (String × String)} {cs : List Char}
    (sequence : IsSequence pairs cs) (stop offset : Nat) :
    ∃ parameters, parametersOf stop (tokensFrom offset cs) = (parameters, none) ∧
      parameters.map Parameter.pair = pairs := by
  induction sequence generalizing offset with
  | nil blank => exact ⟨[], by rw [tokensFrom_of_isGap blank, parametersOf], rfl⟩
  | @last pair cs parameter =>
    obtain ⟨key, equals, value, next, tokens, keyKind, equalsKind, valueKind, same⟩ :=
      tokensFrom_of_isParameter parameter stops_nil offset
    rw [List.append_nil, tokensFrom] at tokens
    exact ⟨[⟨key, value⟩], by rw [tokens, parametersOf_last keyKind equalsKind valueKind],
      by rw [List.map_singleton, same]⟩
  | @cons pair pairs cs rest parameter later ih =>
    have stops : ∀ kind, Stops kind (',' :: rest) := fun kind => stops_cons (by decide) kind rest
    obtain ⟨key, equals, value, next, tokens, keyKind, equalsKind, valueKind, same⟩ :=
      tokensFrom_of_isParameter parameter stops offset
    obtain ⟨start, length, afterwards, separator⟩ := tokensFrom_of_spelling isGap_nil .comma
      (stops_comma rest) next
    obtain ⟨parameters, read, pairs⟩ := ih afterwards
    change tokensFrom next (',' :: rest) = _ at separator
    refine ⟨⟨key, value⟩ :: parameters, ?_, by rw [List.map_cons, same, pairs]⟩
    rw [tokens, separator, parametersOf_cons keyKind equalsKind valueKind rfl, read]

theorem isSequence_of_parametersOf {stop offset : Nat} {cs : List Char}
    {parameters : List Parameter}
    (read : parametersOf stop (tokensFrom offset cs) = (parameters, none)) :
    IsSequence (parameters.map Parameter.pair) cs := by
  -- The induction is on the tokens; a gap behind a value is found with the comma or at the end.
  generalize same : tokensFrom offset cs = tokens at read
  fun_induction parametersOf stop tokens generalizing offset cs parameters
  case case1 =>
    obtain ⟨rfl, -⟩ := Prod.mk.inj read
    exact .nil (isGap_of_tokensFrom same)
  case case7 key keyKind equals equalsKind value valueKind =>
    obtain ⟨rfl, -⟩ := Prod.mk.inj read
    obtain ⟨front, rest, _, rfl, following, whole⟩ := isParameter_of_tokensFrom same
      (not_not.1 keyKind) (not_not.1 equalsKind) ((not_ne_and_ne_iff _).1 valueKind)
    exact .last (whole rest (isGap_of_tokensFrom following.symm))
  case case9 key keyKind equals equalsKind value valueKind comma _ commaKind others _ later ih =>
    obtain ⟨rfl, rfl⟩ := Prod.mk.inj read
    obtain ⟨front, rest, _, rfl, following, whole⟩ := isParameter_of_tokensFrom same
      (not_not.1 keyKind) (not_not.1 equalsKind) ((not_ne_and_ne_iff _).1 valueKind)
    obtain ⟨gap, separator, rest, _, blank, spelling, rfl, afterwards⟩ :=
      spelling_of_tokensFrom following.symm (by simp [not_not.1 commaKind])
    rw [not_not.1 commaKind] at spelling
    obtain rfl := spelling.eq_comma
    rw [← List.append_assoc]
    exact .cons (whole gap blank) (ih afterwards.symm later)
  all_goals simp at read

theorem isSequence_iff (stop offset : Nat) (pairs : List (String × String)) (cs : List Char) :
    IsSequence pairs cs ↔ (parametersOf stop (tokensFrom offset cs)).2 = none ∧
      (parametersOf stop (tokensFrom offset cs)).1.map Parameter.pair = pairs := by
  constructor
  · intro sequence
    obtain ⟨parameters, read, told⟩ := parametersOf_of_isSequence sequence stop offset
    rw [read]
    exact ⟨rfl, told⟩
  · rintro ⟨sound, rfl⟩
    exact isSequence_of_parametersOf (Prod.ext rfl sound)

instance (pairs : List (String × String)) (cs : List Char) : Decidable (IsSequence pairs cs) :=
  decidable_of_iff _ (isSequence_iff 0 0 pairs cs).symm

theorem IsSequence.unique {pairs others : List (String × String)} {cs : List Char}
    (one : IsSequence pairs cs) (two : IsSequence others cs) : pairs = others :=
  ((isSequence_iff 0 0 pairs cs).1 one).2.symm.trans ((isSequence_iff 0 0 others cs).1 two).2

end SignedRequest.Authorization
