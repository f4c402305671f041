import SignedRequest.Proofs.Authorization.Grammar

/-!
The grammar of parameter strings by the kinds of their tokens. A token out of place is the first one
by which the tokens before it cannot be continued to a sentence of the grammar.
-/

namespace SignedRequest.Authorization

/-- The kinds in `key=value(,key=value)*`, perhaps with a comma at the end. -/
inductive Sentence : List TokenKind → Prop
  | last {value : TokenKind} (valued : value = .quoted ∨ value = .number) :
      Sentence [.key, .equals, value]
  | trailing {value : TokenKind} (valued : value = .quoted ∨ value = .number) :
      Sentence [.key, .equals, value, .comma]
  | cons {value : TokenKind} {rest : List TokenKind}
      (valued : value = .quoted ∨ value = .number) (later : Sentence rest) :
      Sentence (.key :: .equals :: value :: .comma :: rest)

/-- Something makes a sentence of them. -/
def CanGoOn (kinds : List TokenKind) : Prop := ∃ later, Sentence (kinds ++ later)

def kinds (tokens : List Token) : List TokenKind := tokens.map Token.kind

/-- The tokens before a place can be continued, but not by the token there; and if none stands
there, they are not yet a sentence. -/
structure OutOfPlace (before rest : List Token) : Prop where
  continued : CanGoOn (kinds before)
  refused : ∀ token, rest.head? = some token → ¬CanGoOn (kinds (before ++ [token]))
  unfinished : rest = [] → ¬Sentence (kinds before)

/-- Where the first of the tokens stands, or else the end. -/
def startOf (stop : Nat) : List Token → Nat
  | [] => stop
  | token :: _ => token.offset

section
variable {first second third fourth : TokenKind} {others : List TokenKind}

theorem Sentence.exists_first (sentence : Sentence others) :
    ∃ value more, others = .key :: .equals :: value :: more ∧
      (value = .quoted ∨ value = .number) := by
  cases sentence with
  | last valued | trailing valued | cons valued => exact ⟨_, _, rfl, valued⟩

theorem sentence_four_iff :
    Sentence (first :: second :: third :: fourth :: others) ↔
      first = .key ∧ second = .equals ∧ (third = .quoted ∨ third = .number) ∧ fourth = .comma ∧
        (others = [] ∨ Sentence others) := by
  constructor
  · intro sentence
    cases sentence with
    | trailing valued => exact ⟨rfl, rfl, valued, rfl, .inl rfl⟩
    | cons valued later => exact ⟨rfl, rfl, valued, rfl, .inr later⟩
  · rintro ⟨rfl, rfl, valued, rfl, rfl | later⟩
    · exact .trailing valued
    · exact .cons valued later

theorem not_sentence_of_length (short : others.length < 3) : ¬Sentence others := by
  intro sentence
  obtain ⟨value, more, rfl, -⟩ := sentence.exists_first
  simp only [List.length_cons] at short
  omega

theorem CanGoOn.of_append {front back : List TokenKind} (continued : CanGoOn (front ++ back)) :
    CanGoOn front := by
  obtain ⟨later, sentence⟩ := continued
  exact ⟨back ++ later, by rwa [← List.append_assoc]⟩

theorem canGoOn_nil : CanGoOn [] := ⟨[.key, .equals, .number], .last (.inr rfl)⟩

theorem canGoOn_one_iff : CanGoOn [first] ↔ first = .key := by
  constructor
  · rintro ⟨later, sentence⟩
    obtain ⟨value, more, same, -⟩ := sentence.exists_first
    exact (List.cons.inj same).1
  · rintro rfl
    exact ⟨[.equals, .number], .last (.inr rfl)⟩

theorem canGoOn_two_iff : CanGoOn [first, second] ↔ first = .key ∧ second = .equals := by
  constructor
  · rintro ⟨later, sentence⟩
    obtain ⟨value, more, same, -⟩ := sentence.exists_first
    obtain ⟨key, same⟩ := List.cons.inj same
    exact ⟨key, (List.cons.inj same).1⟩
  · rintro ⟨rfl, rfl⟩
    exact ⟨[.number], .last (.inr rfl)⟩

theorem canGoOn_three_iff :
    CanGoOn [first, second, third] ↔
      first = .key ∧ second = .equals ∧ (third = .quoted ∨ third = .number) := by
  constructor
  · rintro ⟨later, sentence⟩
    obtain ⟨value, more, same, valued⟩ := sentence.exists_first
    obtain ⟨rfl, rfl, rfl, -⟩ : first = .key ∧ second = .equals ∧ third = value ∧ later = more := by
      simpa using same
    exact ⟨rfl, rfl, valued⟩
  · rintro ⟨rfl, rfl, valued⟩
    exact ⟨[], .last valued⟩

theorem canGoOn_four_iff :
    CanGoOn (first :: second :: third :: fourth :: others) ↔
      first = .key ∧ second = .equals ∧ (third = .quoted ∨ third = .number) ∧ fourth = .comma ∧
        CanGoOn others := by
  constructor
  · rintro ⟨later, sentence⟩
    obtain ⟨key, equals, valued, comma, nothing | following⟩ := sentence_four_iff.1 sentence
    · obtain ⟨rfl, -⟩ := List.append_eq_nil_iff.1 nothing
      exact ⟨key, equals, valued, comma, canGoOn_nil⟩
    · exact ⟨key, equals, valued, comma, later, following⟩
  · rintro ⟨key, equals, valued, comma, later, following⟩
    exact ⟨later, sentence_four_iff.2 ⟨key, equals, valued, comma, .inr following⟩⟩

end

theorem kinds_append (front back : List Token) :
    kinds (front ++ back) = kinds front ++ kinds back :=
  List.map_append

section
variable {before rest : List Token} {key equals value comma : Token}

theorem OutOfPlace.token {token : Token} (continued : CanGoOn (kinds before))
    (refused : ¬CanGoOn (kinds (before ++ [token]))) : OutOfPlace before (token :: rest) where
  continued := continued
  refused := by
    intro other first
    obtain rfl := Option.some.inj first
    exact refused
  unfinished := nofun

theorem OutOfPlace.ending (continued : CanGoOn (kinds before))
    (unfinished : ¬Sentence (kinds before)) : OutOfPlace before [] where
  continued := continued
  refused := nofun
  unfinished := fun _ => unfinished

theorem OutOfPlace.behind (wrong : OutOfPlace before rest) (some : before ++ rest ≠ [])
    (keyKind : key.kind = .key) (equalsKind : equals.kind = .equals)
    (valueKind : value.kind = .quoted ∨ value.kind = .number) (commaKind : comma.kind = .comma) :
    OutOfPlace (key :: equals :: value :: comma :: before) rest where
  continued := canGoOn_four_iff.2 ⟨keyKind, equalsKind, valueKind, commaKind, wrong.continued⟩
  refused := by
    intro token first continued
    obtain ⟨-, -, -, -, following⟩ := canGoOn_four_iff.1 continued
    exact wrong.refused token first following
  unfinished := by
    rintro rfl sentence
    obtain ⟨-, -, -, -, nothing | later⟩ := sentence_four_iff.1 sentence
    · -- After the comma the input may end.
      exact some (by simpa using List.map_eq_nil_iff.1 nothing)
    · exact wrong.unfinished rfl later

end

theorem OutOfPlace.eq_nil {before middle others : List Token}
    (wrong : OutOfPlace before (middle ++ others))
    (continued : CanGoOn (kinds (before ++ middle))) : middle = [] := by
  cases middle with
  | nil => rfl
  | cons token middle =>
    rw [List.append_cons, kinds_append] at continued
    exact absurd continued.of_append (wrong.refused token rfl)

theorem OutOfPlace.unique {before rest front others : List Token}
    (same : before ++ rest = front ++ others) (wrong : OutOfPlace before rest)
    (other : OutOfPlace front others) : before = front := by
  obtain ⟨middle, rfl, rfl⟩ | ⟨middle, rfl, rfl⟩ := List.append_eq_append_iff.1 same
  · rw [wrong.eq_nil other.continued, List.append_nil]
  · rw [other.eq_nil wrong.continued, List.append_nil]

theorem OutOfPlace.not_sentence {before rest : List Token} (wrong : OutOfPlace before rest) :
    ¬Sentence (kinds (before ++ rest)) := by
  intro sentence
  cases rest with
  | nil => exact wrong.unfinished rfl (by rwa [List.append_nil] at sentence)
  | cons token rest =>
    rw [List.append_cons, kinds_append] at sentence
    exact wrong.refused token rfl ⟨kinds rest, sentence⟩

theorem outOfPlace_of_parametersOf {stop offset : Nat} {tokens : List Token}
    (fault : (parametersOf stop tokens).2 = some offset) :
    ∃ before rest, tokens = before ++ rest ∧ OutOfPlace before rest ∧
      startOf stop rest = offset := by
  -- The induction is on the parameters; the cases of one tell what is missed behind each token.
  fun_induction parametersOf stop tokens with
  | case1 => simp at fault
  | case2 key rest wrong =>
    exact ⟨[], key :: rest, rfl, .token canGoOn_nil fun continued =>
      wrong (canGoOn_one_iff.1 continued), Option.some.inj fault⟩
  | case3 key keyKind =>
    exact ⟨[key], [], rfl, .ending (canGoOn_one_iff.2 (not_not.1 keyKind))
      (not_sentence_of_length (by simp [kinds])), Option.some.inj fault⟩
  | case4 key keyKind equals rest wrong =>
    exact ⟨[key], equals :: rest, rfl, .token (canGoOn_one_iff.2 (not_not.1 keyKind))
      fun continued => wrong (canGoOn_two_iff.1 continued).2, Option.some.inj fault⟩
  | case5 key keyKind equals equalsKind =>
    exact ⟨[key, equals], [], rfl,
      .ending (canGoOn_two_iff.2 ⟨not_not.1 keyKind, not_not.1 equalsKind⟩)
      (not_sentence_of_length (by simp [kinds])), Option.some.inj fault⟩
  | case6 key keyKind equals equalsKind value rest wrong =>
    refine ⟨[key, equals], value :: rest, rfl,
      .token (canGoOn_two_iff.2 ⟨not_not.1 keyKind, not_not.1 equalsKind⟩) fun continued => ?_,
      Option.some.inj fault⟩
    exact (not_ne_and_ne_iff _).2 (canGoOn_three_iff.1 continued).2.2 wrong
  | case7 => simp at fault
  | case8 key keyKind equals equalsKind value valueKind comma rest wrong =>
    refine ⟨[key, equals, value], comma :: rest, rfl, .token (canGoOn_three_iff.2
      ⟨not_not.1 keyKind, not_not.1 equalsKind, (not_ne_and_ne_iff _).1 valueKind⟩)
      fun continued => ?_, Option.some.inj fault⟩
    exact wrong (canGoOn_four_iff.1 continued).2.2.2.1
  | case9 key keyKind equals equalsKind value valueKind comma rest commaKind parameters _ read ih =>
    rw [read] at ih
    obtain ⟨before, others, rfl, wrong, start⟩ := ih fault
    refine ⟨key :: equals :: value :: comma :: before, others, rfl, wrong.behind ?_
      (not_not.1 keyKind) (not_not.1 equalsKind) ((not_ne_and_ne_iff _).1 valueKind)
      (not_not.1 commaKind), start⟩
    intro none
    rw [none, parametersOf] at read
    obtain ⟨-, rfl⟩ := Prod.mk.inj read
    simp at fault

/-- Nothing is out of place in a sentence, nor where there is nothing. -/
theorem parametersOf_eq_none_iff (stop : Nat) (tokens : List Token) :
    (parametersOf stop tokens).2 = none ↔ tokens = [] ∨ Sentence (kinds tokens) := by
  constructor
  · intro sound
    fun_induction parametersOf stop tokens
    case case1 => exact .inl rfl
    case case7 key keyKind equals equalsKind value valueKind =>
      right
      rw [kinds, List.map_cons, not_not.1 keyKind, List.map_cons, not_not.1 equalsKind]
      exact .last ((not_ne_and_ne_iff _).1 valueKind)
    case case9 key keyKind equals equalsKind value valueKind comma rest commaKind _ _ read ih =>
      rw [read] at ih
      have following : kinds rest = [] ∨ Sentence (kinds rest) :=
        (ih sound).imp (congrArg kinds) id
      exact .inr (sentence_four_iff.2 ⟨not_not.1 keyKind, not_not.1 equalsKind,
        (not_ne_and_ne_iff _).1 valueKind, not_not.1 commaKind, following⟩)
    all_goals simp at sound
  · rintro (rfl | sentence)
    · rw [parametersOf]
    · cases fault : (parametersOf stop tokens).2 with
      | none => rfl
      | some offset =>
        obtain ⟨before, rest, rfl, wrong, -⟩ := outOfPlace_of_parametersOf fault
        exact absurd sentence wrong.not_sentence

theorem parametersOf_eq_nil_iff {stop : Nat} {tokens : List Token}
    (sound : (parametersOf stop tokens).2 = none) :
    (parametersOf stop tokens).1 = [] ↔ tokens = [] := by
  fun_induction parametersOf stop tokens with
  | case1 | case7 | case9 => simp
  | case2 | case3 | case4 | case5 | case6 | case8 => simp at sound

/-- The sentences are the kinds of the tokens in sequences of parameters. -/
theorem sentence_iff_isSequence (offset : Nat) (cs : List Char) :
    Sentence (kinds (tokensFrom offset cs)) ↔ ∃ pairs, pairs ≠ [] ∧ IsSequence pairs cs := by
  have some (sentence : Sentence (kinds (tokensFrom offset cs))) : tokensFrom offset cs ≠ [] :=
    fun none => not_sentence_of_length (by simp [none, kinds]) sentence
  constructor
  · intro sentence
    have sound := (parametersOf_eq_none_iff 0 _).2 (.inr sentence)
    refine ⟨_, ?_, (isSequence_iff 0 offset _ cs).2 ⟨sound, rfl⟩⟩
    rw [Ne, List.map_eq_nil_iff, parametersOf_eq_nil_iff sound]
    exact some sentence
  · rintro ⟨pairs, nonempty, sequence⟩
    obtain ⟨sound, rfl⟩ := (isSequence_iff 0 offset pairs cs).1 sequence
    rw [Ne, List.map_eq_nil_iff, parametersOf_eq_nil_iff sound] at nonempty
    exact ((parametersOf_eq_none_iff 0 _).1 sound).resolve_left nonempty

end SignedRequest.Authorization
