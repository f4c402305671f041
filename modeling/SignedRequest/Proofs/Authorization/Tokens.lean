import Mathlib.Data.List.TakeWhile
import SignedRequest.Authorization.Token
import SignedRequest.Proofs.Text.Ascii

/-!
How tokens are spelt. A spelling that the next character does not carry on is read as its token, and
every token is read from its spelling, with spaces and tabs before it.
-/

namespace SignedRequest.Authorization

def IsGap (cs : List Char) : Prop := ∀ c ∈ cs, c = ' ' ∨ c = '\t'

theorem isGap_nil : IsGap [] := by
  simp [IsGap]

/-- The spelling of a token with that text. -/
inductive Spelling : TokenKind → List Char → List Char → Prop
  | key {c : Char} {more : List Char} (letter : c.isAlpha = true)
      (all : ∀ d ∈ more, d.isAlphanum = true) : Spelling .key (c :: more) (c :: more)
  | equals : Spelling .equals ['='] ['=']
  | quoted {inner : List Char} (plain : '"' ∉ inner) :
      Spelling .quoted inner ('"' :: (inner ++ ['"']))
  | number {c : Char} {more : List Char} (digit : c.isDigit = true)
      (all : ∀ d ∈ more, d.isDigit = true) : Spelling .number (c :: more) (c :: more)
  | comma : Spelling .comma [','] [',']

/-- The characters that would make a token of that kind longer. -/
def TokenKind.goesOn : TokenKind → Char → Bool
  | key => Char.isAlphanum
  | number => Char.isDigit
  | _ => fun _ => false

/-- What follows a token leaves it as it is. -/
def Stops (kind : TokenKind) (rest : List Char) : Prop :=
  ∀ c, rest.head? = some c → kind.goesOn c = false

theorem stops_nil (kind : TokenKind) : Stops kind [] := nofun

theorem stops_equals (rest : List Char) : Stops .equals rest := fun _ _ => rfl

theorem stops_comma (rest : List Char) : Stops .comma rest := fun _ _ => rfl

theorem stops_cons {c : Char} (other : c.isAlphanum = false) (kind : TokenKind)
    (rest : List Char) : Stops kind (c :: rest) := by
  intro d first
  obtain rfl := Option.some.inj first
  have neither : c.isAlpha = false ∧ c.isDigit = false := by
    simpa [Char.isAlphanum] using other
  cases kind with
  | key => exact other
  | number => exact neither.2
  | equals | quoted | comma | unknown => rfl

theorem Stops.gap {kind : TokenKind} {rest gap : List Char} (stops : Stops kind rest)
    (blank : IsGap gap) : Stops kind (gap ++ rest) := by
  cases gap with
  | nil => exact stops
  | cons c gap =>
    refine stops_cons ?_ kind (gap ++ rest)
    rcases blank c List.mem_cons_self with rfl | rfl <;> decide

theorem not_isAlpha_of_isDigit {c : Char} (digit : c.isDigit = true) : ¬c.isAlpha = true := by
  have range : 48 ≤ c.toNat ∧ c.toNat ≤ 57 := Char.isDigit_iff_toNat.1 digit
  rw [Text.isAlpha_iff, Text.isUpper_iff, Text.isLower_iff]
  omega

theorem Spelling.solid {kind : TokenKind} {text more : List Char} {c : Char}
    (spelling : Spelling kind text (c :: more)) : ¬(c = ' ' ∨ c = '\t') := by
  rintro (rfl | rfl)
  · cases spelling with
    | key letter all => exact absurd letter (by decide)
    | number digit all => exact absurd digit (by decide)
  · cases spelling with
    | key letter all => exact absurd letter (by decide)
    | number digit all => exact absurd digit (by decide)

theorem Spelling.ne_nil {kind : TokenKind} {text spelt : List Char}
    (spelling : Spelling kind text spelt) : spelt ≠ [] := by
  cases spelling <;> simp

theorem Spelling.eq_equals {text spelt : List Char} (spelling : Spelling .equals text spelt) :
    spelt = ['='] := by
  cases spelling
  rfl

theorem Spelling.eq_comma {text spelt : List Char} (spelling : Spelling .comma text spelt) :
    spelt = [','] := by
  cases spelling
  rfl

def isKey (name : String) : Bool :=
  match name.toList with
  | [] => false
  | c :: more => c.isAlpha && more.all Char.isAlphanum

theorem spelling_of_isKey {name : String} (legible : isKey name = true) :
    Spelling .key name.toList name.toList := by
  unfold isKey at legible
  cases same : name.toList with
  | nil => simp [same] at legible
  | cons c more =>
    simp only [same, Bool.and_eq_true, List.all_eq_true] at legible
    exact .key legible.1 legible.2

theorem toList_toString (n : Nat) : (toString n).toList = Nat.toDigits 10 n := by
  rw [Nat.toString_eq_repr, Nat.toList_repr]

theorem toString_inj {m n : Nat} : toString m = toString n ↔ m = n := by
  constructor
  · intro same
    have digits := congrArg (fun text => Nat.ofDigitChars 10 text.toList 0) same
    simpa only [toList_toString, Nat.ofDigitChars_ten_toDigits] using digits
  · exact congrArg toString

theorem isDigit_of_mem_toString {n : Nat} {c : Char} (member : c ∈ (toString n).toList) :
    c.isDigit = true := by
  rw [toList_toString] at member
  exact Nat.isDigit_of_mem_toDigits (by decide) (by decide) member

theorem spelling_toString (n : Nat) :
    Spelling .number (toString n).toList (toString n).toList := by
  have digits := fun c => isDigit_of_mem_toString (n := n) (c := c)
  cases same : (toString n).toList with
  | nil => simp [Nat.toDigits_ne_nil] at same
  | cons c more =>
    rw [same] at digits
    exact .number (digits c List.mem_cons_self) fun d member =>
      digits d (List.mem_cons_of_mem c member)

theorem takeWhile_stopped {p : Char → Bool} {cs rest : List Char} (all : ∀ c ∈ cs, p c = true)
    (stop : ∀ c, rest.head? = some c → p c = false) : (cs ++ rest).takeWhile p = cs := by
  rw [List.takeWhile_append_of_pos all]
  cases rest with
  | nil => exact List.append_nil cs
  | cons c rest => rw [List.takeWhile_cons_of_neg (by simp [stop c rfl]), List.append_nil]

theorem take_succ_length_takeWhile {p : Char → Bool} {cs : List Char}
    (shorter : (cs.takeWhile p).length < cs.length) :
    ∃ c, p c = false ∧ cs.take ((cs.takeWhile p).length + 1) = cs.takeWhile p ++ [c] := by
  induction cs with
  | nil => simp at shorter
  | cons c cs ih =>
    cases inside : p c with
    | false => exact ⟨c, inside, by simp [inside]⟩
    | true =>
      obtain ⟨d, stop, taken⟩ := ih (by simpa [inside] using shorter)
      exact ⟨d, stop, by simp [inside, taken]⟩

theorem tokenAt_of_spelling {kind : TokenKind} {text more rest : List Char} {c : Char}
    (spelling : Spelling kind text (c :: more)) (stops : Stops kind rest) :
    tokenAt c (more ++ rest) = (kind, text, more.length) := by
  unfold tokenAt
  cases spelling with
  | key letter all => rw [if_pos letter, takeWhile_stopped all stops]
  | number digit all =>
    rw [if_neg (not_isAlpha_of_isDigit digit), if_pos digit, takeWhile_stopped all stops]
  | equals => rfl
  | comma => rfl
  | quoted plain =>
    have found : (text ++ '"' :: rest).takeWhile (· != '"') = text :=
      takeWhile_stopped (fun c member => bne_iff_ne.2 fun same => plain (same ▸ member)) (by simp)
    have shorter : text.length < (text ++ '"' :: rest).length := by simp
    rw [List.append_assoc, List.singleton_append, if_neg (by decide), if_neg (by decide),
      if_neg (by decide), if_neg (by decide), if_pos rfl, found, List.length_append]
    rw [List.length_append] at shorter
    exact (if_pos shorter).trans (by rw [List.length_append]; rfl)

theorem spelling_of_tokenAt {c : Char} {rest text : List Char} {kind : TokenKind} {count : Nat}
    (same : tokenAt c rest = (kind, text, count)) (known : kind ≠ .unknown) :
    Spelling kind text (c :: rest.take count) := by
  have run (p : Char → Bool) :
      rest.take (rest.takeWhile p).length = rest.takeWhile p :=
    (List.prefix_iff_eq_take.1 (List.takeWhile_prefix p)).symm
  have all (p : Char → Bool) : ∀ d ∈ rest.takeWhile p, p d = true := fun d => List.mem_takeWhile_imp
  unfold tokenAt at same
  split at same
  · cases same
    rw [run]
    exact .key ‹_› (all _)
  · split at same
    · cases same
      rw [run]
      exact .number ‹_› (all _)
    · split at same
      · cases same
        subst c
        exact .equals
      · split at same
        · cases same
          subst c
          exact .comma
        · split at same
          · dsimp only at same
            split at same
            · cases same
              subst c
              obtain ⟨d, stop, taken⟩ := take_succ_length_takeWhile ‹_›
              obtain rfl : d = '"' := by simpa using stop
              rw [taken]
              exact .quoted fun inside => by simpa using all _ _ inside
            · cases same
              exact absurd rfl known
          · cases same
            exact absurd rfl known

theorem tokensFrom_gap {gap : List Char} (blank : IsGap gap) (rest : List Char) (offset : Nat) :
    tokensFrom offset (gap ++ rest) = tokensFrom (offset + gap.length) rest := by
  induction gap generalizing offset with
  | nil => rfl
  | cons c gap ih =>
    obtain ⟨here, later⟩ := List.forall_mem_cons.1 blank
    rw [List.cons_append, tokensFrom, if_pos here, ih later, List.length_cons, Nat.add_assoc,
      Nat.add_comm 1]

/-- A spelling after a gap is read as its token, and then the characters behind it are read. -/
theorem tokensFrom_of_spelling {kind : TokenKind} {text gap spelt rest : List Char}
    (blank : IsGap gap) (spelling : Spelling kind text spelt) (stops : Stops kind rest)
    (offset : Nat) :
    ∃ start length next,
      tokensFrom offset (gap ++ (spelt ++ rest)) =
        ⟨kind, text, start, length⟩ :: tokensFrom next rest := by
  rw [tokensFrom_gap blank]
  cases spelt with
  | nil => exact absurd rfl spelling.ne_nil
  | cons c more =>
    rw [List.cons_append, tokensFrom, if_neg spelling.solid, tokenAt_of_spelling spelling stops]
    simp only [List.drop_left]
    exact ⟨_, _, _, rfl⟩

theorem isGap_of_tokensFrom {offset : Nat} {cs : List Char} (none : tokensFrom offset cs = []) :
    IsGap cs := by
  fun_induction tokensFrom offset cs with
  | case1 => exact isGap_nil
  | case2 offset c rest blank ih => exact List.forall_mem_cons.2 ⟨blank, ih none⟩
  | case3 => simp at none

theorem spelling_of_tokensFrom {offset : Nat} {cs : List Char} {token : Token}
    {later : List Token} (read : tokensFrom offset cs = token :: later)
    (known : token.kind ≠ .unknown) :
    ∃ gap spelt rest next, IsGap gap ∧ Spelling token.kind token.text spelt ∧
      cs = gap ++ (spelt ++ rest) ∧ later = tokensFrom next rest := by
  fun_induction tokensFrom offset cs with
  | case1 => simp at read
  | case2 offset c rest blank ih =>
    obtain ⟨gap, spelt, others, next, between, spelling, parts, following⟩ := ih read
    exact ⟨c :: gap, spelt, others, next, List.forall_mem_cons.2 ⟨blank, between⟩, spelling,
      by rw [parts, List.cons_append], following⟩
  | case3 offset c rest solid kind text count same length ih =>
    obtain ⟨rfl, rfl⟩ := List.cons.inj read
    exact ⟨[], c :: rest.take count, rest.drop count, _, isGap_nil, spelling_of_tokenAt same known,
      by simp, rfl⟩

end SignedRequest.Authorization
