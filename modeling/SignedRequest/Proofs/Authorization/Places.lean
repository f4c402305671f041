import SignedRequest.Authorization.Span
import SignedRequest.Proofs.Authorization.Tokens

/-!
Where tokens stand. The tokens of a text tile it, with gaps between them, and each one begins and
ends between characters.
-/

namespace SignedRequest.Authorization

/-- Tokens that make up a text whose first character stands at `offset`. Gaps stand between them,
each is as long as it can be, and a character with which none begins stands alone. -/
inductive Tiles : Nat → List Char → List Token → Prop
  | gap {offset : Nat} {cs : List Char} (blank : IsGap cs) : Tiles offset cs []
  | token {offset : Nat} {kind : TokenKind} {text gap spelt rest : List Char} {later : List Token}
      (blank : IsGap gap) (spelling : Spelling kind text spelt) (stops : Stops kind rest)
      (others : Tiles (offset + octetLength gap + octetLength spelt) rest later) :
      Tiles offset (gap ++ (spelt ++ rest))
        (⟨kind, text, offset + octetLength gap, octetLength spelt⟩ :: later)
  | unlexable {offset : Nat} {c : Char} {gap rest : List Char} {later : List Token}
      (blank : IsGap gap) (solid : ¬(c = ' ' ∨ c = '\t'))
      (none : ∀ kind text spelt, Spelling kind text spelt → ¬spelt <+: c :: rest)
      (others : Tiles (offset + octetLength gap + c.utf8Size) rest later) :
      Tiles offset (gap ++ c :: rest)
        (⟨.unknown, [c], offset + octetLength gap, c.utf8Size⟩ :: later)

theorem octetLength_append (front back : List Char) :
    octetLength (front ++ back) = octetLength front + octetLength back := by
  induction front with
  | nil => simp [octetLength]
  | cons c front ih => simp only [List.cons_append, octetLength, ih, Nat.add_assoc]

theorem octetLength_eq_utf8ByteSize (cs : List Char) :
    octetLength cs = (String.ofList cs).utf8ByteSize := by
  induction cs with
  | nil => rfl
  | cons c cs ih =>
    rw [octetLength, String.ofList_cons, String.utf8ByteSize_append, String.utf8ByteSize_singleton,
      ih]

theorem octetLength_toList (text : String) : octetLength text.toList = text.utf8ByteSize := by
  rw [octetLength_eq_utf8ByteSize, String.ofList_toList]

theorem charsFrom_octetLength (front back : List Char) :
    charsFrom (octetLength front) (front ++ back) = back := by
  induction front with
  | nil => cases back <;> rfl
  | cons c front ih =>
    have positive : c.utf8Size + octetLength front ≠ 0 := by
      have size := c.utf8Size_pos
      omega
    rw [octetLength, List.cons_append, charsFrom, if_neg positive, Nat.add_sub_cancel_left, ih]

theorem Tiles.cons_blank {offset : Nat} {c : Char} {rest : List Char} {tokens : List Token}
    (blank : c = ' ' ∨ c = '\t') (tiles : Tiles (offset + 1) rest tokens) :
    Tiles offset (c :: rest) tokens := by
  have longer {gap : List Char} (gapped : IsGap gap) : IsGap (c :: gap) :=
    List.forall_mem_cons.2 ⟨blank, gapped⟩
  have size : c.utf8Size = 1 := by rcases blank with rfl | rfl <;> rfl
  have moved (gap : List Char) :
      offset + 1 + octetLength gap = offset + octetLength (c :: gap) := by
    rw [octetLength, size, Nat.add_assoc]
  cases tiles with
  | gap gapped => exact .gap (longer gapped)
  | token gapped spelling stops others =>
    rw [moved] at others ⊢
    exact .token (longer gapped) spelling stops others
  | unlexable gapped solid none others =>
    rw [moved] at others ⊢
    exact .unlexable (longer gapped) solid none others

theorem not_of_head?_drop {p : Char → Bool} {cs : List Char} {c : Char}
    (next : (cs.drop (cs.takeWhile p).length).head? = some c) : p c = false := by
  induction cs with
  | nil => simp at next
  | cons d cs ih =>
    cases inside : p d with
    | true => exact ih (by simpa [inside] using next)
    | false =>
      obtain rfl : d = c := by simpa [inside] using next
      exact inside

theorem stops_of_tokenAt {c : Char} {rest text : List Char} {kind : TokenKind} {count : Nat}
    (same : tokenAt c rest = (kind, text, count)) : Stops kind (rest.drop count) := by
  unfold tokenAt at same
  split at same
  · cases same
    exact fun _ => not_of_head?_drop
  · split at same
    · cases same
      exact fun _ => not_of_head?_drop
    · -- No other token can be made longer.
      have single : kind ≠ .key ∧ kind ≠ .number := by
        grind
      intro d _
      cases kind with
      | key => exact absurd rfl single.1
      | number => exact absurd rfl single.2
      | equals | quoted | comma | unknown => rfl

theorem alone_of_tokenAt {c : Char} {rest text : List Char} {count : Nat}
    (same : tokenAt c rest = (.unknown, text, count)) : text = [c] ∧ count = 0 := by
  grind [tokenAt]

theorem not_prefix_of_tokenAt {c : Char} {rest text : List Char} {count : Nat}
    (same : tokenAt c rest = (.unknown, text, count)) (kind : TokenKind) (other spelt : List Char)
    (spelling : Spelling kind other spelt) : ¬spelt <+: c :: rest := by
  rintro ⟨back, parts⟩
  have read {more : List Char} (first : spelt = c :: more) (stops : Stops kind back) :
      tokenAt c rest = (kind, other, more.length) := by
    subst first
    obtain rfl := (List.cons.inj parts).2
    exact tokenAt_of_spelling spelling stops
  cases spelling with
  | key letter all =>
    obtain ⟨rfl, -⟩ := List.cons.inj parts
    simp [tokenAt, letter] at same
  | number digit all =>
    obtain ⟨rfl, -⟩ := List.cons.inj parts
    simp [tokenAt, digit, not_isAlpha_of_isDigit digit] at same
  | equals | comma | quoted plain =>
    obtain ⟨rfl, -⟩ := List.cons.inj parts
    have known := same.symm.trans (read rfl fun _ _ => rfl)
    simp at known

theorem tiles_tokensFrom (offset : Nat) (cs : List Char) :
    Tiles offset cs (tokensFrom offset cs) := by
  fun_induction tokensFrom offset cs with
  | case1 => exact .gap isGap_nil
  | case2 offset c rest blank ih => exact ih.cons_blank blank
  | case3 offset c rest solid kind text count same length ih =>
    by_cases known : kind = .unknown
    · subst known
      obtain ⟨rfl, rfl⟩ := alone_of_tokenAt same
      exact .unlexable isGap_nil solid (not_prefix_of_tokenAt same) ih
    · have tile : Tiles offset ([] ++ (c :: rest.take count ++ rest.drop count))
          (⟨kind, text, offset, length⟩ :: tokensFrom (offset + length) (rest.drop count)) :=
        .token isGap_nil (spelling_of_tokenAt same known) (stops_of_tokenAt same) ih
      simpa only [List.nil_append, List.cons_append, List.take_append_drop] using tile

theorem Tiles.exists_place {offset : Nat} {cs : List Char} {tokens : List Token}
    (tiles : Tiles offset cs tokens) {token : Token} (member : token ∈ tokens) :
    ∃ front spelt back, cs = front ++ (spelt ++ back) ∧
      token.offset = offset + octetLength front ∧ token.length = octetLength spelt ∧
      (token.kind ≠ .unknown → Spelling token.kind token.text spelt ∧ Stops token.kind back) := by
  induction tiles with
  | gap => simp at member
  | @token offset kind text gap spelt rest later blank spelling stops others ih =>
    rcases List.mem_cons.1 member with rfl | behind
    · exact ⟨gap, spelt, rest, rfl, rfl, rfl, fun _ => ⟨spelling, stops⟩⟩
    · obtain ⟨front, here, back, parts, start, length, spelled⟩ := ih behind
      refine ⟨gap ++ (spelt ++ front), here, back, by simp [parts], ?_, length, spelled⟩
      simp only [start, octetLength_append, Nat.add_assoc]
  | @unlexable offset c gap rest later blank solid none others ih =>
    rcases List.mem_cons.1 member with rfl | behind
    · exact ⟨gap, [c], rest, rfl, rfl, rfl, fun known => absurd rfl known⟩
    · obtain ⟨front, here, back, parts, start, length, spelled⟩ := ih behind
      refine ⟨gap ++ (c :: front), here, back, by simp [parts], ?_, length, spelled⟩
      simp only [start, octetLength_append, octetLength, Nat.add_assoc]

theorem markedChars_of_spelling (unlexed : List Char → List Char) {kind : TokenKind}
    {text spelt rest : List Char} (spelling : Spelling kind text spelt) (stops : Stops kind rest) :
    markedChars unlexed (spelt ++ rest) = spelt := by
  have known : kind ≠ .unknown := by cases spelling <;> simp
  cases spelt with
  | nil => exact absurd rfl spelling.ne_nil
  | cons c more =>
    simp only [List.cons_append, markedChars, tokenAt_of_spelling spelling stops, if_neg known,
      List.take_left]

theorem markedChars_isPrefix {unlexed : List Char → List Char}
    (slice : ∀ rest, unlexed rest <+: rest) (cs : List Char) : markedChars unlexed cs <+: cs := by
  cases cs with
  | nil => exact List.prefix_rfl
  | cons c rest =>
    unfold markedChars
    dsimp only
    split
    · exact slice (c :: rest)
    · exact (List.prefix_cons_inj c).2 (List.take_prefix _ rest)

/-- The octets lie in the text and begin and end between characters. -/
structure Span.Inside (span : Span) (input : String) : Prop where
  within : span.offset + span.length ≤ input.utf8ByteSize
  start : String.Pos.Raw.IsValid input ⟨span.offset⟩
  stop : String.Pos.Raw.IsValid input ⟨span.offset + span.length⟩

theorem isValid_octetLength {input : String} {front back : List Char}
    (parts : input.toList = front ++ back) :
    String.Pos.Raw.IsValid input ⟨octetLength front⟩ := by
  refine String.Pos.Raw.isValid_iff_exists_append.2
    ⟨String.ofList front, String.ofList back, ?_, ?_⟩
  · rw [← String.ofList_append, ← parts, String.ofList_toList]
  · rw [octetLength_eq_utf8ByteSize]
    rfl

theorem inside_of_parts {input : String} {front marked back : List Char}
    (parts : input.toList = front ++ (marked ++ back)) :
    (Span.mk (octetLength front) (octetLength marked)).Inside input where
  within := by
    rw [← octetLength_toList, parts, ← List.append_assoc, octetLength_append, octetLength_append]
    exact Nat.le_add_right _ (octetLength back)
  start := isValid_octetLength parts
  stop := by
    rw [← octetLength_append]
    exact isValid_octetLength (parts.trans (List.append_assoc front marked back).symm)

section
variable {input : String} {token : Token} (member : token ∈ tokens input)
include member

theorem exists_place_of_mem :
    ∃ front spelt back, input.toList = front ++ (spelt ++ back) ∧
      token.offset = octetLength front ∧ token.length = octetLength spelt ∧
      (token.kind ≠ .unknown → Spelling token.kind token.text spelt ∧ Stops token.kind back) := by
  simpa using (tiles_tokensFrom 0 input.toList).exists_place member

theorem octetLength_markedChars_of_mem (unlexed : List Char → List Char)
    (known : token.kind ≠ .unknown) :
    octetLength (markedChars unlexed (charsFrom token.offset input.toList)) = token.length := by
  obtain ⟨front, spelt, back, parts, start, length, spelled⟩ := exists_place_of_mem member
  obtain ⟨spelling, stops⟩ := spelled known
  rw [parts, start, charsFrom_octetLength, markedChars_of_spelling unlexed spelling stops, length]

end

theorem charsFrom_utf8ByteSize (input : String) :
    charsFrom input.utf8ByteSize input.toList = [] := by
  have last := charsFrom_octetLength input.toList []
  rwa [octetLength_toList, List.append_nil] at last

end SignedRequest.Authorization
