import SignedRequest.Proofs.Text.LowerCase

/-!
Lower case taken twice. The letters of the table are no capitals of the table, so that every
character of a text in lower case stays as it is, a final sigma too.
-/

namespace SignedRequest.Text

def CaseTable.Run.codes (run : CaseTable.Run) : List Nat :=
  (List.range' run.first (run.last + 1 - run.first)).filter run.covers

theorem CaseTable.Run.mem_codes {run : CaseTable.Run} {code : Nat} :
    code ∈ run.codes ↔ run.covers code = true := by
  rw [codes, List.mem_filter, List.mem_range'_1]
  refine ⟨And.right, fun covered => ⟨?_, covered⟩⟩
  simp only [covers, Bool.and_eq_true, decide_eq_true_eq] at covered
  omega

/-- A list of numbers as the number that has one bit for each of them, so that looking one up takes
a single step. -/
def bitsOf : List Nat → Nat
  | [] => 0
  | code :: rest => 1 <<< code ||| bitsOf rest

theorem testBit_bitsOf {codes : List Nat} {code : Nat} :
    (bitsOf codes).testBit code = true ↔ code ∈ codes := by
  induction codes with
  | nil => simp [bitsOf]
  | cons first rest ih =>
    rw [bitsOf, Nat.testBit_or, Bool.or_eq_true, ih, List.mem_cons, Nat.one_shiftLeft,
      Nat.testBit_two_pow, decide_eq_true_eq, eq_comm]

def CaseTable.capitals : List Nat := 0x130 :: CaseTable.lowerRuns.flatMap CaseTable.Run.codes

theorem CaseTable.small_letters :
    (CaseTable.lowerRuns.all fun run => run.letters.all fun d =>
      !(bitsOf CaseTable.capitals).testBit d.toNat) = true := by
  decide +kernel

theorem lowerChar_of_not_mem_capitals {d : Char} (wide : isAscii d = false)
    (small : d.toNat ∉ CaseTable.capitals) : lowerChar d = [d] := by
  have large : ¬d.toNat < 0x80 := by simpa [isAscii] using wide
  rw [CaseTable.capitals, List.mem_cons, not_or] at small
  have plain : d ≠ '\u0130' := by
    intro same
    subst same
    exact small.1 (by decide)
  have uncovered : (CaseTable.lowerRuns.find? fun run => run.covers d.toNat) = none := by
    rw [List.find?_eq_none]
    intro run member covered
    exact small.2 (List.mem_flatMap.2 ⟨run, member, CaseTable.Run.mem_codes.2 covered⟩)
  simp [lowerChar, large, plain, uncovered]

/-- A character that lower case leaves as it is, wherever it stands. -/
structure IsSmall (d : Char) : Prop where
  fixed : lowerChar d = [d]
  plain : d ≠ 'Σ'

instance (d : Char) : Decidable (IsSmall d) :=
  decidable_of_iff (lowerChar d = [d] ∧ d ≠ 'Σ') ⟨fun both => ⟨both.1, both.2⟩, fun small =>
    ⟨small.fixed, small.plain⟩⟩

theorem isSmall_of_wide {d : Char} (wide : isAscii d = false) (fixed : lowerChar d = [d]) :
    IsSmall d := by
  refine ⟨fixed, ?_⟩
  intro same
  subst same
  exact absurd fixed (by decide)

theorem isSmall_letter {run : CaseTable.Run} (member : run ∈ CaseTable.lowerRuns) {d : Char}
    (letter : d ∈ run.letters) : IsSmall d := by
  rcases (CaseTable.Run.letter_cases member letter).2 with rfl | wide
  · decide
  · have table := List.all_eq_true.1 (List.all_eq_true.1 CaseTable.small_letters run member) d
      letter
    rw [Bool.not_eq_eq_eq_not, Bool.not_true, ← Bool.not_eq_true, testBit_bitsOf] at table
    exact isSmall_of_wide wide (lowerChar_of_not_mem_capitals wide table)

theorem isSmall_of_mem_lowerChar {c d : Char} (member : d ∈ lowerChar c) : IsSmall d := by
  cases ascii : isAscii c with
  | true =>
    rw [lowerChar_of_ascii ascii, List.mem_singleton] at member
    subst member
    exact of_decide_eq_true
      (ascii_forall (p := fun c => decide (IsSmall c.toLower)) (by decide +kernel) ascii)
  | false =>
    rcases lowerChar_cases ascii with dotted | ⟨run, inTable, e, letter, becomes⟩ | same
    · rw [dotted] at member
      exact forall_mem_of_all (by decide +kernel) d member
    · rw [becomes, List.mem_singleton] at member
      subst member
      exact isSmall_letter inTable letter
    · rw [same, List.mem_singleton] at member
      subst member
      exact isSmall_of_wide ascii same

theorem isSmall_of_mem_lowerGroup {before rest : List Char} {c d : Char}
    (member : d ∈ lowerGroup before c rest) : IsSmall d := by
  unfold lowerGroup at member
  split at member
  · rw [List.mem_singleton] at member
    subst member
    split <;> decide +kernel
  · exact isSmall_of_mem_lowerChar member

theorem isSmall_of_mem_lowerAfter {before cs : List Char} {d : Char}
    (member : d ∈ lowerAfter before cs) : IsSmall d := by
  induction cs generalizing before with
  | nil => simp [lowerAfter] at member
  | cons c rest ih =>
    rw [lowerAfter_cons, List.mem_append] at member
    exact member.elim isSmall_of_mem_lowerGroup ih

theorem isSmall_of_mem_lower {text : String} {d : Char} (member : d ∈ (lower text).toList) :
    IsSmall d := by
  rw [lower, String.toList_ofList] at member
  exact isSmall_of_mem_lowerAfter member

theorem lowerAfter_of_small {cs : List Char} (small : ∀ c ∈ cs, IsSmall c) (before : List Char) :
    lowerAfter before cs = cs := by
  induction cs generalizing before with
  | nil => rfl
  | cons c rest ih =>
    have here := small c List.mem_cons_self
    rw [lowerAfter_cons, ih (fun d member => small d (List.mem_cons_of_mem _ member))]
    simp [lowerGroup, here.plain, here.fixed]

theorem lower_of_small {text : String} (small : ∀ c ∈ text.toList, IsSmall c) :
    lower text = text := by
  rw [lower, lowerAfter_of_small small, String.ofList_toList]

theorem lower_lower (text : String) : lower (lower text) = lower text :=
  lower_of_small fun _ => isSmall_of_mem_lower

end SignedRequest.Text
