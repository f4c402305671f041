import SignedRequest.Text.Utf8

/-!
Texts written as octets are read back, and reading makes a character of ASCII from nothing but its
own octet; the octets on either side of one of ASCII are read each on their own, ill-formed or not.
-/

namespace SignedRequest.Text.Utf8

theorem decode_cons (lead : UInt8) (rest : Bytes) :
    decode (lead :: rest) = (first lead rest).1 :: decode (rest.drop (first lead rest).2) := by
  rw [decode]

theorem within_iff (low high b : UInt8) :
    (decide (low ≤ b) && decide (b ≤ high)) = true ↔
      low.toNat ≤ b.toNat ∧ b.toNat ≤ high.toNat := by
  simp [UInt8.le_iff_toNat_le]

theorem not_within (low high : UInt8) {b : UInt8} (above : high.toNat < b.toNat) :
    ¬(decide (low ≤ b) && decide (b ≤ high)) = true := by
  rw [within_iff]
  omega

theorem not_small {lead : UInt8} (large : 0x80 ≤ lead.toNat) : ¬lead < 0x80 := by
  rw [UInt8.lt_iff_toNat_lt]
  exact Nat.not_lt.2 large

theorem first_one {lead : UInt8} (small : lead.toNat < 0x80) (rest : Bytes) :
    first lead rest = (some (Char.ofNat lead.toNat), 0) := by
  unfold first
  rw [if_pos (UInt8.lt_iff_toNat_lt.2 small)]

theorem isContinuation_iff (b : UInt8) :
    isContinuation b = true ↔ 0x80 ≤ b.toNat ∧ b.toNat ≤ 0xBF :=
  within_iff 0x80 0xBF b

theorem isSecond_of (lead second : UInt8) (tail : 0x80 ≤ second.toNat ∧ second.toNat ≤ 0xBF)
    (long : lead.toNat = 0xE0 → 0xA0 ≤ second.toNat)
    (surrogate : lead.toNat = 0xED → second.toNat ≤ 0x9F)
    (longer : lead.toNat = 0xF0 → 0x90 ≤ second.toNat)
    (beyond : lead.toNat = 0xF4 → second.toNat ≤ 0x8F) : isSecond lead second = true := by
  unfold isSecond
  simp only [beq_iff_eq, ← UInt8.toNat_inj]
  split
  · rename_i same
    exact (within_iff 0xA0 0xBF second).2 ⟨long same, tail.2⟩
  · split
    · rename_i same
      exact (within_iff 0x80 0x9F second).2 ⟨tail.1, surrogate same⟩
    · split
      · rename_i same
        exact (within_iff 0x90 0xBF second).2 ⟨longer same, tail.2⟩
      · split
        · rename_i same
          exact (within_iff 0x80 0x8F second).2 ⟨tail.1, beyond same⟩
        · exact (isContinuation_iff second).2 tail

theorem first_two {lead b : UInt8} (range : 0xC2 ≤ lead.toNat ∧ lead.toNat ≤ 0xDF)
    (tail : 0x80 ≤ b.toNat ∧ b.toNat ≤ 0xBF) (rest : Bytes) :
    first lead (b :: rest) =
      (some (Char.ofNat (lead.toNat % 32 * 64 + b.toNat % 64)), 1) := by
  unfold first
  rw [if_neg (not_small (Nat.le_trans (by decide) range.1)),
    if_pos ((within_iff 0xC2 0xDF lead).2 range)]
  simp only [(isContinuation_iff b).2 tail, ↓reduceIte, payload]

theorem first_three {lead b c : UInt8} (range : 0xE0 ≤ lead.toNat ∧ lead.toNat ≤ 0xEF)
    (second : isSecond lead b = true) (tail : 0x80 ≤ c.toNat ∧ c.toNat ≤ 0xBF) (rest : Bytes) :
    first lead (b :: c :: rest) =
      (some (Char.ofNat ((lead.toNat % 16 * 64 + b.toNat % 64) * 64 + c.toNat % 64)), 2) := by
  unfold first
  rw [if_neg (not_small (Nat.le_trans (by decide) range.1)),
    if_neg (not_within 0xC2 0xDF range.1), if_pos ((within_iff 0xE0 0xEF lead).2 range)]
  simp [second, (isContinuation_iff c).2 tail, payload]

theorem first_four {lead b c d : UInt8} (range : 0xF0 ≤ lead.toNat ∧ lead.toNat ≤ 0xF4)
    (second : isSecond lead b = true) (third : 0x80 ≤ c.toNat ∧ c.toNat ≤ 0xBF)
    (tail : 0x80 ≤ d.toNat ∧ d.toNat ≤ 0xBF) (rest : Bytes) :
    first lead (b :: c :: d :: rest) =
      (some (Char.ofNat
        (((lead.toNat % 8 * 64 + b.toNat % 64) * 64 + c.toNat % 64) * 64 + d.toNat % 64)), 3) := by
  unfold first
  rw [if_neg (not_small (Nat.le_trans (by decide) range.1)),
    if_neg (not_within 0xC2 0xDF (Nat.le_trans (by decide) range.1)),
    if_neg (not_within 0xE0 0xEF range.1), if_pos ((within_iff 0xF0 0xF4 lead).2 range)]
  simp [second, (isContinuation_iff c).2 third, (isContinuation_iff d).2 tail, payload]

theorem encodeChar_eq (c : Char) :
    String.utf8EncodeChar c =
      let n := c.toNat
      if n ≤ 0x7F then [UInt8.ofNat n]
      else if n ≤ 0x7FF then [UInt8.ofNat (n / 64 % 32 + 0xC0), UInt8.ofNat (n % 64 + 0x80)]
      else if n ≤ 0xFFFF then
        [UInt8.ofNat (n / 4096 % 16 + 0xE0), UInt8.ofNat (n / 64 % 64 + 0x80),
          UInt8.ofNat (n % 64 + 0x80)]
      else
        [UInt8.ofNat (n / 262144 % 8 + 0xF0), UInt8.ofNat (n / 4096 % 64 + 0x80),
          UInt8.ofNat (n / 64 % 64 + 0x80), UInt8.ofNat (n % 64 + 0x80)] :=
  rfl

theorem toNat_ofNat_of_lt {n : Nat} (small : n < 0x100) : (UInt8.ofNat n).toNat = n := by
  rw [UInt8.toNat_ofNat']
  exact Nat.mod_eq_of_lt small

theorem decode_encodeChar (c : Char) (rest : Bytes) :
    decode (String.utf8EncodeChar c ++ rest) = some c :: decode rest := by
  have valid : c.toNat < 0xD800 ∨ 0xDFFF < c.toNat ∧ c.toNat < 0x110000 := c.valid
  have restored : Char.ofNat c.toNat = c := Char.ofNat_toNat c
  rw [encodeChar_eq]
  generalize c.toNat = n at valid restored
  have last := toNat_ofNat_of_lt (n := n % 64 + 0x80) (by omega)
  have third := toNat_ofNat_of_lt (n := n / 64 % 64 + 0x80) (by omega)
  have second := toNat_ofNat_of_lt (n := n / 4096 % 64 + 0x80) (by omega)
  dsimp only
  -- One case for each length of the sequence; the digits in base 64 make up the number again.
  split
  · have lead := toNat_ofNat_of_lt (n := n) (by omega)
    simp only [List.cons_append, List.nil_append, decode_cons]
    rw [first_one (by omega), lead, restored]
    rfl
  · split
    · have lead := toNat_ofNat_of_lt (n := n / 64 % 32 + 0xC0) (by omega)
      have number : (n / 64 % 32 + 0xC0) % 32 * 64 + (n % 64 + 0x80) % 64 = n := by omega
      simp only [List.cons_append, List.nil_append, decode_cons]
      rw [first_two (by omega) (by omega), lead, last, number, restored]
      rfl
    · split
      · have lead := toNat_ofNat_of_lt (n := n / 4096 % 16 + 0xE0) (by omega)
        have number : ((n / 4096 % 16 + 0xE0) % 16 * 64 + (n / 64 % 64 + 0x80) % 64) * 64 +
            (n % 64 + 0x80) % 64 = n := by omega
        have allowed := isSecond_of (UInt8.ofNat (n / 4096 % 16 + 0xE0))
          (UInt8.ofNat (n / 64 % 64 + 0x80)) (by omega) (by omega) (by omega) (by omega) (by omega)
        simp only [List.cons_append, List.nil_append, decode_cons]
        rw [first_three (by omega) allowed (by omega), lead, third, last, number, restored]
        rfl
      · have lead := toNat_ofNat_of_lt (n := n / 262144 % 8 + 0xF0) (by omega)
        have number : (((n / 262144 % 8 + 0xF0) % 8 * 64 + (n / 4096 % 64 + 0x80) % 64) * 64 +
            (n / 64 % 64 + 0x80) % 64) * 64 + (n % 64 + 0x80) % 64 = n := by omega
        have allowed := isSecond_of (UInt8.ofNat (n / 262144 % 8 + 0xF0))
          (UInt8.ofNat (n / 4096 % 64 + 0x80))
          (by omega) (by omega) (by omega) (by omega) (by omega)
        simp only [List.cons_append, List.nil_append, decode_cons]
        rw [first_four (by omega) allowed (by omega) (by omega), lead, second, third, last,
          number, restored]
        rfl

theorem decode_ofText (text : String) : decode (Bytes.ofText text) = text.toList.map some := by
  unfold Bytes.ofText
  induction text.toList with
  | nil => rw [List.flatMap_nil, decode, List.map_nil]
  | cons c rest ih => rw [List.flatMap_cons, decode_encodeChar, ih, List.map_cons]

theorem lossy_ofText (text : String) : lossy (Bytes.ofText text) = text := by
  rw [lossy, decode_ofText, List.map_map]
  exact (congrArg String.ofList (List.map_id text.toList)).trans String.ofList_toList

theorem ofText_eq_nil_iff (text : String) : Bytes.ofText text = [] ↔ text = "" := by
  constructor
  · intro empty
    rw [← lossy_ofText text, empty, lossy, decode]
    rfl
  · rintro rfl
    rfl

theorem first_wide {lead : UInt8} (large : ¬lead < 0x80) (rest : Bytes) (c : Char) :
    (first lead rest).1 = some c → ∃ n, 0x80 ≤ n ∧ c = Char.ofNat n := by
  fun_cases first lead rest
  all_goals try simp only [Option.some.injEq, reduceCtorEq, false_implies]
  case case1 small => exact absurd small large
  case case2 two b _ tail =>
    intro same
    subst same
    have range : 0xC2 ≤ lead.toNat ∧ lead.toNat ≤ 0xDF := (within_iff 0xC2 0xDF lead).1 two
    exact ⟨_, by omega, rfl⟩
  case case7 _ three b c _ second tail =>
    intro same
    subst same
    have range : 0xE0 ≤ lead.toNat ∧ lead.toNat ≤ 0xEF := (within_iff 0xE0 0xEF lead).1 three
    have long : lead.toNat = 0xE0 → 0xA0 ≤ b.toNat ∧ b.toNat ≤ 0xBF := by
      intro same
      rw [Bool.not_eq_true', Bool.not_eq_false] at second
      obtain rfl : lead = 0xE0 := UInt8.toNat_inj.1 same
      exact (within_iff 0xA0 0xBF b).1 second
    exact ⟨_, by unfold payload; omega, rfl⟩
  case case13 _ _ four b c d _ second third tail =>
    intro same
    subst same
    have range : 0xF0 ≤ lead.toNat ∧ lead.toNat ≤ 0xF4 := (within_iff 0xF0 0xF4 lead).1 four
    have long : lead.toNat = 0xF0 → 0x90 ≤ b.toNat ∧ b.toNat ≤ 0xBF := by
      intro same
      rw [Bool.not_eq_true', Bool.not_eq_false] at second
      obtain rfl : lead = 0xF0 := UInt8.toNat_inj.1 same
      exact (within_iff 0x90 0xBF b).1 second
    exact ⟨_, by unfold payload; omega, rfl⟩

theorem toNat_ofNat (n : Nat) :
    (Char.ofNat n).toNat = n ∨ (Char.ofNat n).toNat = 0 := by
  by_cases valid : n.isValidChar
  · exact .inl (by rw [Char.ofNat, dif_pos valid]; rfl)
  · exact .inr (by rw [Char.ofNat, dif_neg valid]; rfl)

theorem eq_of_ofNat_eq_lineFeed {n : Nat} (same : Char.ofNat n = '\n') : n = 10 := by
  have number : (Char.ofNat n).toNat = 10 := congrArg Char.toNat same
  have := toNat_ofNat n
  omega

theorem mem_of_lineFeed_mem_decode {bytes : Bytes} (read : some '\n' ∈ decode bytes) :
    10 ∈ bytes := by
  fun_induction decode bytes with
  | case1 => simp at read
  | case2 lead rest head ih =>
    rcases List.mem_cons.1 read with here | later
    · by_cases small : lead < 0x80
      · have single : head.1 = some (Char.ofNat lead.toNat) := by
          rw [show head = _ from first_one (UInt8.lt_iff_toNat_lt.1 small) rest]
        have same := eq_of_ofNat_eq_lineFeed (Option.some.inj (single.symm.trans here.symm))
        exact List.mem_cons.2 (.inl (UInt8.toNat_inj.1 same.symm))
      -- A longer sequence is not read as a sign of ASCII.
      · obtain ⟨n, large, same⟩ := first_wide small rest '\n' here.symm
        have := eq_of_ofNat_eq_lineFeed same.symm
        omega
    · exact List.mem_cons_of_mem _ (List.mem_of_mem_drop (ih later))

theorem mem_of_lineFeed_mem_lossy {bytes : Bytes} (member : '\n' ∈ (lossy bytes).toList) :
    10 ∈ bytes := by
  rw [lossy, String.toList_ofList] at member
  obtain ⟨read, found, same⟩ := List.mem_map.1 member
  cases read with
  | none => exact absurd same (by decide)
  | some c =>
    obtain rfl : c = '\n' := same
    exact mem_of_lineFeed_mem_decode found

theorem isContinuation_of_small {b : UInt8} (small : b < 0x80) : isContinuation b = false := by
  rw [← Bool.not_eq_true, isContinuation_iff]
  have number : b.toNat < 0x80 := UInt8.lt_iff_toNat_lt.1 small
  omega

theorem isSecond_of_small (lead : UInt8) {b : UInt8} (small : b < 0x80) :
    isSecond lead b = false := by
  have number : b.toNat < 0x80 := UInt8.lt_iff_toNat_lt.1 small
  have below (low high : UInt8) (large : 0x80 ≤ low.toNat) :
      (decide (low ≤ b) && decide (b ≤ high)) = false := by
    rw [← Bool.not_eq_true, within_iff]
    omega
  simp [isSecond, isContinuation, below 0xA0 0xBF (by decide), below 0x80 0x9F (by decide),
    below 0x90 0xBF (by decide), below 0x80 0x8F (by decide), below 0x80 0xBF (by decide)]

/-- An octet of ASCII is no part of the character before it. -/
theorem first_append_cons {b : UInt8} (small : b < 0x80) (lead : UInt8) (tail rest : Bytes) :
    first lead (tail ++ b :: rest) = first lead tail := by
  have second := isSecond_of_small lead small
  have continuation := isContinuation_of_small small
  unfold first
  refine ite_congr rfl (fun _ => rfl) fun _ => ite_congr rfl (fun _ => ?two) fun _ =>
    ite_congr rfl (fun _ => ?three) fun _ => ite_congr rfl (fun _ => ?four) fun _ => rfl
  case two =>
    cases tail with
    | nil => simp [continuation]
    | cons => rfl
  case three =>
    match tail, rest with
    | [], [] => simp [second]
    | [], _ :: _ => simp [second]
    | [c], _ => cases allowed : isSecond lead c <;> simp [continuation, allowed]
    | _ :: _ :: _, _ => rfl
  case four =>
    match tail, rest with
    | [], [] => simp [second]
    | [], [_] => simp [second]
    | [], _ :: _ :: _ => simp [second]
    | [c], [] => cases allowed : isSecond lead c <;> simp [continuation, allowed]
    | [c], _ :: _ => cases allowed : isSecond lead c <;> simp [continuation, allowed]
    | [c, d], _ =>
      cases allowed : isSecond lead c <;> cases next : isContinuation d <;>
        simp [continuation, allowed, next]
    | _ :: _ :: _ :: _, _ => rfl

theorem first_le_length (lead : UInt8) (rest : Bytes) : (first lead rest).2 ≤ rest.length := by
  fun_cases first lead rest
  all_goals grind

theorem decode_append_cons {b : UInt8} (small : b < 0x80) (front rest : Bytes) :
    decode (front ++ b :: rest) = decode front ++ some (Char.ofNat b.toNat) :: decode rest := by
  fun_induction decode front with
  | case1 =>
    rw [List.nil_append, decode_cons, first_one (UInt8.lt_iff_toNat_lt.1 small)]
    rfl
  | case2 lead tail head ih =>
    rw [List.cons_append, decode_cons, first_append_cons small,
      List.drop_append_of_le_length (first_le_length lead tail), ih, List.cons_append]

theorem strict?_ofText (text : String) : strict? (Bytes.ofText text) = some text := by
  simp [strict?, decode_ofText]

theorem decode_of_continuation {b : UInt8} (tail : isContinuation b = true) (rest : Bytes) :
    none ∈ decode (b :: rest) := by
  obtain ⟨low, high⟩ := (isContinuation_iff b).1 tail
  have outside (least most : UInt8) (above : 0xC0 ≤ least.toNat) :
      ¬(decide (least ≤ b) && decide (b ≤ most)) = true := by
    rw [within_iff]
    omega
  have broken : first b rest = (none, 0) := by
    unfold first
    rw [if_neg (not_small low), if_neg (outside 0xC2 0xDF (by decide)),
      if_neg (outside 0xE0 0xEF (by decide)), if_neg (outside 0xF0 0xF4 (by decide))]
  rw [decode_cons, broken]
  exact List.mem_cons_self

/-- In a text no octet in the middle of a character follows one of ASCII. -/
theorem not_pair_infix_ofText {a b : UInt8} (small : a < 0x80) (tail : isContinuation b = true)
    (text : String) : ¬[a, b] <:+: Bytes.ofText text := by
  rintro ⟨front, back, parts⟩
  have broken : none ∈ decode (Bytes.ofText text) := by
    rw [← parts, List.append_assoc, List.cons_append, List.cons_append, List.nil_append,
      decode_append_cons small, List.mem_append]
    exact .inr (List.mem_cons_of_mem _ (decode_of_continuation tail back))
  simp [decode_ofText] at broken

theorem lossy_append_comma (front rest : Bytes) :
    lossy (front ++ 44 :: 32 :: rest) = lossy front ++ ", " ++ lossy rest := by
  have space : decode (32 :: rest) = some ' ' :: decode rest := by
    rw [decode_cons, first_one (by decide)]
    rfl
  apply String.toList_injective
  rw [lossy, decode_append_cons (by decide), space]
  simp [lossy, replacement, String.toList_append]

theorem lossy_intercalate (list : List Bytes) :
    lossy ((Bytes.ofText ", ").intercalate list) = ", ".intercalate (list.map lossy) := by
  induction list with
  | nil =>
    rw [List.intercalate_nil, lossy, decode]
    rfl
  | cons first rest ih =>
    cases rest with
    | nil => simp
    | cons next rest =>
      calc lossy ((Bytes.ofText ", ").intercalate (first :: next :: rest))
          = lossy (first ++ 44 :: 32 :: (Bytes.ofText ", ").intercalate (next :: rest)) := by
            rw [List.intercalate_cons_cons, List.append_assoc]
            rfl
        _ = lossy first ++ ", " ++ ", ".intercalate ((next :: rest).map lossy) := by
            rw [lossy_append_comma, ih]
        _ = ", ".intercalate ((first :: next :: rest).map lossy) :=
            String.intercalate_cons_cons.symm

end SignedRequest.Text.Utf8
