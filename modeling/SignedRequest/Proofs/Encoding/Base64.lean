import SignedRequest.Encoding.Base64
import SignedRequest.Proofs.Text.Ascii
import SignedRequest.Text.Blank

/-!
Octets written in Base64 are read back, and nothing else is read. What is written consists of
letters, digits, two signs and padding.
-/

namespace SignedRequest.Base64

theorem value?_letter {n : Nat} (small : n < 64) : value? (letter n) = some n := by
  have each : ∀ n ∈ List.range 64, value? (letter n) = some n := by decide
  exact each n (List.mem_range.2 small)

theorem value?_padding : value? '=' = none := by decide

theorem letter_ne_padding {n : Nat} (small : n < 64) : letter n ≠ '=' := by
  intro same
  have value := value?_letter small
  simp [same, value?_padding] at value

theorem ofNat_eq_of_toNat {n : Nat} {b : UInt8} (same : n = b.toNat) : UInt8.ofNat n = b := by
  rw [same, UInt8.ofNat_toNat]

theorem decodeLast?_one (a : UInt8) :
    decodeLast? (letter (a.toNat / 4)) (letter (a.toNat % 4 * 16)) '=' = some [a] := by
  have range := a.toNat_lt
  unfold decodeLast?
  rw [value?_letter (by omega), value?_letter (by omega)]
  have octet : UInt8.ofNat (a.toNat / 4 * 4 + a.toNat % 4 * 16 / 16) = a :=
    ofNat_eq_of_toNat (by omega)
  simp only [Option.bind_eq_bind, Option.bind_some, ↓reduceIte]
  rw [if_pos (Nat.mul_mod_left _ 16), octet]

theorem decodeLast?_two (a b : UInt8) :
    decodeLast? (letter (a.toNat / 4)) (letter (a.toNat % 4 * 16 + b.toNat / 16))
      (letter (b.toNat % 16 * 4)) = some [a, b] := by
  have range := a.toNat_lt
  have rangeNext := b.toNat_lt
  unfold decodeLast?
  rw [value?_letter (by omega), value?_letter (by omega), value?_letter (by omega)]
  have octet : UInt8.ofNat (a.toNat / 4 * 4 + (a.toNat % 4 * 16 + b.toNat / 16) / 16) = a :=
    ofNat_eq_of_toNat (by omega)
  have next : UInt8.ofNat ((a.toNat % 4 * 16 + b.toNat / 16) % 16 * 16 + b.toNat % 16 * 4 / 4) =
      b := ofNat_eq_of_toNat (by omega)
  simp only [Option.bind_eq_bind, Option.bind_some]
  rw [if_neg (letter_ne_padding (by omega)), if_pos (Nat.mul_mod_left _ 4), octet, next]

theorem decodeChars?_encodeChars (bytes : Bytes) :
    decodeChars? (encodeChars bytes) = some bytes := by
  fun_induction encodeChars bytes with
  | case1 => rfl
  | case2 a => simp [decodeChars?, decodeLast?_one]
  | case3 a b => simp [decodeChars?, decodeLast?_two]
  | case4 a b c rest ih =>
    have rangeA := a.toNat_lt
    have rangeB := b.toNat_lt
    have rangeC := c.toNat_lt
    unfold decodeChars?
    rw [if_neg fun last => letter_ne_padding (by omega) last.2, value?_letter (by omega),
      value?_letter (by omega), value?_letter (by omega), value?_letter (by omega), ih]
    have first : UInt8.ofNat (a.toNat / 4 * 4 + (a.toNat % 4 * 16 + b.toNat / 16) / 16) = a :=
      ofNat_eq_of_toNat (by omega)
    have second : UInt8.ofNat ((a.toNat % 4 * 16 + b.toNat / 16) % 16 * 16 +
        (b.toNat % 16 * 4 + c.toNat / 64) / 4) = b := ofNat_eq_of_toNat (by omega)
    have third : UInt8.ofNat ((b.toNat % 16 * 4 + c.toNat / 64) % 4 * 64 + c.toNat % 64) = c :=
      ofNat_eq_of_toNat (by omega)
    simp only [Option.bind_eq_bind, Option.bind_some]
    rw [first, second, third]

theorem decode?_encode (bytes : Bytes) : decode? (encode bytes) = some bytes := by
  rw [decode?, encode, String.toList_ofList, decodeChars?_encodeChars]

theorem letter_of_value? {c : Char} {n : Nat} (read : value? c = some n) :
    n < 64 ∧ letter n = c := by
  cases ascii : Text.isAscii c with
  | true =>
    have each := Text.ascii_forall
      (p := fun c => (value? c).all fun n => decide (n < 64) && letter n == c)
      (by decide +kernel) ascii
    simpa [read] using each
  | false =>
    have large : 0x80 ≤ c.toNat := by simpa [Text.isAscii] using ascii
    have other (sign : Char) (small : Text.isAscii sign = true) : c ≠ sign := by
      rintro rfl
      exact absurd (small.symm.trans ascii) (by decide)
    have none : value? c = none := by
      unfold value?
      dsimp only
      rw [if_neg (by omega), if_neg (by omega), if_neg (by omega), if_neg (other '+' (by decide)),
        if_neg (other '/' (by decide))]
    rw [none] at read
    contradiction

theorem encodeChars_of_decodeLast? {a b c : Char} {bytes : Bytes}
    (read : decodeLast? a b c = some bytes) : encodeChars bytes = [a, b, c, '='] := by
  unfold decodeLast? at read
  simp only [Option.bind_eq_bind, Option.bind_eq_some_iff] at read
  obtain ⟨x, first, y, second, octets⟩ := read
  obtain ⟨rangeX, rfl⟩ := letter_of_value? first
  obtain ⟨rangeY, rfl⟩ := letter_of_value? second
  have octet : (UInt8.ofNat (x * 4 + y / 16)).toNat = x * 4 + y / 16 :=
    UInt8.toNat_ofNat_of_lt' (by change _ < 256; omega)
  split at octets
  · rename_i padding
    split at octets
    · obtain rfl := Option.some.inj octets
      have high : (x * 4 + y / 16) / 4 = x := by omega
      have low : (x * 4 + y / 16) % 4 * 16 = y := by omega
      rw [encodeChars, octet, high, low, padding]
    · simp at octets
  · obtain ⟨z, third, last⟩ := Option.bind_eq_some_iff.1 octets
    obtain ⟨rangeZ, rfl⟩ := letter_of_value? third
    split at last
    · obtain rfl := Option.some.inj last
      have next : (UInt8.ofNat (y % 16 * 16 + z / 4)).toNat = y % 16 * 16 + z / 4 :=
        UInt8.toNat_ofNat_of_lt' (by change _ < 256; omega)
      have high : (x * 4 + y / 16) / 4 = x := by omega
      have middle : (x * 4 + y / 16) % 4 * 16 + (y % 16 * 16 + z / 4) / 16 = y := by omega
      have low : (y % 16 * 16 + z / 4) % 16 * 4 = z := by omega
      rw [encodeChars, octet, next, high, middle, low]
    · simp at last

theorem encodeChars_of_decodeChars? {cs : List Char} {bytes : Bytes}
    (read : decodeChars? cs = some bytes) : encodeChars bytes = cs := by
  fun_induction decodeChars? cs generalizing bytes with
  | case1 =>
    obtain rfl := Option.some.inj read
    rfl
  | case2 a b c d rest last =>
    obtain ⟨rfl, rfl⟩ := last
    exact encodeChars_of_decodeLast? read
  | case3 a b c d rest _ ih =>
    simp only [Option.bind_eq_bind, Option.bind_eq_some_iff] at read
    obtain ⟨w, first, x, second, y, third, z, fourth, tail, later, octets⟩ := read
    obtain ⟨rangeW, rfl⟩ := letter_of_value? first
    obtain ⟨rangeX, rfl⟩ := letter_of_value? second
    obtain ⟨rangeY, rfl⟩ := letter_of_value? third
    obtain ⟨rangeZ, rfl⟩ := letter_of_value? fourth
    obtain rfl := Option.some.inj octets
    -- Four numbers below 64 make three octets, from which the same four come back.
    have octet : (UInt8.ofNat (w * 4 + x / 16)).toNat = w * 4 + x / 16 :=
      UInt8.toNat_ofNat_of_lt' (by change _ < 256; omega)
    have next : (UInt8.ofNat (x % 16 * 16 + y / 4)).toNat = x % 16 * 16 + y / 4 :=
      UInt8.toNat_ofNat_of_lt' (by change _ < 256; omega)
    have last : (UInt8.ofNat (y % 4 * 64 + z)).toNat = y % 4 * 64 + z :=
      UInt8.toNat_ofNat_of_lt' (by change _ < 256; omega)
    have highest : (w * 4 + x / 16) / 4 = w := by omega
    have high : (w * 4 + x / 16) % 4 * 16 + (x % 16 * 16 + y / 4) / 16 = x := by omega
    have low : (x % 16 * 16 + y / 4) % 16 * 4 + (y % 4 * 64 + z) / 64 = y := by omega
    have lowest : (y % 4 * 64 + z) % 64 = z := by omega
    rw [encodeChars, octet, next, last, highest, high, low, lowest, ih later]
  | case4 => simp at read

/-- A text is read exactly if it is what is written for the octets. -/
theorem decode?_eq_some_iff (text : String) (bytes : Bytes) :
    decode? text = some bytes ↔ text = encode bytes := by
  constructor
  · intro read
    apply String.toList_injective
    rw [encode, String.toList_ofList]
    exact (encodeChars_of_decodeChars? read).symm
  · rintro rfl
    exact decode?_encode bytes

theorem encode_inj {bytes other : Bytes} : encode bytes = encode other ↔ bytes = other := by
  rw [← decode?_eq_some_iff, decode?_encode, Option.some.injEq]

theorem encode_eq_empty_iff (bytes : Bytes) : encode bytes = "" ↔ bytes = [] := by
  constructor
  · intro same
    have read := decode?_encode bytes
    rw [same] at read
    exact (Option.some.inj read).symm
  · intro same
    subst same
    rfl

theorem solid_letter (n : Nat) : Text.isBlank (letter n) = false ∧ letter n ≠ '"' := by
  by_cases small : n < 64
  · have each : ∀ n ∈ List.range 64, Text.isBlank (letter n) = false ∧ letter n ≠ '"' := by
      decide +kernel
    exact each n (List.mem_range.2 small)
  · have last : letter n = '/' := by
      unfold letter
      repeat rw [if_neg (by omega)]
    rw [last]
    decide

theorem mem_encode {c : Char} {bytes : Bytes} (member : c ∈ (encode bytes).toList) :
    c = '=' ∨ ∃ n, c = letter n := by
  rw [encode, String.toList_ofList] at member
  fun_induction encodeChars bytes with
  | case1 => simp at member
  | case2 a =>
    simp only [List.mem_cons, List.not_mem_nil, or_false] at member
    rcases member with first | second | padding | padding
    · exact .inr ⟨_, first⟩
    · exact .inr ⟨_, second⟩
    · exact .inl padding
    · exact .inl padding
  | case3 a b =>
    simp only [List.mem_cons, List.not_mem_nil, or_false] at member
    rcases member with first | second | third | padding
    · exact .inr ⟨_, first⟩
    · exact .inr ⟨_, second⟩
    · exact .inr ⟨_, third⟩
    · exact .inl padding
  | case4 a b c rest ih =>
    simp only [List.mem_cons] at member
    rcases member with first | second | third | fourth | later
    · exact .inr ⟨_, first⟩
    · exact .inr ⟨_, second⟩
    · exact .inr ⟨_, third⟩
    · exact .inr ⟨_, fourth⟩
    · exact ih later

theorem solid_of_mem_encode {c : Char} {bytes : Bytes} (member : c ∈ (encode bytes).toList) :
    Text.isBlank c = false ∧ c ≠ '"' := by
  rcases mem_encode member with rfl | ⟨n, rfl⟩
  · decide
  · exact solid_letter n

end SignedRequest.Base64
