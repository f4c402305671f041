import SignedRequest.Crypto.Rsa
import SignedRequest.Proofs.Text.Utf8

/-!
What a tagged value is made of: its content and what follows it are parts of the octets it was read
from, and a number takes at least as many octets as it has. A text can hold short values only, since
the octets that announce a longer one are those of no text.
-/

namespace SignedRequest

theorem Rsa.bitLength_mul_add (n : Nat) (b : UInt8) :
    bitLength (n * 256 + b.toNat) ≤ bitLength n + 8 := by
  have octet := b.toNat_lt
  unfold bitLength
  by_cases zero : n * 256 + b.toNat = 0
  · rw [if_pos zero]
    omega
  · have longer : (n * 256 + b.toNat).log2 < (if n = 0 then 0 else n.log2 + 1) + 8 := by
      have bound : n < 1 <<< (if n = 0 then 0 else n.log2 + 1) := by
        split
        · rename_i none
          rw [none]
          decide
        · rw [Nat.one_shiftLeft]
          exact Nat.lt_log2_self
      rw [Nat.one_shiftLeft] at bound
      rw [Nat.log2_lt zero, Nat.pow_add]
      omega
    rw [if_neg zero]
    omega

theorem Rsa.octetLength_toNat (bytes : Bytes) : octetLength (Bytes.toNat bytes) ≤ bytes.length := by
  have each (n : Nat) : bitLength (bytes.foldl (fun n b => n * 256 + b.toNat) n) ≤
      bitLength n + 8 * bytes.length := by
    induction bytes generalizing n with
    | nil => simp
    | cons b rest ih =>
      rw [List.foldl_cons, List.length_cons]
      have first := bitLength_mul_add n b
      have later := ih (n * 256 + b.toNat)
      omega
  have whole := each 0
  have zero : bitLength 0 = 0 := rfl
  rw [octetLength, Bytes.toNat]
  omega

namespace Der

variable {width size n : Nat} {tag : UInt8} {bytes content rest : Bytes}

theorem length?_cases (read : length? width bytes = some (size, rest)) :
    ∃ first later, bytes = first :: later ∧
      (first.toNat < 0x80 ∧ size = first.toNat ∧ rest = later ∨
        0x80 ≤ first.toNat ∧ first.toNat - 0x80 ≤ width ∧
          rest = later.drop (first.toNat - 0x80)) := by
  cases bytes with
  | nil => simp [length?] at read
  | cons first later =>
    refine ⟨first, later, rfl, ?_⟩
    unfold length? at read
    dsimp only at read
    by_cases small : first < 0x80
    · rw [if_pos small] at read
      obtain ⟨rfl, rfl⟩ := Prod.mk.inj (Option.some.inj read)
      exact .inl ⟨UInt8.lt_iff_toNat_lt.1 small, rfl, rfl⟩
    · rw [if_neg small, Option.ite_none_right_eq_some] at read
      obtain ⟨⟨-, narrow, -⟩, same⟩ := read
      obtain ⟨-, rfl⟩ := Prod.mk.inj (Option.some.inj same)
      have wide : ¬first.toNat < 0x80 := fun short => small (UInt8.lt_iff_toNat_lt.2 short)
      exact .inr ⟨Nat.not_lt.1 wide, narrow, rfl⟩

theorem suffix_of_length? (read : length? width bytes = some (size, rest)) : rest <:+ bytes := by
  obtain ⟨first, later, rfl, short | long⟩ := length?_cases read
  · rw [short.2.2]
    exact List.suffix_cons first later
  · rw [long.2.2]
    exact (List.drop_suffix _ later).trans (List.suffix_cons first later)

theorem value?_eq_some_iff :
    value? width bytes = some (tag, content, rest) ↔
      ∃ later size after, bytes = tag :: later ∧ length? width later = some (size, after) ∧
        size ≤ after.length ∧ content = after.take size ∧ rest = after.drop size := by
  cases bytes with
  | nil => simp [value?]
  | cons first bytes =>
    simp only [value?, Option.bind_eq_bind, Option.bind_eq_some_iff, Option.ite_none_right_eq_some,
      Option.some.injEq, Prod.mk.injEq]
    constructor
    · rintro ⟨⟨size, after⟩, sized, enough, rfl, rfl, rfl⟩
      exact ⟨bytes, size, after, rfl, sized, enough, rfl, rfl⟩
    · rintro ⟨_, size, after, parts, sized, enough, rfl, rfl⟩
      obtain ⟨rfl, rfl⟩ := List.cons.inj parts
      exact ⟨(size, after), sized, enough, rfl, rfl, rfl⟩

theorem infix_of_value? (read : value? width bytes = some (tag, content, rest)) :
    content <:+: bytes ∧ rest <:+: bytes := by
  obtain ⟨later, size, after, rfl, sized, -, rfl, rfl⟩ := value?_eq_some_iff.1 read
  have inside := ((suffix_of_length? sized).trans (List.suffix_cons tag later)).isInfix
  exact ⟨(List.take_prefix _ _).isInfix.trans inside, (List.drop_suffix _ _).isInfix.trans inside⟩

theorem tagged?_eq_some_iff :
    tagged? width tag bytes = some (content, rest) ↔
      value? width bytes = some (tag, content, rest) := by
  simp only [tagged?, Option.bind_eq_bind, Option.bind_eq_some_iff]
  constructor
  · rintro ⟨⟨found, inner, later⟩, read, same⟩
    split at same
    · rename_i matched
      obtain ⟨rfl, rfl⟩ := Prod.mk.inj (Option.some.inj same)
      exact matched ▸ read
    · simp at same
  · exact fun read => ⟨_, read, if_pos rfl⟩

theorem infix_of_tagged? (read : tagged? width tag bytes = some (content, rest)) :
    content <:+: bytes ∧ rest <:+: bytes :=
  infix_of_value? (tagged?_eq_some_iff.1 read)

theorem tagged?_of_only? (read : only? width tag bytes = some content) :
    tagged? width tag bytes = some (content, []) := by
  simp only [only?, Option.bind_eq_bind, Option.bind_eq_some_iff] at read
  obtain ⟨⟨inner, later⟩, tagged, alone⟩ := read
  split at alone
  · rename_i ended
    obtain rfl := Option.some.inj alone
    exact ended ▸ tagged
  · simp at alone

theorem toNat_of_natural? (read : natural? content = some n) : n = Bytes.toNat content := by
  unfold natural? at read
  split at read
  · simp at read
  · exact (Option.some.inj read).symm
  · split at read
    · simp at read
    · rw [← Option.some.inj read]
      simp [Bytes.toNat]
  · split at read
    · exact (Option.some.inj read).symm
    · simp at read

theorem octetLength_of_integer? (read : integer? width bytes = some (n, rest)) :
    Rsa.octetLength n ≤ bytes.length ∧ rest <:+: bytes := by
  simp only [integer?, Option.bind_eq_bind, Option.bind_eq_some_iff] at read
  obtain ⟨⟨content, later⟩, tagged, m, number, same⟩ := read
  obtain ⟨rfl, rfl⟩ := Prod.mk.inj (Option.some.inj same)
  obtain ⟨inside, after⟩ := infix_of_tagged? tagged
  rw [toNat_of_natural? number]
  exact ⟨Nat.le_trans (Rsa.octetLength_toNat content) inside.length_le, after⟩

/-- A sequence that is read from a text is a short one: an octet that announces more than 127 stands in
the middle of a character, and the tag before it is a character of its own. -/
theorem length_lt_of_text {text : String}
    (read : only? Pkcs8.lengthWidth sequenceTag (Bytes.ofText text) = some content) :
    content.length < 128 := by
  have value := tagged?_eq_some_iff.1 (tagged?_of_only? read)
  obtain ⟨_, size, after, parts, sized, -, rfl, -⟩ := value?_eq_some_iff.1 value
  obtain ⟨first, later, rfl, ⟨short, rfl, -⟩ | ⟨long, narrow, -⟩⟩ := length?_cases sized
  · exact Nat.lt_of_le_of_lt (List.length_take_le _ _) short
  · have widest : Pkcs8.lengthWidth = 2 := rfl
    have tail : Text.Utf8.isContinuation first = true :=
      (Text.Utf8.isContinuation_iff first).2 (by omega)
    have apart := Text.Utf8.not_pair_infix_ofText (a := sequenceTag) (by decide) tail text
    rw [parts] at apart
    exact absurd ⟨[], later, rfl⟩ apart

end Der

end SignedRequest
