import SignedRequest.Algorithm.Custom
import SignedRequest.Proofs.Policy
import SignedRequest.Proofs.Signing.Steps
import SignedRequest.Proofs.Text.SmallLetters
import SignedRequest.Proofs.Text.Words

/-!
The family at the two ends. A sender takes the requirement of the family that its settings name; a
receiver takes that of the family it reads off the identifier of the algorithm, up to the first
hyphen and without the white space in front. Which names are read back is told exactly.
-/

namespace SignedRequest
open Text

namespace Text

variable {α : Type} {p : α → Bool} {a : α}

theorem takeWhile_append_cons (stop : p a = false) (front rest : List α) :
    (front ++ a :: rest).takeWhile p = front.takeWhile p := by
  induction front with
  | nil => simp [stop]
  | cons first later ih =>
    rw [List.cons_append, List.takeWhile_cons, List.takeWhile_cons, ih]

theorem dropWhile_append_cons (stop : p a = false) (front rest : List α) :
    (front ++ a :: rest).dropWhile p = front.dropWhile p ++ a :: rest := by
  induction front with
  | nil => simp [stop]
  | cons first later ih =>
    rw [List.cons_append, List.dropWhile_cons, List.dropWhile_cons, ih]
    split <;> rfl

theorem takeWhile_dropWhile_eq_self_iff {p : Char → Bool} {cs : List Char} :
    (cs.dropWhile isBlank).takeWhile p = cs ↔
      (∀ c ∈ cs, p c = true) ∧ ∀ c, cs.head? = some c → isBlank c = false := by
  constructor
  · intro same
    have kept : cs.length ≤ (cs.dropWhile isBlank).length := by
      calc
        cs.length = ((cs.dropWhile isBlank).takeWhile p).length := by rw [same]
        _ ≤ (cs.dropWhile isBlank).length := (List.takeWhile_prefix p).length_le
    have undropped := (List.dropWhile_suffix isBlank).eq_of_length_le kept
    rw [undropped] at same
    refine ⟨List.takeWhile_eq_self_iff.1 same, fun c front => ?_⟩
    rw [← undropped] at front
    have stopped := List.head?_dropWhile_not isBlank cs
    rw [front] at stopped
    exact stopped
  · intro found
    rw [dropWhile_eq_self found.2]
    exact List.takeWhile_eq_self_iff.2 found.1

end Text

theorem HashAlgorithm.solid_suffix (hash : HashAlgorithm) :
    ∀ c ∈ '-' :: hash.name.toList, isBlank c = false := by
  cases hash <;> exact forall_mem_of_all (by decide)

namespace SignatureAlgorithm

theorem toList_identifierOf (name : String) (hash : HashAlgorithm) :
    (identifierOf name hash).toList = (lower name).toList ++ '-' :: hash.name.toList := by
  simp [identifierOf, String.toList_append]

theorem trimChars_identifierOf (name : String) (hash : HashAlgorithm) :
    trimChars (identifierOf name hash).toList =
      (lower name).toList.dropWhile isBlank ++ '-' :: hash.name.toList := by
  rw [trimChars, toList_identifierOf, dropWhile_append_cons (by decide), trimEnd,
    dropWhile_eq_self, List.reverse_reverse]
  intro c last
  rw [List.head?_reverse, List.getLast?_append_of_ne_nil _ (List.cons_ne_nil _ _)] at last
  exact hash.solid_suffix c (List.mem_of_getLast? last)

end SignatureAlgorithm

theorem HeaderPolicy.familyOf_identifierOf (name : String) (hash : HashAlgorithm) :
    familyOf (some (SignatureAlgorithm.identifierOf name hash)) =
      String.ofList (((lower name).toList.dropWhile isBlank).takeWhile (· != '-')) := by
  have cut : (trimChars (SignatureAlgorithm.identifierOf name hash).toList).takeWhile (· != '-') =
      ((lower name).toList.dropWhile isBlank).takeWhile (· != '-') := by
    rw [SignatureAlgorithm.trimChars_identifierOf, takeWhile_append_cons (by decide)]
  have filled : (trim (SignatureAlgorithm.identifierOf name hash)).isEmpty = false := by
    rw [← Bool.not_eq_true, String.isEmpty_iff, trim, SignatureAlgorithm.trimChars_identifierOf]
    simp [String.ofList_eq_empty_iff]
  have small : ∀ c ∈ ((lower name).toList.dropWhile isBlank).takeWhile (· != '-'), IsSmall c :=
    fun c member => isSmall_of_mem_lower
      ((List.dropWhile_suffix _).mem ((List.takeWhile_prefix _).mem member))
  simp only [familyOf, Option.getD_some, filled, Bool.false_eq_true, if_false]
  rw [trim, String.toList_ofList, cut, lower_of_small (by simpa using small)]

/-- A name that is read back from an identifier: it has no hyphen and no white space in front. -/
structure SignatureAlgorithm.IsFamily (name : String) : Prop where
  whole : '-' ∉ name.toList
  front : ∀ c, name.toList.head? = some c → isBlank c = false

theorem SignatureAlgorithm.isFamily_lower_iff (name : String) :
    IsFamily (lower name) ↔ IsFamily name := by
  have hyphen : '-' ∈ (lower name).toList ↔ '-' ∈ name.toList :=
    ⟨fun member => mem_of_mem_lower member (by decide),
      fun member => mem_lower_of_fixed member (by decide) (by decide)⟩
  have heads (text : String) : (∀ c, text.toList.head? = some c → isBlank c = false) ↔
      text.toList.head?.map isBlank ≠ some true := by
    simp [Option.map_eq_some_iff]
  constructor
  · intro family
    have front := (heads _).1 family.front
    rw [isBlank_head_lower] at front
    exact ⟨mt hyphen.2 family.whole, (heads name).2 front⟩
  · intro family
    have front := (heads name).1 family.front
    rw [← isBlank_head_lower] at front
    exact ⟨mt hyphen.1 family.whole, (heads _).2 front⟩

theorem HeaderPolicy.familyOf_identifierOf_eq_iff (name : String) (hash : HashAlgorithm) :
    familyOf (some (SignatureAlgorithm.identifierOf name hash)) = lower name ↔
      SignatureAlgorithm.IsFamily name := by
  rw [familyOf_identifierOf, ← SignatureAlgorithm.isFamily_lower_iff]
  have texts (cs : List Char) : String.ofList cs = lower name ↔ cs = (lower name).toList := by
    rw [← String.toList_inj, String.toList_ofList]
  rw [texts, takeWhile_dropWhile_eq_self_iff]
  constructor
  · intro found
    obtain ⟨each, front⟩ := found
    exact ⟨fun member => by simpa using each '-' member, front⟩
  · intro family
    refine ⟨fun c member => ?_, family.front⟩
    rw [bne_iff_ne]
    intro hyphen
    subst hyphen
    exact family.whole member

theorem AlgorithmKind.name_ofName (text : String) : (ofName text).name = lower text := by
  simp only [ofName]
  split
  · rename_i rsa
    exact rsa.symm
  · split
    · rename_i hmac
      exact hmac.symm
    · split
      · rename_i ecdsa
        exact ecdsa.symm
      · exact lower_lower text

/-- The constructor of a family that is given by a signing function for each key material. The hash
function may be the one that is asked for or another one. -/
def CustomAlgorithm.constructor (name : String) (bound : HashAlgorithm → HashAlgorithm)
    (sign : Bytes → HashAlgorithm → Bytes → Except Error Bytes) : AlgorithmConstructor :=
  fun hash material => .ok (ofFunction name (bound hash) (sign material))

theorem AlgorithmRegistry.create_registered (registry : AlgorithmRegistry) (name : String)
    (make : AlgorithmConstructor) (hash : HashAlgorithm) (material : Bytes) :
    (registry.register name make).create (.ofName name) hash material = make hash material := by
  simp [create, get?_register, AlgorithmKind.name_ofName]

/-- A sender of a registered family looks up the name of the family in lower case, a receiver of its
signature what precedes the first hyphen of that name, without the white space in front. They look up
the same family exactly if the name has no hyphen and does not begin with white space. -/
theorem SigningSettings.familyOf_signature_iff {settings : SigningSettings}
    {registry : AlgorithmRegistry} {draws : Draws} {time : Instant} {request : Request}
    {signature : Signature} {name : String} {bound : HashAlgorithm → HashAlgorithm}
    {sign : Bytes → HashAlgorithm → Bytes → Except Error Bytes}
    (chosen : settings.algorithm = .ofName name) (explicit : settings.parameter = .explicit)
    (created : settings.createSignature
      (registry.register name (CustomAlgorithm.constructor name bound sign)) draws time request =
        .ok signature) :
    settings.policyFamily = lower name ∧
      HeaderPolicy.familyOf signature.algorithm =
        String.ofList (((lower name).toList.dropWhile isBlank).takeWhile (· != '-')) ∧
      (HeaderPolicy.familyOf signature.algorithm = settings.policyFamily ↔
        SignatureAlgorithm.IsFamily name) := by
  obtain ⟨expires, algorithm, octets, -, made, -, told⟩ :=
    RequestSigner.createSignature_eq_ok created
  rw [chosen, AlgorithmRegistry.create_registered] at made
  have named : algorithm.identifier =
      SignatureAlgorithm.identifierOf name (bound settings.hash) := by
    rw [← Except.ok.inj made]
    rfl
  have identified : signature.algorithm =
      some (SignatureAlgorithm.identifierOf name (bound settings.hash)) := by
    rw [told, ← named]
    simp [algorithmParameter, explicit]
  have looked : settings.policyFamily = lower name := by
    simp [policyFamily, explicit, chosen, AlgorithmKind.name_ofName]
  rw [identified, looked]
  exact ⟨rfl, HeaderPolicy.familyOf_identifierOf name _,
    HeaderPolicy.familyOf_identifierOf_eq_iff name _⟩

namespace Hyphenated

def settings : SigningSettings where
  keyId := ⟨"client"⟩
  secret := .ofText "s"
  algorithm := .ofName "my-alg"

def request : Request := .ofMethodAndTarget .get (.origin "/")

def registry : AlgorithmRegistry :=
  AlgorithmRegistry.empty.register "my-alg"
    (CustomAlgorithm.constructor "my-alg" id fun _ _ _ => .ok [0])

/-- The sender looks up `my-alg`, and a receiver of its signature does not. -/
theorem other_family :
    ∃ signature, settings.createSignature registry ⟨[], []⟩ .epoch request = .ok signature ∧
      HeaderPolicy.familyOf signature.algorithm ≠ settings.policyFamily := by
  have signs : (settings.createSignature registry ⟨[], []⟩ .epoch request).toOption.isSome =
      true := by decide +kernel
  obtain ⟨signature, told⟩ := Option.isSome_iff_exists.1 signs
  have created := (Outcome.toOption_eq_some_iff _ _).1 told
  have apart := (SigningSettings.familyOf_signature_iff rfl rfl created).2.2
  exact ⟨signature, created, fun same => (apart.1 same).whole (by decide)⟩

end Hyphenated
end SignedRequest
