/-!
Finite tables. A table is the list of its entries, and a key has at most one of them that counts:
the first. Putting a value under a key takes the entries of that key away.
-/

namespace SignedRequest

structure Table (κ α : Type) where
  entries : List (κ × α)

namespace Table

variable {κ α : Type} [DecidableEq κ]

def empty : Table κ α := ⟨[]⟩

instance : Inhabited (Table κ α) := ⟨empty⟩

def get? (table : Table κ α) (key : κ) : Option α :=
  (table.entries.find? fun entry => entry.1 == key).map Prod.snd

def contains (table : Table κ α) (key : κ) : Bool := (table.get? key).isSome

def put (table : Table κ α) (key : κ) (value : α) : Table κ α :=
  ⟨(key, value) :: table.entries.filter fun entry => entry.1 != key⟩

def size (table : Table κ α) : Nat := table.entries.length

@[simp]
theorem get?_empty (key : κ) : (empty : Table κ α).get? key = none := rfl

theorem get?_put (table : Table κ α) (key other : κ) (value : α) :
    (table.put key value).get? other = if key = other then some value else table.get? other := by
  by_cases same : key = other
  · simp [get?, put, same]
  · simp only [get?, put, List.find?_cons, beq_eq_false_iff_ne.2 same, if_neg same,
      List.find?_filter]
    congr 2
    funext entry
    by_cases h : entry.1 = other
    · simp [h, Ne.symm same]
    · simp [h]

/-- One table is another with a value under a key, and the same under every other key. -/
structure Puts (before : Table κ α) (key : κ) (value : α) (after : Table κ α) : Prop where
  entry : after.get? key = some value
  others : ∀ other, other ≠ key → after.get? other = before.get? other

theorem puts_put (table : Table κ α) (key : κ) (value : α) :
    table.Puts key value (table.put key value) where
  entry := by rw [get?_put, if_pos rfl]
  others := by
    intro other different
    rw [get?_put, if_neg different.symm]

end Table
end SignedRequest
