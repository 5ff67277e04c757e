import CondComp.Identifier.Alphabetic
import CondComp.Identifier.Numeric

/-!
# Identifiers

An identifier starts with an alphabetic character or `_` and continues with alphabetic characters,
numeric characters and `_`.

* `isIdentifierStart`, `isIdentifierRest`, `isIdentifier`;
* `IdentifierSet`: a set of names that remembers the order in which they were first inserted.
-/

namespace CondComp

/-- `c` may start an identifier. -/
def isIdentifierStart (c : Char) : Bool := isAlphabetic c || c = '_'

/-- `c` may follow the first character of an identifier. -/
def isIdentifierRest (c : Char) : Bool := isAlphabetic c || isNumeric c || c = '_'

/-- The characters `cs` spell an identifier. -/
def spellsIdentifier : List Char → Bool
  | [] => false
  | c :: cs => isIdentifierStart c && cs.all isIdentifierRest

/-- The text `s` is an identifier. -/
def isIdentifier (s : String) : Bool := spellsIdentifier s.toList

/-! ## Sets of names in order of insertion -/

/-- A set of names, listed in the order in which they were first inserted. -/
structure IdentifierSet where
  toList : List String := []
  deriving DecidableEq, Repr

namespace IdentifierSet

/-- The set without names. -/
def empty : IdentifierSet := {}

instance : Membership String IdentifierSet := ⟨fun s x => x ∈ s.toList⟩

theorem mem_iff {s : IdentifierSet} {x : String} : x ∈ s ↔ x ∈ s.toList := Iff.rfl

instance (x : String) (s : IdentifierSet) : Decidable (x ∈ s) :=
  inferInstanceAs (Decidable (x ∈ s.toList))

/-- A new name goes to the end; a name already there stays where it is. -/
def insert (s : IdentifierSet) (x : String) : IdentifierSet :=
  if x ∈ s then s else ⟨s.toList ++ [x]⟩

theorem toList_insert (s : IdentifierSet) (x : String) :
    (s.insert x).toList = if x ∈ s then s.toList else s.toList ++ [x] := by
  unfold insert
  split <;> rfl

@[simp] theorem mem_insert {s : IdentifierSet} {x y : String} : y ∈ s.insert x ↔ y ∈ s ∨ y = x := by
  by_cases h : x ∈ s
  · simp only [insert, if_pos h]
    exact ⟨Or.inl, fun hy => hy.elim id fun e => e ▸ h⟩
  · rw [insert, if_neg h]
    simp [mem_iff]

theorem nodup_insert {s : IdentifierSet} (h : s.toList.Nodup) (x : String) :
    (s.insert x).toList.Nodup := by
  by_cases hx : x ∈ s
  · simpa only [insert, if_pos hx] using h
  · simp only [insert, if_neg hx]
    refine List.nodup_append.mpr ⟨h, by simp, ?_⟩
    intro a ha b hb e
    simp only [List.mem_singleton] at hb
    exact hx (mem_iff.mpr (hb ▸ e ▸ ha))

/-- Names that are inserted one after the other are listed once, in the order in which they first
came. -/
theorem toList_insert_of_eraseDups {s : IdentifierSet} {xs : List String}
    (h : s.toList = xs.eraseDups) (x : String) : (s.insert x).toList = (xs ++ [x]).eraseDups := by
  have hmem : x ∈ s ↔ x ∈ xs := by rw [mem_iff, h, List.mem_eraseDups]
  rw [toList_insert, List.eraseDups_append, h]
  by_cases hx : x ∈ xs
  · simp [hmem, hx, List.removeAll]
  · simp [hmem, hx, List.removeAll, List.eraseDups_cons]

end IdentifierSet

end CondComp
