import LedgerTags.Text.Order

/-!
# Tag sets

A tag set is an ascending list of texts without repeats, so two sets with the same members are
equal. The laws of the operations are about membership: `mem_insert`, `mem_union`, `mem_ofList`.
-/

namespace LedgerTags

/-- A finite set of tags. -/
structure TagSet where
  /-- The tags in ascending order. -/
  toList : List Text
  ascending : toList.Pairwise (fun a b => Text.lt a b = true)
deriving DecidableEq

namespace TagSet

/-- The set without members. -/
def empty : TagSet := ⟨[], .nil⟩

instance : EmptyCollection TagSet := ⟨empty⟩
instance : Inhabited TagSet := ⟨empty⟩
instance : Membership Text TagSet := ⟨fun s t => t ∈ s.toList⟩
instance (t : Text) (s : TagSet) : Decidable (t ∈ s) := inferInstanceAs (Decidable (t ∈ s.toList))

/-- Membership is that in the list of tags. -/
theorem mem_def {t : Text} {s : TagSet} : t ∈ s ↔ t ∈ s.toList := .rfl

@[simp] theorem not_mem_empty (t : Text) : ¬t ∈ (∅ : TagSet) := List.not_mem_nil

/-- Inserts a tag into an ascending list. -/
def insertInto (t : Text) : List Text → List Text
  | [] => [t]
  | a :: rest =>
    if Text.lt t a then t :: a :: rest
    else if t = a then a :: rest
    else a :: insertInto t rest

private theorem mem_insertInto {x t : Text} {l : List Text} :
    x ∈ insertInto t l ↔ x = t ∨ x ∈ l := by
  induction l with
  | nil => simp [insertInto]
  | cons a rest ih =>
    simp only [insertInto]
    split
    · simp
    · split
      · next h => subst h; simp
      · simp only [List.mem_cons, ih]
        constructor <;> rintro (h | h | h) <;> simp [h]

private theorem ascending_insertInto {t : Text} {l : List Text}
    (h : l.Pairwise fun a b => Text.lt a b = true) :
    (insertInto t l).Pairwise fun a b => Text.lt a b = true := by
  induction l with
  | nil => simp [insertInto]
  | cons a rest ih =>
    rw [List.pairwise_cons] at h
    simp only [insertInto]
    split
    · next hlt =>
      refine List.pairwise_cons.2 ⟨fun y hy => ?_, List.pairwise_cons.2 h⟩
      rcases List.mem_cons.1 hy with rfl | hy
      · exact hlt
      · exact Text.lt_trans hlt (h.1 y hy)
    · split
      · exact List.pairwise_cons.2 h
      · next hlt hne =>
        refine List.pairwise_cons.2 ⟨fun y hy => ?_, ih h.2⟩
        rcases mem_insertInto.1 hy with rfl | hy
        · exact Text.lt_of_not_lt hlt hne
        · exact h.1 y hy

/-- The set with one more member. -/
def insert (s : TagSet) (t : Text) : TagSet :=
  ⟨insertInto t s.toList, ascending_insertInto s.ascending⟩

@[simp] theorem mem_insert {x t : Text} {s : TagSet} : x ∈ s.insert t ↔ x = t ∨ x ∈ s :=
  mem_insertInto

/-- The set with further members. -/
def insertAll (s : TagSet) : List Text → TagSet
  | [] => s
  | t :: ts => (s.insert t).insertAll ts

@[simp] theorem mem_insertAll {x : Text} {s : TagSet} {ts : List Text} :
    x ∈ s.insertAll ts ↔ x ∈ ts ∨ x ∈ s := by
  induction ts generalizing s with
  | nil => simp [insertAll]
  | cons t ts ih =>
    rw [insertAll, ih, mem_insert, List.mem_cons]
    exact ⟨fun h => by rcases h with h | h | h <;> simp [h],
      fun h => by rcases h with (h | h) | h <;> simp [h]⟩

/-- The members of either set. -/
def union (s t : TagSet) : TagSet := s.insertAll t.toList

@[simp] theorem mem_union {x : Text} {s t : TagSet} : x ∈ s.union t ↔ x ∈ s ∨ x ∈ t := by
  rw [union, mem_insertAll, or_comm, mem_def (s := t)]

/-- The set of the members of a list. -/
def ofList (ts : List Text) : TagSet := empty.insertAll ts

@[simp] theorem mem_ofList {x : Text} {ts : List Text} : x ∈ ofList ts ↔ x ∈ ts := by
  rw [ofList, mem_insertAll]
  exact ⟨fun h => h.resolve_right (not_mem_empty x), .inl⟩

/-- Whether a set has no members. -/
def isEmpty (s : TagSet) : Bool := s.toList.isEmpty

/-- The number of members. -/
def size (s : TagSet) : Nat := s.toList.length

/-- Whether a tag is a member. -/
def contains (s : TagSet) (t : Text) : Bool := s.toList.contains t

/-- Whether two sets have a member in common. -/
def meets (s t : TagSet) : Bool := s.toList.any t.contains

/-- Whether all members are members of the other set. -/
def included (s t : TagSet) : Bool := s.toList.all t.contains

end TagSet

end LedgerTags
