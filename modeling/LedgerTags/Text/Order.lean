import LedgerTags.Text.CodePoint

/-!
# The order of texts

`Text.lt` is a strict linear order: `lt_irrefl`, `lt_trans` and `lt_or_eq_or_gt`.
-/

namespace LedgerTags.Text

/-- No text comes before itself. -/
theorem lt_irrefl (s : Text) : lt s s = false := by
  induction s with
  | nil => rfl
  | cons a s ih => simp [lt, ih]

/-- The order of texts is transitive. -/
theorem lt_trans {s t u : Text} (hst : lt s t = true) (htu : lt t u = true) : lt s u = true := by
  induction s generalizing t u with
  | nil =>
    cases t with
    | nil => simp [lt] at hst
    | cons b t => cases u with
      | nil => simp [lt] at htu
      | cons c u => rfl
  | cons a s ih =>
    cases t with
    | nil => simp [lt] at hst
    | cons b t => cases u with
      | nil => simp [lt] at htu
      | cons c u =>
        simp only [lt, Bool.or_eq_true, Bool.and_eq_true, decide_eq_true_eq, beq_iff_eq] at *
        rcases hst with h | ⟨h, hs⟩ <;> rcases htu with k | ⟨k, ks⟩
        · exact .inl (by omega)
        · exact .inl (by omega)
        · exact .inl (by omega)
        · exact .inr ⟨by omega, ih hs ks⟩

/-- Of two different texts one comes before the other. -/
theorem lt_or_eq_or_gt (s t : Text) : lt s t = true ∨ s = t ∨ lt t s = true := by
  induction s generalizing t with
  | nil => cases t <;> simp [lt]
  | cons a s ih =>
    cases t with
    | nil => simp [lt]
    | cons b t =>
      simp only [lt, Bool.or_eq_true, Bool.and_eq_true, decide_eq_true_eq, beq_iff_eq]
      rcases Nat.lt_trichotomy a.val b.val with h | h | h
      · exact .inl (.inl h)
      · obtain rfl := CodePoint.ext_val h
        rcases ih t with k | rfl | k
        · exact .inl (.inr ⟨rfl, k⟩)
        · exact .inr (.inl rfl)
        · exact .inr (.inr (.inr ⟨rfl, k⟩))
      · exact .inr (.inr (.inl h))

/-- Of two different texts, if the first does not come before the second, the second comes before
the first. -/
theorem lt_of_not_lt {s t : Text} (h : ¬lt s t = true) (hne : s ≠ t) : lt t s = true := by
  rcases lt_or_eq_or_gt s t with k | k | k
  · exact absurd k h
  · exact absurd k hne
  · exact k

end LedgerTags.Text
