import LedgerTags.Text.Basic
import Mathlib.Data.List.TakeWhile
import Mathlib.Tactic.SplitIfs

/-!
# Texts without the white space around them

A text is white space, what is left when it is trimmed, and white space again
(`exists_eq_append_trim`). What begins and ends with other characters is left when the white space
around it is (`trim_surrounded`).
-/

namespace LedgerTags.Text

/-- A text without blanks at its ends is not trimmed. -/
theorem trim_eq_self {t : Text} (hfirst : ∀ c ∈ t.head?, c.isSpace = false)
    (hlast : ∀ c ∈ t.getLast?, c.isSpace = false) : t.trim = t := by
  have hdrop {u : Text} (h : ∀ c ∈ u.head?, c.isSpace = false) :
      u.dropWhile CodePoint.isSpace = u := by
    cases u with
    | nil => rfl
    | cons c u => exact List.dropWhile_cons_of_neg (by rw [h c rfl]; decide)
  rw [trim, trimLeft, hdrop hfirst, trimRight, hdrop, List.reverse_reverse]
  rwa [List.head?_reverse]

/-- Blanks in front are trimmed. -/
theorem trimLeft_append {s : Text} (hs : ∀ c ∈ s, c.isSpace = true) (t : Text) :
    trimLeft (s ++ t) = trimLeft t := List.dropWhile_append_of_pos hs

/-- Nothing is trimmed in front of a character that is no blank. -/
theorem trimLeft_cons {c : CodePoint} (hc : c.isSpace = false) (t : Text) :
    trimLeft (c :: t) = c :: t := List.dropWhile_cons_of_neg (by rw [hc]; decide)

/-- Blanks at the end are trimmed. -/
theorem trimRight_append {s : Text} (hs : ∀ c ∈ s, c.isSpace = true) (t : Text) :
    trimRight (t ++ s) = trimRight t := by
  rw [trimRight, List.reverse_append, List.dropWhile_append_of_pos, trimRight]
  exact fun c hc => hs c (List.mem_reverse.1 hc)

/-- Nothing is trimmed behind a character that is no blank. -/
theorem trimRight_append_singleton {c : CodePoint} (hc : c.isSpace = false) (t : Text) :
    trimRight (t ++ [c]) = t ++ [c] := by
  rw [trimRight, List.reverse_append, List.reverse_singleton, List.singleton_append,
    List.dropWhile_cons_of_neg (by rw [hc]; decide), List.reverse_cons, List.reverse_reverse]

/-- Trimming the end does not go past a character that is no blank. -/
theorem exists_trimRight_cons {c : CodePoint} (hc : c.isSpace = false) (t : Text) :
    ∃ u, trimRight (c :: t) = c :: u := by
  rw [trimRight, List.reverse_cons, List.dropWhile_append]
  split_ifs
  · exact ⟨[], by rw [List.dropWhile_cons_of_neg (by rw [hc]; decide)]; rfl⟩
  · exact ⟨_, List.reverse_concat⟩

/-- White space at the end does not matter to trimming. -/
theorem trim_append {s : Text} (hs : ∀ c ∈ s, c.isSpace = true) (t : Text) :
    (t ++ s).trim = t.trim := by
  rw [trim, trim, trimLeft, List.dropWhile_append]
  split_ifs with hempty
  · rw [trimLeft, List.isEmpty_iff.1 hempty, List.dropWhile_eq_nil_iff.2 hs]
  · exact trimRight_append hs _

/-- What has no white space at its ends is what trimming leaves of it and white space around it. -/
theorem trim_surrounded {front t back : Text} (hfront : ∀ c ∈ front, c.isSpace = true)
    (hback : ∀ c ∈ back, c.isSpace = true) (ht : t.trim = t) : (front ++ t ++ back).trim = t := by
  rw [trim_append hback, trim, trimLeft_append hfront]
  exact ht

/-- A text is what trimming leaves of it, between blanks. -/
theorem exists_eq_append_trim (t : Text) : ∃ front back, t = front ++ t.trim ++ back ∧
    (∀ c ∈ front, c.isSpace = true) ∧ ∀ c ∈ back, c.isSpace = true := by
  have hfront : t = t.takeWhile CodePoint.isSpace ++ trimLeft t :=
    List.takeWhile_append_dropWhile.symm
  have hback : trimLeft t =
      t.trim ++ ((trimLeft t).reverse.takeWhile CodePoint.isSpace).reverse := by
    rw [trim, trimRight, ← List.reverse_append, List.takeWhile_append_dropWhile,
      List.reverse_reverse]
  refine ⟨_, _, (hfront.trans (congrArg _ hback)).trans (List.append_assoc ..).symm,
    fun c hc => List.mem_takeWhile_imp hc, fun c hc => ?_⟩
  exact List.mem_takeWhile_imp (List.mem_reverse.1 hc)

/-- Trimming leaves nothing of a text exactly if it holds white space alone. -/
theorem isEmpty_trim_iff {t : Text} : t.trim.isEmpty = true ↔ ∀ c ∈ t, c.isSpace = true := by
  constructor
  · intro h
    obtain ⟨front, back, ht, hfront, hback⟩ := exists_eq_append_trim t
    rw [ht, List.isEmpty_iff.1 h, List.append_nil]
    exact List.forall_mem_append.2 ⟨hfront, hback⟩
  · intro h
    rw [trim, trimLeft, List.dropWhile_eq_nil_iff.2 h]
    rfl

end LedgerTags.Text
