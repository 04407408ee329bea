import LedgerTags.Proofs.DecimalText
import LedgerTags.Proofs.JsonDocument
import Mathlib.Data.List.Flatten
import Mathlib.Data.List.TakeWhile

/-!
# Lines that are written and read

A text of lines, each of them ended, is cut into the same lines again (`splitLines_ended`), as long
as no line holds a boundary of lines. The blank space that `trim` takes off the whole text is the
end of its last line alone (`trim_ended`).
-/

namespace LedgerTags.Text

/-- A line as it is written: visible characters at both ends, and ASCII between them. -/
structure IsLine (l : Text) : Prop where
  shown : Json.AllShown l
  first : ∃ c ∈ l.head?, c.isSpace = false
  last : ∃ c ∈ l.getLast?, c.isSpace = false

/-- The lines with their ends. -/
def ended (ls : List Text) : Text := ls.flatMap fun l => l ++ [CodePoint.ofChar '\n']

@[simp] private theorem ended_nil : ended [] = [] := rfl

/-- The first line stands before the others, with its own end. -/
theorem ended_cons (l : Text) (ls : List Text) :
    ended (l :: ls) = l ++ ('\n' : CodePoint) :: ended ls := by
  rw [ended, List.flatMap_cons, List.append_assoc]
  rfl

/-- Lines that follow others are ended by themselves. -/
theorem ended_append (ls ms : List Text) : ended (ls ++ ms) = ended ls ++ ended ms :=
  List.flatMap_append

/-- A single line is ended by one line feed. -/
theorem ended_singleton (l : Text) : ended [l] = l ++ [('\n' : CodePoint)] := ended_cons l []

/-- A line is not empty. -/
theorem IsLine.ne_nil {l : Text} (h : IsLine l) : l ≠ [] := by
  rintro rfl
  obtain ⟨c, hc, -⟩ := h.first
  cases hc

/-- There is nothing to trim around a line. -/
theorem IsLine.trim_eq {l : Text} (h : IsLine l) : l.trim = l := by
  obtain ⟨c, hc, hfirst⟩ := h.first
  obtain ⟨d, hd, hlast⟩ := h.last
  refine trim_eq_self (fun c' hc' => ?_) fun d' hd' => ?_
  · rw [← Option.mem_unique hc hc', hfirst]
  · rw [← Option.mem_unique hd hd', hlast]

private theorem isLineBoundary_of_isShown {c : CodePoint} (h : Json.IsShown c) :
    isLineBoundary c = false := by
  obtain ⟨h1, h2⟩ := h
  simp only [isLineBoundary, Bool.or_eq_false_iff, Bool.and_eq_false_iff, decide_eq_false_iff_not,
    beq_eq_false_iff_ne]
  omega

/-! ### Cutting -/

/-- Characters that are no boundaries join the line that is being read. -/
theorem splitLinesFrom_append {l : Text} (h : ∀ c ∈ l, isLineBoundary c = false)
    (line rest : Text) :
    splitLinesFrom line (l ++ rest) = splitLinesFrom (l.reverse ++ line) rest := by
  induction l generalizing line with
  | nil => rfl
  | cons c l ih =>
    obtain ⟨hc, hl⟩ := List.forall_mem_cons.1 h
    rw [List.cons_append, splitLinesFrom.eq_def]
    dsimp only
    rw [if_neg (by rw [hc]; decide), ih hl, List.reverse_cons, List.append_assoc]
    rfl

private theorem splitLinesFrom_newline (line rest : Text) :
    splitLinesFrom line (('\n' : CodePoint) :: rest) = line.reverse :: splitLinesFrom [] rest := by
  rw [splitLinesFrom.eq_def]
  dsimp only
  rw [if_pos (by decide)]
  cases rest with
  | nil => rfl
  | cons d rest => exact if_neg fun h => absurd h.1 (by decide)

/-- The lines are cut as they were ended, and so is a last line without an end. -/
theorem splitLines_ended {ls : List Text} (h : ∀ l ∈ ls, IsLine l) {l : Text} (hl : IsLine l) :
    splitLines (ended ls ++ l) = ls ++ [l] := by
  have hboundary {l : Text} (hl : IsLine l) : ∀ c ∈ l, isLineBoundary c = false :=
    fun c hc => isLineBoundary_of_isShown (hl.shown c hc)
  rw [splitLines]
  induction ls with
  | nil =>
    have hsplit := splitLinesFrom_append (hboundary hl) [] []
    rw [List.append_nil, List.append_nil] at hsplit
    have hne : l.reverse.isEmpty = false := by
      rw [List.isEmpty_reverse]
      exact List.isEmpty_eq_false_iff.2 hl.ne_nil
    rw [ended_nil, List.nil_append, List.nil_append, hsplit, splitLinesFrom, hne,
      List.reverse_reverse]
    rfl
  | cons m ls ih =>
    obtain ⟨hm, hls⟩ := List.forall_mem_cons.1 h
    rw [ended_cons, List.append_assoc, List.cons_append, splitLinesFrom_append (hboundary hm),
      List.append_nil, splitLinesFrom_newline, List.reverse_reverse, ih hls, List.cons_append]

/-! ### Trimming -/

/-- Of a trimmed text and a line feed, trimming takes away the line feed. -/
theorem trim_append_newline {t : Text} (hfirst : ∃ c ∈ t.head?, c.isSpace = false)
    (hlast : ∃ c ∈ t.getLast?, c.isSpace = false) : (t ++ [('\n' : CodePoint)]).trim = t := by
  obtain ⟨c, hc, hspace⟩ := hfirst
  obtain ⟨d, hd, hspace'⟩ := hlast
  obtain ⟨u, rfl⟩ := List.head?_eq_some_iff.1 hc
  obtain ⟨w, hw⟩ := List.getLast?_eq_some_iff.1 hd
  have hleft : trimLeft (c :: u ++ [('\n' : CodePoint)]) = c :: u ++ [('\n' : CodePoint)] :=
    List.dropWhile_cons_of_neg (by rw [hspace]; decide)
  rw [trim, hleft, trimRight, hw, List.reverse_append, List.reverse_append]
  show ((('\n' : CodePoint) :: d :: w.reverse).dropWhile CodePoint.isSpace).reverse = _
  rw [List.dropWhile_cons_of_pos (by decide), List.dropWhile_cons_of_neg (by rw [hspace']; decide),
    List.reverse_cons, List.reverse_reverse]

/-- Trimming takes off the end of the last line. -/
theorem trim_ended {ls : List Text} (h : ∀ l ∈ ls, IsLine l) {l : Text} (hl : IsLine l) :
    (ended (ls ++ [l])).trim = ended ls ++ l := by
  have hfirst : ∃ c ∈ (ended ls ++ l).head?, c.isSpace = false := by
    cases ls with
    | nil => exact hl.first
    | cons m ls =>
      obtain ⟨c, hc, hspace⟩ := (h m List.mem_cons_self).first
      obtain ⟨u, rfl⟩ := List.head?_eq_some_iff.1 hc
      rw [ended_cons]
      exact ⟨c, rfl, hspace⟩
  have hlast : ∃ c ∈ (ended ls ++ l).getLast?, c.isSpace = false := by
    rw [List.getLast?_append_of_ne_nil _ hl.ne_nil]
    exact hl.last
  rw [ended_append, ended_singleton, ← List.append_assoc, trim_append_newline hfirst hlast]

/-- No line of a text that is written ends with a carriage return. -/
theorem unifyNewlines_eq_self {t : Text} (h : ∀ c ∈ t, c.val ≠ 13) : unifyNewlines t = t := by
  induction t with
  | nil => rfl
  | cons c t ih =>
    obtain ⟨hc, ht⟩ := List.forall_mem_cons.1 h
    rw [unifyNewlines.eq_def]
    dsimp only
    rw [if_neg hc, ih ht]

end LedgerTags.Text
