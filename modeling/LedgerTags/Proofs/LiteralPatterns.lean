import LedgerTags.Pattern.Matcher
import Mathlib.Data.List.Infix

/-!
# Patterns that spell a text

The steps of a pattern spell a text if they can take it, wherever it stands and whatever follows
(`Pattern.Spells`). Letters spell what passes their tests, and a part that may be left out spells
the text with it and the one without it. A search tries every place in turn, so a pattern that
spells a text occurs in every text that the spelled one is a part of (`Pattern.occursIn_of_spells`).
-/

namespace LedgerTags.Pattern

variable {p : Pattern} {steps body : List Step} {step : Step} {test : CharTest} {c : CodePoint}
  {t u : Text}

/-- A cursor behind a text that it stood before, with the rest of the text after it. -/
def Cursor.past (s : Cursor) (t rest : Text) : Cursor :=
  { s with before := t.reverse ++ s.before, after := rest, index := s.index + t.length }

private theorem Cursor.past_past (s : Cursor) (t u rest rest' : Text) :
    (s.past t rest').past u rest = s.past (t ++ u) rest := by
  simp [Cursor.past, Nat.add_assoc]

/-- The steps can take a text: where it stands before the rest, they succeed if what follows them
succeeds behind the text. -/
def Spells (steps : List Step) (t : Text) : Prop :=
  ∀ (s : Cursor) (rest : Text) (k : Continuation), s.after = t ++ rest →
    (k (s.past t rest)).isSome = true → (runAll steps s k).isSome = true

private theorem spells_nil : Spells [] [] := by
  intro s rest k hafter hk
  obtain rfl : s.after = rest := hafter
  exact hk

/-- Steps one after the other spell texts one after the other. -/
theorem Spells.append (hbody : Spells body t) (h : Spells steps u) :
    Spells (body ++ steps) (t ++ u) := by
  have hrun (steps' : List Step) (s : Cursor) (k : Continuation) :
      runAll (steps' ++ steps) s k = runAll steps' s fun s => runAll steps s k := by
    induction steps' generalizing s k with
    | nil => rfl
    | cons step steps' ih =>
      rw [List.cons_append, runAll, runAll]
      exact congrArg (step.run s) (funext fun s => ih s k)
  intro s rest k hafter hk
  rw [hrun]
  refine hbody s (u ++ rest) _ (by rw [hafter, List.append_assoc]) ?_
  refine h (s.past t (u ++ rest)) rest k rfl ?_
  rwa [Cursor.past_past]

/-- A letter spells a character that passes its test. -/
theorem spells_char (h : test.holds c = true) : Spells [.char test] [c] := by
  intro s rest k hafter hk
  have htake : s.take? test = some (s.past [c] rest) := by
    rw [Cursor.take?, hafter, List.singleton_append]
    dsimp only
    rw [if_pos h]
    rfl
  rwa [runAll, Step.run, htake]

/-- Letters spell the texts whose characters pass their tests, one by one. -/
theorem spells_chars {test : CodePoint → CharTest} (h : ∀ c ∈ t, (test c).holds c = true) :
    Spells (t.map fun c => .char (test c)) t := by
  induction t with
  | nil => exact spells_nil
  | cons c t ih =>
    obtain ⟨hc, ht⟩ := List.forall_mem_cons.1 h
    exact (spells_char hc).append (ih ht)

/-- How a part that may be left out is matched: with it if that leads on, and without it
otherwise. -/
theorem run_optional (body : List Step) (s : Cursor) (k : Continuation) :
    (Step.repeat .greedy 0 (some 1) body).run s k = (runAll body s k).or (k s) := by
  have hturns : turnLimit s 0 (some 1) = 1 := by simp [turnLimit]
  rw [Step.run, mandatory, hturns, optional, if_neg (by simp), choose, if_pos rfl]
  rfl

/-- A part that may be left out spells the empty text. -/
theorem spells_optional_nil (body : List Step) :
    Spells [.repeat .greedy 0 (some 1) body] [] := by
  intro s rest k hafter hk
  obtain rfl : s.after = rest := hafter
  rw [runAll, run_optional, Option.isSome_or]
  exact Bool.or_eq_true_iff.2 (.inr hk)

/-- A part that may be left out spells what it spells when it is there. -/
theorem Spells.optional (h : Spells body t) : Spells [.repeat .greedy 0 (some 1) body] t := by
  intro s rest k hafter hk
  rw [runAll, run_optional, Option.isSome_or]
  exact Bool.or_eq_true_iff.2 (.inl (h s rest k hafter hk))

/-- A pattern that spells a text occurs wherever the text does. -/
theorem occursIn_of_spells (h : Spells p.steps t) (hu : t <:+: u) : p.occursIn u = true := by
  obtain ⟨front, rest, rfl⟩ := hu
  rw [List.append_assoc, occursIn]
  have hat (before : Text) (index : ℕ) : p.matchesAt before (t ++ rest) index = true :=
    h { before, after := t ++ rest, index } rest some rfl rfl
  -- The search goes past the characters in front of the text, one by one.
  generalize ([] : Text) = before, 0 = index
  induction front generalizing before index with
  | nil =>
    rw [List.nil_append]
    have hhere := hat before index
    generalize t ++ rest = after at hhere
    cases after with
    | nil => exact hhere
    | cons c after => rw [occursFrom, hhere, Bool.true_or]
  | cons c front ih =>
    rw [List.cons_append, occursFrom, ih, Bool.or_true]

end LedgerTags.Pattern
