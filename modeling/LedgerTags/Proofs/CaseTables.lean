import LedgerTags.Text.Case
import Mathlib.Data.List.Basic
import Mathlib.Data.Nat.Basic
import Mathlib.Order.Basic
import Mathlib.Tactic.SplitIfs

/-!
# The tables of letter case

The mapping to lower case is given by a table of runs, and so are the properties that the tests of a
pattern ask for. `CaseRun.within` compares a whole progression of numbers with such a table, so that
the facts about all letters are checked run by run (`CaseRun.isLowering_lowerRuns`). What follows
for a number and its image is `CaseRun.IsLowerPair`: the image is its own lower case, has an upper
case, belongs to a word exactly if the number does, and neither is a digit or a blank.
-/

namespace LedgerTags

namespace Text.Table

/-! ### Runs -/

namespace CaseRun

variable {a b c n step : ℕ} {v : Bool} {r : CaseRun} {rs : List CaseRun}

/-- The greatest image of a run. -/
def lastImage (r : CaseRun) : ℕ := r.image + (r.last - r.first)

/-- A run maps one number to another. -/
structure Maps (r : CaseRun) (c n : ℕ) : Prop where
  first_le : r.first ≤ c
  le_last : c ≤ r.last
  mod_step : (c - r.first) % r.step = 0
  image : n = r.image + (c - r.first)

/-- The number that is found is the image of one of the runs. -/
theorem exists_maps (h : find? c rs = some n) : ∃ r ∈ rs, r.Maps c n := by
  induction rs with
  | nil => cases h
  | cons r rs ih =>
    rw [find?] at h
    split_ifs at h with hfirst hlast hstep
    · exact ⟨r, List.mem_cons_self, Nat.le_of_not_lt hfirst, hlast, hstep, (Option.some.inj h).symm⟩
    · obtain ⟨s, hs, hmaps⟩ := ih h
      exact ⟨s, List.mem_cons_of_mem _ hs, hmaps⟩
    · obtain ⟨s, hs, hmaps⟩ := ih h
      exact ⟨s, List.mem_cons_of_mem _ hs, hmaps⟩

/-- Whether all numbers from `a` to `b` in steps are sources of the runs, or none of them; undecided
if it is neither, or not seen at once. -/
def within (a b step : ℕ) : List CaseRun → Option Bool
  | [] => some false
  | r :: rs =>
    if r.last < a then within a b step rs
    else if b < r.first then some false
    else if a < r.first then none
    else if a = b ∨ step % r.step = 0 then
      if (a - r.first) % r.step = 0 then if b ≤ r.last then some true else none
      else within a b step rs
    else none

private theorem find?_of_within (hrs : ∀ r ∈ rs, r.first ≤ r.last) (h : within a b step rs = some v)
    (ha : a ≤ c) (hb : c ≤ b) (hstep : (c - a) % step = 0) : (find? c rs).isSome = v := by
  induction rs with
  | nil => cases h; rfl
  | cons r rs ih =>
    obtain ⟨hr, hrs⟩ := List.forall_mem_cons.1 hrs
    rw [within] at h
    rw [find?]
    split_ifs at h with habove hbelow hfirst hsteps hmod hlast
    · rw [if_neg (by omega), if_neg (by omega)]
      exact ih hrs h
    · cases h
      rw [if_pos (by omega)]
      rfl
    all_goals
      -- All numbers of the progression have the same place in the steps of the run.
      have hplace : (c - r.first) % r.step = (a - r.first) % r.step := by
        rcases hsteps with heq | hdvd
        · rw [show c = a by omega]
        · obtain ⟨k, hk⟩ := Nat.dvd_of_mod_eq_zero hstep
          obtain ⟨m, hm⟩ := Nat.dvd_of_mod_eq_zero hdvd
          have hsum : c - r.first = (a - r.first) + r.step * (m * k) := by
            rw [← Nat.mul_assoc, ← hm, ← hk]
            omega
          rw [hsum, Nat.add_mul_mod_self_left]
      rw [if_neg (by omega), hplace]
    · cases h
      rw [if_pos (by omega), if_pos hmod]
      rfl
    · rw [if_neg hmod, ite_self]
      exact ih hrs h

/-- A source of the runs between two bounds is found there. -/
theorem meets_of_find? {lo hi : ℕ} (h : (find? c rs).isSome = true) (hlo : lo ≤ c) (hhi : c ≤ hi) :
    meets lo hi rs = true := by
  obtain ⟨n, hn⟩ := Option.isSome_iff_exists.1 h
  obtain ⟨r, hr, hmaps⟩ := exists_maps hn
  refine List.any_eq_true.2 ⟨r, hr, ?_⟩
  have hfirst := hmaps.first_le
  have hlast := hmaps.le_last
  obtain ⟨k, hk⟩ := Nat.dvd_of_mod_eq_zero hmaps.mod_step
  split_ifs with hbelow
  · simp only [Bool.and_eq_true, decide_eq_true_eq]
    omega
  · -- The source is a number of steps away that reaches `lo`; the least such number is at most it.
    have hleast : (lo - r.first + (r.step - 1)) / r.step ≤ k := by
      rcases Nat.eq_zero_or_pos r.step with hzero | hpos
      · rw [hzero, Nat.div_zero]
        exact Nat.zero_le k
      · have hbound : lo - r.first ≤ r.step * k := by omega
        refine Nat.le_of_lt_succ ((Nat.div_lt_iff_lt_mul hpos).2 ?_)
        rw [Nat.succ_mul, Nat.mul_comm k]
        omega
    have hplace := Nat.mul_le_mul_right r.step hleast
    rw [Nat.mul_comm k] at hplace
    simp only [Bool.and_eq_true, decide_eq_true_eq]
    omega

end CaseRun

/-! ### Tables with ASCII -/

/-- A range as a run; its images do not count. -/
def rangeRun (p : ℕ × ℕ) : CaseRun := ⟨p.1, p.2, 1, 0⟩

/-- Ranges cover a number exactly if it is found in the runs of these ranges. -/
theorem covers_eq_find? (c : ℕ) (rs : List (ℕ × ℕ)) :
    covers c rs = (CaseRun.find? c (rs.map rangeRun)).isSome := by
  induction rs with
  | nil => rfl
  | cons p rs ih =>
    rw [List.map_cons, CaseRun.find?, covers, rangeRun]
    split_ifs with hfirst hlast hmod
    · rfl
    · rw [decide_eq_true hlast]
      rfl
    · exact absurd (Nat.mod_one _) hmod
    · rw [decide_eq_false hlast, Bool.false_or, ih]

/-- The runs of the mapping to lower case. -/
def lowerRuns : List CaseRun := ⟨65, 90, 1, 97⟩ :: lowercase

/-- The runs of the mapping to upper case where it is one code point. -/
def upperRuns : List CaseRun := ⟨97, 122, 1, 65⟩ :: uppercase

/-- The characters of words as runs. -/
def wordRuns : List CaseRun :=
  ((48, 57) :: (65, 90) :: (95, 95) :: (97, 122) :: alphanumeric).map rangeRun

/-- The blanks. -/
def spaceRanges : List (ℕ × ℕ) :=
  [(9, 13), (28, 32), (0x85, 0x85), (0xa0, 0xa0), (0x1680, 0x1680), (0x2000, 0x200a),
    (0x2028, 0x2029), (0x202f, 0x202f), (0x205f, 0x205f), (0x3000, 0x3000)]

/-- Decimal digits, blanks and the dotted capital I. -/
def otherRanges : List (ℕ × ℕ) :=
  decimalZero.map (fun z => (z, z + 9)) ++ spaceRanges ++ [(0x130, 0x130)]

private theorem first_le_last :
    ∀ rs ∈ [lowerRuns, upperRuns, wordRuns], ∀ r ∈ rs, r.first ≤ r.last := by
  decide +kernel

/-! ### Runs to lower case -/

namespace CaseRun

/-- No number from `a` to `b` is in one of the ranges. -/
def avoids (a b : ℕ) (rs : List (ℕ × ℕ)) : Bool := rs.all fun p => b < p.1 || p.2 < a

/-- Two decided answers that are the same. -/
def agree : Option Bool → Option Bool → Bool
  | some v, some w => v == w
  | _, _ => false

/-- What is checked of the runs to lower case. -/
def isLowering (r : CaseRun) : Bool :=
  r.lastImage < 0x110000 && within r.image r.lastImage r.step lowerRuns == some false &&
    (within r.image r.lastImage r.step upperRuns == some true ||
      (r.image == r.lastImage && (uppercaseLong.lookup r.image).isSome)) &&
    agree (within r.first r.last r.step wordRuns)
      (within r.image r.lastImage r.step wordRuns) &&
    avoids r.first r.last otherRanges && avoids r.image r.lastImage otherRanges

/-- The runs of one number each that a run consists of. -/
def singles (r : CaseRun) : List CaseRun :=
  (List.range ((r.last - r.first) / r.step + 1)).map fun k =>
    ⟨r.first + k * r.step, r.first + k * r.step, 1, r.image + k * r.step⟩

/-- Every run to lower case is one that passes the check as a whole or number by number. -/
theorem isLowering_lowerRuns :
    ∀ r ∈ lowerRuns, r.isLowering = true ∨ ∀ s ∈ r.singles, s.isLowering = true := by
  -- The runs are checked in parts, since checking them all at once takes much memory.
  rw [← List.take_append_drop 90 lowerRuns, List.forall_mem_append]
  constructor
  · rw [← List.take_append_drop 50 (lowerRuns.take 90), List.forall_mem_append]
    exact ⟨by decide +kernel, by decide +kernel⟩
  · rw [← List.take_append_drop 15 (lowerRuns.drop 90), List.forall_mem_append]
    refine ⟨by decide +kernel, ?_⟩
    rw [← List.take_append_drop 40 ((lowerRuns.drop 90).drop 15), List.forall_mem_append]
    exact ⟨by decide +kernel, by decide +kernel⟩

/-- What holds of a number and of its image in lower case. -/
structure IsLowerPair (c n : ℕ) : Prop where
  lt : n < 0x110000
  isLower : (find? n lowerRuns).isSome = false
  hasUpper : (find? n upperRuns).isSome = true ∨ (uppercaseLong.lookup n).isSome = true
  isWord : (find? c wordRuns).isSome = (find? n wordRuns).isSome
  source : ∀ p ∈ otherRanges, c < p.1 ∨ p.2 < c
  image : ∀ p ∈ otherRanges, n < p.1 ∨ p.2 < n

private theorem exists_of_agree {o o' : Option Bool} (h : agree o o' = true) :
    ∃ w, o = some w ∧ o' = some w := by
  cases o with
  | none => cases h
  | some w =>
    cases o' with
    | none => cases h
    | some w' => exact ⟨w, rfl, congrArg some (beq_iff_eq.1 h).symm⟩

/-- A run that was checked maps every number to its lower case. -/
theorem Maps.isLowerPair (hmaps : Maps r c n) (h : isLowering r = true) : IsLowerPair c n := by
  obtain ⟨hfirst, hlast, hstep, rfl⟩ := hmaps
  have hle : r.image + (c - r.first) ≤ r.lastImage := by
    rw [lastImage]
    omega
  have hsteps : (r.image + (c - r.first) - r.image) % r.step = 0 := by
    rwa [Nat.add_sub_cancel_left]
  have himage := Nat.le_add_right r.image (c - r.first)
  have hruns := first_le_last
  simp only [List.forall_mem_cons] at hruns
  obtain ⟨hlower, hupper, hword, -⟩ := hruns
  simp only [isLowering, Bool.and_eq_true, Bool.or_eq_true, beq_iff_eq, decide_eq_true_eq, avoids,
    List.all_eq_true] at h
  obtain ⟨⟨⟨⟨⟨hlt, hown⟩, hhas⟩, hagree⟩, hsource⟩, himages⟩ := h
  obtain ⟨w, hcw, hnw⟩ := exists_of_agree hagree
  refine ⟨hle.trans_lt hlt, find?_of_within hlower hown himage hle hsteps, ?_, ?_, fun p hp => ?_,
    fun p hp => ?_⟩
  · refine hhas.imp (fun h => find?_of_within hupper h himage hle hsteps) ?_
    rintro ⟨heq, hlong⟩
    rwa [show r.image + (c - r.first) = r.image by omega]
  · rw [find?_of_within hword hcw hfirst hlast hstep, find?_of_within hword hnw himage hle hsteps]
  · exact (hsource p hp).imp hlast.trans_lt fun h => h.trans_le hfirst
  · exact (himages p hp).imp hle.trans_lt fun h => h.trans_le himage

private theorem Maps.exists_single (hmaps : Maps r c n) : ∃ s ∈ singles r, Maps s c n := by
  obtain ⟨hfirst, hlast, hstep, rfl⟩ := hmaps
  have hk : (c - r.first) / r.step * r.step = c - r.first :=
    Nat.div_mul_cancel (Nat.dvd_of_mod_eq_zero hstep)
  have hcount : (c - r.first) / r.step < (r.last - r.first) / r.step + 1 :=
    Nat.lt_succ_of_le (Nat.div_le_div_right (Nat.sub_le_sub_right hlast _))
  refine ⟨_, List.mem_map.2 ⟨_, List.mem_range.2 hcount, rfl⟩, ?_⟩
  rw [hk, Nat.add_sub_cancel' hfirst]
  exact ⟨le_rfl, le_rfl, Nat.mod_one _, by rw [Nat.sub_self, Nat.add_zero]⟩

/-- The table maps every number to its lower case. -/
theorem isLowerPair_of_find? (h : find? c lowerRuns = some n) : IsLowerPair c n := by
  obtain ⟨r, hr, hmaps⟩ := exists_maps h
  rcases isLowering_lowerRuns r hr with hrun | hsingles
  · exact hmaps.isLowerPair hrun
  · obtain ⟨s, hs, hmaps⟩ := hmaps.exists_single
    exact hmaps.isLowerPair (hsingles s hs)

/-- The runs are in order: a number before the first of them has no image. -/
theorem find?_of_lt (h : c < r.first) : find? c (r :: rs) = none := by rw [find?, if_pos h]

/-- In a table with a run in front of it, the run counts for its own sources. -/
theorem find?_cons_of_step (hr : r.step = 1) (hle : r.first ≤ c) (hlast : c ≤ r.last) :
    find? c (r :: rs) = some (r.image + (c - r.first)) := by
  rw [find?, if_neg hle.not_gt, if_pos hlast, if_pos (by rw [hr, Nat.mod_one])]

/-- The first run says nothing about the numbers behind it. -/
theorem find?_cons_of_last_lt (h : r.last < c) (hr : r.first ≤ r.last) :
    find? c (r :: rs) = find? c rs := by
  rw [find?, if_neg (by omega), if_neg (by omega)]

end CaseRun

/-- No run to upper case keeps a number. -/
theorem image_ne : ∀ r ∈ uppercase, r.image ≠ r.first ∧ r.lastImage < 0x110000 := by
  decide +kernel

/-- No upper-case form of several code points begins with the code point itself. -/
theorem long_ne : ∀ e ∈ uppercaseLong, 128 ≤ e.1 ∧
    ((e.2.map CodePoint.ofNat).head?.all fun d => d.val ≠ e.1) = true ∧ e.2 ≠ [] := by
  decide +kernel

/-- A table holds the entries that are found in it. -/
theorem mem_of_lookup {n : ℕ} {ns : List ℕ} {es : List (ℕ × List ℕ)}
    (h : es.lookup n = some ns) : (n, ns) ∈ es := by
  obtain ⟨before, after, rfl, -⟩ := List.lookup_eq_some_iff.1 h
  exact List.mem_append_right before List.mem_cons_self

end Text.Table

end LedgerTags
