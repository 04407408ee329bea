import LedgerTags.Proofs.Outcome
import LedgerTags.Sorting
import Mathlib.Data.List.Perm.Basic

/-!
# Merging two runs

However the elements of two runs are compared, a merge takes blocks from the front of the one and of
the other, each of which is settled by a single comparison: the last element of a block from the
first run is not above the element that comes next in the second one, and the last element of a
block from the second run is below the next one of the first (`Merges`). The searches find such
blocks, since they end between an element that is not above the pivot and one that is (`Cuts`), and
a merge from the end is one from the start in the mirror (`Merges.reverse`).

So merging two runs goes well with a list that they merge to, for every comparison
(`mergeRuns_merges`).
-/

namespace LedgerTags.Sorting

variable {ε α : Type} {lt : α → α → Except ε Bool} {pivot x y t n : α} {k : ℕ}
  {xs low high before after as bs ts ns out : List α}

/-! ### Searches -/

private theorem notBelow_eq_ok_iff {b : Bool} : notBelow lt x y = .ok b ↔ lt y x = .ok !b := by
  rw [notBelow]
  cases lt y x with
  | error e => simp
  | ok c => cases b <;> cases c <;> simp

/-- The place `k` cuts a list between an element that is not above the pivot and one that is. -/
def Cuts (lt : α → α → Except ε Bool) (pivot : α) (xs : List α) (k : ℕ) : Prop :=
  ∃ low high, xs = low ++ high ∧ k = low.length ∧ (∀ x ∈ low.getLast?, lt pivot x = .ok false) ∧
    ∀ x ∈ high.head?, lt pivot x = .ok true

namespace Cuts

private theorem nil : Cuts lt pivot [] 0 := ⟨[], [], rfl, rfl, by simp, by simp⟩

/-- A place before an element that is above the pivot. -/
theorem of_above (h : Cuts lt pivot before k) (hx : lt pivot x = .ok true) (after : List α) :
    Cuts lt pivot (before ++ x :: after) k := by
  obtain ⟨low, high, rfl, rfl, hlow, hhigh⟩ := h
  refine ⟨low, high ++ x :: after, List.append_assoc _ _ _, rfl, hlow, fun y hy => ?_⟩
  cases high with
  | nil =>
    obtain rfl : x = y := by simpa using hy
    exact hx
  | cons z high => exact hhigh y hy

/-- A place behind an element that is not above the pivot. -/
theorem of_not_above (h : Cuts lt pivot after k) (hx : lt pivot x = .ok false) (before : List α) :
    Cuts lt pivot (before ++ x :: after) (before.length + 1 + k) := by
  obtain ⟨low, high, rfl, rfl, hlow, hhigh⟩ := h
  refine ⟨before ++ x :: low, high, by simp, by simp; omega, fun y hy => ?_, hhigh⟩
  rcases List.eq_nil_or_concat low with rfl | ⟨low, z, rfl⟩
  · obtain rfl : x = y := by simpa using hy
    exact hx
  · refine hlow y ?_
    simpa [List.getLast?_append, List.getLast?_cons] using hy

/-- In the mirror the place is counted from the other end, and the comparison is the opposite. -/
theorem reverse {lt' : α → α → Except ε Bool} (h : Cuts lt pivot xs.reverse k)
    (hlt : ∀ x b, lt pivot x = .ok b → lt' pivot x = .ok !b) :
    Cuts lt' pivot xs (xs.length - k) := by
  obtain ⟨low, high, hxs, rfl, hlow, hhigh⟩ := h
  have hparts : xs = high.reverse ++ low.reverse := by rw [← List.reverse_append, ← hxs,
    List.reverse_reverse]
  refine ⟨high.reverse, low.reverse, hparts, by simp [hparts], fun x hx => ?_, fun x hx => ?_⟩
  · exact hlt x true (hhigh x (by simpa using hx))
  · exact hlt x false (hlow x (by simpa using hx))

end Cuts

/-- What is left of a list from one of its elements on. -/
theorem exists_of_drop_eq_cons {m : ℕ} (h : xs.drop m = x :: after) :
    ∃ before, xs = before ++ x :: after ∧ before.length = m ∧ xs.take m = before := by
  refine ⟨xs.take m, ?_, ?_, rfl⟩
  · rw [← h, List.take_append_drop]
  · have hlength := congrArg List.length h
    rw [List.length_drop, List.length_cons] at hlength
    rw [List.length_take]
    omega

/-- Halving finds a place. -/
theorem place_cuts {fuel : ℕ} (hfuel : xs.length ≤ fuel) (h : place lt pivot fuel xs = .ok k) :
    Cuts lt pivot xs k := by
  induction fuel generalizing xs k with
  | zero =>
    cases h
    obtain rfl := List.length_eq_zero_iff.1 (Nat.le_zero.1 hfuel)
    exact .nil
  | succ fuel ih =>
    rw [place] at h
    cases hdrop : xs.drop (xs.length / 2) with
    | nil =>
      rw [hdrop] at h
      cases h
      have hlength := List.drop_eq_nil_iff.1 hdrop
      obtain rfl := List.length_eq_zero_iff.1 (by omega : xs.length = 0)
      exact .nil
    | cons x after =>
      obtain ⟨before, hxs, hmiddle, htake⟩ := exists_of_drop_eq_cons hdrop
      rw [hdrop, htake, ← hmiddle] at h
      subst hxs
      rw [List.length_append, List.length_cons] at hfuel hmiddle
      obtain ⟨b, hb, h⟩ := bind_eq_ok_iff.1 h
      cases b with
      | true => exact (ih (by omega) h).of_above hb _
      | false =>
        obtain ⟨m, hm, h⟩ := bind_eq_ok_iff.1 h
        cases h
        exact (ih (by omega) hm).of_not_above hb _

/-- A search in leaps from the start finds a place. -/
theorem leap_cuts {fuel width : ℕ} (hfuel : xs.length ≤ fuel)
    (h : leap lt pivot fuel width xs = .ok k) : Cuts lt pivot xs k := by
  induction fuel generalizing width xs k with
  | zero =>
    cases h
    obtain rfl := List.length_eq_zero_iff.1 (Nat.le_zero.1 hfuel)
    exact .nil
  | succ fuel ih =>
    rw [leap] at h
    cases hdrop : xs.drop width with
    | nil =>
      rw [hdrop] at h
      exact place_cuts (Nat.le_refl _) h
    | cons x after =>
      obtain ⟨before, rfl, rfl, htake⟩ := exists_of_drop_eq_cons hdrop
      rw [hdrop, htake] at h
      obtain ⟨b, hb, h⟩ := bind_eq_ok_iff.1 h
      cases b with
      | true => exact (place_cuts (Nat.le_refl _) h).of_above hb _
      | false =>
        obtain ⟨m, hm, h⟩ := bind_eq_ok_iff.1 h
        cases h
        rw [List.length_append, List.length_cons] at hfuel
        exact (ih (by omega) hm).of_not_above hb _

/-- A search in leaps from the end finds a place. -/
theorem leapBack_cuts {fuel width : ℕ} (hfuel : xs.length ≤ fuel)
    (h : leapBack lt pivot fuel width xs = .ok k) : Cuts lt pivot xs.reverse k := by
  induction fuel generalizing width xs k with
  | zero =>
    cases h
    obtain rfl := List.length_eq_zero_iff.1 (Nat.le_zero.1 hfuel)
    exact .nil
  | succ fuel ih =>
    rw [leapBack] at h
    cases hdrop : xs.drop width with
    | nil =>
      rw [hdrop] at h
      exact place_cuts (Nat.le_of_eq (List.length_reverse ..)) h
    | cons x before =>
      obtain ⟨after, rfl, rfl, htake⟩ := exists_of_drop_eq_cons hdrop
      rw [hdrop, htake] at h
      rw [List.reverse_append, List.reverse_cons, List.append_assoc, List.singleton_append]
      obtain ⟨b, hb, h⟩ := bind_eq_ok_iff.1 h
      cases b with
      | true =>
        rw [List.length_append, List.length_cons] at hfuel
        exact (ih (by omega) h).of_above hb _
      | false =>
        obtain ⟨m, hm, h⟩ := bind_eq_ok_iff.1 h
        cases h
        have hplace := place_cuts (Nat.le_of_eq (List.length_reverse ..)) hm
        simpa using hplace.of_not_above hb before.reverse

private theorem gallop_cuts (h : gallop lt pivot xs = .ok k) : Cuts lt pivot xs k := by
  cases xs with
  | nil =>
    cases h
    exact .nil
  | cons x xs =>
    obtain ⟨b, hb, h⟩ := bind_eq_ok_iff.1 h
    cases b with
    | true =>
      cases h
      exact Cuts.nil.of_above hb xs
    | false =>
      obtain ⟨m, hm, h⟩ := bind_eq_ok_iff.1 h
      cases h
      simpa using (leap_cuts (Nat.le_refl _) hm).of_not_above hb []

private theorem gallopBack_cuts (h : gallopBack lt pivot xs = .ok k) :
    Cuts lt pivot xs.reverse k := by
  cases xs with
  | nil =>
    cases h
    exact .nil
  | cons x xs =>
    rw [List.reverse_cons]
    obtain ⟨b, hb, h⟩ := bind_eq_ok_iff.1 h
    cases b with
    | true => exact (leapBack_cuts (Nat.le_refl _) h).of_above hb _
    | false =>
      cases h
      simpa using Cuts.nil.of_not_above hb xs.reverse

/-! ### Merged lists -/

/-- The third list is merged from the first two in blocks: one from the first list goes before the
next element of the second one, since its last element is not above that one, and one from the
second list goes before the next element of the first one, since its last element is below that
one. -/
inductive Merges (lt : α → α → Except ε Bool) : List α → List α → List α → Prop
  | nil_left (ns : List α) : Merges lt [] ns ns
  | nil_right (ts : List α) : Merges lt ts [] ts
  | first (front : List α) {x n : α} {ts ns out : List α} (h : lt n x = .ok false) :
      Merges lt ts (n :: ns) out → Merges lt (front ++ x :: ts) (n :: ns) (front ++ x :: out)
  | second (front : List α) {y t : α} {ts ns out : List α} (h : lt y t = .ok true) :
      Merges lt (t :: ts) ns out → Merges lt (t :: ts) (front ++ y :: ns) (front ++ y :: out)

namespace Merges

private theorem first_block (hlow : ∀ x ∈ low.getLast?, lt n x = .ok false)
    (h : Merges lt ts (n :: ns) out) : Merges lt (low ++ ts) (n :: ns) (low ++ out) := by
  rcases List.eq_nil_or_concat low with rfl | ⟨front, x, rfl⟩
  · exact h
  · simpa using h.first front (hlow x (by simp))

private theorem second_block (hlow : ∀ y ∈ low.getLast?, lt y t = .ok true)
    (h : Merges lt (t :: ts) ns out) : Merges lt (t :: ts) (low ++ ns) (low ++ out) := by
  rcases List.eq_nil_or_concat low with rfl | ⟨front, y, rfl⟩
  · exact h
  · simpa using h.second front (hlow y (by simp))

/-- The next element of the second list goes first if it is below that of the first list, here given
last element first. -/
theorem cons_second (hts : ts ≠ []) (hy : ∀ t ∈ ts.getLast?, lt y t = .ok true)
    (h : Merges lt ts.reverse ns out) : Merges lt ts.reverse (y :: ns) (y :: out) := by
  obtain ⟨front, t, rfl⟩ := (List.eq_nil_or_concat ts).resolve_left hts
  rw [List.concat_eq_append, List.reverse_append, List.reverse_singleton,
    List.singleton_append] at h ⊢
  exact h.second [] (hy t (by simp))

/-- A block from the second list may come last. -/
theorem append_second (h : Merges lt ts ns out) (hy : ∀ t ∈ ts.getLast?, lt y t = .ok false)
    (back : List α) : Merges lt ts (ns ++ y :: back) (out ++ y :: back) := by
  induction h with
  | nil_left ns => exact .nil_left _
  | nil_right ts => simpa using first_block hy (.nil_left (y :: back))
  | @first front x n ts ns out hx _ ih =>
    rw [List.append_assoc, List.cons_append, List.cons_append]
    refine .first front hx (ih fun t ht => hy t ?_)
    cases ts with
    | nil => cases ht
    | cons u ts => simpa [List.getLast?_append] using ht
  | @second front y' t ts ns out hy' _ ih =>
    rw [List.append_assoc, List.cons_append, List.append_assoc, List.cons_append]
    exact .second front hy' (ih hy)

private theorem append_block (h : Merges lt ts ns out)
    (hhigh : ∀ y ∈ high.head?, ∀ t ∈ ts.getLast?, lt y t = .ok false) :
    Merges lt ts (ns ++ high) (out ++ high) := by
  cases high with
  | nil => simpa using h
  | cons y back => exact h.append_second (hhigh y rfl) back

/-- A block from the first list may come last. -/
theorem append_first (h : Merges lt ts ns out) (hx : ∀ n ∈ ns.getLast?, lt n x = .ok true)
    (back : List α) : Merges lt (ts ++ x :: back) ns (out ++ x :: back) := by
  induction h with
  | nil_left ns => simpa using second_block hx (.nil_right (x :: back))
  | nil_right ts => exact .nil_right _
  | @first front x' n ts ns out hx' _ ih =>
    rw [List.append_assoc, List.cons_append, List.append_assoc, List.cons_append]
    exact .first front hx' (ih hx)
  | @second front y t ts ns out hy _ ih =>
    rw [List.append_assoc, List.cons_append, List.cons_append]
    refine .second front hy (ih fun n hn => hx n ?_)
    cases ns with
    | nil => cases hn
    | cons u ns => simpa [List.getLast?_append] using hn

/-- A merge from the end is a merge from the start, in the mirror. -/
theorem reverse (h : Merges (flip lt) bs as out) : Merges lt as.reverse bs.reverse out.reverse := by
  induction h with
  | nil_left ns => exact .nil_right _
  | nil_right ts => exact .nil_left _
  | first front hx _ ih =>
    simpa using ih.append_second (by simpa [flip] using hx) front.reverse
  | second front hy _ ih =>
    simpa using ih.append_first (by simpa [flip] using hy) front.reverse

/-- A merge keeps the members of both runs. -/
theorem perm (h : Merges lt ts ns out) : out.Perm (ts ++ ns) := by
  induction h with
  | nil_left ns => exact .refl _
  | nil_right ts => rw [List.append_nil]
  | first front _ _ ih =>
    rw [List.append_assoc, List.cons_append]
    exact (ih.cons _).append_left front
  | @second front y t ts ns out _ _ ih =>
    have hblock : (front ++ y :: out).Perm (front ++ y :: (t :: ts ++ ns)) :=
      (ih.cons y).append_left front
    have hcomm : (front ++ [y] ++ t :: ts).Perm (t :: ts ++ (front ++ [y])) := List.perm_append_comm
    have hswap := hcomm.append_right ns
    simp only [List.append_assoc, List.cons_append, List.nil_append] at hblock hswap ⊢
    exact hblock.trans hswap

end Merges

/-! ### A turn of a merge -/

/-- What a turn has moved comes first in what the lists merge to. What it leaves are ends of the
lists, and less than the lists unless the merge is over. -/
structure Turn.Advances (lt : α → α → Except ε Bool) (ts ns : List α) (turn : Turn α) : Prop where
  merges : ∀ {out}, Merges lt turn.first turn.second out → Merges lt ts ns (turn.moved ++ out)
  first_suffix : turn.first <:+ ts
  second_suffix : turn.second <:+ ns
  shorter : turn.first.length ≤ 1 ∨ turn.first.length + turn.second.length < ts.length + ns.length

namespace Sides

variable {s : Sides ε α} {turn : Turn α} {mode mode' : Mode} {patience patience' : ℕ}

/-- The searches of both sides find places by their comparison. -/
structure Sound (s : Sides ε α) : Prop where
  cuts_first : ∀ {n ts k}, s.inFirst n ts = .ok k → Cuts s.less n ts k
  cuts_second : ∀ {t ns k}, s.inSecond t ns = .ok k → Cuts (notBelow s.less) t ns k

private theorem sound_forward (lt : α → α → Except ε Bool) : (forward lt).Sound where
  cuts_first := gallop_cuts
  cuts_second := gallop_cuts

private theorem sound_backward (lt : α → α → Except ε Bool) : (backward lt).Sound where
  cuts_first h := by
    obtain ⟨k, hk, h⟩ := bind_eq_ok_iff.1 h
    cases h
    exact (gallopBack_cuts hk).reverse fun x b hx => notBelow_eq_ok_iff.1 hx
  cuts_second h := by
    obtain ⟨k, hk, h⟩ := bind_eq_ok_iff.1 h
    cases h
    exact (gallopBack_cuts hk).reverse fun x b hx =>
      notBelow_eq_ok_iff.2 (hx.trans (by rw [Bool.not_not]))

private theorem searchFirst_advances (hs : s.Sound) (h : s.searchFirst ts n ns = .ok turn) :
    turn.Advances s.less ts (n :: ns) := by
  obtain ⟨k, hk, h⟩ := bind_eq_ok_iff.1 h
  obtain ⟨low, high, rfl, rfl, hlow, hhigh⟩ := hs.cuts_first hk
  rw [List.take_left, List.drop_left] at h
  dsimp only at h
  split at h
  · next hshort =>
    cases h
    exact ⟨fun hout => hout.first_block hlow, List.suffix_append low high, List.suffix_rfl,
      .inl hshort⟩
  · next hlong =>
    cases h
    cases high with
    | nil => exact absurd (Nat.zero_le 1) hlong
    | cons t high =>
      refine ⟨fun hout => ?_, List.suffix_append low (t :: high), List.suffix_cons n ns,
        .inr (by simp; omega)⟩
      rw [List.append_assoc]
      exact (hout.second [] (hhigh t rfl)).first_block hlow

private theorem searchSecond_advances (hs : s.Sound) (hns : ns ≠ [])
    (h : s.searchSecond t ts ns = .ok turn) : turn.Advances s.less (t :: ts) ns := by
  obtain ⟨k, hk, h⟩ := bind_eq_ok_iff.1 h
  obtain ⟨low, high, rfl, rfl, hlow, hhigh⟩ := hs.cuts_second hk
  have hlow' : ∀ y ∈ low.getLast?, s.less y t = .ok true :=
    fun y hy => notBelow_eq_ok_iff.1 (hlow y hy)
  rw [List.take_left, List.drop_left] at h
  dsimp only at h
  cases high with
  | nil =>
    cases h
    rw [List.append_nil] at hns
    have hlength : 0 < low.length := List.length_pos_iff.2 hns
    exact ⟨fun hout => hout.second_block hlow', List.suffix_rfl, List.suffix_append low [],
      .inr (by simpa using hlength)⟩
  | cons n high =>
    cases h
    refine ⟨fun hout => ?_, List.suffix_cons t ts, List.suffix_append low (n :: high),
      .inr (by simp; omega)⟩
    rw [List.append_assoc]
    exact (hout.first [] (notBelow_eq_ok_iff.1 (hhigh n rfl))).second_block hlow'

private theorem search_advances (hs : s.Sound) {inFirst : Bool}
    (h : s.search inFirst t ts n ns = .ok turn) : turn.Advances s.less (t :: ts) (n :: ns) := by
  cases inFirst with
  | true => exact searchFirst_advances hs h
  | false => exact searchSecond_advances hs (List.cons_ne_nil n ns) h

private theorem compare_advances {firsts seconds : ℕ}
    (h : s.compare firsts seconds patience t ts n ns = .ok (mode', patience', turn)) :
    turn.Advances s.less (t :: ts) (n :: ns) := by
  obtain ⟨b, hb, h⟩ := bind_eq_ok_iff.1 h
  cases b with
  | true =>
    cases h
    exact ⟨fun hout => hout.second [] hb, List.suffix_rfl, List.suffix_cons n ns,
      .inr (by simp)⟩
  | false =>
    cases h
    exact ⟨fun hout => hout.first [] hb, List.suffix_cons t ts, List.suffix_rfl,
      .inr (by simp)⟩

/-- Every turn advances the merge. -/
theorem turn_advances (hs : s.Sound)
    (h : s.turn mode patience t ts n ns = .ok (mode', patience', turn)) :
    turn.Advances s.less (t :: ts) (n :: ns) := by
  cases mode with
  | single firsts seconds => exact compare_advances h
  | leave => exact compare_advances h
  | _ =>
    obtain ⟨turn', hturn, h⟩ := bind_eq_ok_iff.1 h
    cases h
    exact search_advances hs hturn

/-! ### The turns of a merge -/

/-- The first list ends with the last one of all elements. -/
def LastInFirst (less : α → α → Except ε Bool) (ts ns : List α) : Prop :=
  ∀ t ∈ ts.getLast?, ∀ n ∈ ns.getLast?, less n t = .ok true

private theorem getLast?_of_suffix (h : as <:+ bs) (hx : x ∈ as.getLast?) : x ∈ bs.getLast? := by
  obtain ⟨front, rfl⟩ := h
  rw [List.getLast?_append, Option.mem_def.1 hx]
  rfl

private theorem LastInFirst.suffix {less : α → α → Except ε Bool} (h : LastInFirst less ts ns)
    (has : as <:+ ts) (hbs : bs <:+ ns) : LastInFirst less as bs :=
  fun t ht n hn => h t (getLast?_of_suffix has ht) n (getLast?_of_suffix hbs hn)

/-- A merge ends where one element of the first list is left at most, or none of the second one. -/
theorem merge_of_done (hdone : ts.length ≤ 1 ∨ ns = []) (fuel : ℕ) :
    s.merge fuel mode patience ts ns = .ok (ns ++ ts, patience) := by
  rcases ts with _ | ⟨t, _ | ⟨u, ts⟩⟩
  · rw [merge]
    simp
  · rw [merge]
    simp
  · obtain rfl : ns = [] := hdone.resolve_left (by simp)
    rw [merge]
    simp

/-- Then the rest of the second list goes before that of the first one. -/
theorem merges_of_done (hlast : LastInFirst s.less ts ns) (hdone : ts.length ≤ 1 ∨ ns = []) :
    Merges s.less ts ns (ns ++ ts) := by
  rcases ts with _ | ⟨t, _ | ⟨u, ts⟩⟩
  · simpa using Merges.nil_left ns
  · simpa using (Merges.nil_right [t]).second_block fun n hn => hlast t rfl n hn
  · obtain rfl : ns = [] := hdone.resolve_left (by simp)
    exact .nil_right _

/-- The turns of a merge end with a list that the two lists merge to. -/
theorem merge_merges (hs : s.Sound) {fuel : ℕ} {p : List α × ℕ}
    (hfuel : ts.length ≤ 1 ∨ ts.length + ns.length ≤ fuel) (hlast : LastInFirst s.less ts ns)
    (h : s.merge fuel mode patience ts ns = .ok p) : Merges s.less ts ns p.1 := by
  induction fuel generalizing mode patience ts ns p with
  | zero =>
    have hdone : ts.length ≤ 1 ∨ ns = [] := .inl (by omega)
    rw [merge_of_done hdone] at h
    cases h
    exact merges_of_done hlast hdone
  | succ fuel ih =>
    by_cases hdone : ts.length ≤ 1 ∨ ns = []
    · rw [merge_of_done hdone] at h
      cases h
      exact merges_of_done hlast hdone
    · obtain ⟨hlong, hne⟩ := not_or.1 hdone
      obtain ⟨n, ns, rfl⟩ := List.exists_cons_of_ne_nil hne
      rcases ts with _ | ⟨t, _ | ⟨u, ts⟩⟩
      · exact absurd (Nat.zero_le 1) hlong
      · exact absurd (Nat.le_refl 1) hlong
      rw [merge] at h
      obtain ⟨⟨mode', patience', turn⟩, hturn, h⟩ := bind_eq_ok_iff.1 h
      obtain ⟨⟨rest, patience''⟩, hrest, h⟩ := bind_eq_ok_iff.1 h
      cases h
      have hadvance := turn_advances hs hturn
      have hfuel' := hfuel.resolve_left hlong
      refine hadvance.merges (ih ?_ ?_ hrest)
      · exact hadvance.shorter.imp_right (by omega)
      · exact hlast.suffix hadvance.first_suffix hadvance.second_suffix

end Sides

/-! ### Whole runs -/

/-- Merging across two runs goes well with a list that they merge to, if the one ends with the
greatest element and the other begins with the least. -/
theorem mergeAcross_merges {patience : ℕ} {p : List α × ℕ}
    (hfirst : ∀ x ∈ (t :: before).getLast?, lt n x = .ok true)
    (hlast : ∀ x ∈ (n :: after).getLast?, lt x t = .ok true)
    (h : mergeAcross lt patience t before n after = .ok p) :
    Merges lt (t :: before).reverse (n :: after) p.1 := by
  rw [mergeAcross] at h
  dsimp only at h
  split at h
  · obtain ⟨⟨merged, patience'⟩, hmerged, h⟩ := bind_eq_ok_iff.1 h
    cases h
    have hends : Sides.LastInFirst lt (t :: before).reverse after := by
      intro u hu x hx
      obtain rfl : t = u := by simpa using hu
      exact hlast x (Sides.getLast?_of_suffix (List.suffix_cons n after) hx)
    have hmerges : Merges lt (t :: before).reverse after merged :=
      Sides.merge_merges (Sides.sound_forward lt) (.inr (by simp; omega)) hends hmerged
    exact hmerges.cons_second (List.cons_ne_nil t before) hfirst
  · obtain ⟨⟨merged, patience'⟩, hmerged, h⟩ := bind_eq_ok_iff.1 h
    cases h
    have hends : Sides.LastInFirst (flip lt) (n :: after).reverse before := by
      intro u hu x hx
      obtain rfl : n = u := by simpa using hu
      exact hfirst x (Sides.getLast?_of_suffix (List.suffix_cons t before) hx)
    have hmerges : Merges (flip lt) (n :: after).reverse before merged :=
      Sides.merge_merges (Sides.sound_backward lt) (.inr (by simp; omega)) hends hmerged
    simpa using (hmerges.cons_second (List.cons_ne_nil n after) hlast).reverse

/-- Merging two runs goes well with a list that they merge to. -/
theorem mergeRuns_merges {patience : ℕ} {p : List α × ℕ}
    (h : mergeRuns lt patience ts ns = .ok p) : Merges lt ts ns p.1 := by
  cases ns with
  | nil =>
    cases h
    exact .nil_right ts
  | cons n ns =>
    obtain ⟨i, hi, h⟩ := bind_eq_ok_iff.1 h
    obtain ⟨low, middle, rfl, rfl, hlow, hmiddle⟩ := gallop_cuts hi
    rw [List.drop_left, List.take_left] at h
    cases hback : middle.reverse with
    | nil =>
      rw [hback] at h
      cases h
      obtain rfl := List.reverse_eq_nil_iff.1 hback
      rw [List.append_nil]
      simpa using (Merges.nil_left (n :: ns)).first_block hlow
    | cons t before =>
      rw [hback] at h
      obtain rfl : middle = (t :: before).reverse := by rw [← hback, List.reverse_reverse]
      obtain ⟨j, hj, h⟩ := bind_eq_ok_iff.1 h
      have hcuts := gallopBack_cuts hj
      rw [List.reverse_reverse] at hcuts
      obtain ⟨front, high, hns, rfl, hfront, hhigh⟩ := hcuts
      rw [hns, List.take_left, List.drop_left] at h
      -- What stands behind the place in the second run is not below the last one of the first run.
      have hlast : ∀ y ∈ high.head?, ∀ x ∈ (t :: before).reverse.getLast?, lt y x = .ok false := by
        intro y hy x hx
        obtain rfl : t = x := by simpa using hx
        exact notBelow_eq_ok_iff.1 (hhigh y hy)
      cases front with
      | nil =>
        cases h
        obtain rfl : n :: ns = high := hns
        rw [List.append_assoc]
        exact ((Merges.nil_right (t :: before).reverse).append_block hlast).first_block hlow
      | cons n' after =>
        obtain ⟨rfl, -⟩ := List.cons.inj hns
        dsimp only at h
        obtain ⟨⟨merged, patience'⟩, hmerged, h⟩ := bind_eq_ok_iff.1 h
        cases h
        have hfirst : ∀ x ∈ (t :: before).getLast?, lt n x = .ok true := by
          intro x hx
          exact hmiddle x (by rwa [List.head?_reverse])
        have hmerges := mergeAcross_merges hfirst
          (fun x hx => notBelow_eq_ok_iff.1 (hfront x hx)) hmerged
        rw [hns, List.append_assoc]
        exact (hmerges.append_block hlast).first_block hlow

/-- An insertion merges the list with the new element. -/
theorem insert_merges (h : insert lt ts n = .ok out) : Merges lt ts [n] out := by
  obtain ⟨k, hk, h⟩ := bind_eq_ok_iff.1 h
  obtain ⟨low, high, rfl, rfl, hlow, hhigh⟩ := place_cuts (Nat.le_refl _) hk
  rw [List.take_left, List.drop_left] at h
  cases h
  refine Merges.first_block hlow ?_
  cases high with
  | nil => exact .nil_left [n]
  | cons t high => exact (Merges.nil_right (t :: high)).second [] (hhigh t rfl)

end LedgerTags.Sorting
