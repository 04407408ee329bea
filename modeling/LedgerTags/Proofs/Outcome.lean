import LedgerTags.Error
import LedgerTags.Value.Basic
import Mathlib.Data.List.Forall2

/-!
# Successful computations

What it takes for a computation that can fail to succeed: each of its steps does, with a result from
which the next one goes on (`bind_eq_ok_iff`). A traversal succeeds exactly if it does at each
member (`mapM_eq_ok_iff`) and fails at the first one that does not (`mapM_eq_error`), and the texts
among the values of a list are all of them exactly if the list is one of texts
(`mapM_text?_eq_some_iff`).
-/

namespace LedgerTags

variable {ε α β γ : Type}

/-- A computation in two parts succeeds exactly if the first part does and the second does with its
result. -/
theorem bind_eq_ok_iff {x : Except ε α} {f : α → Except ε β} {b : β} :
    (x >>= f) = .ok b ↔ ∃ a, x = .ok a ∧ f a = .ok b := by
  cases x with
  | error e => simp [bind, Except.bind]
  | ok a => simp [bind, Except.bind]

/-- A computation in two parts fails as its first part does, or as its second does with the result
of the first. -/
theorem bind_eq_error_iff {x : Except ε α} {f : α → Except ε β} {e : ε} :
    (x >>= f) = .error e ↔ x = .error e ∨ ∃ a, x = .ok a ∧ f a = .error e := by
  cases x with
  | error e => simp [bind, Except.bind]
  | ok a => simp [bind, Except.bind]

@[simp] theorem ok_bind (a : α) (f : α → Except ε β) : (Except.ok a >>= f) = f a := rfl

@[simp] theorem error_bind (e : ε) (f : α → Except ε β) : (Except.error e >>= f) = .error e := rfl

@[simp] theorem pure_eq_ok (a : α) : (pure a : Except ε α) = .ok a := rfl

/-- A traversal succeeds exactly if it does at each member. -/
theorem mapM_eq_ok_iff {f : α → Except ε β} {xs : List α} {ys : List β} :
    xs.mapM f = .ok ys ↔ List.Forall₂ (fun x y => f x = .ok y) xs ys := by
  induction xs generalizing ys with
  | nil => cases ys <;> simp
  | cons x xs ih =>
    rw [List.mapM_cons, bind_eq_ok_iff]
    constructor
    · rintro ⟨y, hy, h⟩
      obtain ⟨zs, hzs, h⟩ := bind_eq_ok_iff.1 h
      cases h
      exact .cons hy (ih.1 hzs)
    · intro h
      cases h with
      | cons hy hys => exact ⟨_, hy, by rw [ih.2 hys]; rfl⟩

/-- A traversal that fails does so at the first member that fails. -/
theorem mapM_eq_error {f : α → Except ε β} {xs : List α} {e : ε} (h : xs.mapM f = .error e) :
    ∃ before x after, xs = before ++ x :: after ∧ (∀ y ∈ before, ∃ b, f y = .ok b) ∧
      f x = .error e := by
  induction xs with
  | nil => cases h
  | cons x xs ih =>
    rw [List.mapM_cons, bind_eq_error_iff] at h
    rcases h with hx | ⟨b, hb, h⟩
    · exact ⟨[], x, xs, rfl, fun _ hy => absurd hy List.not_mem_nil, hx⟩
    · rcases bind_eq_error_iff.1 h with hxs | ⟨bs, -, h⟩
      · obtain ⟨before, y, after, rfl, hbefore, hy⟩ := ih hxs
        exact ⟨x :: before, y, after, rfl, List.forall_mem_cons.2 ⟨⟨b, hb⟩, hbefore⟩, hy⟩
      · cases h

/-- Each result of a traversal is the result at a member. -/
theorem exists_of_mem_mapM {f : α → Except ε β} {xs : List α} {ys : List β} {y : β}
    (h : xs.mapM f = .ok ys) (hy : y ∈ ys) : ∃ x ∈ xs, f x = .ok y := by
  have hall := mapM_eq_ok_iff.1 h
  clear h
  induction hall with
  | nil => cases hy
  | @cons x _ xs _ hx _ ih =>
    rcases List.mem_cons.1 hy with rfl | hy
    · exact ⟨x, List.mem_cons_self, hx⟩
    · obtain ⟨x', hx', h⟩ := ih hy
      exact ⟨x', List.mem_cons_of_mem x hx', h⟩

/-- A traversal that succeeds does so at each member. -/
theorem exists_ok_of_mapM {f : α → Except ε β} {xs : List α} {ys : List β} {x : α}
    (h : xs.mapM f = .ok ys) (hx : x ∈ xs) : ∃ y, f x = .ok y := by
  have hall := mapM_eq_ok_iff.1 h
  clear h
  induction hall with
  | nil => cases hx
  | @cons x' y xs _ hy _ ih =>
    rcases List.mem_cons.1 hx with rfl | hx
    · exact ⟨y, hy⟩
    · exact ih hx

/-- The values of a list are texts exactly if the list is one of texts. -/
theorem mapM_text?_eq_some_iff {vs : List Value} {ts : List Text} :
    vs.mapM Value.text? = some ts ↔ vs = ts.map .text := by
  induction vs generalizing ts with
  | nil => cases ts <;> simp
  | cons v vs ih =>
    rw [List.mapM_cons, Option.bind_eq_bind, Option.bind_eq_some_iff]
    constructor
    · rintro ⟨t, ht, h⟩
      obtain ⟨us, hus, h⟩ := Option.bind_eq_some_iff.1 h
      obtain rfl : t :: us = ts := Option.some.inj h
      cases v with
      | text u => rw [← Option.some.inj ht, ih.1 hus, List.map_cons]
      | _ => cases ht
    · intro h
      cases ts with
      | nil => cases h
      | cons t ts =>
        obtain ⟨rfl, hvs⟩ := List.cons.inj h
        exact ⟨t, rfl, by rw [ih.2 hvs]; rfl⟩

end LedgerTags
