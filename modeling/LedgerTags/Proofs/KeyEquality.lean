import LedgerTags.Proofs.Reflexivity
import LedgerTags.Proofs.Sameness

/-!
# Equality of keys

A value that can be a key and equals itself (`Value.IsKey`) can be compared with every other one
(`IsKey.exists_same`), and on such values equality is an equivalence: `IsKey.same_self`,
`IsKey.same_symm`, `IsKey.same_trans`.

Sets are equal if they have as many members and each member of one equals a member of the other.
That this is symmetric is a matter of counting: no two members of a set are equal, so what they
equal are different members of the other set, and hence all of them (`exists_of_injective`).
-/

namespace LedgerTags.Value

variable {u v w : Value} {xs ys zs : List Value} {a : Scalar}

/-- A value that can be a key and equals itself: one that is no collection, a tuple of such values,
or a frozen set of them, none of which equals another. Lists, changeable sets and mappings cannot be
keys, not even as members. -/
inductive IsKey : Value → Prop where
  | plain {v : Value} (hplain : v.collection? = none) (hhash : checkHashable v = .ok ())
      (hself : same v v = .ok true) : IsKey v
  | tuple {xs : List Value} (h : ∀ x ∈ xs, IsKey x) : IsKey (.tuple xs)
  | frozenSet {xs : List Value} (h : ∀ x ∈ xs, IsKey x)
      (hdistinct : xs.Pairwise fun x y => same x y ≠ .ok true) : IsKey (.frozenSet xs)

/-- Two values are the same key exactly if their comparison finds them equal. -/
theorem sameKey_iff : sameKey v w = true ↔ same v w = .ok true := by
  rw [sameKey]
  split
  · next h => simp [h]
  · next h => simp [h]

/-! ### Lists -/

private theorem sameList_iff :
    sameList xs ys = .ok true ↔ List.Forall₂ (fun x y => same x y = .ok true) xs ys := by
  induction xs generalizing ys with
  | nil => cases ys <;> simp [sameList]
  | cons x xs ih =>
    cases ys with
    | nil => simp [sameList]
    | cons y ys =>
      rw [sameList, List.forall₂_cons, ← ih]
      cases same x y with
      | error e => simp [bind, Except.bind]
      | ok b => cases b <;> simp [ok_bind]

private theorem exists_sameList (h : ∀ x ∈ xs, ∀ y ∈ ys, ∃ b, same x y = .ok b) :
    ∃ b, sameList xs ys = .ok b := by
  induction xs generalizing ys with
  | nil => cases ys <;> simp [sameList]
  | cons x xs ih =>
    cases ys with
    | nil => simp [sameList]
    | cons y ys =>
      obtain ⟨b, hb⟩ := h x List.mem_cons_self y List.mem_cons_self
      obtain ⟨c, hc⟩ := @ih ys fun x hx y hy =>
        h x (List.mem_cons_of_mem _ hx) y (List.mem_cons_of_mem _ hy)
      rw [sameList, hb, ok_bind, hc]
      cases b <;> simp

private theorem exists_anyOutcome {f : Value → Outcome Bool} (h : ∀ y ∈ ys, ∃ b, f y = .ok b) :
    ∃ b, anyOutcome f ys = .ok b := by
  induction ys with
  | nil => exact ⟨false, rfl⟩
  | cons y ys ih =>
    obtain ⟨⟨b, hb⟩, hys⟩ := List.forall_mem_cons.1 h
    obtain ⟨c, hc⟩ := ih hys
    rw [anyOutcome, hb, ok_bind, hc]
    cases b <;> simp

private theorem anyOutcome_iff {f : Value → Outcome Bool} (h : ∀ y ∈ ys, ∃ b, f y = .ok b) :
    anyOutcome f ys = .ok true ↔ ∃ y ∈ ys, f y = .ok true := by
  refine ⟨fun hany => ?_, fun ⟨y, hy, hf⟩ => anyOutcome_of_mem h hy hf⟩
  induction ys with
  | nil => cases hany
  | cons y ys ih =>
    obtain ⟨⟨b, hb⟩, hys⟩ := List.forall_mem_cons.1 h
    rw [anyOutcome, hb, ok_bind] at hany
    cases b with
    | true => exact ⟨y, List.mem_cons_self, hb⟩
    | false =>
      obtain ⟨z, hz, hf⟩ := ih hys hany
      exact ⟨z, List.mem_cons_of_mem y hz, hf⟩

/-- Comparing the members of two lists succeeds if every pair can be compared. -/
theorem exists_allAmong (h : ∀ x ∈ xs, ∀ y ∈ ys, ∃ b, same x y = .ok b) :
    ∃ b, allAmong xs ys = .ok b := by
  induction xs with
  | nil => exact ⟨true, by rw [allAmong]⟩
  | cons x xs ih =>
    obtain ⟨hx, hxs⟩ := List.forall_mem_cons.1 h
    obtain ⟨b, hb⟩ := exists_anyOutcome hx
    obtain ⟨c, hc⟩ := ih hxs
    rw [allAmong, hb, ok_bind, hc]
    cases b <;> simp

/-- Every value equals a member of a list. -/
theorem allAmong_iff (h : ∀ x ∈ xs, ∀ y ∈ ys, ∃ b, same x y = .ok b) :
    allAmong xs ys = .ok true ↔ ∀ x ∈ xs, ∃ y ∈ ys, same x y = .ok true := by
  induction xs with
  | nil => simp [allAmong]
  | cons x xs ih =>
    obtain ⟨hx, hxs⟩ := List.forall_mem_cons.1 h
    rw [allAmong, List.forall_mem_cons, ← ih hxs, ← anyOutcome_iff hx]
    obtain ⟨b, hb⟩ := exists_anyOutcome hx
    rw [hb, ok_bind]
    cases b <;> simp

/-! ### Kinds of keys -/

/-- A number that equals itself is no NaN. -/
theorem exists_quantity?_of_sameNumber {x : Decimal} (h : sameNumber x x = .ok true) :
    ∃ q, x.quantity? = some q := by
  cases x with
  | nan s signaling p => cases signaling <;> cases h
  | _ => exact ⟨_, rfl⟩

private theorem exists_scalar?_of_number? {x : Decimal} (hx : v.number? = some x)
    (hself : same v v = .ok true) : ∃ a, v.scalar? = some a := by
  have hnumber : sameNumber x x = .ok true ∧ v.scalar? = v.quantity?.map .number := by
    cases v with
    | bool _ | int _ | float _ | decimal _ =>
      cases hx
      rw [same.eq_def] at hself
      exact ⟨hself, rfl⟩
    | _ => cases hx
  obtain ⟨q, hq⟩ := exists_quantity?_of_sameNumber hnumber.1
  exact ⟨.number q, by rw [hnumber.2, quantity?_of_number? hx, hq]; rfl⟩

/-- A value that is no collection but a key stands for something, unless it can be applied. -/
theorem scalar_or_callable (hplain : v.collection? = none) (hhash : checkHashable v = .ok ())
    (hself : same v v = .ok true) : (∃ a, v.scalar? = some a) ∨ v = .callable := by
  cases v with
  | callable => exact .inr rfl
  | null | text _ | octets _ | date _ | dateTime _ | time _ => exact .inl ⟨_, rfl⟩
  | bool _ | int _ | float _ | decimal _ => exact .inl (exists_scalar?_of_number? rfl hself)
  | dict _ | record _ => simp [checkHashable] at hhash
  | cyclic _ _ => simp [same, number?] at hself
  | _ => cases hplain

/-- The keys are of four kinds. -/
theorem IsKey.kind (h : IsKey v) : (∃ a, v.scalar? = some a) ∨ v = .callable ∨
    (∃ xs, v = .tuple xs) ∨ ∃ xs, v = .frozenSet xs := by
  cases h with
  | plain hplain hhash hself => exact (scalar_or_callable hplain hhash hself).imp_right .inl
  | tuple _ => exact .inr (.inr (.inl ⟨_, rfl⟩))
  | frozenSet _ _ => exact .inr (.inr (.inr ⟨_, rfl⟩))

/-- A key that stands for nothing is different from those that stand for something. -/
theorem same_scalar_other (hv : v.scalar? = some a)
    (hw : w = .callable ∨ (∃ xs, w = .tuple xs) ∨ ∃ xs, w = .frozenSet xs) :
    same v w = .ok false ∧ same w v = .ok false := by
  rcases hw with rfl | ⟨xs, rfl⟩ | ⟨xs, rfl⟩
  all_goals
    cases v with
    | list _ | tuple _ | set _ | frozenSet _ | dict _ | record _ | callable | cyclic _ _ => cases hv
    | _ => constructor <;> rw [same.eq_def] <;> rfl

private theorem IsKey.of_tuple (h : IsKey (.tuple xs)) : ∀ x ∈ xs, IsKey x := by
  cases h with
  | plain hplain _ _ => cases hplain
  | tuple h => exact h

private theorem IsKey.of_frozenSet (h : IsKey (.frozenSet xs)) :
    (∀ x ∈ xs, IsKey x) ∧ xs.Pairwise fun x y => same x y ≠ .ok true := by
  cases h with
  | plain hplain _ _ => cases hplain
  | frozenSet h hdistinct => exact ⟨h, hdistinct⟩

/-- What equals a value that stands for something stands for the same. -/
theorem IsKey.same_scalar_iff (hv : v.scalar? = some a) (hw : IsKey w) :
    same v w = .ok true ↔ w.scalar? = some a := by
  rcases hw.kind with ⟨b, hb⟩ | hother
  · rw [same_of_scalar? hv hb, hb]
    simp [eq_comm]
  · have hnone : w.scalar? = none := by
      rcases hother with rfl | ⟨xs, rfl⟩ | ⟨xs, rfl⟩ <;> rfl
    simp [(same_scalar_other hv hother).1, hnone]

private theorem IsKey.same_callable_iff (hw : IsKey w) :
    same .callable w = .ok true ↔ w = .callable := by
  rcases hw.kind with ⟨b, hb⟩ | rfl | ⟨xs, rfl⟩ | ⟨xs, rfl⟩
  · have hne : w ≠ .callable := by
      rintro rfl
      cases hb
    simp [(same_scalar_other hb (.inl rfl)).2, hne]
  all_goals simp [same, number?]

private theorem IsKey.same_tuple_iff (hw : IsKey w) : same (.tuple xs) w = .ok true ↔
    ∃ ys, w = .tuple ys ∧ List.Forall₂ (fun x y => same x y = .ok true) xs ys := by
  rcases hw.kind with ⟨b, hb⟩ | rfl | ⟨ys, rfl⟩ | ⟨ys, rfl⟩
  · have hne (ys : List Value) : w ≠ .tuple ys := by
      rintro rfl
      cases hb
    simp [(same_scalar_other hb (.inr (.inl ⟨xs, rfl⟩))).2, hne]
  all_goals simp [same, number?, sameList_iff]

private theorem IsKey.same_frozenSet_iff (hw : IsKey w)
    (hexists : ∀ x ∈ xs, ∀ y, IsKey y → ∃ b, same x y = .ok b) :
    same (.frozenSet xs) w = .ok true ↔ ∃ ys, w = .frozenSet ys ∧ xs.length = ys.length ∧
      ∀ x ∈ xs, ∃ y ∈ ys, same x y = .ok true := by
  rcases hw.kind with ⟨b, hb⟩ | rfl | ⟨ys, rfl⟩ | ⟨ys, rfl⟩
  · have hne (ys : List Value) : w ≠ .frozenSet ys := by
      rintro rfl
      cases hb
    simp [(same_scalar_other hb (.inr (.inr ⟨xs, rfl⟩))).2, hne]
  · simp [same, number?]
  · simp [same, number?]
  · have hall := allAmong_iff fun x hx y hy => hexists x hx y (hw.of_frozenSet.1 y hy)
    rw [same]
    split
    · next hlength => simp [hall, hlength]
    · next hlength => simp [hlength]

/-! ### Equality of keys is an equivalence -/

/-- Keys can be compared. -/
theorem IsKey.exists_same (hv : IsKey v) (hw : IsKey w) : ∃ b, same v w = .ok b := by
  induction hv generalizing w with
  | plain hplain hhash hself =>
    rcases scalar_or_callable hplain hhash hself with ⟨a, ha⟩ | rfl
    · rcases hw.kind with ⟨b, hb⟩ | hother
      · exact ⟨_, same_of_scalar? ha hb⟩
      · exact ⟨_, (same_scalar_other ha hother).1⟩
    · rcases hw.kind with ⟨b, hb⟩ | rfl | ⟨ys, rfl⟩ | ⟨ys, rfl⟩
      · exact ⟨_, (same_scalar_other hb (.inl rfl)).2⟩
      all_goals simp [same, number?]
  | @tuple xs h ih =>
    rcases hw.kind with ⟨b, hb⟩ | rfl | ⟨ys, rfl⟩ | ⟨ys, rfl⟩
    · exact ⟨_, (same_scalar_other hb (.inr (.inl ⟨xs, rfl⟩))).2⟩
    · simp [same, number?]
    · rw [same]
      exact exists_sameList fun x hx y hy => ih x hx (hw.of_tuple y hy)
    · simp [same, number?]
  | @frozenSet xs h hdistinct ih =>
    rcases hw.kind with ⟨b, hb⟩ | rfl | ⟨ys, rfl⟩ | ⟨ys, rfl⟩
    · exact ⟨_, (same_scalar_other hb (.inr (.inr ⟨xs, rfl⟩))).2⟩
    · simp [same, number?]
    · simp [same, number?]
    · rw [same]
      split
      · exact exists_allAmong fun x hx y hy => ih x hx (hw.of_frozenSet.1 y hy)
      · exact ⟨false, rfl⟩

private theorem IsKey.exists_same_member (h : IsKey (.frozenSet xs)) :
    ∀ x ∈ xs, ∀ y, IsKey y → ∃ b, same x y = .ok b :=
  fun x hx _ => (h.of_frozenSet.1 x hx).exists_same

private theorem checkAllHashable_of_forall (h : ∀ x ∈ xs, checkHashable x = .ok ()) :
    checkAllHashable xs = .ok () := by
  induction xs with
  | nil => rw [checkAllHashable]
  | cons x xs ih =>
    obtain ⟨hx, hxs⟩ := List.forall_mem_cons.1 h
    rw [checkAllHashable, hx, ok_bind, ih hxs]

/-- Every key can be hashed. -/
theorem IsKey.checkHashable (h : IsKey v) : checkHashable v = .ok () := by
  induction h with
  | plain _ hhash _ => exact hhash
  | tuple _ ih =>
    rw [Value.checkHashable]
    exact checkAllHashable_of_forall ih
  | frozenSet _ _ _ => simp [Value.checkHashable]

/-- A key equals itself. -/
theorem IsKey.same_self (h : IsKey v) : same v v = .ok true := by
  induction h with
  | plain _ _ hself => exact hself
  | tuple h ih =>
    rw [same]
    exact sameList_self ih
  | frozenSet h _ ih =>
    rw [same, if_pos rfl, allAmong_iff fun x hx y hy => (h x hx).exists_same (h y hy)]
    exact fun x hx => ⟨x, hx, ih x hx⟩

/-- If each of some things is related to one of as many, and no two of them to the same one, then
each of the others is related to one of them. -/
theorem exists_of_injective {α β : Type} {R : α → β → Prop} {xs : List α} {ys : List β}
    (hlength : xs.length = ys.length) (hall : ∀ x ∈ xs, ∃ y ∈ ys, R x y)
    (hinjective : xs.Pairwise fun x x' => ∀ y ∈ ys, R x y → ¬R x' y) :
    ∀ y ∈ ys, ∃ x ∈ xs, R x y := by
  induction xs generalizing ys with
  | nil =>
    obtain rfl := List.length_eq_zero_iff.1 hlength.symm
    exact fun y hy => absurd hy List.not_mem_nil
  | cons x xs ih =>
    obtain ⟨⟨z, hz, hxz⟩, hxs⟩ := List.forall_mem_cons.1 hall
    obtain ⟨hx, hinjective⟩ := List.pairwise_cons.1 hinjective
    obtain ⟨before, after, rfl⟩ := List.append_of_mem hz
    -- The others are related to others.
    have hrest : ∀ y ∈ before ++ after, ∃ x ∈ xs, R x y := by
      have hlength' : xs.length = (before ++ after).length := by
        simp only [List.length_append, List.length_cons] at hlength ⊢
        omega
      refine ih hlength' (fun x' hx' => ?_) (hinjective.imp fun hne y hy => ?_)
      · obtain ⟨y, hy, hxy⟩ := hxs x' hx'
        have hne : y ≠ z := by
          rintro rfl
          exact hx x' hx' y hy hxz hxy
        exact ⟨y, by simpa [hne] using hy, hxy⟩
      · exact hne y (by
          rcases List.mem_append.1 hy with hy | hy <;> simp [hy])
    intro y hy
    by_cases hyz : y = z
    · exact ⟨x, List.mem_cons_self, hyz ▸ hxz⟩
    · obtain ⟨x', hx', hxy⟩ := hrest y (by simpa [hyz] using hy)
      exact ⟨x', List.mem_cons_of_mem x hx', hxy⟩

/-- What a key equals, equals it, and it equals what that equals. -/
structure Equates (u : Value) : Prop where
  symm : ∀ v, IsKey v → same u v = .ok true → same v u = .ok true
  trans : ∀ v w, IsKey v → IsKey w → same u v = .ok true → same v w = .ok true →
    same u w = .ok true

namespace Equates

/-- A key that is no collection equates keys. -/
theorem plain (hu : IsKey u) (hplain : u.collection? = none) (hhash : checkHashable u = .ok ()) :
    Equates u := by
  rcases scalar_or_callable hplain hhash hu.same_self with ⟨a, ha⟩ | rfl
  · constructor
    · intro v hv huv
      exact (hu.same_scalar_iff ((hv.same_scalar_iff ha).1 huv)).2 ha
    · intro v w hv hw huv hvw
      have hv' := (hv.same_scalar_iff ha).1 huv
      exact (hw.same_scalar_iff ha).2 ((hw.same_scalar_iff hv').1 hvw)
  · constructor
    · intro v hv huv
      obtain rfl := hv.same_callable_iff.1 huv
      exact huv
    · intro v w hv hw huv hvw
      obtain rfl := hv.same_callable_iff.1 huv
      exact hvw

private theorem tuple (hu : IsKey (.tuple xs)) (h : ∀ x ∈ xs, Equates x) : Equates (.tuple xs) where
  symm v hv huv := by
    obtain ⟨ys, rfl, hys⟩ := hv.same_tuple_iff.1 huv
    obtain ⟨hlength, hys⟩ := List.forall₂_iff_get.1 hys
    refine hu.same_tuple_iff.2 ⟨xs, rfl, List.forall₂_iff_get.2 ⟨hlength.symm, ?_⟩⟩
    intro i hi hi'
    exact (h _ (List.get_mem ..)).symm _ (hv.of_tuple _ (List.get_mem ..)) (hys i hi' hi)
  trans v w hv hw huv hvw := by
    obtain ⟨ys, rfl, hys⟩ := hv.same_tuple_iff.1 huv
    obtain ⟨zs, rfl, hzs⟩ := hw.same_tuple_iff.1 hvw
    obtain ⟨hlength, hys⟩ := List.forall₂_iff_get.1 hys
    obtain ⟨hlength', hzs⟩ := List.forall₂_iff_get.1 hzs
    refine hw.same_tuple_iff.2 ⟨zs, rfl, List.forall₂_iff_get.2 ⟨hlength.trans hlength', ?_⟩⟩
    intro i hi hi'
    have hi'' : i < ys.length := hlength ▸ hi
    exact (h _ (List.get_mem ..)).trans _ _ (hv.of_tuple _ (List.get_mem ..))
      (hw.of_tuple _ (List.get_mem ..)) (hys i hi hi'') (hzs i hi'' hi')

private theorem frozenSet (hu : IsKey (.frozenSet xs)) (h : ∀ x ∈ xs, Equates x) :
    Equates (.frozenSet xs) where
  symm v hv huv := by
    obtain ⟨ys, rfl, hlength, hys⟩ := (hv.same_frozenSet_iff hu.exists_same_member).1 huv
    obtain ⟨hxs, hdistinct⟩ := hu.of_frozenSet
    obtain ⟨hkeys, -⟩ := hv.of_frozenSet
    refine (hu.same_frozenSet_iff hv.exists_same_member).2 ⟨xs, rfl, hlength.symm, fun y hy => ?_⟩
    -- Members that equal the same one would equal each other.
    have hinjective : xs.Pairwise fun x x' =>
        ∀ y ∈ ys, same x y = .ok true → ¬same x' y = .ok true := by
      refine hdistinct.imp_of_mem fun {x x'} hx hx' hne y hy hxy hxy' => hne ?_
      have hback := (h x' hx').symm y (hkeys y hy) hxy'
      exact (h x hx).trans y x' (hkeys y hy) (hxs x' hx') hxy hback
    obtain ⟨x, hx, hxy⟩ := exists_of_injective hlength hys hinjective y hy
    exact ⟨x, hx, (h x hx).symm y (hkeys y hy) hxy⟩
  trans v w hv hw huv hvw := by
    obtain ⟨ys, rfl, hlength, hys⟩ := (hv.same_frozenSet_iff hu.exists_same_member).1 huv
    obtain ⟨zs, rfl, hlength', hzs⟩ := (hw.same_frozenSet_iff hv.exists_same_member).1 hvw
    refine (hw.same_frozenSet_iff hu.exists_same_member).2
      ⟨zs, rfl, hlength.trans hlength', fun x hx => ?_⟩
    obtain ⟨y, hy, hxy⟩ := hys x hx
    obtain ⟨z, hz, hyz⟩ := hzs y hy
    exact ⟨z, hz, (h x hx).trans y z (hv.of_frozenSet.1 y hy) (hw.of_frozenSet.1 z hz) hxy hyz⟩

end Equates

private theorem IsKey.equates (hu : IsKey u) : Equates u := by
  induction hu with
  | plain hplain hhash hself => exact .plain (.plain hplain hhash hself) hplain hhash
  | tuple h ih => exact .tuple (.tuple h) ih
  | frozenSet h hdistinct ih => exact .frozenSet (.frozenSet h hdistinct) ih

/-- Equality of keys is symmetric. -/
theorem IsKey.same_symm (hv : IsKey v) (hw : IsKey w) (h : same v w = .ok true) :
    same w v = .ok true := hv.equates.symm w hw h

/-- Equality of keys is transitive. -/
theorem IsKey.same_trans (hu : IsKey u) (hv : IsKey v) (hw : IsKey w) (huv : same u v = .ok true)
    (hvw : same v w = .ok true) : same u w = .ok true :=
  hu.equates.trans v w hv hw huv hvw

/-- Keys that are equal are equal to the same keys. -/
theorem IsKey.sameKey_congr (hu : IsKey u) (hv : IsKey v) (hw : IsKey w)
    (huv : sameKey u v = true) : sameKey u w = sameKey v w := by
  rw [sameKey_iff] at huv
  rw [Bool.eq_iff_iff, sameKey_iff, sameKey_iff]
  exact ⟨hv.same_trans hu hw (hu.same_symm hv huv), hu.same_trans hv hw huv⟩

/-- Two keys are the same in either order. -/
theorem IsKey.sameKey_comm (hv : IsKey v) (hw : IsKey w) : sameKey v w = sameKey w v := by
  rw [Bool.eq_iff_iff, sameKey_iff, sameKey_iff]
  exact ⟨hv.same_symm hw, hw.same_symm hv⟩

/-- Keys equal the same ones of the keys that are equal. -/
theorem IsKey.sameKey_congr_right (hu : IsKey u) (hv : IsKey v) (hw : IsKey w)
    (huv : sameKey u v = true) : sameKey w u = sameKey w v := by
  rw [hw.sameKey_comm hu, hw.sameKey_comm hv, hu.sameKey_congr hv hw huv]

/-- What stands for something is a key. -/
theorem IsKey.of_scalar? (h : v.scalar? = some a) : IsKey v := by
  refine .plain ?_ (checkHashable_of_scalar? h) (by rw [same_of_scalar? h h, decide_eq_true rfl])
  cases v with
  | list _ | tuple _ | set _ | frozenSet _ | cyclic _ _ => cases h
  | _ => rfl

/-- Texts are keys. -/
theorem isKey_text (t : Text) : IsKey (.text t) := .of_scalar? rfl

/-- Texts are the same key exactly if they are the same text. -/
theorem sameKey_text (s t : Text) : sameKey (.text s) (.text t) = decide (s = t) := by
  rw [sameKey, same]

end LedgerTags.Value
