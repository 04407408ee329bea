import LedgerTags.Proofs.Mapping

/-!
# Values that equal themselves

A number equals itself unless it is a NaN, and so does a value of a document in which no number is a
NaN (`same_self`). A transaction that was read equals itself if none of its fields holds a NaN
(`same_toValue`).
-/

namespace LedgerTags

namespace Decimal

private theorem compareMagnitude_self (c : ℕ) (e : ℤ) : compareMagnitude c e c e = .eq := by
  unfold compareMagnitude
  split_ifs
  · rfl
  · have hint : compare (adjusted c e) (adjusted c e) = .eq := compare_eq_iff_eq.2 rfl
    rw [hint]
    exact compare_eq_iff_eq.2 rfl

private theorem compare?_self {x : Decimal} (h : x.isNaN = false) : compare? x x = some .eq := by
  cases x with
  | finite s c e =>
    rw [compare?, compareFinite]
    cases s && c != 0 <;> simp only [compareMagnitude_self, Ordering.swap_eq]
  | infinity s => cases s <;> rfl
  | nan s signaling p => cases h

private theorem equal_self {x : Decimal} (h : x.isNaN = false) : equal x x = .ok true := by
  have hsignaling : x.isSignaling = false := by
    cases x with
    | nan s signaling p => cases h
    | _ => rfl
  rw [equal, hsignaling, sameValue, compare?_self h]
  rfl

end Decimal

namespace Value

mutual

/-- Whether a NaN occurs in a value. -/
def holdsNaN : Value → Bool
  | float x => x.toDecimal.isNaN
  | decimal x => x.isNaN
  | list xs | tuple xs | set xs | frozenSet xs => anyHoldsNaN xs
  | dict es => entriesHoldNaN es
  | record fs => fieldsHoldNaN fs
  | cyclic _ v => holdsNaN v
  | _ => false

/-- Helper of `holdsNaN` for several values. -/
def anyHoldsNaN : List Value → Bool
  | [] => false
  | x :: xs => holdsNaN x || anyHoldsNaN xs

/-- Helper of `holdsNaN` for entries. -/
def entriesHoldNaN : List (Value × Value) → Bool
  | [] => false
  | (k, v) :: es => holdsNaN k || holdsNaN v || entriesHoldNaN es

/-- Helper of `holdsNaN` for fields. -/
def fieldsHoldNaN : List (Text × Value) → Bool
  | [] => false
  | (_, v) :: fs => holdsNaN v || fieldsHoldNaN fs

end

open Json

private theorem sameNumber_self {x : Decimal} (h : x.isNaN = false) :
    sameNumber x x = .ok true := by
  rw [sameNumber, Decimal.equal_self h]
  rfl

private theorem same_self_of_number? {v : Value} {x : Decimal} (hv : v.number? = some x)
    (h : x.isNaN = false) : same v v = .ok true := by
  have hsame : same v v = sameNumber x x := by
    cases v with
    | bool b => cases hv; rw [same.eq_def]; rfl
    | int n => cases hv; rw [same.eq_def]; rfl
    | float y => cases hv; rw [same.eq_def]; rfl
    | decimal y => cases hv; rw [same.eq_def]; rfl
    | _ => cases hv
  rw [hsame, sameNumber_self h]

/-- A list whose members equal themselves equals itself. -/
theorem sameList_self {xs : List Value} (h : ∀ x ∈ xs, same x x = .ok true) :
    sameList xs xs = .ok true := by
  induction xs with
  | nil => rw [sameList]
  | cons x xs ih =>
    obtain ⟨hx, hxs⟩ := List.forall_mem_cons.1 h
    rw [sameList, hx, ok_bind, if_pos rfl, ih hxs]

/-- An entry is found under its key. -/
theorem findOutcome_members {e : Text × Value} {es : List (Text × Value)}
    (hkeys : (es.map (·.1)).Nodup) (h : e ∈ es) :
    findOutcome (fun l => same (.text e.1) l) (Json.members es) = .ok (some e.2) := by
  induction es with
  | nil => cases h
  | cons f es ih =>
    obtain ⟨hf, hes⟩ := List.nodup_cons.1 hkeys
    rw [members_cons, findOutcome, same, ok_bind]
    rcases List.mem_cons.1 h with rfl | h
    · rw [if_pos (decide_eq_true rfl)]
      rfl
    -- Another entry has another key, so the look-up goes on.
    · have hne : e.1 ≠ f.1 := by
        intro heq
        have hmem : e.1 ∈ es.map (·.1) := List.mem_map_of_mem h
        exact hf (by rwa [heq] at hmem)
      rw [if_neg (by rw [decide_eq_true_iff]; exact hne), ih hes h]

private theorem entriesAmong_members {es fs : List (Text × Value)} (hkeys : (fs.map (·.1)).Nodup)
    (hsub : ∀ e ∈ es, e ∈ fs) (h : ∀ e ∈ es, same e.2 e.2 = .ok true) :
    entriesAmong (Json.members es) (Json.members fs) = .ok true := by
  induction es with
  | nil => rw [members_nil, entriesAmong]
  | cons e es ih =>
    obtain ⟨he, hes⟩ := List.forall_mem_cons.1 h
    obtain ⟨he', hes'⟩ := List.forall_mem_cons.1 hsub
    rw [members_cons, entriesAmong, findOutcome_members hkeys he', ok_bind]
    dsimp only
    rw [he, ok_bind, if_pos rfl, ih hes' hes]

/-- A search that can test every member finds one that passes. -/
theorem anyOutcome_of_mem {f : Value → Outcome Bool} {x : Value} {xs : List Value}
    (hf : ∀ y ∈ xs, ∃ b, f y = .ok b) (hx : x ∈ xs) (h : f x = .ok true) :
    anyOutcome f xs = .ok true := by
  induction xs with
  | nil => cases hx
  | cons y xs ih =>
    obtain ⟨⟨b, hb⟩, hxs⟩ := List.forall_mem_cons.1 hf
    rw [anyOutcome, hb, ok_bind]
    cases b with
    | true => rfl
    -- A member that is not the same leaves the search to the others.
    | false =>
      rw [if_neg (by decide)]
      rcases List.mem_cons.1 hx with rfl | hx
      · rw [h] at hb
        cases hb
      · exact ih hxs hx

private theorem anyHoldsNaN_eq_false {xs : List Value} (h : anyHoldsNaN xs = false) :
    ∀ x ∈ xs, x.holdsNaN = false := by
  induction xs with
  | nil => exact fun x hx => by cases hx
  | cons x xs ih =>
    rw [anyHoldsNaN, Bool.or_eq_false_iff] at h
    exact List.forall_mem_cons.2 ⟨h.1, ih h.2⟩

private theorem entriesHoldNaN_eq_false {es : List (Text × Value)}
    (h : entriesHoldNaN (Json.members es) = false) : ∀ e ∈ es, e.2.holdsNaN = false := by
  induction es with
  | nil => exact fun e he => by cases he
  | cons e es ih =>
    rw [members_cons, entriesHoldNaN, Bool.or_eq_false_iff, Bool.or_eq_false_iff] at h
    exact List.forall_mem_cons.2 ⟨h.1.2, ih h.2⟩

/-- A value of a document in which no number is a NaN equals itself. -/
theorem same_self {v : Value} (h : IsDocument v) (hnan : v.holdsNaN = false) :
    same v v = .ok true := by
  induction h with
  | null => rw [same]
  | bool b => exact same_self_of_number? rfl rfl
  | @int n _ => exact same_self_of_number? rfl rfl
  | float x => exact same_self_of_number? rfl hnan
  | text _ =>
    rw [same]
    exact congrArg _ (decide_eq_true rfl)
  | list _ ih =>
    rw [same]
    exact sameList_self fun x hx => ih x hx (anyHoldsNaN_eq_false hnan x hx)
  | dict hkeys _ _ ih =>
    rw [same, if_pos rfl]
    exact entriesAmong_members hkeys (fun e he => he) fun e he =>
      ih e he (entriesHoldNaN_eq_false hnan e he)

private theorem allAmong_of_subset {ts us : List Text} (h : ∀ t ∈ ts, t ∈ us) :
    allAmong (ts.map .text) (us.map .text) = .ok true := by
  have htext (t u : Text) : same (.text t) (.text u) = .ok (decide (t = u)) := by rw [same]
  induction ts with
  | nil => rw [List.map_nil, allAmong]
  | cons t ts ih =>
    obtain ⟨ht, hts⟩ := List.forall_mem_cons.1 h
    have hany : anyOutcome (fun u => same (.text t) u) (us.map .text) = .ok true := by
      refine anyOutcome_of_mem (x := .text t) (fun v hv => ?_) (List.mem_map_of_mem ht) ?_
      · obtain ⟨u, -, rfl⟩ := List.mem_map.1 hv
        exact ⟨_, htext t u⟩
      · rw [htext, decide_eq_true rfl]
    rw [List.map_cons, allAmong, hany, ok_bind, if_pos rfl, ih hts]

private theorem sameFields_self {fs : List (Text × Value)} (h : ∀ f ∈ fs, same f.2 f.2 = .ok true) :
    sameFields fs fs = .ok true := by
  induction fs with
  | nil => rw [sameFields]
  | cons f fs ih =>
    obtain ⟨hf, hfs⟩ := List.forall_mem_cons.1 h
    rw [sameFields, hf, ok_bind, if_pos rfl, ih hfs]

private theorem fieldsHoldNaN_eq_false {fs : List (Text × Value)} (h : fieldsHoldNaN fs = false) :
    ∀ f ∈ fs, f.2.holdsNaN = false := by
  induction fs with
  | nil => exact fun f hf => by cases hf
  | cons f fs ih =>
    rw [fieldsHoldNaN, Bool.or_eq_false_iff] at h
    exact List.forall_mem_cons.2 ⟨h.1, ih h.2⟩

end Value

namespace Transaction

/-- A transaction without a NaN has none in any field. -/
theorem holdsNaN_get {t : Transaction} (h : t.toValue.holdsNaN = false) (f : Field) :
    (t.get f).holdsNaN = false := by
  have hall : f ∈ Field.all := by cases f <;> decide
  exact Value.fieldsHoldNaN_eq_false h _ (List.mem_map_of_mem hall)

private theorem same_dateValue (d : Option Date) :
    Value.same (dateValue d) (dateValue d) = .ok true := by
  cases d with
  | none => rw [dateValue, Value.same]
  | some d => rw [dateValue, Value.same, decide_eq_true rfl]

/-- A transaction that was read equals itself if no field holds a NaN. -/
theorem same_toValue {t : Transaction} (ht : IsRead t) (h : t.toValue.holdsNaN = false) :
    Value.same t.toValue t.toValue = .ok true := by
  obtain ⟨post, transaction, hpost, htransaction, -⟩ := ht.dates
  have hamount {v : Value} (hv : IsAmount v) (h : v.holdsNaN = false) :
      Value.same v v = .ok true := by
    obtain ⟨x, rfl, -⟩ := hv
    exact Value.same_self_of_number? rfl h
  have hfield (f : Field) : Value.same (t.get f) (t.get f) = .ok true := by
    have hnan := holdsNaN_get h f
    cases f with
    | bank => exact Value.same_self ht.bank.isDocument hnan
    | account => exact Value.same_self ht.account.isDocument hnan
    | postDate =>
      show Value.same t.postDate t.postDate = _
      rw [hpost, same_dateValue]
    | transactionDate =>
      show Value.same t.transactionDate t.transactionDate = _
      rw [htransaction, same_dateValue]
    | description => exact Value.same_self ht.description.isDocument hnan
    | name => exact Value.same_self ht.name.isDocument hnan
    | amount => exact hamount ht.amount hnan
    | balance => exact hamount ht.balance hnan
    | notes => exact Value.same_self ht.notes.isDocument hnan
    | tags =>
      show Value.same (tagsValue t.tags) (tagsValue t.tags) = _
      rw [tagsValue, Value.same, if_pos rfl]
      exact Value.allAmong_of_subset fun s hs => hs
  rw [toValue, Value.same]
  refine Value.sameFields_self fun e he => ?_
  obtain ⟨f, -, rfl⟩ := List.mem_map.1 he
  exact hfield f

end Transaction

end LedgerTags
