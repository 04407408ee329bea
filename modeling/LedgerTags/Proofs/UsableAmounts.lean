import LedgerTags.Proofs.FieldKinds
import LedgerTags.Proofs.Overflow
import LedgerTags.Proofs.Thresholds
import LedgerTags.Query.Sort

/-!
# Which amounts can be used

A mapping is accepted with any amount that can be read, a NaN and a number above the highest place
included. Here is, for each operation on amounts, which of them it goes well with. Comparisons ask
for the value of a number, so they fail at a NaN; being a key of a table asks for no more than that
it is not a signaling one; and the size of an amount is rounded, so it has to lie below the place
from which there is no result. `usable_amounts` says this for all the operations.
-/

namespace LedgerTags

variable {x y : Decimal} {v w : Value} {q : Quantity}

/-! ### One amount -/

private theorem Decimal.isNaN_eq_false_iff : x.isNaN = false ↔ ∃ q, x.quantity? = some q := by
  cases x with
  | nan s g p =>
    refine iff_of_false (fun h => by cases h) ?_
    rintro ⟨q, h⟩
    cases h
  | finite s c e => exact iff_of_true rfl ⟨_, rfl⟩
  | infinity s => exact iff_of_true rfl ⟨_, rfl⟩

private theorem Decimal.order_of_isNaN_left (h : x.isNaN = true) (y : Decimal) :
    Decimal.order x y = .error .invalidOperation := by
  cases x with
  | nan s g p => rfl
  | _ => cases h

private theorem Decimal.order_of_isNaN_right (x : Decimal) (h : y.isNaN = true) :
    Decimal.order x y = .error .invalidOperation := by
  cases y with
  | nan s g p => cases x <;> rfl
  | _ => cases h

namespace Value

/-- Comparing a decimal with a number goes by their order. -/
theorem test_decimal_left (op : Comparison) (x : Decimal) (hw : w.number? = some y) :
    test op (.decimal x) w = testDecimals op x y := by
  have hdecimal : (Value.decimal x).isDecimal = true := rfl
  rw [test_of_number? op rfl hw, hdecimal, Bool.true_or, if_pos rfl]

private theorem test_decimal_right (op : Comparison) (hv : v.number? = some x) (y : Decimal) :
    test op v (.decimal y) = testDecimals op x y := by
  have hdecimal : (Value.decimal y).isDecimal = true := rfl
  rw [test_of_number? op hv rfl, hdecimal, Bool.or_true, if_pos rfl]

/-- A decimal can be compared with a number exactly if it is not a NaN. -/
theorem exists_test_left_iff (op : Comparison) (hw : w.quantity? = some q) :
    (∃ b, test op (.decimal x) w = .ok b) ↔ x.isNaN = false := by
  cases h : x.isNaN with
  | false =>
    obtain ⟨p, hp⟩ := Decimal.isNaN_eq_false_iff.1 h
    obtain ⟨b, hb, -⟩ := test_of_quantity? op (v := .decimal x) hp hw
    exact iff_of_true ⟨b, hb⟩ rfl
  | true =>
    obtain ⟨y, hy, -⟩ := exists_number? hw
    refine iff_of_false ?_ (by decide)
    rintro ⟨b, hb⟩
    rw [test_decimal_left op x hy, testDecimals, Decimal.order_of_isNaN_left h] at hb
    cases hb

private theorem exists_test_right_iff (op : Comparison) (hv : v.quantity? = some q) :
    (∃ b, test op v (.decimal x) = .ok b) ↔ x.isNaN = false := by
  cases h : x.isNaN with
  | false =>
    obtain ⟨p, hp⟩ := Decimal.isNaN_eq_false_iff.1 h
    obtain ⟨b, hb, -⟩ := test_of_quantity? op (w := .decimal x) hv hp
    exact iff_of_true ⟨b, hb⟩ rfl
  | true =>
    obtain ⟨y, hy, -⟩ := exists_number? hv
    refine iff_of_false ?_ (by decide)
    rintro ⟨b, hb⟩
    rw [test_decimal_right op hy x, testDecimals, Decimal.order_of_isNaN_right y h] at hb
    cases hb

private theorem checkHashable_decimal_iff :
    checkHashable (.decimal x) = .ok () ↔ x.isSignaling = false := by
  rw [checkHashable]
  cases x.isSignaling <;> simp

private theorem checkAllHashable_iff {vs : List Value} :
    checkAllHashable vs = .ok () ↔ ∀ v ∈ vs, checkHashable v = .ok () := by
  induction vs with
  | nil => exact iff_of_true (by rw [checkAllHashable]) fun _ hv => absurd hv List.not_mem_nil
  | cons v vs ih =>
    rw [checkAllHashable, bind_eq_ok_iff, List.forall_mem_cons, ← ih]
    constructor
    · rintro ⟨_, hv, hvs⟩
      exact ⟨hv, hvs⟩
    · rintro ⟨hv, hvs⟩
      exact ⟨(), hv, hvs⟩

end Value

/-! ### Filters -/

namespace Criterion

variable {t : Transaction} {c : Criterion}

/-- A word for amounts, or a range of finite numbers none of which has too many digits. -/
inductive AsksAmount : Value → Prop where
  | word {w : Text}
      (hw : Text.lower w.trim ∈ depositWords ∨ Text.lower w.trim ∈ withdrawalWords) :
    AsksAmount (.text w)
  | range {v lo hi : Value} {a b : ℚ} (hv : v.sequence? = some [lo, hi])
      (hlo : boundQuantity? lo = some (Quantity.ofRat a))
      (hhi : boundQuantity? hi = some (Quantity.ofRat b)) (hle : a ≤ b)
      (hlo' : lo.isDisplayable = true) (hhi' : hi.isDisplayable = true) : AsksAmount v

/-- A bound with a value is read as a decimal of this value. -/
theorem exists_toAmount (h : boundQuantity? v = some q) (hv : v.isDisplayable = true) :
    isBound v = true ∧ ∃ x, v.toAmount = .ok x ∧ x.quantity? = some q := by
  cases v with
  | int n =>
    have hn : Value.hasNumeral n = true := by rwa [Value.isDisplayable] at hv
    exact ⟨rfl, _, Transaction.toAmount_int hn, by rw [Decimal.quantity?_ofInt]; exact h⟩
  | decimal x => exact ⟨rfl, x, rfl, h⟩
  | float x =>
    obtain ⟨y, hy, hq⟩ := Option.bind_eq_some_iff.1 h
    have htext : (Value.float x).toText = .ok x.toText := rfl
    refine ⟨rfl, y, ?_, hq⟩
    rw [Value.toAmount.eq_def]
    dsimp only
    rw [htext, ok_bind, hy]
    rfl
  | _ => cases h

/-- A criterion that compares an amount with numbers. -/
inductive ComparesAmount : Criterion → Prop where
  | sign (positive : Bool) : ComparesAmount (.sign positive)
  | inRange {x y : Decimal} {a b : Quantity} (ha : x.quantity? = some a)
      (hb : y.quantity? = some b) : ComparesAmount (.inRange .amount (.decimal x) (.decimal y))

private theorem exists_ofAmount (h : AsksAmount v) :
    ∃ c, ofAmount (.value v) = .ok c ∧ ComparesAmount c := by
  cases h with
  | word hw =>
    rcases hw with hw | hw
    · exact ⟨_, Query.ofAmount_deposit hw, .sign true⟩
    · exact ⟨_, Query.ofAmount_withdrawal hw, .sign false⟩
  | range hv hlo hhi hle hlo' hhi' =>
    obtain ⟨hbound, x, hx, ha⟩ := exists_toAmount hlo hlo'
    obtain ⟨hbound', y, hy, hb⟩ := exists_toAmount hhi hhi'
    exact ⟨_, ofAmount_range hv hbound hbound' hx hy ha hb hle, .inRange ha hb⟩

/-- An amount can be compared exactly if it is not a NaN. -/
theorem exists_test_iff_isNaN (hc : ComparesAmount c) (hx : t.amount = .decimal x) :
    (∃ b, c.test t = .ok b) ↔ x.isNaN = false := by
  cases hc with
  | sign positive =>
    have hzero : (Value.int 0).quantity? = some (Quantity.ofRat 0) := rfl
    rw [test, hx]
    exact Value.exists_test_left_iff _ hzero
  | @inRange lo hi a b ha hb =>
    cases h : x.isNaN with
    | false =>
      obtain ⟨p, hp⟩ := Decimal.isNaN_eq_false_iff.1 h
      have hq : t.amount.quantity? = some p := by rw [hx]; exact hp
      obtain ⟨b, hb, -⟩ := decides_inRange hq ha hb
      exact iff_of_true ⟨b, hb⟩ rfl
    | true =>
      -- The lower bound is compared first, and that fails.
      refine iff_of_false ?_ (by decide)
      rintro ⟨b, hb⟩
      have hfield : t.get FilterKey.amount.field = .decimal x := hx
      rw [test, hfield] at hb
      obtain ⟨b', hb', -⟩ := bind_eq_ok_iff.1 hb
      have hnumber := (Value.exists_test_right_iff .le (v := .decimal lo) ha).1 ⟨b', hb'⟩
      rw [h] at hnumber
      cases hnumber

end Criterion

namespace Query

variable {rs : List Record}

/-- Records can be filtered by their amounts exactly if none of these is a NaN. -/
theorem exists_filterNamed_amount_iff (hrs : ∀ r ∈ rs, r.transaction.IsConverted)
    (hv : Criterion.AsksAmount v) (negate : Bool) :
    (∃ out, filterNamed rs [(FilterKey.amount.toText, .value v)] negate = .ok out) ↔
      ∀ r ∈ rs, ∃ q, r.transaction.amount.quantity? = some q := by
  obtain ⟨c, hc, hcompares⟩ := Criterion.exists_ofAmount hv
  have hnamed : Criteria.ofNamed [(FilterKey.amount.toText, .value v)] =
      .ok [(.amount, .value v)] := rfl
  rw [filterNamed_eq_select hnamed (resolve_amount _ hc), exists_select_iff]
  refine forall₂_congr fun r hr => ?_
  obtain ⟨x, hx⟩ := (hrs r hr).amount
  have hquantity : (∃ q, r.transaction.amount.quantity? = some q) ↔ x.isNaN = false := by
    rw [hx]
    exact Decimal.isNaN_eq_false_iff.symm
  rw [hquantity, ← Criterion.exists_test_iff_isNaN hcompares hx]
  constructor
  · rintro ⟨b, hb⟩
    obtain ⟨b', hb', -⟩ := bind_eq_ok_iff.1 hb
    exact ⟨b', hb'⟩
  · intro h
    exact Criterion.exists_testAll fun c' hc' => by rwa [List.mem_singleton.1 hc']

/-! ### Sorts -/

/-- Records can be sorted if any two of their items can be compared. -/
theorem exists_sortBy {key : Key} {reverse : Bool} {items : List SortItem}
    (hitems : rs.mapM (sortItem key reverse) = .ok items)
    (h : Sorting.Comparable SortItem.before items) : ∃ out, sortBy key reverse rs = .ok out := by
  obtain ⟨sorted, hsort, -⟩ :=
    Sorting.exists_sort (h.subset (Sorting.ite_reverse_subset reverse items))
  rw [sortBy, hitems, ok_bind]
  dsimp only
  rw [hsort]
  exact ⟨_, rfl⟩

/-- Items with numbers can be compared. -/
theorem exists_before {a b : SortItem} {p q : Quantity} (ha : a.keyed.value.quantity? = some p)
    (hb : b.keyed.value.quantity? = some q) : ∃ c, a.before b = .ok c := by
  rw [SortItem.before]
  split_ifs
  · obtain ⟨same, hsame⟩ : ∃ same, a.keyed.same b.keyed = .ok same := by
      rw [Key.Keyed.same]
      split_ifs
      · exact ⟨true, rfl⟩
      · exact ⟨_, Value.same_of_quantity? ha hb⟩
    obtain ⟨less, hless, -⟩ := Value.test_of_quantity? .lt ha hb
    rw [hsame, ok_bind]
    cases same with
    | true => exact ⟨false, rfl⟩
    | false => exact ⟨less, hless⟩
  · exact ⟨_, rfl⟩

/-- Records with numbers in a field can be sorted by it. -/
theorem exists_sort_of_quantity? {f : Field}
    (h : ∀ r ∈ rs, ∃ q, (r.transaction.get f).quantity? = some q) (reverse : Bool) :
    ∃ out, sort rs (.value (.text f.toText)) reverse = .ok out := by
  have hitems : rs.mapM (sortItem (.ofField f) reverse) = .ok (rs.map fun r =>
      ⟨isMissing (r.transaction.get f) != reverse, ⟨r.transaction.get f, some r.id⟩, r⟩) := by
    rw [mapM_eq_ok_iff, List.forall₂_map_right_iff]
    exact List.forall₂_same.2 fun _ _ => rfl
  rw [sort, ofArgument_field, ok_bind]
  refine exists_sortBy hitems fun a ha b hb => ?_
  obtain ⟨r, hr, rfl⟩ := List.mem_map.1 ha
  obtain ⟨r', hr', rfl⟩ := List.mem_map.1 hb
  obtain ⟨p, hp⟩ := h r hr
  obtain ⟨q, hq⟩ := h r' hr'
  exact exists_before hp hq

/-! ### Merges and counts -/

/-- A merge goes well exactly if the identity of every record can be a key. -/
theorem exists_placeAll_iff {kept : List Survivor} :
    (∃ kept', placeAll kept rs = .ok kept') ↔
      ∀ r ∈ rs, Value.checkAllHashable r.transaction.identity = .ok () := by
  induction rs generalizing kept with
  | nil => exact iff_of_true ⟨kept, rfl⟩ fun _ hr => absurd hr List.not_mem_nil
  | cons r rs ih =>
    rw [List.forall_mem_cons]
    constructor
    · rintro ⟨kept', h⟩
      obtain ⟨_, hr, hrest⟩ := bind_eq_ok_iff.1 h
      exact ⟨hr, ih.1 ⟨kept', hrest⟩⟩
    · rintro ⟨hr, hrest⟩
      obtain ⟨kept', h⟩ := ih.2 hrest
      exact ⟨kept', bind_eq_ok_iff.2 ⟨(), hr, h⟩⟩

/-- A value is no signaling NaN. -/
def IsQuiet (v : Value) : Prop := ∀ x, v = .decimal x → x.isSignaling = false

private theorem isQuiet_iff (hv : ∃ x, v = .decimal x) :
    Value.checkHashable v = .ok () ↔ IsQuiet v := by
  obtain ⟨x, rfl⟩ := hv
  rw [Value.checkHashable_decimal_iff]
  constructor
  · rintro h y ⟨⟩
    exact h
  · intro h
    exact h x rfl

private theorem exists_merge_iff {as bs : List Record}
    (hrs : ∀ r ∈ as ++ bs, r.transaction.IsConverted) : (∃ out, merge as bs = .ok out) ↔
      ∀ r ∈ as ++ bs, IsQuiet r.transaction.amount ∧ IsQuiet r.transaction.balance := by
  have hmerge : (∃ out, merge as bs = .ok out) ↔
      ∃ kept, placeAll [] (as ++ bs) = .ok kept := by
    constructor
    · rintro ⟨out, h⟩
      obtain ⟨kept, hkept, -⟩ := bind_eq_ok_iff.1 h
      exact ⟨kept, hkept⟩
    · rintro ⟨kept, hkept⟩
      exact ⟨_, bind_eq_ok_iff.2 ⟨kept, hkept, rfl⟩⟩
  rw [hmerge, exists_placeAll_iff]
  refine forall₂_congr fun r hr => ?_
  have hconverted := hrs r hr
  have hscalar {v : Value} {a : Scalar} (h : v.scalar? = some a) :
      Value.checkHashable v = .ok () := Value.checkHashable_of_scalar? h
  have hbank : Value.checkHashable r.transaction.bank = .ok () := by
    obtain ⟨s, hs⟩ := hconverted.bank
    exact hscalar (by rw [hs]; rfl)
  have haccount : Value.checkHashable r.transaction.account = .ok () := by
    obtain ⟨s, hs⟩ := hconverted.account
    exact hscalar (by rw [hs]; rfl)
  have hdate : Value.checkHashable r.transaction.postDate = .ok () := by
    rcases hconverted.postDate with hnull | ⟨d, hd⟩
    · exact hscalar (by rw [hnull]; rfl)
    · exact hscalar (by rw [hd]; rfl)
  rw [Value.checkAllHashable_iff, Transaction.identity, List.forall_mem_cons, List.forall_mem_cons,
    List.forall_mem_cons, List.forall_mem_cons, List.forall_mem_singleton,
    isQuiet_iff hconverted.amount, isQuiet_iff hconverted.balance]
  exact ⟨fun h => ⟨h.2.2.2.1, h.2.2.2.2⟩, fun h => ⟨hbank, haccount, hdate, h.1, h.2⟩⟩

private theorem exists_count_number_iff {f : Field} (hf : f = .amount ∨ f = .balance)
    (hrs : ∀ r ∈ rs, r.transaction.IsConverted) :
    (∃ out, count rs (.value (.text f.toText)) = .ok out) ↔
      ∀ r ∈ rs, IsQuiet (r.transaction.get f) := by
  have hdecimal : ∀ r ∈ rs, ∃ x, r.transaction.get f = .decimal x := by
    intro r hr
    rcases hf with rfl | rfl
    · exact (hrs r hr).amount
    · exact (hrs r hr).balance
  have hnone : ∀ r ∈ rs, (r.transaction.get f).collection? = none := by
    intro r hr
    obtain ⟨x, hx⟩ := hdecimal r hr
    rw [hx]
    rfl
  rw [exists_count_iff hnone]
  exact forall₂_congr fun r hr => isQuiet_iff (hdecimal r hr)

end Query

/-! ### Calls -/

/-- A number whose size has a result. -/
def HasSize (v : Value) : Prop :=
  ∃ q, v.quantity? = some q ∧ ∀ p, q = Quantity.ofRat p → Decimal.IsBelowOverflow |p|

private theorem Decimal.isNaN_of_abs (h : x.abs = .ok y) : y.isNaN = x.isNaN := by
  cases x with
  | finite s c e =>
    obtain ⟨d, f, rfl, -⟩ := isRepresentable_of_finish h
    rfl
  | infinity s =>
    cases h
    rfl
  | nan s g p =>
    cases g with
    | false =>
      cases h
      rfl
    | true => cases h

private theorem exists_magnitude_of_hasSize (h : HasSize (.decimal x)) :
    ∃ size p, (Value.decimal x).magnitude = .ok size ∧ size.quantity? = some p := by
  obtain ⟨q, hq, hsize⟩ := h
  obtain ⟨y, p, hy, hp⟩ : ∃ y p, x.abs = .ok y ∧ y.quantity? = some p := by
    cases x with
    | nan => cases hq
    | infinity s => exact ⟨_, _, rfl, rfl⟩
    | finite s c e =>
      have hvalue : (Decimal.finite s c e).quantity? =
          some (Quantity.ofRat (Quantity.signed s (c * 10 ^ e))) := rfl
      obtain ⟨y, hy⟩ := (Decimal.exists_abs_iff hvalue).2 (hsize _ (Option.some.inj hq).symm)
      obtain ⟨p, hp, -⟩ := Decimal.isRepresentable_of_abs hvalue hy
      exact ⟨y, _, hy, hp⟩
  exact ⟨.decimal y, p, by rw [Value.magnitude, hy], hp⟩

namespace Call

variable {k : Call} {t : Transaction} {small large : Quantity}

/-- A call goes well at an amount that has a size. -/
theorem succeeds_of_hasSize (ht : t.IsConverted) (h : HasSize t.amount)
    (hsmall : k.categorizer.smallLimit.quantity? = some small)
    (hlarge : k.categorizer.largeLimit.quantity? = some large) : k.Succeeds t := by
  obtain ⟨s, hs⟩ : ∃ s, t.description.orElse (.text []) = .text s := by
    obtain ⟨s, hs⟩ := ht.description
    rw [hs, Value.orElse]
    split
    · exact ⟨s, rfl⟩
    · exact ⟨[], rfl⟩
  obtain ⟨x, hx⟩ := ht.amount
  rw [hx] at h
  obtain ⟨size, p, hmagnitude, hp⟩ := exists_magnitude_of_hasSize h
  exact succeeds_of_compares hs (by rw [hx, hmagnitude]) (compares_of_quantity? .le hp hsmall)
    (compares_of_quantity? .ge hp hlarge)

/-- Where a call goes well there is a size, and it is compared with the limits that count. -/
theorem Succeeds.exists_size (h : k.Succeeds t) :
    ∃ size, t.amount.magnitude = .ok size ∧
      Compares k.limits.small .le k.categorizer.smallLimit size ∧
      Compares k.limits.large .ge k.categorizer.largeLimit size := by
  obtain ⟨a, h⟩ := h
  have hresult : (k.categorizer.limitTags k.limits t.amount).2 = .ok () := by
    unfold Categorizer.annotateOne at h
    split at h
    · cases h
    · cases hlimits : k.categorizer.limitTags k.limits t.amount with
      | mk more result =>
        rw [hlimits] at h
        cases result with
        | error e => cases h
        | ok _ => rfl
  unfold Categorizer.limitTags at hresult
  split at hresult
  · cases hresult
  · next size hsize =>
    split at hresult
    · cases hresult
    · next isSmall hsmall =>
      dsimp only at hresult
      split at hresult
      · cases hresult
      · next isLarge hlarge => exact ⟨size, hsize, ⟨isSmall, hsmall⟩, isLarge, hlarge⟩

/-- If a limit counts, a call goes well at no other amounts. -/
theorem Succeeds.hasSize (h : k.Succeeds t) (ht : t.IsConverted)
    (hlimits : k.limits.small = true ∨ k.limits.large = true)
    (hsmall : k.categorizer.smallLimit.quantity? = some small)
    (hlarge : k.categorizer.largeLimit.quantity? = some large) : HasSize t.amount := by
  obtain ⟨x, hx⟩ := ht.amount
  obtain ⟨size, hmagnitude, hle, hge⟩ := h.exists_size
  rw [hx] at hmagnitude
  obtain ⟨y, hy, rfl⟩ := Value.exists_of_magnitude_decimal hmagnitude
  have hnumber : y.isNaN = false := by
    rcases hlimits with hon | hon
    · obtain ⟨b, hb⟩ := hle
      rw [hon, if_pos rfl] at hb
      exact (Value.exists_test_left_iff .le (w := .decimal _) hsmall).1 ⟨b, hb⟩
    · obtain ⟨b, hb⟩ := hge
      rw [hon, if_pos rfl] at hb
      exact (Value.exists_test_left_iff .ge (w := .decimal _) hlarge).1 ⟨b, hb⟩
  rw [Decimal.isNaN_of_abs hy, Decimal.isNaN_eq_false_iff] at hnumber
  obtain ⟨q, hq⟩ := hnumber
  refine ⟨q, by rw [hx]; exact hq, ?_⟩
  rintro p rfl
  exact (Decimal.exists_abs_iff hq).1 ⟨y, hy⟩

end Call

/-! ### All operations -/

section Ledgers

variable {l : Ledger}

private theorem isConverted_of_mem_records
    (hrows : ∀ id t, l.get? id = some t → ∃ row, Transaction.ofMapping row = .ok t) {ids : List ℕ}
    {r : Record} (hr : r ∈ l.records ids) : r.transaction.IsConverted := by
  obtain ⟨row, hrow⟩ := hrows r.id r.transaction (Ledger.get?_of_mem_records hr)
  exact (Transaction.converted_of_ofMapping hrow).1

/-- What the operations on amounts need of records that were read from mappings. The filters by
amount go well exactly if no amount is a NaN, the merges and the counts exactly if there is no
signaling one, and a call that compares with a limit exactly if each amount has a size; a call that
compares with none and the sorts go well there at least. -/
theorem usable_amounts
    (hrows : ∀ id t, l.get? id = some t → ∃ row, Transaction.ofMapping row = .ok t) :
    (∀ ids v negate, Criterion.AsksAmount v →
      ((∃ out, Query.filterNamed (l.records ids) [("amount", .value v)] negate = .ok out) ↔
        ∀ r ∈ l.records ids, ∃ q, r.transaction.amount.quantity? = some q)) ∧
    (∀ ids, ∀ f ∈ [Field.amount, .balance], ∀ reverse,
      (∀ r ∈ l.records ids, ∃ q, (r.transaction.get f).quantity? = some q) →
        ∃ out, Query.sort (l.records ids) (.value (.text f.toText)) reverse = .ok out) ∧
    (∀ ids ids', (∃ out, Query.merge (l.records ids) (l.records ids') = .ok out) ↔
      ∀ r ∈ l.records ids ++ l.records ids',
        Query.IsQuiet r.transaction.amount ∧ Query.IsQuiet r.transaction.balance) ∧
    (∀ ids, ∀ f ∈ [Field.amount, .balance],
      ((∃ out, Query.count (l.records ids) (.value (.text f.toText)) = .ok out) ↔
        ∀ r ∈ l.records ids, Query.IsQuiet (r.transaction.get f))) ∧
    ∀ (k : Call) (small large : ℚ),
      k.categorizer.smallLimit.quantity? = some (Quantity.ofRat small) →
      k.categorizer.largeLimit.quantity? = some (Quantity.ofRat large) →
      ((∀ r ∈ l.records k.ids, HasSize r.transaction.amount) →
        ∃ l' a, k.categorizer.annotate k.limits k.ids l = (l', .ok a)) ∧
      (k.limits.small = true ∨ k.limits.large = true →
        (∃ l' a, k.categorizer.annotate k.limits k.ids l = (l', .ok a)) →
          ∀ r ∈ l.records k.ids, HasSize r.transaction.amount) := by
  refine ⟨fun ids v negate hv => ?_, fun ids f hf reverse h => ?_, fun ids ids' => ?_,
    fun ids f hf => ?_, fun k small large hsmall hlarge => ⟨fun h => ?_, fun hlimits h r hr => ?_⟩⟩
  · exact Query.exists_filterNamed_amount_iff (fun r hr => isConverted_of_mem_records hrows hr) hv
      negate
  · exact Query.exists_sort_of_quantity? h reverse
  · refine Query.exists_merge_iff fun r hr => ?_
    rcases List.mem_append.1 hr with hr | hr
    · exact isConverted_of_mem_records hrows hr
    · exact isConverted_of_mem_records hrows hr
  · exact Query.exists_count_number_iff (List.mem_pair.1 hf) fun r hr =>
      isConverted_of_mem_records hrows hr
  · refine exists_annotate_iff.2 fun id hid t ht => ?_
    have hr : ⟨id, t⟩ ∈ l.records k.ids :=
      List.mem_filterMap.2 ⟨id, hid, by rw [ht]; rfl⟩
    exact Call.succeeds_of_hasSize (isConverted_of_mem_records hrows hr) (h _ hr) hsmall hlarge
  · obtain ⟨id, hid, hid'⟩ := List.mem_filterMap.1 hr
    obtain ⟨t, ht, rfl⟩ := Option.map_eq_some_iff.1 hid'
    have hsucceeds := exists_annotate_iff.1 h id hid t ht
    exact hsucceeds.hasSize (isConverted_of_mem_records hrows hr) hlimits hsmall hlarge

end Ledgers

/-- An amount that is a number, and one that is infinite. -/
def usableLedger : Ledger where
  transactions :=
    [batchTransaction "Bread" (.ofInt 1), batchTransaction "Rent" (.infinity true)]

/-- A ledger with an infinite amount is filtered, sorted, merged, counted and annotated without an
error. -/
theorem usable_amounts_infinite :
    (∀ id t, usableLedger.get? id = some t → ∃ row, Transaction.ofMapping row = .ok t) ∧
    (∃ out, Query.filterNamed (usableLedger.records [0, 1]) [("amount", .value "deposit")] false =
      .ok out) ∧
    (∃ out, Query.sort (usableLedger.records [0, 1]) (.value "amount") true = .ok out) ∧
    (∃ out, Query.merge (usableLedger.records [0, 1]) (usableLedger.records [1]) = .ok out) ∧
    (∃ out, Query.count (usableLedger.records [0, 1]) (.value "balance") = .ok out) ∧
    ∃ l' a, batchCall.categorizer.annotate {} [0, 1] usableLedger = (l', .ok a) := by
  have hbread : Transaction.ofMapping (batchRow "Bread" "1") =
      .ok (batchTransaction "Bread" (.ofInt 1)) := ofMapping_batchRow (by decide)
  have hrent : Transaction.ofMapping (batchRow "Rent" "-Infinity") =
      .ok (batchTransaction "Rent" (.infinity true)) := ofMapping_batchRow (by decide)
  have hrows : ∀ id t, usableLedger.get? id = some t →
      ∃ row, Transaction.ofMapping row = .ok t := by
    intro id t ht
    have hmem : t ∈ usableLedger.transactions := List.mem_of_getElem? ht
    rcases List.mem_pair.1 hmem with rfl | rfl
    · exact ⟨_, hbread⟩
    · exact ⟨_, hrent⟩
  have hone : (Decimal.ofInt 1).quantity? = some (Quantity.ofRat 1) :=
    Decimal.quantity?_finite (by norm_num [Quantity.signed])
  have hmem {ids : List ℕ} : ∀ r ∈ usableLedger.records ids,
      r.transaction = batchTransaction "Bread" (.ofInt 1) ∨
        r.transaction = batchTransaction "Rent" (.infinity true) := by
    intro r hr
    exact List.mem_pair.1 (List.mem_of_getElem? (Ledger.get?_of_mem_records hr))
  have hquantity : ∀ r ∈ usableLedger.records [0, 1],
      ∃ q, r.transaction.amount.quantity? = some q := by
    intro r hr
    rcases hmem r hr with h | h
    · exact ⟨_, by rw [h]; exact hone⟩
    · exact ⟨_, by rw [h]; rfl⟩
  have hquiet {ids : List ℕ} : ∀ r ∈ usableLedger.records ids,
      Query.IsQuiet r.transaction.amount ∧ Query.IsQuiet r.transaction.balance := by
    have hnumber {x : Decimal} (hx : x.isSignaling = false) : Query.IsQuiet (.decimal x) := by
      rintro y ⟨⟩
      exact hx
    intro r hr
    rcases hmem r hr with h | h
    · rw [h]
      exact ⟨hnumber rfl, hnumber rfl⟩
    · rw [h]
      exact ⟨hnumber rfl, hnumber rfl⟩
  have hsize : ∀ r ∈ usableLedger.records batchCall.ids, HasSize r.transaction.amount := by
    intro r hr
    rcases hmem r hr with h | h
    · rw [h]
      refine ⟨_, hone, fun p hp => Decimal.isBelowOverflow_of_lt ?_⟩
      obtain rfl : (1 : ℚ) = p := WithTop.coe_injective (WithBot.coe_injective hp)
      rw [abs_one]
      exact one_lt_zpow₀ (by norm_num) (by decide)
    · rw [h]
      exact ⟨_, rfl, fun p hp => absurd hp (Quantity.bot_lt_ofRat p).ne⟩
  obtain ⟨hfilter, hsort, hmerge, hcount, hcall⟩ := usable_amounts hrows
  refine ⟨hrows, ?_, hsort [0, 1] .amount (by decide) true hquantity, ?_, ?_, ?_⟩
  · exact (hfilter [0, 1] "deposit" false (.word (.inl (by decide)))).2 hquantity
  · refine (hmerge [0, 1] [1]).2 fun r hr => ?_
    rcases List.mem_append.1 hr with hr | hr
    · exact hquiet r hr
    · exact hquiet r hr
  · exact (hcount [0, 1] .balance (by decide)).2 fun r hr => (hquiet r hr).2
  · exact (hcall batchCall 1 1000 quantity?_smallLimit_batchCall
      (Decimal.quantity?_finite (by norm_num [Quantity.signed]))).1 hsize

/-- An amount that is a NaN is accepted, and then neither the filter for deposits nor the sort by
amount nor a call goes well; a signaling one cannot be merged or counted. -/
theorem nan_accepted :
    Transaction.ofMapping (batchRow "Rent" "NaN") =
      .ok (batchTransaction "Rent" (.nan false false 0)) ∧
    Query.filterNamed (batch.records [0, 1]) [("amount", .value "deposit")] false =
      .error .invalidOperation ∧
    (¬∃ out, Query.sort (batch.records [0, 1]) (.value "amount") false = .ok out) ∧
    (∃ l' e, batchCall.categorizer.annotate {} [0, 1] batch = (l', .error e)) ∧
    Transaction.ofMapping (batchRow "Rent" "sNaN") =
      .ok (batchTransaction "Rent" (.nan false true 0)) ∧
    Query.merge [⟨0, batchTransaction "Rent" (.nan false true 0)⟩] [] = .error .signalingHash ∧
    Query.count [⟨0, batchTransaction "Rent" (.nan false true 0)⟩] (.value "amount") =
      .error .signalingHash := by
  refine ⟨ofMapping_batchRow (by decide), rfl, ?_, ⟨_, _, rfl⟩,
    ofMapping_batchRow (by decide +kernel), rfl, rfl⟩
  rintro ⟨out, hout⟩
  have hnone : (Query.sort (batch.records [0, 1]) (.value "amount") false).toOption.isNone =
      true := by decide +kernel
  rw [hout] at hnone
  cases hnone

end LedgerTags
