import LedgerTags.Proofs.Annotation
import LedgerTags.Proofs.ContextRounding
import LedgerTags.Proofs.Mapping

/-!
# Calls that fail

A call goes over its records one after the other and stops at the first one that it fails at. What
it has done until then stays. So after a failure the records before that one are annotated, the one
itself has its name and the tags that need no further comparison (`Call.Interrupts`), and all others
are untouched (`annotated_or_interrupted`). With limits that are numbers, no call fails at an amount
that is a number below the highest place (`Call.succeeds_of_bounded`).
-/

namespace LedgerTags

/-! ### Where a call fails -/

private theorem Categorizer.categorize_text (c : Categorizer) {description : Value} {s : Text}
    (h : description.orElse (.text []) = .text s) :
    ∃ name tags, c.categorize description = .ok (name, tags) := by
  unfold Categorizer.categorize
  rw [h]
  dsimp only
  split
  · exact ⟨_, _, rfl⟩
  · exact ⟨_, _, rfl⟩

namespace Call

variable {k : Call} {t u : Transaction}

/-- The size of an amount can be compared with a limit, or the limit does not count. -/
def Compares (on : Bool) (op : Comparison) (limit : Decimal) (size : Value) : Prop :=
  ∃ b, (if on then Value.test op size (.decimal limit) else .ok false) = .ok b

/-- A size and a limit that are numbers can be compared. -/
theorem compares_of_quantity? {on : Bool} (op : Comparison) {limit : Decimal} {size : Value}
    {p q : Quantity} (hsize : size.quantity? = some p) (hlimit : limit.quantity? = some q) :
    Compares on op limit size := by
  cases on with
  | false => exact ⟨false, rfl⟩
  | true =>
    obtain ⟨b, hb, -⟩ := Value.test_of_quantity? op (w := .decimal limit) hsize hlimit
    exact ⟨b, hb⟩

/-- A call fails at no transaction with a text whose amount has a size that can be compared. -/
theorem succeeds_of_compares {s : Text} {size : Value}
    (hdescription : t.description.orElse (.text []) = .text s)
    (hsize : t.amount.magnitude = .ok size)
    (hsmall : Compares k.limits.small .le k.categorizer.smallLimit size)
    (hlarge : Compares k.limits.large .ge k.categorizer.largeLimit size) : k.Succeeds t := by
  obtain ⟨name, tags, hcategorize⟩ := k.categorizer.categorize_text hdescription
  obtain ⟨isSmall, hsmall⟩ := hsmall
  obtain ⟨isLarge, hlarge⟩ := hlarge
  have hlimits : ∃ more, k.categorizer.limitTags k.limits t.amount = (more, .ok ()) := by
    unfold Categorizer.limitTags
    rw [hsize]
    dsimp only
    rw [hsmall]
    dsimp only
    rw [hlarge]
    exact ⟨_, rfl⟩
  obtain ⟨more, hlimits⟩ := hlimits
  unfold Succeeds Categorizer.annotateOne
  rw [hcategorize]
  dsimp only
  rw [hlimits]
  exact ⟨_, rfl⟩

/-- A call fails at no amount below the highest place. -/
theorem succeeds_of_bounded {s : Text} {x : Decimal} {p small large : Quantity}
    (hdescription : t.description.orElse (.text []) = .text s) (hamount : t.amount = .decimal x)
    (hx : x.quantity? = some p)
    (hbound : ∀ q, p = Quantity.ofRat q → |q| < 10 ^ Decimal.maxExponent)
    (hsmall : k.categorizer.smallLimit.quantity? = some small)
    (hlarge : k.categorizer.largeLimit.quantity? = some large) : k.Succeeds t := by
  obtain ⟨y, p', hy, hp'⟩ := Decimal.exists_abs hx hbound
  have hsize : t.amount.magnitude = .ok (.decimal y) := by
    rw [hamount, Value.magnitude, hy]
  exact succeeds_of_compares hdescription hsize (compares_of_quantity? .le hp' hsmall)
    (compares_of_quantity? .ge hp' hlarge)

/-- What a call leaves of a transaction that it fails at: the name and the tags of its rule are
there, and the tag of a small amount if that one was compared. -/
structure Interrupts (k : Call) (t u : Transaction) : Prop where
  facts : t.SameFacts u
  named : k.Names t u.name
  tags : ∀ x, x ∈ u.tags ↔ x ∈ t.tags ∨ (∃ r, k.Wins t r ∧ x ∈ r.tags) ∨
    (x = Categorizer.smallTag ∧ k.limits.small = true ∧ Passes .le k.categorizer.smallLimit t)

end Call

/-! ### One record -/

private theorem Value.magnitude_decimal_eq_error {x : Decimal} {e : Error}
    (h : (Value.decimal x).magnitude = .error e) : ∃ f, e = .ofDecimal f := by
  rw [Value.magnitude] at h
  split at h
  · cases h
  · next f _ =>
    cases h
    exact ⟨f, rfl⟩

/-- The size of a decimal is a decimal. -/
theorem Value.exists_of_magnitude_decimal {x : Decimal} {size : Value}
    (h : (Value.decimal x).magnitude = .ok size) : ∃ y, x.abs = .ok y ∧ size = .decimal y := by
  rw [Value.magnitude] at h
  split at h
  · next y hy =>
    cases h
    exact ⟨y, hy, rfl⟩
  · cases h

private theorem Value.test_decimal_eq_error {op : Comparison} {on : Bool} {x y : Decimal}
    {e : Error}
    (h : (if on then Value.test op (.decimal x) (.decimal y) else .ok false) = .error e) :
    ∃ f, e = .ofDecimal f := by
  cases on with
  | false => cases h
  | true =>
    rw [if_pos rfl, Value.test.eq_def] at h
    change Value.testDecimals op x y = .error e at h
    rw [Value.testDecimals] at h
    split at h
    · cases h
    · next f _ =>
      cases h
      exact ⟨f, rfl⟩

/-- What the two tests of an amount have given before one of them failed. -/
theorem Categorizer.limitTags_eq_error {c : Categorizer} {limits : Limits} {t : Transaction}
    {x : Decimal} {more : List Text} {e : Error} (hamount : t.amount = .decimal x)
    (h : c.limitTags limits t.amount = (more, .error e)) :
    (∃ f, e = .ofDecimal f) ∧ ∀ y, y ∈ more ↔
      y = smallTag ∧ limits.small = true ∧ Call.Passes .le c.smallLimit t := by
  -- Nothing passes a test that cannot be made.
  have hnone {more : List Text} (hempty : more = [])
      (hfails : limits.small = true → ¬Call.Passes .le c.smallLimit t) (y : Text) :
      y ∈ more ↔ y = smallTag ∧ limits.small = true ∧ Call.Passes .le c.smallLimit t := by
    subst hempty
    exact ⟨fun hy => absurd hy List.not_mem_nil, fun hy => absurd hy.2.2 (hfails hy.2.1)⟩
  unfold Categorizer.limitTags at h
  split at h
  · next e' hsize =>
    cases h
    refine ⟨Value.magnitude_decimal_eq_error (hamount ▸ hsize), hnone rfl ?_⟩
    rintro - ⟨size, hsize', -⟩
    cases hsize.symm.trans hsize'
  · next size hsize =>
    obtain ⟨z, -, rfl⟩ := Value.exists_of_magnitude_decimal (hamount ▸ hsize)
    split at h
    · next e' htest =>
      cases h
      refine ⟨Value.test_decimal_eq_error htest, hnone rfl ?_⟩
      rintro hon ⟨size, hsize', htest'⟩
      obtain rfl := Except.ok.inj (hsize.symm.trans hsize')
      rw [if_pos hon, htest'] at htest
      cases htest
    · next isSmall hsmall =>
      dsimp only at h
      split at h
      · next e' htest =>
        cases h
        refine ⟨Value.test_decimal_eq_error htest, fun y => ?_⟩
        rw [← Call.passes_iff hsize hsmall]
        cases isSmall <;> simp
      · cases h

/-- A call that fails at a transaction with a text and a decimal amount fails in arithmetic, and it
leaves the transaction half done. -/
theorem interrupted_one {k : Call} {t u : Transaction} {s : Text} {x : Decimal} {e : Error}
    (hdescription : t.description.orElse (.text []) = .text s) (hamount : t.amount = .decimal x)
    (h : k.categorizer.annotateOne k.limits t = (u, .error e)) :
    (∃ f, e = .ofDecimal f) ∧ k.Interrupts t u := by
  obtain ⟨name, tags, hcategorize⟩ := k.categorizer.categorize_text hdescription
  unfold Categorizer.annotateOne at h
  rw [hcategorize] at h
  cases hlimits : k.categorizer.limitTags k.limits t.amount with
  | mk more result =>
    rw [hlimits] at h
    cases result with
    | ok _ => cases h
    | error e' =>
      cases h
      obtain ⟨hfault, hmore⟩ := Categorizer.limitTags_eq_error hamount hlimits
      obtain ⟨hname, htags⟩ := Call.names_of_categorize hcategorize
      refine ⟨hfault, ⟨⟨rfl, rfl, rfl, rfl, rfl, rfl, rfl, rfl⟩, hname, fun y => ?_⟩⟩
      rw [TagSet.mem_insertAll, TagSet.mem_union, htags, hmore]
      exact or_comm.trans or_assoc

/-! ### One call -/

section Ledgers

variable {k : Call} {ids : List Nat} {l l' : Ledger}

/-- A run over records that fails has gone well up to one of them and fails there. -/
theorem Categorizer.annotate_eq_error {c : Categorizer} {limits : Limits} {e : Error}
    (h : c.annotate limits ids l = (l', .error e)) :
    ∃ before id after l₁ t u, ids = before ++ id :: after ∧
      (∃ a, c.annotate limits before l = (l₁, .ok a)) ∧ l₁.get? id = some t ∧
      c.annotateOne limits t = (u, .error e) ∧ l' = l₁.set id u := by
  induction ids generalizing l with
  | nil => cases h
  | cons first ids ih =>
    rw [Categorizer.annotate] at h
    cases hfirst : l.get? first with
    | none =>
      rw [hfirst] at h
      obtain ⟨before, id, after, l₁, t, u, rfl, hbefore, hrest⟩ := ih h
      exact ⟨first :: before, id, after, l₁, t, u, rfl,
        Categorizer.annotate_cons_iff.2 (.inl ⟨hfirst, hbefore⟩), hrest⟩
    | some t₀ =>
      rw [hfirst] at h
      cases hone : c.annotateOne limits t₀ with
      | mk u₀ result =>
        simp only [hone] at h
        cases result with
        | error e' =>
          cases h
          exact ⟨[], first, ids, l, t₀, u₀, rfl, ⟨{}, rfl⟩, hfirst, hone, rfl⟩
        | ok a =>
          cases hrun : c.annotate limits ids (l.set first u₀) with
          | mk l₂ result =>
            simp only [hrun] at h
            cases result with
            | ok _ => cases h
            | error e' =>
              cases h
              obtain ⟨before, id, after, l₁, t, u, rfl, hbefore, hrest⟩ := ih hrun
              exact ⟨first :: before, id, after, l₁, t, u, rfl,
                Categorizer.annotate_cons_iff.2 (.inr ⟨t₀, u₀, hfirst, ⟨a, hone⟩, hbefore⟩), hrest⟩

/-- A run that goes well leaves other records as they are. -/
theorem get?_of_annotate (h : ∃ a, k.categorizer.annotate k.limits ids l = (l', .ok a)) {id : Nat}
    (hid : ¬id ∈ ids) : l'.get? id = l.get? id := by
  obtain ⟨hsize, hrecords⟩ := annotated_of_annotate h
  cases ht : l.get? id with
  | none =>
    by_contra hne
    obtain ⟨u, hu⟩ := Option.ne_none_iff_exists'.1 hne
    obtain ⟨t, ht'⟩ := Ledger.exists_get? hsize hu
    rw [ht] at ht'
    cases ht'
  | some t =>
    obtain ⟨u, hu, hannotated⟩ := hrecords id t ht
    rw [if_neg hid] at hannotated
    rw [hu, hannotated.unique (.nil t)]

/-- What is read from a mapping has a text and a decimal amount. -/
theorem Transaction.kinds_of_ofMapping {row : List (Value × Value)} {t : Transaction}
    (h : Transaction.ofMapping row = .ok t) :
    (∃ s, t.description.orElse (.text []) = .text s) ∧ ∃ x, t.amount = .decimal x := by
  have hread := Transaction.isReadFrom_of_ofMapping h
  obtain ⟨s, hs⟩ := Transaction.exists_text_of_readText hread.description
  obtain ⟨x, -, hx⟩ := hread.amount
  refine ⟨?_, x, hx⟩
  rw [hs, Value.orElse]
  split
  · exact ⟨s, rfl⟩
  · exact ⟨[], rfl⟩

/-- Over transactions that are read from mappings a call either annotates each of its records, or it
fails in arithmetic at one of them. Then the records before that one are annotated, the one itself
is half done, and no other record is changed. -/
theorem annotated_or_interrupted {result : Outcome Categorizer.Tally}
    (hrows : ∀ id ∈ k.ids, ∃ row t, Transaction.ofMapping row = .ok t ∧ l.get? id = some t)
    (h : k.categorizer.annotate k.limits k.ids l = (l', result)) :
    ((∃ a, result = .ok a) ∧
      (∀ id ∈ k.ids, ∀ t, l.get? id = some t →
        ∃ u, l'.get? id = some u ∧ Annotated [k] t u) ∧
      ∀ id, ¬id ∈ k.ids → l'.get? id = l.get? id) ∨
    ∃ f before id after t u, result = .error (.ofDecimal f) ∧ k.ids = before ++ id :: after ∧
      ¬id ∈ before ∧ l.get? id = some t ∧ ¬k.Succeeds t ∧
      l'.get? id = some u ∧ k.Interrupts t u ∧
      (∀ j ∈ before, ∀ t, l.get? j = some t →
        k.Succeeds t ∧ ∃ v, l'.get? j = some v ∧ Annotated [k] t v) ∧
      ∀ j, ¬j ∈ before → j ≠ id → l'.get? j = l.get? j := by
  have hannotated {ids : List Nat} {l' : Ledger} {id : Nat} {t : Transaction}
      (h : ∃ a, k.categorizer.annotate k.limits ids l = (l', .ok a)) (hid : id ∈ ids)
      (ht : l.get? id = some t) : ∃ u, l'.get? id = some u ∧ Annotated [k] t u := by
    have hrecord := (annotated_of_annotate h).2 id t ht
    rwa [if_pos hid] at hrecord
  cases result with
  | ok a => exact .inl ⟨⟨a, rfl⟩, fun id hid t ht => hannotated ⟨a, h⟩ hid ht,
      fun id hid => get?_of_annotate ⟨a, h⟩ hid⟩
  | error e =>
    right
    obtain ⟨before, id, after, l₁, t, u, hids, hbefore, ht, hone, rfl⟩ :=
      Categorizer.annotate_eq_error h
    have hsucceeds := exists_annotate_iff.1 ⟨l₁, hbefore⟩
    have hfails : ¬k.Succeeds t := by
      rintro ⟨a, ha⟩
      rw [hone] at ha
      cases ha
    obtain ⟨row, t₀, hrow, ht₀⟩ := hrows id (by simp [hids])
    -- What a call does before cannot make it fail, so the record is there for the first time.
    have hfresh : ¬id ∈ before := by
      intro hid
      obtain ⟨v, hv, hfacts, -⟩ := hannotated hbefore hid ht₀
      obtain rfl := Option.some.inj (ht.symm.trans hv)
      exact hfails ((Call.Succeeds.congr hfacts).2 (hsucceeds id hid t₀ ht₀))
    have hsame : l₁.get? id = l.get? id := get?_of_annotate hbefore hfresh
    obtain rfl := Option.some.inj (ht₀.symm.trans (hsame.symm.trans ht))
    obtain ⟨⟨s, hs⟩, x, hx⟩ := Transaction.kinds_of_ofMapping hrow
    obtain ⟨⟨f, rfl⟩, hinterrupts⟩ := interrupted_one hs hx hone
    refine ⟨f, before, id, after, t₀, u, rfl, hids, hfresh, ht₀, hfails,
      Ledger.get?_set_self ht u, hinterrupts, fun j hj t hjt => ?_, fun j hj hne => ?_⟩
    · have hne : id ≠ j := fun heq => hfresh (heq ▸ hj)
      obtain ⟨v, hv, hjannotated⟩ := hannotated hbefore hj hjt
      exact ⟨hsucceeds j hj t hjt, v, by rw [Ledger.get?_set_of_ne hne, hv], hjannotated⟩
    · rw [Ledger.get?_set_of_ne (Ne.symm hne)]
      exact get?_of_annotate hbefore hj

end Ledgers

/-! ### A batch with an amount that is no number -/

/-- The mapping of a transaction with a description and an amount. -/
def batchRow (description amount : Text) : List (Value × Value) :=
  [(.text "description", .text description), (.text "amount", .text amount)]

/-- The transaction that is read from such a mapping. -/
def batchTransaction (description : Text) (amount : Decimal) : Transaction where
  bank := .text []
  account := .text []
  postDate := .null
  description := .text description
  amount := .decimal amount

/-- A mapping with a description and an amount is read. -/
theorem ofMapping_batchRow {description amount : Text} {x : Decimal}
    (h : Value.amountOfText? amount = some x) :
    Transaction.ofMapping (batchRow description amount) =
      .ok (batchTransaction description x) := by
  have hlookup (f : Field) : Value.lookup? f.toText (batchRow description amount) =
      match f with
      | .description => some (.text description)
      | .amount => some (.text amount)
      | _ => none := by cases f <;> rfl
  have htags : Transaction.readTags .null = .ok ∅ := rfl
  have hdate : Value.null.toDate = .ok none := rfl
  have hempty : Transaction.readText .null = .ok (.text []) := rfl
  have hbalance : (Value.int 0).toAmount = .ok .zero :=
    Transaction.toAmount_int Transaction.hasNumeral_zero
  simp only [Transaction.ofMapping, Value.lookup, hlookup, Option.getD_some, Option.getD_none,
    htags, hdate, hempty, hbalance, Transaction.toAmount_text h, Transaction.readText_text, ok_bind]
  rfl

/-- Two transactions, of which the second one has no number as its amount. -/
def batch : Ledger where
  transactions :=
    [batchTransaction "Bread" (.ofInt 1), batchTransaction "Rent" (.nan false false 0)]

/-- A categorizer without rules and with the usual limits goes over both of them. -/
def batchCall : Call where
  categorizer := ⟨{}, .finite false 100 (-2), .finite false 100000 (-2)⟩
  limits := {}
  ids := [0, 1]

private theorem exists_ofMapping_batch :
    ∀ id ∈ batchCall.ids, ∃ row t, Transaction.ofMapping row = .ok t ∧ batch.get? id = some t := by
  have hbread : Transaction.ofMapping (batchRow "Bread" "1") =
      .ok (batchTransaction "Bread" (.ofInt 1)) := ofMapping_batchRow (by decide)
  have hrent : Transaction.ofMapping (batchRow "Rent" "NaN") =
      .ok (batchTransaction "Rent" (.nan false false 0)) := ofMapping_batchRow (by decide)
  intro id hid
  rcases List.mem_pair.1 hid with rfl | rfl
  · exact ⟨_, _, hbread, rfl⟩
  · exact ⟨_, _, hrent, rfl⟩

/-- The call fails at the second transaction, and the first one stays named and tagged. -/
theorem failed_batch_stays_named :
    Categorizer.ofStore {} Categorizer.usualSmallLimit Categorizer.usualLargeLimit =
      .ok batchCall.categorizer ∧
    (∀ id ∈ batchCall.ids, ∃ row t, Transaction.ofMapping row = .ok t ∧ batch.get? id = some t) ∧
    ∃ l' e t u, batchCall.categorizer.annotate batchCall.limits batchCall.ids batch =
      (l', .error e) ∧ batch.get? 0 = some t ∧ l'.get? 0 = some u ∧
      t.name = .null ∧ u.name = "Bread" ∧ t.tags.toList = [] ∧ u.tags.toList = ["micro"] :=
  ⟨rfl, exists_ofMapping_batch, _, _, _, _, rfl, rfl, rfl, rfl, rfl, rfl, rfl⟩

/-- A batch whose second amount is a NaN: the first record is annotated, the second is left halfway.
-/
theorem annotated_or_interrupted_batch :
    (∀ id ∈ batchCall.ids, ∃ row t, Transaction.ofMapping row = .ok t ∧ batch.get? id = some t) ∧
    ∃ l' f u v, batchCall.categorizer.annotate batchCall.limits batchCall.ids batch =
      (l', .error (.ofDecimal f)) ∧
      l'.get? 0 = some u ∧ Annotated [batchCall] (batchTransaction "Bread" (.ofInt 1)) u ∧
      l'.get? 1 = some v ∧
      batchCall.Interrupts (batchTransaction "Rent" (.nan false false 0)) v := by
  refine ⟨exists_ofMapping_batch, ?_⟩
  have hfirst : batchCall.Succeeds (batchTransaction "Bread" (.ofInt 1)) := ⟨_, rfl⟩
  obtain ⟨l', e, hrun⟩ : ∃ l' e,
      batchCall.categorizer.annotate batchCall.limits batchCall.ids batch = (l', .error e) :=
    ⟨_, _, rfl⟩
  obtain ⟨⟨a, ha⟩, -⟩ | ⟨f, before, id, after, t, v, hresult, hids, -, ht, hfails, hv, hinterrupts,
    hbefore, -⟩ := annotated_or_interrupted exists_ofMapping_batch hrun
  · cases ha
  obtain rfl := Except.error.inj hresult
  -- It fails at the second record, since it does not at the first one.
  rcases before with _ | ⟨first, before⟩
  · obtain ⟨rfl, -⟩ := List.cons.inj hids
    obtain rfl := Option.some.inj ht
    exact absurd hfirst hfails
  · obtain ⟨rfl, htail⟩ := List.cons.inj hids
    obtain ⟨rfl, rfl⟩ : before = [] ∧ id = 1 := by
      rcases before with _ | ⟨second, before⟩
      · exact ⟨rfl, (List.cons.inj htail).1.symm⟩
      · exact absurd (List.cons.inj htail).2 (by simp)
    obtain rfl := Option.some.inj ht
    obtain ⟨-, u, hu, hannotated⟩ := hbefore 0 List.mem_cons_self _ rfl
    exact ⟨l', f, u, v, hrun, hu, hannotated, hv, hinterrupts⟩

end LedgerTags
