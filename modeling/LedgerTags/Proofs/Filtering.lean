import LedgerTags.Proofs.Criteria
import LedgerTags.Query.Filter

/-!
# What a filter keeps

Arguments that are given by name are those of the keys with these names (`lookup_ofNamed`). So a
filter keeps exactly the records that meet every argument, in their order (`filterNamed_keeps`), and
the filters for deposits, for withdrawals and for the range from zero to zero split a collection
(`splits_byAmount`).
-/

namespace LedgerTags

/-! ### Arguments given by name -/

namespace FilterKey

/-- A keyword is recognised by its text. -/
theorem ofText?_eq_some_iff {name : Text} {key : FilterKey} :
    ofText? name = some key ↔ name = key.toText := by
  constructor
  · intro h
    have hkey := List.find?_some h
    exact (beq_iff_eq.1 hkey).symm
  · rintro rfl
    cases key <;> rfl

/-- Different keywords have different texts. -/
theorem toText_inj {key key' : FilterKey} : key.toText = key'.toText ↔ key = key' := by
  rw [← ofText?_eq_some_iff, ofText?_eq_some_iff.2 rfl, Option.some_inj]

end FilterKey

namespace Criteria

/-- What was given for a keyword is what was given by its name. -/
theorem lookup_ofNamed {named : List (Text × Argument)} {arguments : Criteria}
    (h : ofNamed named = .ok arguments) (key : FilterKey) :
    arguments.lookup key = named.lookup key.toText := by
  induction named generalizing arguments with
  | nil =>
    cases h
    rfl
  | cons e named ih =>
    obtain ⟨name, a⟩ := e
    rw [ofNamed] at h
    split at h
    · next key' hkey' =>
      obtain ⟨arguments', hrest, h⟩ := bind_eq_ok_iff.1 h
      cases h
      obtain rfl := FilterKey.ofText?_eq_some_iff.1 hkey'
      have hbeq : (key == key') = (key.toText == key'.toText) := by
        rw [Bool.eq_iff_iff, beq_iff_eq, beq_iff_eq, FilterKey.toText_inj]
      rw [List.lookup_cons, List.lookup_cons, hbeq, ih hrest]
    · cases h

/-- Every name that is understood is the name of a key. -/
theorem exists_key_of_mem {named : List (Text × Argument)} {arguments : Criteria}
    (h : ofNamed named = .ok arguments) {e : Text × Argument} (he : e ∈ named) :
    ∃ key : FilterKey, e.1 = key.toText := by
  induction named generalizing arguments with
  | nil => cases he
  | cons e' named ih =>
    obtain ⟨name, a⟩ := e'
    rw [ofNamed] at h
    split at h
    · next key hkey =>
      obtain ⟨arguments', hrest, -⟩ := bind_eq_ok_iff.1 h
      rcases List.mem_cons.1 he with rfl | he
      · exact ⟨key, FilterKey.ofText?_eq_some_iff.1 hkey⟩
      · exact ih hrest he
    · cases h

/-- Arguments with known names are understood as arguments for the keys with these names. -/
theorem exists_ofNamed {named : List (Text × Argument)}
    (h : ∀ e ∈ named, ∃ key : FilterKey, e.1 = key.toText) :
    ∃ arguments, ofNamed named = .ok arguments ∧ ∀ e ∈ arguments, (e.1.toText, e.2) ∈ named := by
  induction named with
  | nil => exact ⟨[], rfl, fun _ he => absurd he List.not_mem_nil⟩
  | cons e named ih =>
    obtain ⟨name, a⟩ := e
    obtain ⟨⟨key, rfl⟩, hrest⟩ := List.forall_mem_cons.1 h
    obtain ⟨arguments, hnamed, harguments⟩ := ih hrest
    refine ⟨(key, a) :: arguments, ?_, List.forall_mem_cons.2 ⟨List.mem_cons_self, fun e he =>
      List.mem_cons_of_mem _ (harguments e he)⟩⟩
    rw [ofNamed, FilterKey.ofText?_eq_some_iff.2 rfl]
    dsimp only
    rw [hnamed]
    rfl

private theorem unknownName?_eq_none {named : List (Text × Argument)} {arguments : Criteria}
    (h : ofNamed named = .ok arguments) : unknownName? named = none := by
  have hknown : named.filter (fun e => (FilterKey.ofText? e.1).isNone) = [] := by
    rw [List.filter_eq_nil_iff]
    intro e he
    obtain ⟨key, hkey⟩ := exists_key_of_mem h he
    rw [FilterKey.ofText?_eq_some_iff.2 hkey]
    exact nofun
  rw [unknownName?, hknown]

end Criteria

namespace Query

/-- A selection whose tests succeed at every record keeps those that pass. -/
theorem select_eq_filter {cs : List Criterion} {keep : Record → Bool} {rs : List Record}
    (h : ∀ r ∈ rs, Criterion.testAll r.transaction cs = .ok (keep r)) :
    select cs false rs = .ok (rs.filter keep) := by
  induction rs with
  | nil => rfl
  | cons r rs ih =>
    rw [List.forall_mem_cons] at h
    rw [select, h.1, ok_bind, ih h.2, ok_bind, List.filter_cons, Bool.bne_false]
    rfl

/-- A selection goes well exactly if every record can be tested. -/
theorem exists_select_iff {cs : List Criterion} {negate : Bool} {rs : List Record} :
    (∃ out, select cs negate rs = .ok out) ↔
      ∀ r ∈ rs, ∃ b, Criterion.testAll r.transaction cs = .ok b := by
  induction rs with
  | nil => exact iff_of_true ⟨[], rfl⟩ fun _ hr => absurd hr List.not_mem_nil
  | cons r rs ih =>
    rw [List.forall_mem_cons, ← ih]
    constructor
    · rintro ⟨out, h⟩
      obtain ⟨b, hb, h⟩ := bind_eq_ok_iff.1 h
      obtain ⟨rest, hrest, -⟩ := bind_eq_ok_iff.1 h
      exact ⟨⟨b, hb⟩, rest, hrest⟩
    · rintro ⟨⟨b, hb⟩, rest, hrest⟩
      exact ⟨_, bind_eq_ok_iff.2 ⟨b, hb, bind_eq_ok_iff.2 ⟨rest, hrest, rfl⟩⟩⟩

/-- Arguments whose names are known are those of a filter. -/
theorem filterNamed_of_ofNamed {named : List (Text × Argument)} {arguments : Criteria}
    (hnamed : Criteria.ofNamed named = .ok arguments) (rs : List Record) (negate : Bool) :
    filterNamed rs named negate = filter rs arguments negate := by
  have hcollection : named.lookup collectionName = none := by
    rw [List.lookup_eq_none_iff]
    intro e he
    obtain ⟨key, hkey⟩ := Criteria.exists_key_of_mem hnamed he
    rw [hkey]
    cases key <;> decide
  rw [filterNamed, hcollection, Criteria.unknownName?_eq_none hnamed, hnamed]
  rfl

/-- A filter whose arguments are understood hands them on to the criteria. -/
theorem filterNamed_eq_select {rs : List Record} {named : List (Text × Argument)}
    {arguments : Criteria} {cs : List Criterion} (hnamed : Criteria.ofNamed named = .ok arguments)
    (hresolve : Criterion.resolve (rs.map (·.transaction)) arguments = .ok cs) (negate : Bool) :
    filterNamed rs named negate = select cs negate rs := by
  rw [filterNamed_of_ofNamed hnamed, filter, hresolve, ok_bind]

variable {rs : List Record}

/-- A filter by plain arguments keeps the records that meet them. -/
theorem filterNamed_keeps {named : List (Text × Argument)} {arguments : Criteria}
    {cs : List Criterion} (hrs : ∀ r ∈ rs, Criterion.IsFilterable r.transaction)
    (hplain : ∀ e ∈ named, Criterion.IsPlain e) (hnamed : Criteria.ofNamed named = .ok arguments)
    (hresolve : Criterion.resolve (rs.map (·.transaction)) arguments = .ok cs) :
    ∃ keep : Record → Bool, filterNamed rs named false = .ok (rs.filter keep) ∧
      ∀ r ∈ rs, keep r = true ↔ Criterion.Met named r.transaction := by
  have hlookup : ∀ key a, arguments.lookup key = some a → Criterion.IsPlain (key.toText, a) := by
    intro key a ha
    rw [Criteria.lookup_ofNamed hnamed, List.lookup_eq_some_iff] at ha
    obtain ⟨before, after, hsplit, -⟩ := ha
    refine hplain _ ?_
    rw [hsplit]
    exact List.mem_append_right before List.mem_cons_self
  -- The criteria come in the order of the keys, the arguments in any order; both say the same.
  have hdecides : ∀ r ∈ rs, Criterion.DecidesAll r.transaction cs
      (Criterion.Met named r.transaction) := by
    intro r hr
    obtain ⟨b, hb, hiff⟩ := Criterion.decidesAll_resolveKeys (hrs r hr) hlookup hresolve
    refine ⟨b, hb, hiff.trans ?_⟩
    simp only [Criteria.lookup_ofNamed hnamed]
    exact ⟨fun h key => h key (by cases key <;> decide), fun h key _ => h key⟩
  choose! keep htest hkeep using hdecides
  refine ⟨keep, ?_, hkeep⟩
  rw [filterNamed_eq_select hnamed hresolve, select_eq_filter htest]

/-! ### Deposits, withdrawals and the rest -/

/-- Three lists share no record and make up a fourth list. -/
structure Splits (xs ys zs rs : List Record) : Prop where
  perm : (xs ++ ys ++ zs).Perm rs
  disjoint : xs.Disjoint ys
  disjoint_left : xs.Disjoint zs
  disjoint_right : ys.Disjoint zs

private theorem splits_filter {p q o : Record → Bool} (hpq : ∀ r ∈ rs, p r = true → q r = false)
    (ho : ∀ r ∈ rs, o r = (!p r && !q r)) :
    Splits (rs.filter p) (rs.filter q) (rs.filter o) rs where
  perm := by
    -- The second and the third list are the two parts of what the first one leaves.
    have hq : rs.filter q = (rs.filter fun r => !p r).filter q := by
      rw [List.filter_filter]
      refine List.filter_congr fun r hr => ?_
      cases hp : p r
      · rw [Bool.not_false, Bool.and_true]
      · rw [hpq r hr hp, Bool.false_and]
    have ho' : rs.filter o = (rs.filter fun r => !p r).filter fun r => !q r := by
      rw [List.filter_filter]
      refine List.filter_congr fun r hr => ?_
      rw [ho r hr, Bool.and_comm]
    rw [List.append_assoc, hq, ho']
    exact ((List.filter_append_perm q _).append_left _).trans (List.filter_append_perm p rs)
  disjoint r hp hq := by
    obtain ⟨hr, hp⟩ := List.mem_filter.1 hp
    rw [List.mem_filter, hpq r hr hp] at hq
    exact absurd hq.2 Bool.false_ne_true
  disjoint_left r hp hz := by
    obtain ⟨hr, hp⟩ := List.mem_filter.1 hp
    rw [List.mem_filter, ho r hr, hp] at hz
    exact absurd hz.2 Bool.false_ne_true
  disjoint_right r hq hz := by
    obtain ⟨hr, hq⟩ := List.mem_filter.1 hq
    rw [List.mem_filter, ho r hr, hq, Bool.not_true, Bool.and_false] at hz
    exact absurd hz.2 Bool.false_ne_true

/-- The records that a filter by the amount alone keeps. -/
def byAmount (rs : List Record) (v : Value) : Outcome (List Record) :=
  filterNamed rs [(FilterKey.amount.toText, .value v)] false

private theorem ne_null_of_ofAmount {v : Value} {c : Criterion}
    (h : Criterion.ofAmount (.value v) = .ok c) : v ≠ .null := by
  rintro rfl
  cases h

/-- A criterion for the amount alone is resolved whatever the transactions are. -/
theorem resolve_amount (ts : List Transaction) {v : Value} {c : Criterion}
    (h : Criterion.ofAmount (.value v) = .ok c) :
    Criterion.resolve ts [(.amount, .value v)] = .ok [c] := by
  have hpresent : (Argument.value v).isAbsent = false := by
    rw [← Bool.not_eq_true, Criterion.isAbsent_iff]
    exact ne_null_of_ofAmount h
  have hone : Criterion.resolve ts [(.amount, .value v)] =
      if (Argument.value v).isAbsent then .ok [] else do
        return [← Criterion.ofAmount (.value v)] := rfl
  rw [hone, hpresent, h]
  rfl

/-- Filtering by the amount selects by the one criterion that it stands for. -/
theorem byAmount_eq_select (rs : List Record) {v : Value} {c : Criterion}
    (h : Criterion.ofAmount (.value v) = .ok c) : byAmount rs v = select [c] false rs :=
  filterNamed_eq_select rfl (resolve_amount _ h) false

private theorem byAmount_keeps (hrs : ∀ r ∈ rs, Criterion.IsFilterable r.transaction) {v : Value}
    {c : Criterion} (h : Criterion.ofAmount (.value v) = .ok c) :
    ∃ keep : Record → Bool, byAmount rs v = .ok (rs.filter keep) ∧
      ∀ r ∈ rs, ∀ q, r.transaction.amount.quantity? = some q →
        (keep r = true ↔ Criterion.SaysAmount q v) := by
  have hne : v ≠ .null := ne_null_of_ofAmount h
  have hnamed : Criteria.ofNamed [(FilterKey.amount.toText, .value v)] =
      .ok [(.amount, .value v)] := rfl
  have hresolve := resolve_amount (rs.map (·.transaction)) h
  have hplain : ∀ e ∈ [(FilterKey.amount.toText, Argument.value v)], Criterion.IsPlain e := by
    intro e he
    obtain rfl := List.mem_singleton.1 he
    have hkey : FilterKey.amount.toText ≠ FilterKey.date.toText := by decide
    exact ⟨v, rfl, fun h => absurd h hkey⟩
  obtain ⟨keep, hfilter, hkeep⟩ := filterNamed_keeps hrs hplain hnamed hresolve
  refine ⟨keep, hfilter, fun r hr q hq => (hkeep r hr).trans ?_⟩
  rw [← Criterion.says_amount hq]
  constructor
  · exact fun h => h .amount v rfl hne
  · intro h key w hw _
    cases key with
    | amount =>
      cases hw
      exact h
    | _ => cases hw

section Split

variable {deposit withdrawal : Text} {zero : Value}

/-- A word for a deposit stands for a positive sign. -/
theorem ofAmount_deposit (hdeposit : Text.lower deposit.trim ∈ Criterion.depositWords) :
    Criterion.ofAmount (.value (.text deposit)) = .ok (.sign true) := by
  have hword : Criterion.depositWords.contains (Text.lower deposit.trim) = true :=
    List.contains_iff_mem.2 hdeposit
  unfold Criterion.ofAmount
  dsimp only
  rw [if_pos hword]

/-- A word for a withdrawal stands for a negative sign. -/
theorem ofAmount_withdrawal
    (hwithdrawal : Text.lower withdrawal.trim ∈ Criterion.withdrawalWords) :
    Criterion.ofAmount (.value (.text withdrawal)) = .ok (.sign false) := by
  have hword : Criterion.withdrawalWords.contains (Text.lower withdrawal.trim) = true :=
    List.contains_iff_mem.2 hwithdrawal
  have hother : ¬Criterion.depositWords.contains (Text.lower withdrawal.trim) = true := fun h =>
    Criterion.not_mem_withdrawalWords (List.contains_iff_mem.1 h) hwithdrawal
  unfold Criterion.ofAmount
  dsimp only
  rw [if_neg hother, if_pos hword]

private theorem ofAmount_zero (hzero : zero.sequence? = some [.int 0, .int 0]) :
    Criterion.ofAmount (.value zero) =
      .ok (.inRange .amount (.decimal (.ofInt 0)) (.decimal (.ofInt 0))) := by
  have hbounds : (Criterion.isBound (.int 0) && Criterion.isBound (.int 0)) = true := rfl
  unfold Criterion.ofAmount
  split
  · next heq => cases heq
  · next heq =>
    cases heq
    cases hzero
  · next heq =>
    cases heq
    rw [hzero]
    dsimp only
    rw [if_pos hbounds, Criterion.ofAmounts, Transaction.toAmount_int Transaction.hasNumeral_zero]
    rfl

/-- The filters for deposits, for withdrawals and for the range from zero to zero split the
records. -/
theorem splits_byAmount (hrs : ∀ r ∈ rs, Criterion.IsFilterable r.transaction)
    (hdeposit : Text.lower deposit.trim ∈ Criterion.depositWords)
    (hwithdrawal : Text.lower withdrawal.trim ∈ Criterion.withdrawalWords)
    (hzero : zero.sequence? = some [.int 0, .int 0]) :
    ∃ xs ys zs, byAmount rs (.text deposit) = .ok xs ∧ byAmount rs (.text withdrawal) = .ok ys ∧
      byAmount rs zero = .ok zs ∧ Splits xs ys zs rs := by
  obtain ⟨p, hp, hpos⟩ := byAmount_keeps hrs (ofAmount_deposit hdeposit)
  obtain ⟨n, hn, hneg⟩ := byAmount_keeps hrs (ofAmount_withdrawal hwithdrawal)
  obtain ⟨o, ho, hbetween⟩ := byAmount_keeps hrs (ofAmount_zero hzero)
  refine ⟨_, _, _, hp, hn, ho, splits_filter ?_ ?_⟩
  · intro r hr h
    obtain ⟨q, hq⟩ := (hrs r hr).amount
    rw [hpos r hr q hq, Criterion.saysAmount_deposit hdeposit] at h
    rw [← Bool.not_eq_true, hneg r hr q hq, Criterion.saysAmount_withdrawal hwithdrawal]
    exact lt_asymm h
  · intro r hr
    obtain ⟨q, hq⟩ := (hrs r hr).amount
    have hrange : o r = true ↔ Quantity.ofRat 0 ≤ q ∧ q ≤ Quantity.ofRat 0 :=
      (hbetween r hr q hq).trans (Criterion.saysAmount_range hzero rfl rfl)
    rw [Bool.eq_iff_iff, hrange, Bool.and_eq_true, Bool.not_eq_true', Bool.not_eq_true',
      ← Bool.not_eq_true, ← Bool.not_eq_true, hpos r hr q hq, hneg r hr q hq,
      Criterion.saysAmount_deposit hdeposit, Criterion.saysAmount_withdrawal hwithdrawal, not_lt,
      not_lt, and_comm]

end Split

/-- A filter keeps exactly the records that meet its arguments, in their order. In particular the
filters for deposits, for withdrawals and for the range from zero to zero split the records. -/
theorem filterNamed_eq_filter {named : List (Text × Argument)} {arguments : Criteria}
    {cs : List Criterion} (hrs : ∀ r ∈ rs, Criterion.IsFilterable r.transaction)
    (hplain : ∀ e ∈ named, Criterion.IsPlain e) (hnamed : Criteria.ofNamed named = .ok arguments)
    (hresolve : Criterion.resolve (rs.map (·.transaction)) arguments = .ok cs) :
    (∃ keep : Record → Bool, filterNamed rs named false = .ok (rs.filter keep) ∧
      ∀ r ∈ rs, keep r = true ↔ Criterion.Met named r.transaction) ∧
    ∀ {deposit withdrawal : Text} {zero : Value},
      Text.lower deposit.trim ∈ Criterion.depositWords →
      Text.lower withdrawal.trim ∈ Criterion.withdrawalWords →
      zero.sequence? = some [.int 0, .int 0] →
      ∃ xs ys zs, byAmount rs (.text deposit) = .ok xs ∧
        byAmount rs (.text withdrawal) = .ok ys ∧ byAmount rs zero = .ok zs ∧ Splits xs ys zs rs :=
  ⟨filterNamed_keeps hrs hplain hnamed hresolve,
    fun hdeposit hwithdrawal hzero => splits_byAmount hrs hdeposit hwithdrawal hzero⟩

/-- The binary number next to 0.1, a little above it. -/
def tenth : Binary64 := .finite false 7205759403792794 (-56)

/-- A day in March. -/
def sampleDay : Date where
  year := 2024
  month := 3
  day := 5

/-- A deposit, a withdrawal without a date, and neither. -/
def sampleRecords : List Record :=
  [⟨0, { bank := .text "First Bank", account := .text [], postDate := .date sampleDay,
         description := .text "Corner SHOP", amount := .decimal (.finite false 1250 (-2)),
         tags := TagSet.ofList ["food"] }⟩,
   ⟨1, { bank := .text "first bank", account := .null, postDate := .null,
         description := .text "shop", amount := .int (-3) }⟩,
   ⟨2, { bank := .text [], account := .text [], postDate := .date sampleDay }⟩]

/-- Arguments that the first of these records meets. -/
def sampleCriteria : Criteria :=
  [(.date, .value (.text "2024-03")), (.bank, .value (.text "FIRST bank")),
   (.notes, .value .null), (.tags, .value (.list [.text "x", .text "food", .text "x"])),
   (.description, .value (.text "Shop")),
   (.amount, .value (.tuple [.float tenth, .decimal (.finite false 2 1)]))]

/-- The arguments by their names. -/
def sampleArguments : List (Text × Argument) := sampleCriteria.map fun e => (e.1.toText, e.2)

private theorem isFilterable_sampleRecords :
    ∀ r ∈ sampleRecords, Criterion.IsFilterable r.transaction := by
  simp only [sampleRecords, List.forall_mem_cons, List.not_mem_nil, false_imp_iff, implies_true,
    and_true]
  refine ⟨⟨?_, .inr ⟨_, rfl⟩, ⟨_, rfl⟩⟩, ⟨?_, .inl rfl, ⟨_, rfl⟩⟩, ?_, .inr ⟨_, rfl⟩, ⟨_, rfl⟩⟩ <;>
    simp [Transaction.get, FilterKey.field]

private theorem isPlain_sampleArguments : ∀ e ∈ sampleArguments, Criterion.IsPlain e := by
  simp only [sampleArguments, sampleCriteria, List.forall_mem_map, List.forall_mem_cons,
    List.not_mem_nil, false_imp_iff, implies_true,
    and_true]
  refine ⟨⟨_, rfl, fun _ => nofun⟩, ⟨_, rfl, fun _ => nofun⟩, ⟨_, rfl, fun _ => nofun⟩,
    ⟨_, rfl, fun _ => nofun⟩, ⟨_, rfl, fun _ => nofun⟩, ⟨_, rfl, fun _ => nofun⟩⟩

/-- Two keywords at once, and deposits, withdrawals and zero amounts as the parts of the records. -/
theorem filterNamed_eq_filter_sample :
    Criteria.ofNamed sampleArguments = .ok sampleCriteria ∧
    (∃ cs, Criterion.resolve (sampleRecords.map (·.transaction)) sampleCriteria = .ok cs) ∧
    (∃ keep : Record → Bool, filterNamed sampleRecords sampleArguments false =
        .ok (sampleRecords.filter keep) ∧
      ∀ r ∈ sampleRecords, keep r = true ↔ Criterion.Met sampleArguments r.transaction) ∧
    ∃ xs ys zs, byAmount sampleRecords (.text " Deposit") = .ok xs ∧
      byAmount sampleRecords (.text "w") = .ok ys ∧
      byAmount sampleRecords (.tuple [.int 0, .int 0]) = .ok zs ∧
      Splits xs ys zs sampleRecords := by
  have hnamed : Criteria.ofNamed sampleArguments = .ok sampleCriteria := rfl
  have hresolve : Criterion.resolve (sampleRecords.map (·.transaction)) sampleCriteria =
      .ok _ := rfl
  obtain ⟨hkeep, hsplit⟩ := filterNamed_eq_filter isFilterable_sampleRecords
    isPlain_sampleArguments hnamed hresolve
  exact ⟨hnamed, ⟨_, hresolve⟩, hkeep, hsplit (by decide) (by decide) rfl⟩

/-- The binary number and the decimal number that its text stands for. -/
def tenths : List Record :=
  [⟨0, { bank := .text [], account := .text [], postDate := .null, amount := .float tenth }⟩,
   ⟨1, { bank := .text [], account := .text [], postDate := .null,
         amount := .decimal (.finite false 1 (-1)) }⟩]

/-- The binary number lies between itself and itself, and the decimal number is below it; but the
range is one of decimal numbers, and only the decimal number is kept. -/
theorem byAmount_tenths :
    (∀ r ∈ tenths, Criterion.IsFilterable r.transaction) ∧
    tenths.map (fun r => Value.test .le (.float tenth) r.transaction.amount) =
      [.ok true, .ok false] ∧
    tenths.map (fun r => Value.test .le r.transaction.amount (.float tenth)) =
      [.ok true, .ok true] ∧
    byAmount tenths (.tuple [.float tenth, .float tenth]) = .ok (tenths.drop 1) := by
  refine ⟨?_, rfl, rfl, rfl⟩
  simp only [tenths, List.forall_mem_cons, List.not_mem_nil, false_imp_iff, implies_true, and_true]
  refine ⟨⟨?_, .inl rfl, ⟨_, rfl⟩⟩, ?_, .inl rfl, ⟨_, rfl⟩⟩ <;>
    simp [Transaction.get, FilterKey.field]

end Query

end LedgerTags
