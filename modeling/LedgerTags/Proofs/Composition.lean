import LedgerTags.Proofs.Filtering
import LedgerTags.Proofs.LatestDate
import LedgerTags.Proofs.Ordinals

/-!
# Filters that are negated, and filters one after the other

A filter tests every record in the same way whether it is negated or not, so the two filters fail
together or split the records (`filterNamed_negate`).

Filtering by some arguments and then by others is filtering by all of them, if no argument depends
on the collection. One kind of arguments does: a number of days is counted back from the latest date
of the collection. Filtering can take that date away, so that it moves back and the days with it;
but no record that is left is lost by this (`exists_ofDays_of_subset`). So filtering first can only
keep more, and a filter that is repeated keeps everything (`filterNamed_append`).
-/

namespace LedgerTags

/-! ### Tests of a record -/

namespace Criterion

section Tests

variable {front cs cs' both : List Criterion} {t : Transaction} {b b' : Bool}

/-- Whether a transaction meets criteria that can be tested. -/
def meets (cs : List Criterion) (t : Transaction) : Bool := (testAll t cs).toOption.getD false

/-- A test that succeeds says whether the transaction meets the criteria. -/
theorem meets_of_testAll (h : testAll t cs = .ok b) : meets cs t = b := by
  rw [meets, h]
  rfl

/-- Unless it fails, a test finds out whether the transaction meets the criteria. -/
theorem testAll_eq_meets (h : ∃ b, testAll t cs = .ok b) : testAll t cs = .ok (meets cs t) := by
  obtain ⟨b, hb⟩ := h
  rw [meets_of_testAll hb, hb]

/-- Testing one criterion is its test. -/
theorem testAll_singleton (t : Transaction) (c : Criterion) : testAll t [c] = c.test t := by
  rw [testAll]
  cases c.test t with
  | error e => rfl
  | ok b => cases b <;> rfl

private theorem testAll_append (t : Transaction) (cs cs' : List Criterion) :
    testAll t (cs ++ cs') = testAll t cs >>= fun b => if b then testAll t cs' else .ok false := by
  induction cs with
  | nil => rfl
  | cons c cs ih =>
    rw [List.cons_append, testAll, testAll]
    cases c.test t with
    | error e => rfl
    | ok b =>
      cases b with
      | false => rfl
      | true => exact ih

/-- Criteria that are tested first do not change that a test is the conjunction of two. -/
theorem testAll_append_and (h : testAll t (front ++ cs) = .ok b)
    (hboth : ∀ b, testAll t cs = .ok b → testAll t both = .ok (b && b')) :
    testAll t (front ++ both) = .ok (b && b') := by
  rw [testAll_append] at h ⊢
  obtain ⟨met, hmet, h⟩ := bind_eq_ok_iff.1 h
  rw [hmet, ok_bind]
  cases met with
  | false =>
    cases h
    rfl
  | true => exact hboth b h

/-- A test that goes well also goes well in another way, and whoever has passed passes still. -/
def Loosens (x y : Outcome Bool) : Prop :=
  ∀ b, x = .ok b → ∃ b', y = .ok b' ∧ (b = true → b' = true)

private theorem Loosens.refl (x : Outcome Bool) : Loosens x x := fun b hb => ⟨b, hb, id⟩

/-- Tests that loosen each other give the same answers. -/
theorem Loosens.antisymm {x y : Outcome Bool} (h : Loosens x y) (h' : Loosens y x) :
    x = .ok b ↔ y = .ok b := by
  have hsame (x y : Outcome Bool) (h : Loosens x y) (h' : Loosens y x) (hx : x = .ok b) :
      y = .ok b := by
    obtain ⟨b', hy, himp⟩ := h b hx
    obtain ⟨b'', hx', himp'⟩ := h' b' hy
    obtain rfl : b = b'' := Except.ok.inj (hx.symm.trans hx')
    rw [hy, Bool.eq_iff_iff.2 ⟨himp', himp⟩]
  exact ⟨hsame x y h h', hsame y x h' h⟩

/-- Criteria that are tested first do not change how the others compare. -/
theorem Loosens.append (h : Loosens (testAll t cs) (testAll t cs')) (front : List Criterion) :
    Loosens (testAll t (front ++ cs)) (testAll t (front ++ cs')) := by
  rw [testAll_append, testAll_append]
  intro b hb
  obtain ⟨met, hmet, hb⟩ := bind_eq_ok_iff.1 hb
  rw [hmet, ok_bind]
  cases met with
  | false => exact Loosens.refl _ b hb
  | true => exact h b hb

end Tests

end Criterion

/-! ### Complements -/

/-- Absent arguments ask for nothing. -/
theorem Criterion.resolveKeys_eq_nil {arguments : Criteria}
    (h : ∀ e ∈ arguments, e.2.isAbsent = true) (ts : List Transaction) (keys : List FilterKey) :
    resolveKeys ts arguments keys = .ok [] := by
  induction keys with
  | nil => rfl
  | cons key keys ih =>
    rw [resolveKeys]
    cases ha : arguments.lookup key with
    | none => exact ih
    | some a =>
      obtain ⟨before, after, rfl, -⟩ := List.lookup_eq_some_iff.1 ha
      dsimp only
      rw [if_pos (h (key, a) (List.mem_append_right _ List.mem_cons_self)), ih]

namespace Query

variable {rs : List Record} {named : List (Text × Argument)}

/-- A selection fails at the same record, negated or not, or every record can be tested. -/
theorem select_cases (cs : List Criterion) (rs : List Record) :
    (∃ e, ∀ negate, select cs negate rs = .error e) ∨
      ∀ negate, select cs negate rs =
        .ok (rs.filter fun r => Criterion.meets cs r.transaction != negate) := by
  induction rs with
  | nil => exact .inr fun negate => rfl
  | cons r rs ih =>
    cases htest : Criterion.testAll r.transaction cs with
    | error e =>
      refine .inl ⟨e, fun negate => ?_⟩
      rw [select, htest]
      rfl
    | ok met =>
      rcases ih with ⟨e, hrest⟩ | hrest
      · refine .inl ⟨e, fun negate => ?_⟩
        rw [select, htest, ok_bind, hrest]
        rfl
      · refine .inr fun negate => ?_
        rw [select, htest, ok_bind, hrest, ok_bind, List.filter_cons,
          Criterion.meets_of_testAll htest]
        rfl

/-- A filter fails in the same way, negated or not, or it selects by criteria. -/
theorem filterNamed_cases (rs : List Record) (named : List (Text × Argument)) :
    (∃ e, ∀ negate, filterNamed rs named negate = .error e) ∨
      ∃ arguments cs, Criteria.ofNamed named = .ok arguments ∧
        Criterion.resolve (rs.map (·.transaction)) arguments = .ok cs := by
  cases hnamed : Criteria.ofNamed named with
  | error e =>
    refine .inl ?_
    unfold filterNamed
    split
    · exact ⟨_, fun negate => rfl⟩
    split
    · exact ⟨_, fun negate => rfl⟩
    · rw [hnamed]
      exact ⟨e, fun negate => rfl⟩
  | ok arguments =>
    cases hresolve : Criterion.resolve (rs.map (·.transaction)) arguments with
    | error e =>
      refine .inl ⟨e, fun negate => ?_⟩
      rw [filterNamed_of_ofNamed hnamed, filter, hresolve]
      rfl
    | ok cs => exact .inr ⟨arguments, cs, rfl, hresolve⟩

/-- Without an argument everything is kept, and nothing if the filter is negated. -/
theorem filterNamed_absent (rs : List Record)
    (h : ∀ e ∈ named, e.2.isAbsent = true ∧ ∃ key : FilterKey, e.1 = key.toText) :
    filterNamed rs named false = .ok rs ∧ filterNamed rs named true = .ok [] := by
  obtain ⟨arguments, hnamed, hmem⟩ := Criteria.exists_ofNamed fun e he => (h e he).2
  have habsent : ∀ e ∈ arguments, e.2.isAbsent = true := fun e he => (h _ (hmem e he)).1
  have hresolve := Criterion.resolveKeys_eq_nil habsent (rs.map (·.transaction)) FilterKey.all
  have hselect (negate : Bool) : filterNamed rs named negate = select [] negate rs :=
    filterNamed_eq_select hnamed hresolve negate
  have hmeets (t : Transaction) : Criterion.meets [] t = true := rfl
  rcases select_cases [] rs with ⟨e, herror⟩ | hkept
  · have hout : ∃ out, select [] false rs = .ok out := exists_select_iff.2 fun _ _ => ⟨true, rfl⟩
    rw [herror] at hout
    obtain ⟨out, hout⟩ := hout
    cases hout
  · rw [hselect, hselect, hkept, hkept]
    simp [hmeets]

/-- Negation is a complement. A filter and its negation fail together with the same error, or they
split the records, each in the order of the collection. Without an argument the negated filter keeps
nothing. -/
theorem filterNamed_negate (rs : List Record) (named : List (Text × Argument)) :
    ((∃ e, filterNamed rs named false = .error e ∧ filterNamed rs named true = .error e) ∨
      ∃ keep : Record → Bool, filterNamed rs named false = .ok (rs.filter keep) ∧
        filterNamed rs named true = .ok (rs.filter fun r => !keep r)) ∧
    ((∀ e ∈ named, e.2.isAbsent = true ∧ ∃ key : FilterKey, e.1 = key.toText) →
      filterNamed rs named false = .ok rs ∧ filterNamed rs named true = .ok []) := by
  refine ⟨?_, filterNamed_absent rs⟩
  rcases filterNamed_cases rs named with ⟨e, herror⟩ | ⟨arguments, cs, hnamed, hresolve⟩
  · exact .inl ⟨e, herror false, herror true⟩
  have hselect := filterNamed_eq_select hnamed hresolve
  rcases select_cases cs rs with ⟨e, herror⟩ | hkept
  · refine .inl ⟨e, ?_, ?_⟩
    · rw [hselect, herror]
    · rw [hselect, herror]
  · refine .inr ⟨fun r => Criterion.meets cs r.transaction, ?_, ?_⟩
    · simp only [hselect, hkept, Bool.bne_false]
    · simp only [hselect, hkept, Bool.bne_true]

/-- A criterion without a value keeps every record, and none if it is negated. -/
theorem filterNamed_negate_sample :
    filterNamed sampleRecords [("name", .value .null)] false = .ok sampleRecords ∧
      filterNamed sampleRecords [("name", .value .null)] true = .ok [] := by
  refine (filterNamed_negate sampleRecords _).2 fun e he => ?_
  obtain rfl := List.mem_singleton.1 he
  exact ⟨rfl, .name, rfl⟩

end Query

/-! ### Parts of a collection -/

namespace Criterion

section Parts

variable {ts us : List Transaction} {arguments arguments' : Criteria} {keys keys' : List FilterKey}
  {a : Argument} {c : Criterion} {cs cs' : List Criterion}

/-- A date argument that is no number of days does not depend on the latest date. -/
theorem ofDate_congr (ha : ∀ n, a ≠ .value (.int n)) (latest latest' : Option Value) :
    ofDate latest a = ofDate latest' a := by
  cases a with
  | ask f => rfl
  | value v =>
    cases v with
    | int n => exact absurd rfl (ha n)
    | _ => rfl

/-- Without a post date a transaction is in no range of days. -/
theorem loosens_test_null {t : Transaction} (h : t.postDate = .null) (lo hi lo' hi' : Value) :
    Loosens ((inRange .date lo hi).test t) ((inRange .date lo' hi').test t) := by
  rw [test_dates_null h, test_dates_null h]
  exact Loosens.refl _

/-- What is left of the last days of a collection is among the last days of what is left. -/
theorem exists_ofDays_of_subset {n : ℕ} {latest latest' : Option Value}
    (hts : ∀ t ∈ ts, IsDated t.postDate) (hsub : us ⊆ ts) (hlatest : latestDate ts = .ok latest)
    (hlatest' : latestDate us = .ok latest') (h : ofDays n latest = .ok c) :
    ∃ c', ofDays n latest' = .ok c' ∧ ∀ t ∈ us, Loosens (c.test t) (c'.test t) := by
  have hus : ∀ t ∈ us, IsDated t.postDate := fun t ht => hts t (hsub ht)
  obtain ⟨⟨lo, hi, rfl⟩, hday⟩ := ofDays_eq_ok h
  rcases latestDate_eq_ok hus hlatest' with ⟨rfl, hnil⟩ | ⟨v, hv, rfl, -⟩
  · have hnull := null_of_postDates_eq_nil hnil
    exact ⟨_, rfl, fun t ht => loosens_test_null (hnull t ht) _ _ _ _⟩
  -- The collection has a latest date as well, from which the days are counted back.
  have hmem := postDates_subset hsub hv
  rcases latestDate_eq_ok hts hlatest with ⟨-, hnil⟩ | ⟨w, -, rfl, -⟩
  · rw [hnil] at hmem
    cases hmem
  obtain ⟨d, rfl⟩ := hday w rfl
  obtain ⟨d', rfl, hle⟩ := le_of_latestDate hts hlatest v hmem
  obtain ⟨first, hfirst, hrange⟩ := exists_ofDays_date d n
  obtain ⟨first', hfirst', hrange'⟩ := exists_ofDays_date d' n
  cases hrange.symm.trans h
  have hback : first'.le first = true := by
    rw [Date.le_iff_ordinal_le] at hle ⊢
    omega
  refine ⟨_, hrange', fun t ht => ?_⟩
  rcases null_or_mem_postDates ht with habsent | hdate
  · exact loosens_test_null habsent _ _ _ _
  · obtain ⟨e, he, hlast⟩ := le_of_latestDate hus hlatest' _ hdate
    rw [test_dates he, test_dates he]
    intro b hb
    cases hb
    refine ⟨_, rfl, fun hpass => ?_⟩
    obtain ⟨hlow, -⟩ := Bool.and_eq_true_iff.1 hpass
    exact Bool.and_eq_true_iff.2 ⟨Date.le_trans hback hlow, hlast⟩

/-- A date argument that a collection understands is understood by a part of it, and more of the
part passes then; if it is no number of days, it asks for the same. -/
theorem exists_ofArgument_of_subset (hts : ∀ t ∈ ts, IsDated t.postDate) (hsub : us ⊆ ts)
    (h : ofArgument ts .date a = .ok c) :
    ∃ c', ofArgument us .date a = .ok c' ∧ (∀ t ∈ us, Loosens (c.test t) (c'.test t)) ∧
      ((∀ n, a ≠ .value (.int n)) → c' = c) := by
  obtain ⟨latest, hlatest, h⟩ := bind_eq_ok_iff.1 h
  obtain ⟨latest', hlatest'⟩ := exists_latestDate_of_subset hts hlatest hsub
  have hpart : ofArgument us .date a = ofDate latest' a :=
    congrArg (· >>= fun latest => ofDate latest a) hlatest'
  rw [hpart]
  by_cases hint : ∃ n, a = .value (.int n)
  · obtain ⟨n, rfl⟩ := hint
    by_cases hn : n < 0
    · rw [ofDate, if_pos hn] at h
      cases h
    · rw [ofDate, if_neg hn] at h ⊢
      obtain ⟨c', hc', hloose⟩ := exists_ofDays_of_subset hts hsub hlatest hlatest' h
      exact ⟨c', hc', hloose, fun hnot => absurd rfl (hnot n)⟩
  · rw [ofDate_congr (fun n hn => hint ⟨n, hn⟩) latest latest'] at h
    exact ⟨c, h, fun t _ => Loosens.refl _, fun _ => rfl⟩

/-- The arguments for other keys than the date ask for the same in every collection. -/
theorem resolveKeys_congr (h : FilterKey.date ∉ keys) (ts us : List Transaction)
    (arguments : Criteria) : resolveKeys ts arguments keys = resolveKeys us arguments keys := by
  induction keys with
  | nil => rfl
  | cons key keys ih =>
    rw [List.mem_cons, not_or] at h
    have hkey (a : Argument) : ofArgument ts key a = ofArgument us key a := by
      cases key with
      | date => exact absurd rfl h.1
      | _ => rfl
    rw [resolveKeys, resolveKeys, ih h.2]
    cases arguments.lookup key with
    | none => rfl
    | some a =>
      dsimp only
      rw [hkey]

private theorem resolveKeys_append (ts : List Transaction) (arguments : Criteria)
    (keys keys' : List FilterKey) :
    resolveKeys ts arguments (keys ++ keys') = (do
      let cs ← resolveKeys ts arguments keys
      let cs' ← resolveKeys ts arguments keys'
      return cs ++ cs') := by
  induction keys with
  | nil =>
    rw [List.nil_append, resolveKeys, ok_bind]
    cases resolveKeys ts arguments keys' <;> rfl
  | cons key keys ih =>
    rw [List.cons_append, resolveKeys, resolveKeys, ih]
    cases arguments.lookup key with
    | none => rfl
    | some a =>
      dsimp only
      split
      · rfl
      cases ofArgument ts key a with
      | error e => rfl
      | ok c =>
        cases resolveKeys ts arguments keys with
        | error e => rfl
        | ok cs => cases resolveKeys ts arguments keys' <;> rfl

private theorem resolveKeys_append_eq_ok_iff : resolveKeys ts arguments (keys ++ keys') = .ok cs ↔
    ∃ front back, resolveKeys ts arguments keys = .ok front ∧
      resolveKeys ts arguments keys' = .ok back ∧ cs = front ++ back := by
  rw [resolveKeys_append, bind_eq_ok_iff]
  constructor
  · rintro ⟨front, hfront, h⟩
    obtain ⟨back, hback, h⟩ := bind_eq_ok_iff.1 h
    exact ⟨front, back, hfront, hback, (Except.ok.inj h).symm⟩
  · rintro ⟨front, back, hfront, hback, rfl⟩
    exact ⟨front, hfront, bind_eq_ok_iff.2 ⟨back, hback, rfl⟩⟩

/-- The date asks for one criterion at most. -/
theorem exists_resolveKeys_date_of_subset (hts : ∀ t ∈ ts, IsDated t.postDate) (hsub : us ⊆ ts)
    (h : resolveKeys ts arguments [.date] = .ok cs) :
    ∃ cs', resolveKeys us arguments [.date] = .ok cs' ∧
      (∀ t ∈ us, Loosens (testAll t cs) (testAll t cs')) ∧
      ((∀ n, arguments.lookup .date ≠ some (.value (.int n))) → cs' = cs) := by
  rw [resolveKeys] at h ⊢
  cases ha : arguments.lookup .date with
  | none =>
    rw [ha] at h
    exact ⟨cs, h, fun t _ => Loosens.refl _, fun _ => rfl⟩
  | some a =>
    rw [ha] at h
    dsimp only at h ⊢
    split at h
    · next habsent =>
      rw [if_pos habsent]
      exact ⟨cs, h, fun t _ => Loosens.refl _, fun _ => rfl⟩
    · next hpresent =>
      rw [if_neg hpresent]
      obtain ⟨c, hc, h⟩ := bind_eq_ok_iff.1 h
      cases h
      obtain ⟨c', hc', hloose, hsame⟩ := exists_ofArgument_of_subset hts hsub hc
      refine ⟨[c'], by rw [hc']; rfl, fun t ht => ?_, fun hint => ?_⟩
      · rw [testAll_singleton, testAll_singleton]
        exact hloose t ht
      · rw [hsame fun n hn => hint n (congrArg some hn)]

/-- Arguments that a collection understands are understood by a part of it, and more of the part
passes then; without a number of days they ask for the same. -/
theorem exists_resolve_of_subset (hts : ∀ t ∈ ts, IsDated t.postDate) (hsub : us ⊆ ts)
    (h : resolve ts arguments = .ok cs) :
    ∃ cs', resolve us arguments = .ok cs' ∧
      (∀ t ∈ us, Loosens (testAll t cs) (testAll t cs')) ∧
      ((∀ n, arguments.lookup .date ≠ some (.value (.int n))) → cs' = cs) := by
  -- The date comes last, after criteria that are the same in both collections.
  have hkeys : FilterKey.all = FilterKey.all.dropLast ++ [.date] := rfl
  rw [resolve, hkeys] at h ⊢
  obtain ⟨front, back, hfront, hback, rfl⟩ := resolveKeys_append_eq_ok_iff.1 h
  obtain ⟨back', hback', hloose, hsame⟩ := exists_resolveKeys_date_of_subset hts hsub hback
  rw [resolveKeys_congr (by decide) ts us] at hfront
  exact ⟨front ++ back', resolveKeys_append_eq_ok_iff.2 ⟨front, back', hfront, hback', rfl⟩,
    fun t ht => (hloose t ht).append front, fun hint => by rw [hsame hint]⟩

/-! ### Arguments of two filters -/

/-- If no key has arguments in both filters, a record that can be tested by each of them meets all
arguments together exactly if it meets those of each. -/
theorem exists_resolveKeys_append
    (hone : ∀ key, arguments.lookup key = none ∨ arguments'.lookup key = none)
    (h : resolveKeys ts arguments keys = .ok cs) (h' : resolveKeys ts arguments' keys = .ok cs') :
    ∃ both, resolveKeys ts (arguments ++ arguments') keys = .ok both ∧
      ∀ t b b', testAll t cs = .ok b → testAll t cs' = .ok b' →
        testAll t both = .ok (b && b') := by
  induction keys generalizing cs cs' with
  | nil =>
    cases h
    cases h'
    refine ⟨[], rfl, fun t b b' hb hb' => ?_⟩
    cases hb
    cases hb'
    rfl
  | cons key keys ih =>
    rw [← List.singleton_append] at h h'
    obtain ⟨front, rest, hfront, hrest, rfl⟩ := resolveKeys_append_eq_ok_iff.1 h
    obtain ⟨front', rest', hfront', hrest', rfl⟩ := resolveKeys_append_eq_ok_iff.1 h'
    obtain ⟨both, hboth, htest⟩ := ih hrest hrest'
    have hstep {more : List Criterion}
        (hmore : resolveKeys ts (arguments ++ arguments') [key] = .ok more) :
        resolveKeys ts (arguments ++ arguments') (key :: keys) = .ok (more ++ both) :=
      resolveKeys_append_eq_ok_iff.2 ⟨more, both, hmore, hboth, rfl⟩
    rw [resolveKeys, List.lookup_append] at hstep
    rw [resolveKeys] at hfront hfront'
    -- The filter without an argument for the key adds nothing.
    rcases hone key with hnone | hnone
    · rw [hnone] at hfront hstep
      cases hfront
      refine ⟨front' ++ both, hstep hfront', fun t b b' hb hb' => ?_⟩
      rw [Bool.and_comm]
      exact testAll_append_and hb' fun b' hb' => by rw [htest t b b' hb hb', Bool.and_comm]
    · rw [hnone] at hfront' hstep
      rw [Option.or_none] at hstep
      cases hfront'
      exact ⟨front ++ both, hstep hfront,
        fun t b b' hb hb' => testAll_append_and hb fun b hb => htest t b b' hb hb'⟩

end Parts

end Criterion

namespace Criteria

private theorem ofNamed_append {first second : List (Text × Argument)}
    {arguments arguments' : Criteria}
    (h : ofNamed first = .ok arguments) (h' : ofNamed second = .ok arguments') :
    ofNamed (first ++ second) = .ok (arguments ++ arguments') := by
  induction first generalizing arguments with
  | nil =>
    cases h
    exact h'
  | cons e first ih =>
    obtain ⟨name, a⟩ := e
    rw [ofNamed] at h
    rw [List.cons_append, ofNamed]
    split at h
    · next key hkey =>
      obtain ⟨rest, hrest, h⟩ := bind_eq_ok_iff.1 h
      cases h
      rw [ih hrest]
      rfl
    · cases h

/-- Arguments with other names are arguments for other keys. -/
theorem lookup_eq_none_or {first second : List (Text × Argument)} {arguments arguments' : Criteria}
    (h : ofNamed first = .ok arguments) (h' : ofNamed second = .ok arguments')
    (hdisjoint : (first.map (·.1)).Disjoint (second.map (·.1))) (key : FilterKey) :
    arguments.lookup key = none ∨ arguments'.lookup key = none := by
  rw [lookup_ofNamed h, lookup_ofNamed h', List.lookup_eq_none_iff, List.lookup_eq_none_iff]
  by_cases hmem : key.toText ∈ first.map (·.1)
  · refine .inr fun e he => ?_
    have hne : key.toText ≠ e.1 := fun heq =>
      hdisjoint hmem (heq ▸ List.mem_map_of_mem he)
    simpa using hne
  · refine .inl fun e he => ?_
    have hne : key.toText ≠ e.1 := fun heq => hmem (heq ▸ List.mem_map_of_mem he)
    simpa using hne

end Criteria

/-! ### Filters -/

namespace Query

variable {rs out inner : List Record} {named first second : List (Text × Argument)}

/-- Less is kept by a test that fewer records pass. -/
theorem filter_sublist_filter {keep keep' : Record → Bool}
    (h : ∀ r ∈ rs, keep r = true → keep' r = true) :
    (rs.filter keep).Sublist (rs.filter keep') := by
  have hkept : rs.filter keep = (rs.filter keep').filter keep := by
    rw [List.filter_filter]
    refine List.filter_congr fun r hr => ?_
    rw [Bool.eq_iff_iff, Bool.and_eq_true]
    exact ⟨fun hkeep => ⟨hkeep, h r hr hkeep⟩, And.left⟩
  rw [hkept]
  exact List.filter_sublist

/-- What a filter keeps are the records that meet criteria by which every record can be tested, or
those that do not if it is negated. -/
theorem filterNamed_eq_ok_iff_bne {negate : Bool} : filterNamed rs named negate = .ok out ↔
    ∃ arguments cs, Criteria.ofNamed named = .ok arguments ∧
      Criterion.resolve (rs.map (·.transaction)) arguments = .ok cs ∧
      (∀ r ∈ rs, ∃ b, Criterion.testAll r.transaction cs = .ok b) ∧
      out = rs.filter fun r => Criterion.meets cs r.transaction != negate := by
  have hselect {cs : List Criterion}
      (htest : ∀ r ∈ rs, ∃ b, Criterion.testAll r.transaction cs = .ok b) :
      select cs negate rs =
        .ok (rs.filter fun r => Criterion.meets cs r.transaction != negate) := by
    obtain ⟨kept, hkept⟩ : ∃ kept, select cs negate rs = .ok kept := exists_select_iff.2 htest
    rcases select_cases cs rs with ⟨e, herror⟩ | hfilter
    · rw [herror] at hkept
      cases hkept
    · exact hfilter negate
  constructor
  · intro h
    rcases filterNamed_cases rs named with ⟨e, herror⟩ | ⟨arguments, cs, hnamed, hresolve⟩
    · rw [herror] at h
      cases h
    · rw [filterNamed_eq_select hnamed hresolve] at h
      have htest := exists_select_iff.1 ⟨out, h⟩
      rw [hselect htest] at h
      exact ⟨arguments, cs, hnamed, hresolve, htest, (Except.ok.inj h).symm⟩
  · rintro ⟨arguments, cs, hnamed, hresolve, htest, rfl⟩
    rw [filterNamed_eq_select hnamed hresolve, hselect htest]

/-- What a filter keeps are the records that meet criteria by which every record can be tested. -/
theorem filterNamed_eq_ok_iff : filterNamed rs named false = .ok out ↔
    ∃ arguments cs, Criteria.ofNamed named = .ok arguments ∧
      Criterion.resolve (rs.map (·.transaction)) arguments = .ok cs ∧
      (∀ r ∈ rs, ∃ b, Criterion.testAll r.transaction cs = .ok b) ∧
      out = rs.filter fun r => Criterion.meets cs r.transaction := by
  simp only [filterNamed_eq_ok_iff_bne, Bool.bne_false]

section Dated

variable (hrs : ∀ r ∈ rs, Criterion.IsDated r.transaction.postDate)

include hrs

/-- A filter that applies to records applies to a part of them. Whoever has met its criteria still
meets them, and without a number of days they are the same. -/
theorem exists_filterNamed_of_subset {arguments : Criteria} {cs : List Criterion}
    (hsub : inner ⊆ rs) (hnamed : Criteria.ofNamed named = .ok arguments)
    (hresolve : Criterion.resolve (rs.map (·.transaction)) arguments = .ok cs)
    (htest : ∀ r ∈ rs, ∃ b, Criterion.testAll r.transaction cs = .ok b) :
    ∃ cs', filterNamed inner named false =
        .ok (inner.filter fun r => Criterion.meets cs' r.transaction) ∧
      (∀ r ∈ inner, Criterion.meets cs r.transaction = true →
        Criterion.meets cs' r.transaction = true) ∧
      ((∀ n, named.lookup FilterKey.date.toText ≠ some (.value (.int n))) → cs' = cs) := by
  obtain ⟨cs', hresolve', hloose, hsame⟩ := Criterion.exists_resolve_of_subset
    (List.forall_mem_map.2 hrs) (List.map_subset _ hsub) hresolve
  have hleft : ∀ r ∈ inner, ∃ b', Criterion.testAll r.transaction cs' = .ok b' ∧
      (Criterion.meets cs r.transaction = true → b' = true) := by
    intro r hr
    obtain ⟨b, hb⟩ := htest r (hsub hr)
    rw [Criterion.meets_of_testAll hb]
    exact hloose _ (List.mem_map_of_mem hr) b hb
  refine ⟨cs', ?_, fun r hr hmeets => ?_, fun hint => hsame fun n => ?_⟩
  · refine filterNamed_eq_ok_iff.2 ⟨arguments, cs', hnamed, hresolve', fun r hr => ?_, rfl⟩
    obtain ⟨b', hb', -⟩ := hleft r hr
    exact ⟨b', hb'⟩
  · obtain ⟨b', hb', himp⟩ := hleft r hr
    rw [Criterion.meets_of_testAll hb']
    exact himp hmeets
  · rw [Criteria.lookup_ofNamed hnamed]
    exact hint n

/-- Filtering by some arguments and then by others keeps at least what filtering by all of them
keeps, and exactly that if the others have no number of days. -/
theorem exists_filterNamed_append (hdisjoint : (first.map (·.1)).Disjoint (second.map (·.1)))
    (hfirst : filterNamed rs first false = .ok inner)
    (hsecond : filterNamed rs second false = .ok out) :
    ∃ both outer, filterNamed rs (first ++ second) false = .ok both ∧
      filterNamed inner second false = .ok outer ∧ both.Sublist outer ∧
      ((∀ n, second.lookup FilterKey.date.toText ≠ some (.value (.int n))) → both = outer) := by
  obtain ⟨arguments, cs, hnamed, hresolve, htest, rfl⟩ := filterNamed_eq_ok_iff.1 hfirst
  obtain ⟨arguments', cs', hnamed', hresolve', htest', -⟩ := filterNamed_eq_ok_iff.1 hsecond
  obtain ⟨both, hboth, hall⟩ := Criterion.exists_resolveKeys_append
    (Criteria.lookup_eq_none_or hnamed hnamed' hdisjoint) hresolve hresolve'
  have htestBoth : ∀ r ∈ rs, Criterion.testAll r.transaction both =
      .ok (Criterion.meets cs r.transaction && Criterion.meets cs' r.transaction) := fun r hr =>
    hall _ _ _ (Criterion.testAll_eq_meets (htest r hr)) (Criterion.testAll_eq_meets (htest' r hr))
  have hfilter : filterNamed rs (first ++ second) false =
      .ok ((rs.filter fun r => Criterion.meets cs r.transaction).filter fun r =>
        Criterion.meets cs' r.transaction) := by
    rw [filterNamed_eq_select (Criteria.ofNamed_append hnamed hnamed') hboth,
      select_eq_filter htestBoth, List.filter_filter]
    simp only [Bool.and_comm]
  -- The second filter sees what the first one has left.
  obtain ⟨cs'', houter, hmeets, hsame⟩ :=
    exists_filterNamed_of_subset hrs (List.filter_subset_self _) hnamed' hresolve' htest'
  refine ⟨_, _, hfilter, houter, ?_, fun hint => by rw [hsame hint]⟩
  exact filter_sublist_filter hmeets

/-- A filter that is repeated keeps everything. -/
theorem filterNamed_self (h : filterNamed rs named false = .ok out) :
    filterNamed out named false = .ok out := by
  obtain ⟨arguments, cs, hnamed, hresolve, htest, rfl⟩ := filterNamed_eq_ok_iff.1 h
  obtain ⟨cs', hagain, hmeets, -⟩ :=
    exists_filterNamed_of_subset hrs (List.filter_subset_self _) hnamed hresolve htest
  have hall := List.filter_eq_self.2 fun r hr => hmeets r hr (List.mem_filter.1 hr).2
  rw [hagain, hall]

/-- Filters compose. Let days, or times of days, be the post dates. If a filter by some arguments
and one by others with other names apply to the records, then filtering by the ones and next by the
others keeps what filtering by all of them keeps, and more only if the others have a number of days.
A filter that is repeated keeps everything. -/
theorem filterNamed_append :
    (∀ first second inner out, (first.map (·.1)).Disjoint (second.map (·.1)) →
      filterNamed rs first false = .ok inner → filterNamed rs second false = .ok out →
      ∃ both outer, filterNamed rs (first ++ second) false = .ok both ∧
        filterNamed inner second false = .ok outer ∧ both.Sublist outer ∧
        ((∀ n, second.lookup FilterKey.date.toText ≠ some (.value (.int n))) → both = outer)) ∧
    ∀ named, (filterNamed rs named false >>= fun out => filterNamed out named false) =
      filterNamed rs named false := by
  refine ⟨fun first second inner out => exists_filterNamed_append hrs, fun named => ?_⟩
  cases h : filterNamed rs named false with
  | error e => rfl
  | ok out => rw [ok_bind, filterNamed_self hrs h]

end Dated

/-- Arguments for the first bank. -/
def firstBank : List (Text × Argument) := [("bank", .value (.text "first BANK"))]

/-- Arguments for the last day. -/
def lastDay : List (Text × Argument) := [("date", .value (.int 0))]

/-- Filtering by a bank and by the last day, at once and one after the other. -/
theorem filterNamed_append_sample :
    (∀ r ∈ sampleRecords, Criterion.IsDated r.transaction.postDate) ∧
    (∃ both outer, filterNamed sampleRecords (firstBank ++ lastDay) false = .ok both ∧
        filterNamed (sampleRecords.take 2) lastDay false = .ok outer ∧ both.Sublist outer) ∧
    ∀ named, (filterNamed sampleRecords named false >>= fun out => filterNamed out named false) =
      filterNamed sampleRecords named false := by
  have hrs : ∀ r ∈ sampleRecords, Criterion.IsDated r.transaction.postDate := by
    simp only [sampleRecords, List.forall_mem_cons, List.not_mem_nil, false_imp_iff, implies_true,
      and_true]
    exact ⟨.inr rfl, .inl rfl, .inr rfl⟩
  have hdisjoint : (firstBank.map (·.1)).Disjoint (lastDay.map (·.1)) := by
    intro name hbank hdate
    have hname := List.mem_singleton.1 hbank
    rw [List.mem_singleton.1 hdate] at hname
    cases hname
  have hfirst : filterNamed sampleRecords firstBank false = .ok (sampleRecords.take 2) := rfl
  have hsecond : ∃ out, filterNamed sampleRecords lastDay false = .ok out := by
    have hdays : Criterion.ofDays 0 (some (.date sampleDay)) =
        .ok (.inRange .date (.date sampleDay) (.date sampleDay)) := by
      rw [Criterion.ofDays, Nat.zero_min, Date.back_zero]
      rfl
    have hresolve : Criterion.resolve (sampleRecords.map (·.transaction))
        [(.date, .value (.int 0))] =
          .ok [.inRange .date (.date sampleDay) (.date sampleDay)] := by
      show (Criterion.ofDays 0 (some (.date sampleDay)) >>= fun c => .ok [c]) = _
      rw [hdays]
      rfl
    exact ⟨_, filterNamed_eq_select rfl hresolve false⟩
  obtain ⟨out, hsecond⟩ := hsecond
  obtain ⟨hone, hself⟩ := filterNamed_append hrs
  obtain ⟨both, outer, hboth, houter, hsub, -⟩ := hone _ _ _ _ hdisjoint hfirst hsecond
  exact ⟨hrs, ⟨both, outer, hboth, houter, hsub⟩, hself⟩

end Query

end LedgerTags
