import LedgerTags.Proofs.DateFilters
import LedgerTags.Proofs.Grouping
import LedgerTags.Proofs.RefusedArguments

/-!
# Errors of arguments

A query settles its arguments before it looks at what the records hold and before it asks the caller
anything (`SettlesFirst`). Only a number of days looks at the collection while it is understood, for
the latest date, and no latest date makes it fail (`corresponds_ofDate`). So two collections of
records with days, and two lists of arguments that differ in nothing but the questions to be asked
(`ArgumentsAlike`), fail with the same error or not at all.

What two such runs have in common is a relation between their outcomes (`Corresponds`) that every
step of understanding the arguments keeps.
-/

namespace LedgerTags

/-! ### Outcomes that correspond -/

/-- Two computations fail with the same error, or succeed with related results. -/
inductive Corresponds {α β : Type} (R : α → β → Prop) : Outcome α → Outcome β → Prop where
  | error (e : Error) : Corresponds R (.error e) (.error e)
  | ok {a : α} {b : β} (h : R a b) : Corresponds R (.ok a) (.ok b)

namespace Corresponds

variable {α β γ δ : Type} {R : α → β → Prop} {S : γ → δ → Prop} {x : Outcome α} {y : Outcome β}
  {e : Error}

private theorem bind {f : α → Outcome γ} {g : β → Outcome δ} (h : Corresponds R x y)
    (hfg : ∀ a b, R a b → Corresponds S (f a) (g b)) : Corresponds S (x >>= f) (y >>= g) := by
  cases h with
  | error e => exact .error e
  | ok h => exact hfg _ _ h

private theorem refl (x : Outcome α) : Corresponds (fun _ _ => True) x x := by
  cases x with
  | error e => exact .error e
  | ok a => exact .ok trivial

private theorem eq_error (h : Corresponds R x y) (hx : x = .error e) : y = .error e := by
  subst hx
  cases h
  rfl

private theorem exists_ok {a : α} (h : Corresponds R x y) (hx : x = .ok a) : ∃ b, y = .ok b := by
  subst hx
  cases h
  exact ⟨_, rfl⟩

end Corresponds

/-! ### Arguments that are alike -/

/-- Two arguments are the same value, or both questions. -/
inductive Argument.Alike : Argument → Argument → Prop where
  | value (v : Value) : Alike (.value v) (.value v)
  | ask (f g : Value → Outcome Value) : Alike (.ask f) (.ask g)

/-- Two keys are the same value, or both computed. -/
inductive KeyArgument.Alike : KeyArgument → KeyArgument → Prop where
  | value (v : Value) : Alike (.value v) (.value v)
  | key (k l : Key) : Alike (.key k) (.key l)

/-- The arguments of two lists are alike, under the same names. -/
def ArgumentsAlike {κ : Type} (xs ys : List (κ × Argument)) : Prop :=
  List.Forall₂ (fun p q => p.1 = q.1 ∧ p.2.Alike q.2) xs ys

section Alike

variable {κ : Type} {xs ys : List (κ × Argument)} {a b : Argument}

private theorem Argument.Alike.toValue_eq (h : a.Alike b) : a.toValue = b.toValue := by
  cases h <;> rfl

private theorem Argument.Alike.isAbsent_eq (h : a.Alike b) : a.isAbsent = b.isAbsent := by
  cases h <;> rfl

/-- Under a name both lists have nothing, or arguments that are alike. -/
theorem ArgumentsAlike.lookup [BEq κ] (h : ArgumentsAlike xs ys) (k : κ) :
    Option.Rel Argument.Alike (xs.lookup k) (ys.lookup k) := by
  induction h with
  | nil => exact .none
  | @cons p q _ _ hpq _ ih =>
    obtain ⟨name, a⟩ := p
    obtain ⟨name', b⟩ := q
    obtain ⟨rfl, hab⟩ : name = name' ∧ a.Alike b := hpq
    rw [List.lookup_cons, List.lookup_cons]
    cases k == name with
    | true => exact .some hab
    | false => exact ih

end Alike

namespace Criteria

variable {named named' : List (Text × Argument)}

private theorem corresponds_ofNamed (h : ArgumentsAlike named named') :
    Corresponds ArgumentsAlike (ofNamed named) (ofNamed named') := by
  induction h with
  | nil => exact .ok .nil
  | @cons p q _ _ hpq _ ih =>
    obtain ⟨name, a⟩ := p
    obtain ⟨name', b⟩ := q
    obtain ⟨rfl, hab⟩ : name = name' ∧ a.Alike b := hpq
    rw [ofNamed, ofNamed]
    cases FilterKey.ofText? name with
    | none => exact .error _
    | some key => exact ih.bind fun xs ys hxy => .ok (.cons ⟨rfl, hab⟩ hxy)

/-- What is chosen among arguments by their names is chosen alike. -/
theorem alike_foldl (choose : Text → Text → Bool) (h : ArgumentsAlike named named')
    {p q : Text × Argument} (hpq : p.1 = q.1 ∧ p.2.Alike q.2) :
    let best (x e : Text × Argument) := if choose e.1 x.1 then e else x
    (named.foldl best p).1 = (named'.foldl best q).1 ∧
      (named.foldl best p).2.Alike (named'.foldl best q).2 := by
  induction h generalizing p q with
  | nil => exact hpq
  | @cons x y _ _ hxy _ ih =>
    refine ih ?_
    dsimp only
    rw [← hxy.1, ← hpq.1]
    cases choose x.1 p.1 with
    | true => exact hxy
    | false => exact hpq

/-- The alphabetically first unknown name is the same in both lists, and it is shown alike. -/
theorem unknownName?_eq (h : ArgumentsAlike named named') :
    (unknownName? named).map (fun e => (e.1, e.2.toValue)) =
      (unknownName? named').map fun e => (e.1, e.2.toValue) := by
  have hunknown : ArgumentsAlike (named.filter fun e => (FilterKey.ofText? e.1).isNone)
      (named'.filter fun e => (FilterKey.ofText? e.1).isNone) :=
    List.rel_filter (fun p q hpq => by simp only [hpq.1]) h
  rw [unknownName?, unknownName?]
  generalize named.filter (fun e => (FilterKey.ofText? e.1).isNone) = xs at hunknown
  generalize named'.filter (fun e => (FilterKey.ofText? e.1).isNone) = ys at hunknown
  cases hunknown with
  | nil => rfl
  | cons hhead htail =>
    obtain ⟨hname, halike⟩ := alike_foldl Text.lt htail hhead
    show some (_, _) = some (_, _)
    rw [hname, halike.toValue_eq]

end Criteria

/-! ### Arguments of a filter -/

namespace Criterion

variable {ts us : List Transaction} {arguments arguments' : Criteria} {a b : Argument}
  {latest latest' : Option Value}

/-- Whatever the latest date is, a date is understood or refused alike. -/
theorem corresponds_ofDate (hlatest : latest = none ∨ ∃ d, latest = some (.date d))
    (hlatest' : latest' = none ∨ ∃ d, latest' = some (.date d)) (h : a.Alike b) :
    Corresponds (fun _ _ => True) (ofDate latest a) (ofDate latest' b) := by
  cases h with
  | ask f g => exact .ok trivial
  | value v =>
    by_cases hint : ∃ n, v = .int n
    · obtain ⟨n, rfl⟩ := hint
      rw [ofDate, ofDate]
      split
      · exact .refl _
      · obtain ⟨c, hc⟩ := exists_ofDays hlatest n.toNat
        obtain ⟨c', hc'⟩ := exists_ofDays hlatest' n.toNat
        rw [hc, hc']
        exact .ok trivial
    · have hnot : ∀ n, Argument.value v ≠ .value (.int n) := by
        rintro n ⟨⟩
        exact hint ⟨n, rfl⟩
      rw [ofDate_congr hnot latest latest']
      exact .refl _

section Collections

variable (hts : ∀ t ∈ ts, t.postDate = .null ∨ ∃ d, t.postDate = .date d)
  (hus : ∀ t ∈ us, t.postDate = .null ∨ ∃ d, t.postDate = .date d)

include hts hus

private theorem corresponds_ofArgument (key : FilterKey) (h : a.Alike b) :
    Corresponds (fun _ _ => True) (ofArgument ts key a) (ofArgument us key b) := by
  cases key with
  | date =>
    obtain ⟨latest, hlatest, hdate⟩ := exists_latestDate hts
    obtain ⟨latest', hlatest', hdate'⟩ := exists_latestDate hus
    rw [ofArgument, ofArgument, hlatest, hlatest', ok_bind, ok_bind]
    exact corresponds_ofDate hdate hdate' h
  | _ =>
    cases h with
    | value v => exact .refl _
    | ask f g => exact .ok trivial

private theorem corresponds_resolveKeys (h : ArgumentsAlike arguments arguments')
    (keys : List FilterKey) : Corresponds (fun _ _ => True) (resolveKeys ts arguments keys)
      (resolveKeys us arguments' keys) := by
  induction keys with
  | nil => exact .ok trivial
  | cons key keys ih =>
    have hlookup := h.lookup key
    rw [resolveKeys, resolveKeys]
    generalize arguments.lookup key = x at hlookup
    generalize arguments'.lookup key = y at hlookup
    cases hlookup with
    | none => exact ih
    | some hab =>
      dsimp only
      rw [← hab.isAbsent_eq]
      split
      · exact ih
      · exact (corresponds_ofArgument hts hus key hab).bind fun _ _ _ =>
          ih.bind fun _ _ _ => .ok trivial

end Collections

end Criterion

namespace Query

variable {rs rs' : List Record}

/-- The date fields of the records hold days or nothing. -/
def Dated (rs : List Record) : Prop :=
  ∀ r ∈ rs, r.HoldsDay .postDate ∧ r.HoldsDay .transactionDate

private theorem Dated.postDate (h : Dated rs) :
    ∀ t ∈ rs.map (·.transaction), t.postDate = .null ∨ ∃ d, t.postDate = .date d := by
  rw [List.forall_mem_map]
  exact fun r hr => (h r hr).1

private theorem Dated.holdsDay {f : Field} (h : Dated rs)
    (hf : f = .postDate ∨ f = .transactionDate) : ∀ r ∈ rs, r.HoldsDay f := by
  intro r hr
  rcases hf with rfl | rfl
  · exact (h r hr).1
  · exact (h r hr).2

/-- What a filter asks of the records of a collection, by its arguments. -/
def criteriaOf (rs : List Record) (named : List (Text × Argument)) : Outcome (List Criterion) :=
  if (named.lookup collectionName).isSome then .error (.repeatedArgument "tfilter" collectionName)
  else
    match Criteria.unknownName? named with
    | some (name, a) =>
      .error (.about (fun v => .argument name v "a known transaction field") a.toValue)
    | none => do Criterion.resolve (rs.map (·.transaction)) (← Criteria.ofNamed named)

private theorem filterNamed_eq_bind (rs : List Record) (named : List (Text × Argument))
    (negate : Bool) :
    filterNamed rs named negate = criteriaOf rs named >>= fun cs => select cs negate rs := by
  rw [filterNamed, criteriaOf]
  split
  · rfl
  · cases Criteria.unknownName? named with
    | some e => rfl
    | none =>
      dsimp only
      cases Criteria.ofNamed named <;> rfl

private theorem corresponds_criteriaOf {named named' : List (Text × Argument)} (hrs : Dated rs)
    (hrs' : Dated rs') (h : ArgumentsAlike named named') :
    Corresponds (fun _ _ => True) (criteriaOf rs named) (criteriaOf rs' named') := by
  have hcollection : (named.lookup collectionName).isSome =
      (named'.lookup collectionName).isSome := by
    have hlookup := h.lookup collectionName
    generalize named.lookup collectionName = x at hlookup
    generalize named'.lookup collectionName = y at hlookup
    cases hlookup <;> rfl
  have hunknown := Criteria.unknownName?_eq h
  rw [criteriaOf, criteriaOf, ← hcollection]
  split
  · exact .error _
  · generalize Criteria.unknownName? named = x at hunknown
    generalize Criteria.unknownName? named' = y at hunknown
    cases x with
    | none =>
      obtain rfl := Option.map_eq_none_iff.1 hunknown.symm
      exact (Criteria.corresponds_ofNamed h).bind fun _ _ halike =>
        Criterion.corresponds_resolveKeys hrs.postDate hrs'.postDate halike FilterKey.all
    | some e =>
      obtain ⟨e', rfl, heq⟩ := Option.map_eq_some_iff.1 hunknown.symm
      obtain ⟨hname, hvalue⟩ := Prod.mk.inj heq
      dsimp only
      rw [hname, hvalue]
      exact .refl _

/-- The bucket and the date field by which records are grouped. -/
def groupingOf (bucket field : Value) : Outcome (Bucket × Field) := do
  return (← bucketOf bucket, ← dateFieldOf field)

private theorem corresponds_ofArgument {key key' : KeyArgument} (h : key.Alike key') :
    Corresponds (fun _ _ => True) (Key.ofArgument key) (Key.ofArgument key') := by
  cases h with
  | value v => exact .refl _
  | key k l => exact .ok trivial

/-! ### Queries -/

/-- A query settles its arguments first. The errors in them are the same on all collections of
records with days, whatever the questions among the arguments would answer, and on no records there
are no others. -/
structure SettlesFirst {A σ β : Type} (alike : A → A → Prop) (settle : List Record → A → Outcome σ)
    (work : A → σ → List Record → Outcome β) (query : List Record → A → Outcome β) : Prop where
  error {rs rs' : List Record} {a b : A} {e : Error} (hrs : Dated rs) (hrs' : Dated rs')
    (halike : alike a b) (h : settle rs a = .error e) :
    settle rs' b = .error e ∧ query rs' b = .error e
  accepted {rs rs' : List Record} {a b : A} {s : σ} (hrs : Dated rs) (hrs' : Dated rs')
    (halike : alike a b) (h : settle rs a = .ok s) :
    ∃ s', settle rs' b = .ok s' ∧ query rs' b = work b s' rs'
  nothing {a : A} {e : Error} (h : query [] a = .error e) : settle [] a = .error e

private theorem SettlesFirst.of_corresponds {A σ β : Type} {alike : A → A → Prop}
    {settle : List Record → A → Outcome σ} {work : A → σ → List Record → Outcome β}
    {query : List Record → A → Outcome β}
    (hstages : ∀ rs a, query rs a = settle rs a >>= fun s => work a s rs)
    (hsettle : ∀ {rs rs' a a'}, Dated rs → Dated rs' → alike a a' →
      Corresponds (fun _ _ => True) (settle rs a) (settle rs' a'))
    (hnothing : ∀ a s, ∃ out, work a s [] = .ok out) : SettlesFirst alike settle work query where
  error hrs hrs' halike h := by
    have h' := (hsettle hrs hrs' halike).eq_error h
    exact ⟨h', by rw [hstages, h', error_bind]⟩
  accepted hrs hrs' halike h := by
    obtain ⟨s', hs'⟩ := (hsettle hrs hrs' halike).exists_ok h
    exact ⟨s', hs', by rw [hstages, hs', ok_bind]⟩
  nothing {a e} h := by
    rw [hstages] at h
    rcases bind_eq_error_iff.1 h with h | ⟨s, -, hs⟩
    · exact h
    · obtain ⟨out, hout⟩ := hnothing a s
      rw [hout] at hs
      cases hs

/-- The counts of a key. -/
def countWith (key : Key) (rs : List Record) : Outcome (List (Value × Nat)) := do
  return (← countFrom key [] rs).map fun t => (t.keyed.value, t.count)

/-- The groups of a bucket and a date field. -/
def groupWith (bucket : Value) (f : Field) (rs : List Record) : Outcome (List Group) := do
  Sorting.sort (fun a b => Value.test .lt a.1 b.1) (← addAllToGroups f bucket [] rs)

private theorem group_eq_bind (rs : List Record) (bucket field : Value) :
    group rs bucket field = groupingOf bucket field >>= fun s => groupWith bucket s.2 rs := by
  show (bucketOf bucket >>= fun _ => dateFieldOf field >>= fun f => groupWith bucket f rs) = _
  rw [groupingOf]
  cases bucketOf bucket with
  | error e => rfl
  | ok b => cases dateFieldOf field <;> rfl

/-- A bucket and a date field that are understood are given by their names. -/
theorem eq_toText_of_groupingOf {bucket field : Value} {b : Bucket} {f : Field}
    (h : groupingOf bucket field = .ok (b, f)) :
    bucket = .text b.toText ∧ field = .text f.toText ∧ (f = .postDate ∨ f = .transactionDate) := by
  obtain ⟨b', hb, h⟩ := bind_eq_ok_iff.1 h
  obtain ⟨f', hf, h⟩ := bind_eq_ok_iff.1 h
  cases h
  have hname {v : Value} {t : Text} (hv : v.text? = some t) : v = .text t := by
    cases v with
    | text u => exact congrArg Value.text (Option.some.inj hv)
    | _ => cases hv
  refine ⟨?_, ?_⟩
  · rw [bucketOf] at hb
    split at hb
    · next b' hbucket =>
      cases hb
      obtain ⟨t, ht, hb⟩ := Option.bind_eq_some_iff.1 hbucket
      have htext := List.find?_some hb
      rw [hname ht, beq_iff_eq.1 htext]
    · cases hb
  · have hfield {g : Field} (hg : field.text?.bind Field.ofText? = some g) :
        field = .text g.toText := by
      obtain ⟨t, ht, hg⟩ := Option.bind_eq_some_iff.1 hg
      have htext := List.find?_some hg
      rw [hname ht, beq_iff_eq.1 htext]
    rw [dateFieldOf] at hf
    split at hf
    · next hg =>
      cases hf
      exact ⟨hfield hg, .inl rfl⟩
    · next hg =>
      cases hf
      exact ⟨hfield hg, .inr rfl⟩
    · cases hf

/-- Grouping fails with its arguments only. -/
theorem exists_groupWith {bucket field : Value} {b : Bucket} {f : Field} (hrs : Dated rs)
    (h : groupingOf bucket field = .ok (b, f)) : ∃ groups, groupWith bucket f rs = .ok groups := by
  obtain ⟨rfl, rfl, hf⟩ := eq_toText_of_groupingOf h
  obtain ⟨keys, hgroup, -, -⟩ := exists_group_eq hf (hrs.holdsDay hf) b
  rw [group_eq_bind, h] at hgroup
  exact ⟨_, hgroup⟩

/-- Filtering, sorting, counting and grouping settle their arguments first, and what is left for
grouping cannot fail. -/
theorem settlesFirst_queries :
    SettlesFirst (A := List (Text × Argument) × Bool) (fun a a' => ArgumentsAlike a.1 a'.1)
      (fun rs a => criteriaOf rs a.1) (fun a cs rs => select cs a.2 rs)
      (fun rs a => filterNamed rs a.1 a.2) ∧
    SettlesFirst (A := KeyArgument × Bool) (fun a a' => a.1.Alike a'.1)
      (fun _ a => Key.ofArgument a.1) (fun a key rs => sortBy key a.2 rs)
      (fun rs a => sort rs a.1 a.2) ∧
    SettlesFirst KeyArgument.Alike (fun _ a => Key.ofArgument a) (fun _ key rs => countWith key rs)
      count ∧
    SettlesFirst (A := Value × Value) Eq (fun _ a => groupingOf a.1 a.2)
      (fun a s rs => groupWith a.1 s.2 rs) (fun rs a => group rs a.1 a.2) ∧
    ∀ rs bucket field b f, Dated rs → groupingOf bucket field = .ok (b, f) →
      ∃ groups, groupWith bucket f rs = .ok groups := by
  refine ⟨?_, ?_, ?_, ?_, fun _ _ _ _ _ => exists_groupWith⟩
  · exact .of_corresponds (fun rs a => filterNamed_eq_bind rs a.1 a.2) corresponds_criteriaOf
      fun a cs => ⟨[], rfl⟩
  · refine .of_corresponds (fun rs a => rfl) (fun _ _ => corresponds_ofArgument) fun a key => ?_
    cases hreverse : a.2 <;> exact ⟨[], rfl⟩
  · exact .of_corresponds (fun rs a => rfl) (fun _ _ => corresponds_ofArgument)
      fun a key => ⟨[], rfl⟩
  · refine .of_corresponds (fun rs a => group_eq_bind rs a.1 a.2) ?_ fun a s => ⟨[], rfl⟩
    rintro _ _ a _ - - rfl
    exact .refl _

/-- A question about the name, and a word that names no sign of an amount. -/
def sidewaysArguments (ask : Value → Outcome Value) : List (Text × Argument) :=
  [("name", .ask ask), ("amount", .value (.text "sideways"))]

/-- The word is refused on every collection, also next to a question that fails for every name. -/
theorem settlesFirst_queries_leapLedger :
    let rs := leapLedger.records [0, 1, 2, 3, 4]
    let refused : Error :=
      .argument "amount" (.text "sideways") "one of deposit, withdrawal, d, w, +, -"
    Dated [] ∧ Dated rs ∧ criteriaOf [] (sidewaysArguments .ok) = .error refused ∧
    filterNamed rs (sidewaysArguments fun _ => .error (.numeralTooLong none)) true =
      .error refused := by
  intro rs refused
  have hnil : Dated [] := fun r hr => absurd hr List.not_mem_nil
  have hrs : Dated rs := by
    have hall : ∀ t ∈ leapLedger.transactions, t.transactionDate = .null := by
      simp [leapLedger, transactionOn]
    intro r hr
    exact ⟨holdsDay_leapLedger r hr,
      .inl (hall _ (List.mem_of_getElem? (Ledger.get?_of_mem_records hr)))⟩
  have herror : criteriaOf [] (sidewaysArguments .ok) = .error refused := by rfl
  have halike : ArgumentsAlike (sidewaysArguments .ok)
      (sidewaysArguments fun _ => .error (.numeralTooLong none)) :=
    .cons ⟨rfl, .ask _ _⟩ (.cons ⟨rfl, .value _⟩ .nil)
  exact ⟨hnil, hrs, herror, (settlesFirst_queries.1.error (a := (_, false)) (b := (_, true))
    hnil hrs halike herror).2⟩

end Query

end LedgerTags
