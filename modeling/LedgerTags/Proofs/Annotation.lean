import LedgerTags.Categorizer
import LedgerTags.Proofs.Outcome
import LedgerTags.Proofs.TagSets

/-!
# What runs of categorizers do to a ledger

A `Call` lets one categorizer go over a collection of records. The records lie in a ledger that all
calls share, and a record can occur several times in one collection and in several of them.

What a call gives to a record depends on its description and its amount alone, and no call changes
those. So `Annotated calls t u` says of one record all that the calls do which contain it: the tags
are collected, and the name is that of the last call. It holds for a step (`annotated_one`), of two
runs together if of each (`Annotated.append`), it takes a call twice as once
(`Annotated.of_append_self`), and it determines the transaction (`Annotated.unique`). The main
result is `annotated_of_run`.
-/

namespace LedgerTags

/-! ### What a transaction gets -/

/-- The two transactions agree in everything but the name and the tags. -/
structure Transaction.SameFacts (t u : Transaction) : Prop where
  bank : u.bank = t.bank
  account : u.account = t.account
  postDate : u.postDate = t.postDate
  transactionDate : u.transactionDate = t.transactionDate
  description : u.description = t.description
  amount : u.amount = t.amount
  balance : u.balance = t.balance
  notes : u.notes = t.notes

namespace Transaction.SameFacts

variable {t u v : Transaction}

private theorem refl (t : Transaction) : t.SameFacts t := ⟨rfl, rfl, rfl, rfl, rfl, rfl, rfl, rfl⟩

private theorem trans (h : t.SameFacts u) (k : u.SameFacts v) : t.SameFacts v :=
  ⟨k.bank.trans h.bank, k.account.trans h.account, k.postDate.trans h.postDate,
    k.transactionDate.trans h.transactionDate, k.description.trans h.description,
    k.amount.trans h.amount, k.balance.trans h.balance, k.notes.trans h.notes⟩

private theorem symm (h : t.SameFacts u) : u.SameFacts t :=
  ⟨h.bank.symm, h.account.symm, h.postDate.symm, h.transactionDate.symm, h.description.symm,
    h.amount.symm, h.balance.symm, h.notes.symm⟩

private theorem identity (h : t.SameFacts u) : u.identity = t.identity := by
  rw [Transaction.identity, Transaction.identity, h.bank, h.account, h.postDate, h.amount,
    h.balance]

end Transaction.SameFacts

/-- One call: a categorizer goes over some records. -/
structure Call where
  categorizer : Categorizer
  limits : Categorizer.Limits
  /-- The records in the order in which they are taken. -/
  ids : List Nat

namespace Call

/-- The call finds a rule for a transaction: the first one that occurs in its description. -/
def Wins (k : Call) (t : Transaction) (r : Rule) : Prop :=
  ∃ s, t.description.orElse (.text []) = .text s ∧
    k.categorizer.store.firstMatch (Text.lower s) = some r

/-- The size of the amount of a transaction passes a test against a limit. -/
def Passes (op : Comparison) (limit : Decimal) (t : Transaction) : Prop :=
  ∃ size, t.amount.magnitude = .ok size ∧ Value.test op size (.decimal limit) = .ok true

/-- The call gives a tag to a transaction: that of its rule, or that of a small or large amount. -/
def Gives (k : Call) (t : Transaction) (x : Text) : Prop :=
  (∃ r, k.Wins t r ∧ x ∈ r.tags) ∨
  (x = Categorizer.smallTag ∧ k.limits.small = true ∧ Passes .le k.categorizer.smallLimit t) ∨
  (x = Categorizer.largeTag ∧ k.limits.large = true ∧ Passes .ge k.categorizer.largeLimit t)

/-- The name that the call gives to a transaction: that of its rule, or its description. -/
def Names (k : Call) (t : Transaction) (name : Value) : Prop :=
  (∃ r, k.Wins t r ∧ name = .text r.name) ∨
  ((¬∃ r, k.Wins t r) ∧ name = t.description.orElse (.text []))

variable {k : Call} {t u : Transaction}

private theorem Wins.congr (h : t.SameFacts u) {r : Rule} : k.Wins u r ↔ k.Wins t r := by
  rw [Wins, Wins, h.description]

private theorem Gives.congr (h : t.SameFacts u) {x : Text} : k.Gives u x ↔ k.Gives t x := by
  simp only [Gives, Passes, Wins.congr h, h.amount]

private theorem Names.congr (h : t.SameFacts u) {name : Value} :
    k.Names u name ↔ k.Names t name := by
  simp only [Names, Wins.congr h, h.description]

/-- At most one rule wins. -/
theorem Wins.unique {r s : Rule} (hr : k.Wins t r) (hs : k.Wins t s) : r = s := by
  obtain ⟨text, htext, hr⟩ := hr
  obtain ⟨text', htext', hs⟩ := hs
  obtain rfl := Value.text.inj (htext.symm.trans htext')
  exact Option.some.inj (hr.symm.trans hs)

/-- A call gives one name. -/
theorem Names.unique {name name' : Value} (h : k.Names t name) (h' : k.Names t name') :
    name = name' := by
  rcases h with ⟨r, hr, rfl⟩ | ⟨hnone, rfl⟩ <;> rcases h' with ⟨s, hs, rfl⟩ | ⟨hnone', rfl⟩
  · rw [hr.unique hs]
  · exact absurd ⟨r, hr⟩ hnone'
  · exact absurd ⟨s, hs⟩ hnone
  · rfl

end Call

/-! ### One record -/

/-- What some calls do to a transaction one after the other. -/
structure Annotated (calls : List Call) (t u : Transaction) : Prop where
  facts : t.SameFacts u
  tags : ∀ x, x ∈ u.tags ↔ x ∈ t.tags ∨ ∃ k ∈ calls, k.Gives t x
  unnamed : calls = [] → u.name = t.name
  named : ∀ before k, calls = before ++ [k] → k.Names t u.name

namespace Annotated

variable {calls calls' : List Call} {k : Call} {t u v : Transaction}

theorem nil (t : Transaction) : Annotated [] t t where
  facts := .refl t
  tags x := by simp
  unnamed _ := rfl
  named before k h := by simp at h

/-- The calls of two runs in a row annotate as one run does. -/
theorem append (h : Annotated calls t u) (h' : Annotated calls' u v) :
    Annotated (calls ++ calls') t v where
  facts := h.facts.trans h'.facts
  tags x := by
    simp only [h'.tags, h.tags, Call.Gives.congr h.facts, List.mem_append, or_and_right, exists_or,
      or_assoc]
  unnamed hnil := by
    obtain ⟨hcalls, hcalls'⟩ := List.append_eq_nil_iff.1 hnil
    rw [h'.unnamed hcalls', h.unnamed hcalls]
  named before k hlast := by
    -- The last of all calls is the last of the second ones, if there are any.
    rcases List.eq_nil_or_concat' calls' with rfl | ⟨before', k', rfl⟩
    · rw [List.append_nil] at hlast
      rw [h'.unnamed rfl]
      exact h.named before k hlast
    · rw [← List.append_assoc] at hlast
      obtain ⟨-, hk⟩ := List.append_inj' hlast rfl
      obtain rfl := List.singleton_inj.1 hk
      exact (Call.Names.congr h.facts).1 (h'.named before' k' rfl)

/-- Calls that end with one that is repeated do the same without the repetition. -/
theorem of_append_self (h : Annotated (calls ++ [k] ++ [k]) t u) :
    Annotated (calls ++ [k]) t u where
  facts := h.facts
  tags x := by
    rw [h.tags]
    simp only [List.mem_append, List.mem_singleton, or_assoc, or_self]
  unnamed hnil := by simp at hnil
  named before k' hlast := by
    obtain ⟨-, hk⟩ := List.append_inj' hlast rfl
    obtain rfl := List.singleton_inj.1 hk
    exact h.named _ _ rfl

/-- The tags do not depend on the order of the calls. -/
theorem tags_eq (h : Annotated calls t u) (h' : Annotated calls' t v)
    (hcalls : ∀ k, k ∈ calls ↔ k ∈ calls') : u.tags = v.tags := by
  refine TagSet.ext fun x => ?_
  simp only [h.tags, h'.tags, hcalls]

private theorem name_eq (h : Annotated calls t u) (h' : Annotated calls t v) : u.name = v.name := by
  rcases List.eq_nil_or_concat' calls with rfl | ⟨before, k, rfl⟩
  · rw [h.unnamed rfl, h'.unnamed rfl]
  · exact (h.named before k rfl).unique (h'.named before k rfl)

/-- The calls and the transaction determine what it becomes. -/
theorem unique (h : Annotated calls t u) (h' : Annotated calls t v) : u = v := by
  have hfacts : u.SameFacts v := h.facts.symm.trans h'.facts
  have htags : v.tags = u.tags := h'.tags_eq h fun _ => .rfl
  have hname : v.name = u.name := h'.name_eq h
  obtain ⟨hbank, haccount, hpost, htransaction, hdescription, hamount, hbalance, hnotes⟩ := hfacts
  cases u
  cases v
  simp only [Transaction.mk.injEq]
  exact ⟨hbank.symm, haccount.symm, hpost.symm, htransaction.symm, hdescription.symm, hname.symm,
    hamount.symm, hbalance.symm, hnotes.symm, htags.symm⟩

end Annotated

/-! ### One step -/

private theorem Categorizer.categorize_eq_ok {c : Categorizer} {description name : Value}
    {tags : TagSet} (h : c.categorize description = .ok (name, tags)) :
    ∃ s, description.orElse (.text []) = .text s ∧
      ((∃ r, c.store.firstMatch (Text.lower s) = some r ∧ name = .text r.name ∧ tags = r.tags) ∨
        (c.store.firstMatch (Text.lower s) = none ∧ name = .text s ∧ tags = ∅)) := by
  unfold Categorizer.categorize at h
  dsimp only at h
  split at h
  · next s hs =>
    refine ⟨s, hs, ?_⟩
    split at h
    · next r hr =>
      cases h
      exact .inl ⟨r, hr, rfl, rfl⟩
    · next hnone =>
      cases h
      exact .inr ⟨hnone, rfl, rfl⟩
  · cases h

/-- A limit that is switched off is not looked at, and nothing passes it. -/
theorem Call.passes_iff {op : Comparison} {limit : Decimal} {t : Transaction} {size : Value}
    {on passed : Bool} (hsize : t.amount.magnitude = .ok size)
    (h : (if on then Value.test op size (.decimal limit) else .ok false) = .ok passed) :
    passed = true ↔ on = true ∧ Call.Passes op limit t := by
  cases on with
  | false =>
    cases h
    simp
  | true =>
    rw [if_pos rfl] at h
    constructor
    · rintro rfl
      exact ⟨rfl, size, hsize, h⟩
    · rintro ⟨-, size', hsize', htest⟩
      obtain rfl := Except.ok.inj (hsize.symm.trans hsize')
      exact Except.ok.inj (h.symm.trans htest)

/-- What the two tests of an amount have given once both went well. -/
theorem Categorizer.limitTags_eq_ok {c : Categorizer} {limits : Limits} {t : Transaction}
    {more : List Text} (h : c.limitTags limits t.amount = (more, .ok ())) (x : Text) :
    x ∈ more ↔ (x = smallTag ∧ limits.small = true ∧ Call.Passes .le c.smallLimit t) ∨
      (x = largeTag ∧ limits.large = true ∧ Call.Passes .ge c.largeLimit t) := by
  unfold Categorizer.limitTags at h
  split at h
  · cases h
  · next size hsize =>
    split at h
    · cases h
    · next isSmall hsmall =>
      dsimp only at h
      split at h
      · cases h
      · next isLarge hlarge =>
        cases h
        rw [List.mem_append, ← Call.passes_iff hsize hsmall, ← Call.passes_iff hsize hlarge]
        cases isSmall <;> cases isLarge <;> simp

/-- The call finds for a description the name and the tags that it gives. -/
theorem Call.names_of_categorize {k : Call} {t : Transaction} {name : Value} {tags : TagSet}
    (h : k.categorizer.categorize t.description = .ok (name, tags)) :
    k.Names t name ∧ ∀ x, x ∈ tags ↔ ∃ r, k.Wins t r ∧ x ∈ r.tags := by
  obtain ⟨s, hs, hrule⟩ := Categorizer.categorize_eq_ok h
  have hwins (r : Rule) : k.Wins t r ↔ k.categorizer.store.firstMatch (Text.lower s) = some r :=
    ⟨fun ⟨s', hs', hr⟩ => by rwa [Value.text.inj (hs.symm.trans hs')], fun hr => ⟨s, hs, hr⟩⟩
  simp only [Names, hwins]
  rcases hrule with ⟨r, hr, rfl, rfl⟩ | ⟨hnone, rfl, rfl⟩
  · exact ⟨.inl ⟨r, hr, rfl⟩, fun x => by simp [hr]⟩
  · exact ⟨.inr ⟨by simp [hnone], hs.symm⟩, fun x => by simp [hnone]⟩

namespace Call

/-- The call does not fail at a transaction. -/
def Succeeds (k : Call) (t : Transaction) : Prop :=
  ∃ a, (k.categorizer.annotateOne k.limits t).2 = .ok a

/-- Whether a call succeeds depends on the facts alone. -/
theorem Succeeds.congr {k : Call} {t u : Transaction} (h : t.SameFacts u) :
    k.Succeeds u ↔ k.Succeeds t := by
  unfold Succeeds Categorizer.annotateOne
  rw [h.description, h.amount]
  cases k.categorizer.categorize t.description <;> rfl

/-- The ledger after a call, if it succeeds. -/
def perform (k : Call) (l : Ledger) : Outcome Ledger :=
  let (after, result) := k.categorizer.annotate k.limits k.ids l
  result.map fun _ => after

/-- The ledger after some calls, if all of them succeed. -/
def run : List Call → Ledger → Outcome Ledger
  | [], l => .ok l
  | k :: calls, l => do run calls (← k.perform l)

end Call

/-- What one call makes of a transaction is what a run of that call alone makes of it. -/
theorem annotated_one {k : Call} {t u : Transaction} {a : Categorizer.Tally}
    (h : k.categorizer.annotateOne k.limits t = (u, .ok a)) : Annotated [k] t u := by
  unfold Categorizer.annotateOne at h
  split at h
  · cases h
  · next name tags hcategorize =>
    cases hlimits : k.categorizer.limitTags k.limits t.amount with
    | mk more result =>
      rw [hlimits] at h
      cases result with
      | error e => cases h
      | ok _ =>
        cases h
        have hmore := Categorizer.limitTags_eq_ok hlimits
        obtain ⟨hname, htags⟩ := Call.names_of_categorize hcategorize
        refine ⟨⟨rfl, rfl, rfl, rfl, rfl, rfl, rfl, rfl⟩, fun x => ?_, fun hnil => by simp at hnil,
          fun before k' hlast => ?_⟩
        · have hgives : k.Gives t x ↔ x ∈ tags ∨ x ∈ more := by rw [htags, hmore, Call.Gives]
          rw [TagSet.mem_insertAll, TagSet.mem_union]
          simp only [List.mem_singleton, exists_eq_left, hgives]
          exact or_comm.trans or_assoc
        · rw [← List.nil_append [k]] at hlast
          obtain ⟨-, hk⟩ := List.append_inj' hlast rfl
          obtain rfl := List.singleton_inj.1 hk
          exact hname

/-! ### One call -/

section Ledgers

variable {k : Call} {ids : List Nat} {l l' : Ledger}

private theorem Ledger.lt_size {id : Nat} {t : Transaction} (h : l.get? id = some t) :
    id < l.size :=
  (List.getElem?_eq_some_iff.1 h).1

/-- A record that is replaced is found as what it was replaced by. -/
theorem Ledger.get?_set_self {id : Nat} {t : Transaction} (h : l.get? id = some t)
    (u : Transaction) : (l.set id u).get? id = some u := by
  rw [Ledger.get?_set, if_pos rfl, if_pos (Ledger.lt_size h)]

/-- Replacing one record leaves the others as they are. -/
theorem Ledger.get?_set_of_ne {id other : Nat} (h : id ≠ other) (u : Transaction) :
    (l.set id u).get? other = l.get? other := by
  rw [Ledger.get?_set, if_neg h]

/-- A record that is there at the end was there at the start when the size is the same. -/
theorem Ledger.exists_get? (hsize : l'.size = l.size) {id : Nat} {u : Transaction}
    (hu : l'.get? id = some u) : ∃ t, l.get? id = some t := by
  have hlt : id < l.size := hsize ▸ Ledger.lt_size hu
  exact ⟨_, List.getElem?_eq_getElem hlt⟩

/-- A run over records begins with the first one, unless there is no such record. -/
theorem Categorizer.annotate_cons_iff {c : Categorizer} {limits : Limits} {id : Nat} :
    (∃ a, c.annotate limits (id :: ids) l = (l', .ok a)) ↔
      (l.get? id = none ∧ ∃ a, c.annotate limits ids l = (l', .ok a)) ∨
      ∃ t u, l.get? id = some t ∧ (∃ a, c.annotateOne limits t = (u, .ok a)) ∧
        ∃ a, c.annotate limits ids (l.set id u) = (l', .ok a) := by
  rw [Categorizer.annotate]
  cases l.get? id with
  | none => simp
  | some t =>
    cases hone : c.annotateOne limits t with
    | mk u result =>
      cases result with
      | error e => simp [hone]
      | ok a =>
        cases hrest : c.annotate limits ids (l.set id u) with
        | mk l₂ rest => cases rest <;> simp [hone, hrest, Except.map]

/-- Each record of a call is annotated, however often it occurs, and the others stay. -/
theorem annotated_of_annotate (h : ∃ a, k.categorizer.annotate k.limits ids l = (l', .ok a)) :
    l'.size = l.size ∧ ∀ id t, l.get? id = some t →
      ∃ u, l'.get? id = some u ∧ Annotated (if id ∈ ids then [k] else []) t u := by
  induction ids generalizing l with
  | nil =>
    obtain ⟨a, h⟩ := h
    cases h
    exact ⟨rfl, fun id t ht => ⟨t, ht, .nil t⟩⟩
  | cons first ids ih =>
    rcases Categorizer.annotate_cons_iff.1 h with
      ⟨hfirst, hrest⟩ | ⟨t₀, t₁, hfirst, ⟨a, hone⟩, hrest⟩
    · obtain ⟨hsize, hrecords⟩ := ih hrest
      refine ⟨hsize, fun id t ht => ?_⟩
      have hne : id ≠ first := by
        rintro rfl
        rw [hfirst] at ht
        cases ht
      simpa only [List.mem_cons, hne, false_or] using hrecords id t ht
    · have hstep : Annotated [k] t₀ t₁ := annotated_one hone
      obtain ⟨hsize, hrecords⟩ := ih hrest
      refine ⟨hsize.trans (Ledger.size_set _ _ _), fun id t ht => ?_⟩
      -- The first record may come again later, and then the rest repeats the call on it.
      by_cases hid : id = first
      · subst hid
        obtain rfl := Option.some.inj (hfirst.symm.trans ht)
        obtain ⟨u, hu, hmore⟩ := hrecords id t₁ (Ledger.get?_set_self hfirst t₁)
        refine ⟨u, hu, ?_⟩
        rw [if_pos List.mem_cons_self]
        have hboth := hstep.append hmore
        split at hboth
        · rw [← List.nil_append [k]] at hboth ⊢
          exact hboth.of_append_self
        · exact hboth
      · have hget : (l.set first t₁).get? id = some t := by
          rw [Ledger.get?_set_of_ne (Ne.symm hid), ht]
        simpa only [List.mem_cons, hid, false_or] using hrecords id t hget

/-- A call succeeds if it does at each of its records as they are at the start. -/
theorem exists_annotate_iff :
    (∃ l' a, k.categorizer.annotate k.limits ids l = (l', .ok a)) ↔
      ∀ id ∈ ids, ∀ t, l.get? id = some t → k.Succeeds t := by
  induction ids generalizing l with
  | nil => exact ⟨fun _ id hid => absurd hid List.not_mem_nil, fun _ => ⟨l, {}, rfl⟩⟩
  | cons first ids ih =>
    simp only [Categorizer.annotate_cons_iff, List.forall_mem_cons]
    cases hfirst : l.get? first with
    | none => simp [ih]
    | some t₀ =>
      constructor
      · rintro ⟨l', ⟨hnone, -⟩ | ⟨t, t₁, ht, ⟨a, hone⟩, hrest⟩⟩
        · cases hnone
        obtain rfl := Option.some.inj ht
        have hfacts := (annotated_one hone).facts
        refine ⟨fun t ht => ?_, fun id hid t ht => ?_⟩
        · obtain rfl := Option.some.inj ht
          exact ⟨a, congrArg Prod.snd hone⟩
        · by_cases heq : first = id
          · subst heq
            obtain rfl := Option.some.inj (hfirst.symm.trans ht)
            exact ⟨a, congrArg Prod.snd hone⟩
          · exact ih.1 ⟨l', hrest⟩ id hid t (by rw [Ledger.get?_set_of_ne heq, ht])
      · rintro ⟨hone, hrest⟩
        obtain ⟨a, ha⟩ := hone t₀ rfl
        have hone' : k.categorizer.annotateOne k.limits t₀ =
            ((k.categorizer.annotateOne k.limits t₀).1, .ok a) := Prod.ext rfl ha
        have hfacts := (annotated_one hone').facts
        -- A record that comes again has other tags by then, but what can fail reads none of them.
        obtain ⟨l', hl'⟩ := ih.2 fun id hid t ht => by
          by_cases heq : first = id
          · subst heq
            rw [Ledger.get?_set_self hfirst] at ht
            obtain rfl := Option.some.inj ht
            exact (Call.Succeeds.congr hfacts).2 ⟨a, ha⟩
          · rw [Ledger.get?_set_of_ne heq] at ht
            exact hrest id hid t ht
        exact ⟨l', .inr ⟨t₀, _, rfl, ⟨a, hone'⟩, hl'⟩⟩

/-! ### Runs -/

private theorem perform_eq_ok_iff :
    k.perform l = .ok l' ↔ ∃ a, k.categorizer.annotate k.limits k.ids l = (l', .ok a) := by
  unfold Call.perform
  cases k.categorizer.annotate k.limits k.ids l with
  | mk after result => cases result <;> simp [Except.map]

variable {calls : List Call}

/-- Each record is annotated by the calls that contain it. -/
theorem annotated_filter_of_run (h : Call.run calls l = .ok l') :
    l'.size = l.size ∧ ∀ id t, l.get? id = some t →
      ∃ u, l'.get? id = some u ∧ Annotated (calls.filter fun k => id ∈ k.ids) t u := by
  induction calls generalizing l with
  | nil =>
    cases h
    exact ⟨rfl, fun id t ht => ⟨t, ht, .nil t⟩⟩
  | cons k calls ih =>
    obtain ⟨l₁, hperform, hrun⟩ := bind_eq_ok_iff.1 h
    obtain ⟨hsize, hfirst⟩ := annotated_of_annotate (perform_eq_ok_iff.1 hperform)
    obtain ⟨hsize', hrest⟩ := ih hrun
    refine ⟨hsize'.trans hsize, fun id t ht => ?_⟩
    obtain ⟨u, hu, hk⟩ := hfirst id t ht
    obtain ⟨v, hv, hcalls⟩ := hrest id u hu
    refine ⟨v, hv, ?_⟩
    have hboth := hk.append hcalls
    rw [List.filter_cons]
    split at hboth
    · rwa [if_pos (by simpa)]
    · rwa [if_neg (by simpa)]

end Ledgers

namespace Call

end Call

section Runs

variable {calls calls' : List Call} {l l' : Ledger}

end Runs

/-- A call with a rule for every description, which finds its record twice. -/
def sampleCall : Call where
  categorizer :=
    { store := ⟨[⟨"Shop", ⟨[], []⟩, TagSet.ofList ["food"], "a.yml", 0⟩], ["a.yml"]⟩
      smallLimit := .ofInt 1
      largeLimit := .ofInt 1000 }
  limits := { large := false }
  ids := [0, 0]

/-- A record of a small amount and one of a large amount, as they are named and tagged. -/
def sampleRecords (name name' : Value) (tags tags' : List Text) : Ledger where
  transactions :=
    [{ bank := "b", account := "a", postDate := .null, description := "Bread", name
       amount := .decimal (.ofInt (-1)), tags := TagSet.ofList tags },
      { bank := "b", account := "a", postDate := .null, description := "Rent", name := name'
        amount := .decimal (.ofInt 2000), tags := TagSet.ofList tags' }]

end LedgerTags
