import LedgerTags.Proofs.Annotation
import LedgerTags.Proofs.Counting
import LedgerTags.Proofs.Filtering
import LedgerTags.Proofs.Merging

/-!
# What the fields of a record hold

Reading a mapping converts most of the fields to the kinds that they are meant to have
(`Transaction.converted_of_ofMapping`). The name and the notes are handed through, so that they hold
whatever the mapping has for them. A call names its records by texts and leaves the other fields as
they are. So after some calls a record is typed unless its mapping has notes of another kind, or has
a name of another kind and no call contains the record (`typed_of_run`).

That is what the filters for texts need, no less and no more (`typed_iff_filterNamed`), and with it
the records can be counted by any of these fields (`exists_count_of_isTyped`).
-/

namespace LedgerTags

namespace Transaction

/-- The fields that reading a mapping converts hold values of their kinds. -/
structure IsConverted (t : Transaction) : Prop where
  bank : ∃ s, t.bank = .text s
  account : ∃ s, t.account = .text s
  postDate : t.postDate = .null ∨ ∃ d, t.postDate = .date d
  transactionDate : t.transactionDate = .null ∨ ∃ d, t.transactionDate = .date d
  description : ∃ s, t.description = .text s
  amount : ∃ x, t.amount = .decimal x
  balance : ∃ x, t.balance = .decimal x

/-- All fields hold values of their kinds. The tags are a set of texts anyway. -/
structure IsTyped (t : Transaction) : Prop extends IsConverted t where
  name : t.name = .null ∨ ∃ s, t.name = .text s
  notes : t.notes = .null ∨ ∃ s, t.notes = .text s

variable {t u : Transaction} {row : List (Value × Value)} {v : Value}

private theorem IsConverted.congr (h : t.SameFacts u) (ht : t.IsConverted) : u.IsConverted where
  bank := h.bank ▸ ht.bank
  account := h.account ▸ ht.account
  postDate := h.postDate ▸ ht.postDate
  transactionDate := h.transactionDate ▸ ht.transactionDate
  description := h.description ▸ ht.description
  amount := h.amount ▸ ht.amount
  balance := h.balance ▸ ht.balance

/-! ### Reading a mapping -/

/-- What a name or the notes can be: null, a text, or any value that counts as present. -/
def IsNote (v : Value) : Prop := v = .null ∨ (∃ s, v = .text s) ∨ v.isTrue = true

private theorem isNote_orElse (v : Value) : IsNote (v.orElse .null) := by
  cases h : v.isTrue with
  | true => exact .inr (.inr (by rw [orElse_of_isTrue h, h]))
  | false => exact .inl (orElse_of_not_isTrue h)

private theorem dateValue_cases (d : Option Date) :
    dateValue d = .null ∨ ∃ e, dateValue d = .date e := by
  cases d with
  | none => exact .inl rfl
  | some e => exact .inr ⟨e, rfl⟩

/-- What reading a mapping makes of its entries. -/
theorem converted_of_ofMapping (h : ofMapping row = .ok t) :
    t.IsConverted ∧ t.name = (Value.lookup Field.name.toText row).orElse .null ∧
      t.notes = (Value.lookup Field.notes.toText row).orElse .null := by
  have hread := isReadFrom_of_ofMapping h
  obtain ⟨post, transaction, hpost, htransaction, -⟩ := hread.exists_dates
  obtain ⟨x, -, hx⟩ := hread.amount
  obtain ⟨y, -, hy⟩ := hread.balance
  have hconverted : t.IsConverted := {
    bank := exists_text_of_readText hread.bank
    account := exists_text_of_readText hread.account
    postDate := hpost ▸ dateValue_cases post
    transactionDate := htransaction ▸ dateValue_cases transaction
    description := exists_text_of_readText hread.description
    amount := ⟨x, hx⟩
    balance := ⟨y, hy⟩ }
  exact ⟨hconverted, hread.name, hread.notes⟩

/-- An entry of a mapping is a text, or it does not count as present. -/
def IsTextEntry (key : Text) (row : List (Value × Value)) : Prop :=
  (Value.lookup key row).isTrue = true → ∃ s, Value.lookup key row = .text s

/-- What is handed through is a text or null exactly if the entry is a text where it counts. -/
theorem orElse_null_iff : (v.orElse .null = .null ∨ ∃ s, v.orElse .null = .text s) ↔
    (v.isTrue = true → ∃ s, v = .text s) := by
  cases h : v.isTrue with
  | false => exact iff_of_true (.inl (orElse_of_not_isTrue h)) fun htrue => absurd htrue nofun
  | true =>
    rw [orElse_of_isTrue h]
    constructor
    · rintro (rfl | hs) _
      · cases h
      · exact hs
    · intro hs
      exact .inr (hs rfl)

end Transaction

/-! ### Filters for texts -/

/-- The keys whose fields are asked for texts. -/
def FilterKey.texts : List FilterKey := [.bank, .account, .name, .description, .notes]

/-- The fields for texts of a typed transaction hold a text or nothing. -/
theorem Transaction.IsTyped.text {t : Transaction} {key : FilterKey} (ht : t.IsTyped)
    (hkey : key ∈ FilterKey.texts) :
    t.get key.field = .null ∨ ∃ s, t.get key.field = .text s := by
  cases key with
  | bank => exact .inr ht.bank
  | account => exact .inr ht.account
  | name => exact ht.name
  | description => exact .inr ht.description
  | notes => exact ht.notes
  | tags | amount | date => exact absurd hkey (by decide)

namespace Criterion

variable {t : Transaction} {key : FilterKey} {v : Value} {s : Text} {c : Criterion}

/-- An argument given by name that asks a field for a text. -/
def AsksText (named : Text × Argument) : Prop :=
  ∃ key ∈ FilterKey.texts, ∃ s, named = (key.toText, .value (.text s))

private theorem ofArgument_text (hkey : key ∈ FilterKey.texts) (ts : List Transaction) (s : Text) :
    ∃ c, ofArgument ts key (.value (.text s)) = .ok c ∧ ofText key (.value (.text s)) = .ok c := by
  cases key with
  | tags | amount | date => exact absurd hkey (by decide)
  | _ => exact ⟨_, rfl, rfl⟩

/-- Whether a field has a text can be asked exactly if its lower case can be taken. -/
theorem exists_test_iff (h : ofText key (.value (.text s)) = .ok c) :
    (∃ b, c.test t = .ok b) ↔ ∃ lower, (t.get key.field).lowerOrEmpty = .ok lower := by
  obtain ⟨s', -, rfl⟩ := ofText_eq_ok h
  split
  all_goals
    constructor
    · rintro ⟨b, hb⟩
      obtain ⟨lower, hlower, -⟩ := bind_eq_ok_iff.1 hb
      exact ⟨lower, hlower⟩
    · rintro ⟨lower, hlower⟩
      exact ⟨_, bind_eq_ok_iff.2 ⟨lower, hlower, rfl⟩⟩

/-- Tests that all succeed, succeed together. -/
theorem exists_testAll {cs : List Criterion} (h : ∀ c ∈ cs, ∃ b, c.test t = .ok b) :
    ∃ b, testAll t cs = .ok b := by
  induction cs with
  | nil => exact ⟨true, rfl⟩
  | cons c cs ih =>
    rw [List.forall_mem_cons] at h
    obtain ⟨⟨b, hb⟩, hcs⟩ := h
    rw [testAll, hb, ok_bind]
    cases b with
    | true => exact ih hcs
    | false => exact ⟨false, rfl⟩

/-- Arguments that ask for texts are understood. -/
theorem exists_ofNamed {named : List (Text × Argument)} (h : ∀ e ∈ named, AsksText e) :
    ∃ arguments, Criteria.ofNamed named = .ok arguments ∧
      ∀ e ∈ arguments, ∃ s, e.1 ∈ FilterKey.texts ∧ e.2 = .value (.text s) := by
  have hknown : ∀ e ∈ named, ∃ key : FilterKey, e.1 = key.toText := by
    intro e he
    obtain ⟨key, -, s, rfl⟩ := h e he
    exact ⟨key, rfl⟩
  obtain ⟨arguments, hnamed, harguments⟩ := Criteria.exists_ofNamed hknown
  refine ⟨arguments, hnamed, fun e he => ?_⟩
  obtain ⟨key, hkey, s, hsame⟩ := h _ (harguments e he)
  obtain ⟨hname, hvalue⟩ := Prod.mk.inj hsame
  exact ⟨s, FilterKey.toText_inj.1 hname ▸ hkey, hvalue⟩

private theorem exists_resolveKeys {ts : List Transaction} {arguments : Criteria}
    (h : ∀ e ∈ arguments, ∃ s, e.1 ∈ FilterKey.texts ∧ e.2 = .value (.text s))
    (keys : List FilterKey) :
    ∃ cs, resolveKeys ts arguments keys = .ok cs ∧
      ∀ c ∈ cs, ∃ key ∈ FilterKey.texts, ∃ s, ofText key (.value (.text s)) = .ok c := by
  induction keys with
  | nil => exact ⟨[], rfl, fun _ hc => absurd hc List.not_mem_nil⟩
  | cons key keys ih =>
    obtain ⟨cs, hcs, htexts⟩ := ih
    rw [resolveKeys]
    cases hlookup : arguments.lookup key with
    | none => exact ⟨cs, hcs, htexts⟩
    | some a =>
      obtain ⟨before, after, rfl, -⟩ := List.lookup_eq_some_iff.1 hlookup
      obtain ⟨s, hkey, rfl⟩ := h (key, a) (List.mem_append_right _ List.mem_cons_self)
      obtain ⟨c, hargument, hc⟩ := ofArgument_text hkey ts s
      refine ⟨c :: cs, ?_, List.forall_mem_cons.2 ⟨⟨key, hkey, s, hc⟩, htexts⟩⟩
      have hpresent : (Argument.value (.text s)).isAbsent = false := rfl
      dsimp only
      rw [hpresent, hargument, ok_bind, hcs]
      rfl

end Criterion

namespace Query

variable {rs : List Record} {named : List (Text × Argument)}

/-- Typed records can be asked for any texts. -/
theorem exists_filterNamed_of_isTyped (hrs : ∀ r ∈ rs, r.transaction.IsTyped)
    (hnamed : ∀ e ∈ named, Criterion.AsksText e) (negate : Bool) :
    ∃ out, filterNamed rs named negate = .ok out := by
  obtain ⟨arguments, harguments, htexts⟩ := Criterion.exists_ofNamed hnamed
  obtain ⟨cs, hresolve, hcs⟩ : ∃ cs,
      Criterion.resolve (rs.map (·.transaction)) arguments = .ok cs ∧
        ∀ c ∈ cs, ∃ key ∈ FilterKey.texts, ∃ s,
          Criterion.ofText key (.value (.text s)) = .ok c :=
    Criterion.exists_resolveKeys htexts FilterKey.all
  rw [filterNamed_eq_select harguments hresolve, exists_select_iff]
  intro r hr
  refine Criterion.exists_testAll fun c hc => ?_
  obtain ⟨key, hkey, s, hc⟩ := hcs c hc
  rw [Criterion.exists_test_iff hc]
  exact ⟨_, Criterion.lowerOrEmpty_eq ((hrs r hr).text hkey)⟩

/-- Records that can be asked for a text have one or nothing in the field. -/
theorem text_of_filterNamed {key : FilterKey} (hkey : key ∈ FilterKey.texts)
    (h : ∃ out, filterNamed rs [(key.toText, .value (.text []))] false = .ok out) {r : Record}
    (hr : r ∈ rs) (hfield : Transaction.IsNote (r.transaction.get key.field)) :
    r.transaction.get key.field = .null ∨ ∃ s, r.transaction.get key.field = .text s := by
  obtain ⟨c, hargument, hc⟩ := Criterion.ofArgument_text hkey (rs.map (·.transaction)) []
  have hnamed : Criteria.ofNamed [(key.toText, .value (.text []))] =
      .ok [(key, .value (.text []))] := by
    rw [Criteria.ofNamed, FilterKey.ofText?_eq_some_iff.2 rfl]
    rfl
  have hresolve : Criterion.resolve (rs.map (·.transaction)) [(key, .value (.text []))] =
      .ok [c] := by
    cases key with
    | tags | amount | date => exact absurd hkey (by decide)
    | _ => cases hargument; rfl
  rw [filterNamed_eq_select hnamed hresolve, exists_select_iff] at h
  obtain ⟨b, hb⟩ := h r hr
  obtain ⟨b', hb', -⟩ := bind_eq_ok_iff.1 hb
  obtain ⟨lower, hlower⟩ := (Criterion.exists_test_iff hc).1 ⟨b', hb'⟩
  rcases hfield with hnull | htext | htrue
  · exact .inl hnull
  · exact .inr htext
  · unfold Value.lowerOrEmpty at hlower
    rw [if_pos htrue] at hlower
    split at hlower
    · next s hs => exact .inr ⟨s, hs⟩
    · cases hlower

/-- Records are typed exactly if they can be asked for any texts. -/
theorem typed_iff_filterNamed (hrs : ∀ r ∈ rs, r.transaction.IsConverted ∧
      Transaction.IsNote r.transaction.name ∧ Transaction.IsNote r.transaction.notes) :
    (∀ r ∈ rs, r.transaction.IsTyped) ↔
      ∀ named, (∀ e ∈ named, Criterion.AsksText e) → ∀ negate,
        ∃ out, filterNamed rs named negate = .ok out := by
  constructor
  · intro htyped named hnamed negate
    exact exists_filterNamed_of_isTyped htyped hnamed negate
  · intro hfilter r hr
    have hone {key : FilterKey} (hkey : key ∈ FilterKey.texts) :
        ∃ out, filterNamed rs [(key.toText, .value (.text []))] false = .ok out := by
      refine hfilter _ (fun e he => ?_) false
      exact ⟨key, hkey, [], List.mem_singleton.1 he⟩
    obtain ⟨hconverted, hname, hnotes⟩ := hrs r hr
    have hnameKey : FilterKey.name ∈ FilterKey.texts := by decide
    have hnotesKey : FilterKey.notes ∈ FilterKey.texts := by decide
    exact {
      toIsConverted := hconverted
      name := text_of_filterNamed hnameKey (hone hnameKey) hr hname
      notes := text_of_filterNamed hnotesKey (hone hnotesKey) hr hnotes }

/-! ### Counts -/

/-- The fields with a kind that is no number. -/
def kindFields : List Field :=
  [.bank, .account, .postDate, .transactionDate, .description, .name, .notes, .tags]

/-- Typed records can be counted by any field that is no number. -/
theorem exists_count_of_isTyped (hrs : ∀ r ∈ rs, r.transaction.IsTyped) {f : Field}
    (hf : f ∈ kindFields) : ∃ out, count rs (.value (.text f.toText)) = .ok out := by
  have hscalar {v : Value} (h : v = .null ∨ (∃ s, v = .text s) ∨ ∃ d, v = .date d) :
      v.collection? = none ∧ Value.checkHashable v = .ok () := by
    rcases h with rfl | ⟨s, rfl⟩ | ⟨d, rfl⟩
    · exact ⟨rfl, Value.checkHashable_of_scalar? rfl⟩
    · exact ⟨rfl, Value.checkHashable_of_scalar? rfl⟩
    · exact ⟨rfl, Value.checkHashable_of_scalar? rfl⟩
  have hfield (h : ∀ r ∈ rs, r.transaction.get f = .null ∨ (∃ s, r.transaction.get f = .text s) ∨
      ∃ d, r.transaction.get f = .date d) : ∃ out, count rs (.value (.text f.toText)) = .ok out :=
    (exists_count_iff fun r hr => (hscalar (h r hr)).1).2 fun r hr => (hscalar (h r hr)).2
  have hdate {v : Value} (h : v = .null ∨ ∃ d, v = .date d) :
      v = .null ∨ (∃ s, v = .text s) ∨ ∃ d, v = .date d := h.imp_right .inr
  have htext {v : Value} (h : v = .null ∨ ∃ s, v = .text s) :
      v = .null ∨ (∃ s, v = .text s) ∨ ∃ d, v = .date d := h.imp_right .inl
  cases f with
  | bank => exact hfield fun r hr => .inr (.inl (hrs r hr).bank)
  | account => exact hfield fun r hr => .inr (.inl (hrs r hr).account)
  | postDate => exact hfield fun r hr => hdate (hrs r hr).postDate
  | transactionDate => exact hfield fun r hr => hdate (hrs r hr).transactionDate
  | description => exact hfield fun r hr => .inr (.inl (hrs r hr).description)
  | name => exact hfield fun r hr => htext (hrs r hr).name
  | notes => exact hfield fun r hr => htext (hrs r hr).notes
  | tags => exact exists_count_tags rs
  | amount | balance => exact absurd hf (by decide)

end Query

/-! ### After some calls -/

section Runs

variable {calls : List Call} {l l' : Ledger}

/-- A name that a call gives to a converted record is a text. -/
theorem Call.Names.exists_text {k : Call} {t : Transaction} {name : Value} (h : k.Names t name)
    (ht : t.IsConverted) : ∃ s, name = .text s := by
  rcases h with ⟨r, -, rfl⟩ | ⟨-, rfl⟩
  · exact ⟨r.name, rfl⟩
  · obtain ⟨s, hs⟩ := ht.description
    rw [hs, Value.orElse]
    split
    · exact ⟨s, rfl⟩
    · exact ⟨[], rfl⟩

/-- The name after some calls: a text if one of them contains the record, otherwise the one from
before. -/
theorem Annotated.name_cases {t u : Transaction} (h : Annotated calls t u) (ht : t.IsConverted) :
    (calls ≠ [] ∧ ∃ s, u.name = .text s) ∨ (calls = [] ∧ u.name = t.name) := by
  rcases List.eq_nil_or_concat' calls with rfl | ⟨before, k, rfl⟩
  · exact .inr ⟨rfl, h.unnamed rfl⟩
  · exact .inl ⟨by simp, (h.named before k rfl).exists_text ht⟩

variable {row : List (Value × Value)} {t u : Transaction}

/-- After some calls a record that was read from a mapping is converted, and its name and notes are
null, texts or present. -/
theorem Annotated.isNote (h : Annotated calls t u) (hrow : Transaction.ofMapping row = .ok t) :
    u.IsConverted ∧ Transaction.IsNote u.name ∧ Transaction.IsNote u.notes := by
  obtain ⟨hconverted, hname, hnotes⟩ := Transaction.converted_of_ofMapping hrow
  refine ⟨hconverted.congr h.facts, ?_, ?_⟩
  · rcases h.name_cases hconverted with ⟨-, s, hs⟩ | ⟨-, hsame⟩
    · exact .inr (.inl ⟨s, hs⟩)
    · rw [hsame, hname]
      exact Transaction.isNote_orElse _
  · rw [h.facts.notes, hnotes]
    exact Transaction.isNote_orElse _

/-- After some calls a record is typed exactly if its notes were a text where they counted, and its
name was one or has been replaced by one. -/
theorem Annotated.isTyped_iff (h : Annotated calls t u) (hrow : Transaction.ofMapping row = .ok t) :
    u.IsTyped ↔ (calls ≠ [] ∨ Transaction.IsTextEntry Field.name.toText row) ∧
      Transaction.IsTextEntry Field.notes.toText row := by
  obtain ⟨hconverted, hname, hnotes⟩ := Transaction.converted_of_ofMapping hrow
  have hnotesIff : (u.notes = .null ∨ ∃ s, u.notes = .text s) ↔
      Transaction.IsTextEntry Field.notes.toText row := by
    rw [h.facts.notes, hnotes]
    exact Transaction.orElse_null_iff
  have hnameIff : (u.name = .null ∨ ∃ s, u.name = .text s) ↔
      calls ≠ [] ∨ Transaction.IsTextEntry Field.name.toText row := by
    rcases h.name_cases hconverted with ⟨hcalls, hs⟩ | ⟨hcalls, hsame⟩
    · exact iff_of_true (.inr hs) (.inl hcalls)
    · rw [hsame, hname, or_iff_right (not_not_intro hcalls)]
      exact Transaction.orElse_null_iff
  rw [← hnameIff, ← hnotesIff]
  exact ⟨fun hu => ⟨hu.name, hu.notes⟩, fun hu =>
    { toIsConverted := hconverted.congr h.facts, name := hu.1, notes := hu.2 }⟩

/-- After some calls each record that was read from a mapping is converted, and it is typed unless
its notes are no text, or its name is none and no call contains it. Typed records, and no others,
can be asked for any texts, and they can be counted by any field that is no number. -/
theorem typed_of_run
    (hrows : ∀ id t, l.get? id = some t → ∃ row, Transaction.ofMapping row = .ok t)
    (h : Call.run calls l = .ok l') :
    (∀ id row t u, Transaction.ofMapping row = .ok t → l.get? id = some t → l'.get? id = some u →
      u.IsConverted ∧
      (u.IsTyped ↔
        ((∃ k ∈ calls, id ∈ k.ids) ∨ Transaction.IsTextEntry Field.name.toText row) ∧
          Transaction.IsTextEntry Field.notes.toText row)) ∧
    ∀ ids,
      ((∀ r ∈ l'.records ids, r.transaction.IsTyped) ↔
        ∀ named, (∀ e ∈ named, Criterion.AsksText e) → ∀ negate,
          ∃ out, Query.filterNamed (l'.records ids) named negate = .ok out) ∧
      ((∀ r ∈ l'.records ids, r.transaction.IsTyped) → ∀ f ∈ Query.kindFields,
        ∃ out, Query.count (l'.records ids) (.value (.text f.toText)) = .ok out) := by
  obtain ⟨hsize, hrecords⟩ := annotated_filter_of_run h
  refine ⟨fun id row t u hrow ht hu => ?_, fun ids => ⟨?_, ?_⟩⟩
  · obtain ⟨u', hu', hannotated⟩ := hrecords id t ht
    obtain rfl := Option.some.inj (hu.symm.trans hu')
    refine ⟨(hannotated.isNote hrow).1, ?_⟩
    have hcalls : calls.filter (fun k => decide (id ∈ k.ids)) ≠ [] ↔ ∃ k ∈ calls, id ∈ k.ids := by
      simp [List.filter_eq_nil_iff]
    rw [hannotated.isTyped_iff hrow, hcalls]
  · refine Query.typed_iff_filterNamed fun r hr => ?_
    have hu := Ledger.get?_of_mem_records hr
    obtain ⟨t, ht⟩ := Ledger.exists_get? hsize hu
    obtain ⟨u, hu', hannotated⟩ := hrecords r.id t ht
    obtain rfl := Option.some.inj (hu.symm.trans hu')
    obtain ⟨row, hrow⟩ := hrows r.id t ht
    exact hannotated.isNote hrow
  · intro htyped f hf
    exact Query.exists_count_of_isTyped htyped hf

end Runs

/-! ### Names and notes that are no texts -/

/-- A mapping with a name and notes. -/
def detailRow (name notes : Value) : List (Value × Value) :=
  [(.text "name", name), (.text "notes", notes)]

/-- The transaction that is read from such a mapping. -/
def detailTransaction (name notes : Value) : Transaction where
  bank := .text []
  account := .text []
  postDate := .null
  name := name.orElse .null
  notes := notes.orElse .null

/-- A mapping with a name and notes is read, and what counts as false in it becomes nothing. -/
theorem ofMapping_detailRow (name notes : Value) :
    Transaction.ofMapping (detailRow name notes) = .ok (detailTransaction name notes) := by
  have hlookup (f : Field) : Value.lookup? f.toText (detailRow name notes) =
      match f with
      | .name => some name
      | .notes => some notes
      | _ => none := by cases f <;> rfl
  have htags : Transaction.readTags .null = .ok ∅ := rfl
  have hdate : Value.null.toDate = .ok none := rfl
  have hempty : Transaction.readText .null = .ok (.text []) := rfl
  have hzero : (Value.int 0).toAmount = .ok .zero :=
    Transaction.toAmount_int Transaction.hasNumeral_zero
  simp only [Transaction.ofMapping, Value.lookup, hlookup, Option.getD_some, Option.getD_none,
    htags, hdate, hempty, hzero, ok_bind]
  rfl

/-- Two records with numbers as their names, the second one with a number as its notes. -/
def detailLedger : Ledger where
  transactions := [detailTransaction (.int 5) .null, detailTransaction (.int 5) (.int 7)]

/-- A categorizer without rules goes over both of them. -/
def detailCall : Call where
  categorizer := ⟨{}, .finite false 100 (-2), .finite false 100000 (-2)⟩
  limits := {}
  ids := [0, 1]

/-- A run replaces a number as a name, and leaves a number as notes where it is. -/
theorem typed_of_run_detail :
    (∀ id t, detailLedger.get? id = some t → ∃ row, Transaction.ofMapping row = .ok t) ∧
    ∃ l' u v, Call.run [detailCall] detailLedger = .ok l' ∧
      l'.get? 0 = some u ∧ u.IsTyped ∧ l'.get? 1 = some v ∧ v.IsConverted ∧ ¬v.IsTyped := by
  have hrows : ∀ id t, detailLedger.get? id = some t →
      ∃ row, Transaction.ofMapping row = .ok t := by
    intro id t ht
    have hmem : t ∈ detailLedger.transactions := List.mem_of_getElem? ht
    rcases List.mem_pair.1 hmem with rfl | rfl
    · exact ⟨_, ofMapping_detailRow _ _⟩
    · exact ⟨_, ofMapping_detailRow _ _⟩
  obtain ⟨l', u, v, hrun, hu, hv⟩ : ∃ l' u v, Call.run [detailCall] detailLedger = .ok l' ∧
      l'.get? 0 = some u ∧ l'.get? 1 = some v := ⟨_, _, _, rfl, rfl, rfl⟩
  have htyped := (typed_of_run hrows hrun).1
  have hfirst := htyped 0 _ _ u (ofMapping_detailRow (.int 5) .null) rfl hu
  have hsecond := htyped 1 _ _ v (ofMapping_detailRow (.int 5) (.int 7)) rfl hv
  refine ⟨hrows, l', u, v, hrun, hu, hfirst.2.2 ⟨.inl ?_, ?_⟩, hv, hsecond.1, fun h => ?_⟩
  · exact ⟨detailCall, List.mem_cons_self, List.mem_cons_self⟩
  · exact fun hpresent => absurd hpresent nofun
  · obtain ⟨s, hs⟩ := (hsecond.2.1 h).2 rfl
    cases hs

/-- A number as a name is kept as it is, and a filter that asks for a name fails at it; a list as a
name cannot be counted. -/
theorem name_stays_number :
    Transaction.ofMapping (detailRow (.int 5) .null) = .ok (detailTransaction (.int 5) .null) ∧
    ¬(detailTransaction (.int 5) .null).IsTyped ∧
    Query.filterNamed [⟨0, detailTransaction (.int 5) .null⟩] [("name", .value (.text "x"))] false =
      .error (.missingAttribute "int" "lower") ∧
    Transaction.ofMapping (detailRow (.list ["x"]) .null) =
      .ok (detailTransaction (.list ["x"]) .null) ∧
    Query.count [⟨0, detailTransaction (.list ["x"]) .null⟩] (.value "name") =
      .error (.unhashable "list") := by
  refine ⟨ofMapping_detailRow _ _, fun h => ?_, rfl, ofMapping_detailRow _ _, rfl⟩
  rcases h.name with hnull | ⟨s, hs⟩
  · cases hnull
  · cases hs

end LedgerTags
