import LedgerTags.Proofs.FieldKinds
import LedgerTags.Proofs.RoundTrip

/-!
# Annotated transactions as mappings

A call gives names and tags that no mapping may have had. The other fields stay as they were read,
so an annotated transaction can still be written, and what is written is read as the same
transaction. There is one exception: reading takes an empty name for none. So the name is lost
exactly if the last call that contains the record gives it an empty one, from a rule without a name
or, if no rule applies, from an empty description (`ofMapping_toMapping_of_run`).

The interchange text needs a little more. JSON joins a high surrogate and a low one, so the names
and tags of the rules must hold no such pairs; those that are read hold none.
-/

namespace LedgerTags

open Json

namespace Transaction

variable {t u : Transaction} {row : List (Value × Value)}

/-- The decimals that a mapping has for the amount and the balance can be read. -/
def HasReadableAmounts (row : List (Value × Value)) : Prop :=
  ∀ f ∈ [Field.amount, Field.balance], ∀ x : Decimal,
    Value.lookup? f.toText row = some (.decimal x) → x.IsReadable

private theorem IsReadFrom.isWritable (h : IsReadFrom row t) (hrow : HasReadableAmounts row) :
    t.IsWritable := by
  have hamount {f : Field} (hf : f ∈ [Field.amount, Field.balance]) {w : Value}
      (h : ∃ x, ((Value.lookup? f.toText row).getD (.int 0)).toAmount = .ok x ∧ w = .decimal x) :
      IsAmount w := by
    obtain ⟨x, hx, rfl⟩ := h
    refine ⟨x, rfl, isReadable_of_toAmount (fun y hy => hrow f hf y ?_) hx⟩
    rcases Option.getD_eq_iff.1 hy with hsome | ⟨-, hzero⟩
    · exact hsome
    · cases hzero
  exact {
    bank := exists_text_of_readText h.bank
    account := exists_text_of_readText h.account
    dates := h.exists_dates
    description := exists_text_of_readText h.description
    amount := hamount (by decide) h.amount
    balance := hamount (by decide) h.balance }

private theorem IsWritable.congr (h : t.SameFacts u) (ht : t.IsWritable) : u.IsWritable where
  bank := h.bank ▸ ht.bank
  account := h.account ▸ ht.account
  dates := by
    rw [h.postDate, h.transactionDate]
    exact ht.dates
  description := h.description ▸ ht.description
  amount := h.amount ▸ ht.amount
  balance := h.balance ▸ ht.balance

private theorem HasNumbers.congr (h : t.SameFacts u) (ht : t.HasNumbers) : u.HasNumbers where
  amount := h.amount ▸ ht.amount
  balance := h.balance ▸ ht.balance

end Transaction

/-! ### Names that are lost -/

namespace Call

variable {k : Call} {t u : Transaction} {calls : List Call}

/-- The name that a call gives is empty: that of its rule, or the description if no rule applies. -/
def GivesEmptyName (k : Call) (t : Transaction) : Prop :=
  (∃ r, k.Wins t r ∧ r.name = []) ∨ ((¬∃ r, k.Wins t r) ∧ t.description = .text [])

private theorem givesEmptyName_iff (ht : ∃ s, t.description = .text s) :
    k.GivesEmptyName t ↔ k.Names t (.text []) := by
  obtain ⟨s, hs⟩ := ht
  have hdescription : t.description.orElse (.text []) = t.description := by
    rw [hs]
    cases s <;> rfl
  rw [GivesEmptyName, Names, hdescription]
  simp only [Value.text.injEq, eq_comm]

/-- The last of some calls that contains a record gives it an empty name. -/
def LeavesUnnamed (calls : List Call) (id : Nat) (t : Transaction) : Prop :=
  ∃ before k after, calls = before ++ k :: after ∧ id ∈ k.ids ∧ (∀ j ∈ after, ¬id ∈ j.ids) ∧
    k.GivesEmptyName t

/-- The names and tags of the rules hold no pairs of surrogates. -/
def HasPlainRules (k : Call) : Prop :=
  ∀ r ∈ k.categorizer.store.rules, NoPairs r.name ∧ ∀ s ∈ r.tags, NoPairs s

private theorem Wins.mem_rules {r : Rule} (h : k.Wins t r) : r ∈ k.categorizer.store.rules := by
  obtain ⟨s, -, hr⟩ := h
  exact List.mem_of_find?_eq_some hr

private theorem Names.isDocument {name : Value} (h : k.Names t name) (hk : k.HasPlainRules)
    (ht : IsDocument t.description) : IsDocument name := by
  rcases h with ⟨r, hr, rfl⟩ | ⟨-, rfl⟩
  · exact .text (hk r hr.mem_rules).1
  · exact Transaction.isDocument_orElse ht (.text .nil)

private theorem Gives.noPairs {x : Text} (h : k.Gives t x) (hk : k.HasPlainRules) : NoPairs x := by
  rcases h with ⟨r, hr, hx⟩ | ⟨rfl, -⟩ | ⟨rfl, -⟩
  · exact (hk r hr.mem_rules).2 x hx
  · decide
  · decide

end Call

section Runs

variable {calls : List Call} {l l' : Ledger} {t u : Transaction} {row : List (Value × Value)}

/-- Annotated transactions still hold values of documents. -/
theorem Annotated.holdsDocuments (h : Annotated calls t u)
    (hcalls : ∀ k ∈ calls, k.HasPlainRules) (ht : t.HoldsDocuments) : u.HoldsDocuments where
  bank := h.facts.bank ▸ ht.bank
  account := h.facts.account ▸ ht.account
  description := h.facts.description ▸ ht.description
  name := by
    rcases List.eq_nil_or_concat' calls with rfl | ⟨before, k, rfl⟩
    · rw [h.unnamed rfl]
      exact ht.name
    · have hk : k.HasPlainRules := hcalls k (by simp)
      exact (h.named before k rfl).isDocument hk ht.description
  notes := h.facts.notes ▸ ht.notes
  tags := by
    intro x hx
    rcases (h.tags x).1 hx with hold | ⟨k, hk, hgives⟩
    · exact ht.tags x hold
    · exact hgives.noPairs (hcalls k hk)

/-- The last call that contains a record is the last one of those that do. -/
theorem Call.leavesUnnamed_iff {id : Nat} :
    Call.LeavesUnnamed calls id t ↔
      ∃ before k, calls.filter (fun k => decide (id ∈ k.ids)) = before ++ [k] ∧
        k.GivesEmptyName t := by
  constructor
  · rintro ⟨before, k, after, rfl, hid, hafter, hempty⟩
    refine ⟨before.filter fun k => decide (id ∈ k.ids), k, ?_, hempty⟩
    have hnil : after.filter (fun k => decide (id ∈ k.ids)) = [] :=
      List.filter_eq_nil_iff.2 fun j hj => by simpa using hafter j hj
    rw [List.filter_append, List.filter_cons, if_pos (decide_eq_true hid), hnil]
  · rintro ⟨before, k, hfilter, hempty⟩
    obtain ⟨first, rest, rfl, -, hlast⟩ := List.filter_eq_append_iff.1 hfilter
    obtain ⟨between, after, rfl, -, hid, hnil⟩ := List.filter_eq_cons_iff.1 hlast
    refine ⟨first ++ between, k, after, (List.append_assoc ..).symm, of_decide_eq_true hid,
      fun j hj => ?_, hempty⟩
    simpa using List.filter_eq_nil_iff.1 hnil j hj

private theorem Transaction.orElse_orElse_null (v : Value) :
    (v.orElse .null).orElse .null = v.orElse .null := by
  cases h : v.isTrue with
  | true => rw [orElse_of_isTrue h, orElse_of_isTrue h]
  | false =>
    rw [orElse_of_not_isTrue h]
    rfl

/-- The name after some calls is empty if the last one gives an empty one, and otherwise it is one
that reading keeps. -/
theorem Annotated.name_empty_or (h : Annotated calls t u)
    (hrow : Transaction.ofMapping row = .ok t) :
    ((∃ before k, calls = before ++ [k] ∧ k.GivesEmptyName t) ∧ u.name = .text []) ∨
      ((¬∃ before k, calls = before ++ [k] ∧ k.GivesEmptyName t) ∧
        u.name.orElse .null = u.name) := by
  obtain ⟨hconverted, hname, -⟩ := Transaction.converted_of_ofMapping hrow
  rcases List.eq_nil_or_concat' calls with rfl | ⟨before, k, rfl⟩
  · refine .inr ⟨by simp, ?_⟩
    rw [h.unnamed rfl, hname, Transaction.orElse_orElse_null]
  · have hnames : k.Names t u.name := h.named before k rfl
    have hempty : k.GivesEmptyName t ↔ u.name = .text [] := by
      rw [Call.givesEmptyName_iff hconverted.description]
      exact ⟨hnames.unique, fun hnil => hnil ▸ hnames⟩
    have hlast : (∃ before' k', before ++ [k] = before' ++ [k'] ∧ k'.GivesEmptyName t) ↔
        k.GivesEmptyName t := by
      constructor
      · rintro ⟨before', k', heq, hk'⟩
        obtain ⟨-, hk⟩ := List.append_inj' heq rfl
        rwa [List.singleton_inj.1 hk]
      · exact fun hk => ⟨before, k, rfl, hk⟩
    rw [hlast, hempty]
    by_cases hnil : u.name = .text []
    · exact .inl ⟨hnil, hnil⟩
    · obtain ⟨s, hs⟩ := hnames.exists_text hconverted
      refine .inr ⟨hnil, ?_⟩
      rw [hs] at hnil ⊢
      cases s with
      | nil => exact absurd rfl hnil
      | cons c s => rfl

/-- What reading makes of an annotated transaction: the transaction itself, or without its name if
that is empty. -/
theorem Annotated.readBack_eq {id : Nat}
    (h : Annotated (calls.filter fun k => decide (id ∈ k.ids)) t u)
    (hrow : Transaction.ofMapping row = .ok t) :
    (Call.LeavesUnnamed calls id t → u.name = .text [] ∧ u.readBack = { u with name := .null }) ∧
      (¬Call.LeavesUnnamed calls id t → u.readBack = u) := by
  obtain ⟨-, -, hnotes⟩ := Transaction.converted_of_ofMapping hrow
  have hkept : u.notes.orElse .null = u.notes := by
    rw [h.facts.notes, hnotes, Transaction.orElse_orElse_null]
  rw [Call.leavesUnnamed_iff, Transaction.readBack, hkept]
  rcases h.name_empty_or hrow with ⟨hempty, hname⟩ | ⟨hother, hname⟩
  · refine ⟨fun _ => ⟨hname, ?_⟩, absurd hempty⟩
    rw [hname]
    rfl
  · exact ⟨fun hempty => absurd hempty hother, fun _ => by rw [hname]⟩

end Runs

/-! ### Reading what is written -/

namespace Interchange

/-- Transactions that hold values of documents are written in either layout and read back in the
same order, but for names and notes that do not count as present. -/
theorem exists_write {ts : List Transaction} (hts : ∀ t ∈ ts, t.IsWritable)
    (hdocuments : ∀ t ∈ ts, t.HoldsDocuments) (hnumbers : ∀ t ∈ ts, t.HasNumbers)
    (layout : Layout) (source : Text) :
    ∃ text, write layout ts = .ok text ∧
      readOctets source (Text.Utf8.encode text) = .ok (ts.map Transaction.readBack) := by
  obtain ⟨rows, hobjects, hrows, hback⟩ := exists_objects_of_isWritable hts hdocuments hnumbers
  have hlines := isLine_layoutLines hrows layout
  refine ⟨Text.ended (layoutLines layout rows), ?_, ?_⟩
  · rw [write, writeLines, hobjects]
    cases layout <;> rfl
  · rw [readOctets, Text.Utf8.decode?_encode (isScalar_ended hlines)]
    dsimp only
    rw [unifyNewlines_ended hlines, read, readValues_layoutLines hrows layout, ok_bind,
      mappings?_objects]
    exact hback

end Interchange

section Runs

variable {calls : List Call} {l l' : Ledger}

/-- Transactions that were read and annotated are written and read back in either layout. -/
theorem exists_write_of_run (h : Call.run calls l = .ok l')
    (hread : ∀ t ∈ l.transactions, t.IsRead) (hnumbers : ∀ t ∈ l.transactions, t.HasNumbers)
    (hcalls : ∀ k ∈ calls, k.HasPlainRules) (layout : Interchange.Layout) (source : Text) :
    ∃ text, Interchange.write layout l'.transactions = .ok text ∧
      Interchange.readOctets source (Text.Utf8.encode text) =
        .ok (l'.transactions.map Transaction.readBack) := by
  obtain ⟨hsize, hrecords⟩ := annotated_filter_of_run h
  have hannotated : ∀ u ∈ l'.transactions, ∃ t ∈ l.transactions, ∃ some,
      (∀ k ∈ some, k ∈ calls) ∧ Annotated some t u := by
    intro u hu
    obtain ⟨id, hu⟩ := List.mem_iff_getElem?.1 hu
    obtain ⟨t, ht⟩ := Ledger.exists_get? hsize hu
    obtain ⟨u', hu', hannotated⟩ := hrecords id t ht
    obtain rfl := Option.some.inj (hu.symm.trans hu')
    exact ⟨t, List.mem_of_getElem? ht, _, fun k hk => List.mem_of_mem_filter hk, hannotated⟩
  refine Interchange.exists_write (fun u hu => ?_) (fun u hu => ?_) (fun u hu => ?_) layout source
  all_goals obtain ⟨t, ht, some, hsome, hannotated⟩ := hannotated u hu
  · exact (hread t ht).isWritable.congr hannotated.facts
  · exact hannotated.holdsDocuments (fun k hk => hcalls k (hsome k hk)) (hread t ht).holdsDocuments
  · exact (hnumbers t ht).congr hannotated.facts

/-- What is written of an annotated transaction is read as the same transaction, but for an empty
name, which the last call that contains the record can have given. The text of all transactions that
were read and annotated is read as these transactions, in the same order. -/
theorem ofMapping_toMapping_of_run (h : Call.run calls l = .ok l') :
    (∀ id row t u, Transaction.ofMapping row = .ok t → l.get? id = some t → l'.get? id = some u →
      (Transaction.HasReadableAmounts row → t.HasNumbers → ∃ m, u.toMapping = .ok m ∧
        Transaction.ofMapping (Transaction.mappingValue m) = .ok u.readBack) ∧
      (Call.LeavesUnnamed calls id t →
        u.name = .text [] ∧ u.readBack = { u with name := .null }) ∧
      (¬Call.LeavesUnnamed calls id t → u.readBack = u)) ∧
    ∀ source octets, Interchange.readOctets source octets = .ok l.transactions →
      (∀ t ∈ l.transactions, t.HasNumbers) → (∀ k ∈ calls, k.HasPlainRules) →
      ∀ layout source', ∃ text, Interchange.write layout l'.transactions = .ok text ∧
        Interchange.readOctets source' (Text.Utf8.encode text) =
          .ok (l'.transactions.map Transaction.readBack) := by
  refine ⟨fun id row t u hrow ht hu => ?_, fun source octets hoctets hnumbers hcalls => ?_⟩
  · obtain ⟨-, hrecords⟩ := annotated_filter_of_run h
    obtain ⟨u', hu', hannotated⟩ := hrecords id t ht
    obtain rfl := Option.some.inj (hu.symm.trans hu')
    refine ⟨fun hreadable hnumbers => ?_, hannotated.readBack_eq hrow⟩
    have hwritable : t.IsWritable := (Transaction.isReadFrom_of_ofMapping hrow).isWritable hreadable
    obtain ⟨m, hm, hback, -⟩ := Transaction.ofMapping_toMapping_of_isWritable
      (hwritable.congr hannotated.facts) (hnumbers.congr hannotated.facts)
    exact ⟨m, hm, hback⟩
  · have hread : ∀ t ∈ l.transactions, t.IsRead := by
      rw [Interchange.readOctets] at hoctets
      split at hoctets
      · exact Interchange.isRead_of_read hoctets
      · cases hoctets
    exact exists_write_of_run h hread hnumbers hcalls

end Runs

/-! ### Empty descriptions and halves of a character -/

/-- A record without a description. -/
def blank : Transaction := detailTransaction .null .null

/-- The mapping of such a record. -/
def blankFields : List (Text × Value) := [("name", .null), ("notes", .null)]

/-- Two such records on lines. -/
def blankText : Text :=
  Text.ended (Interchange.layoutLines .lines [members blankFields, members blankFields])

/-- A categorizer without rules goes over the second record. -/
def blankCall : Call := { detailCall with ids := [1] }

private theorem ofMapping_blankFields : Transaction.ofMapping (members blankFields) = .ok blank :=
  ofMapping_detailRow .null .null

private theorem hasReadableAmounts_blankFields :
    Transaction.HasReadableAmounts (members blankFields) := by
  intro f hf x hx
  rcases List.mem_pair.1 hf with rfl | rfl
  · cases hx
  · cases hx

private theorem readOctets_blankText :
    Interchange.readOctets "in.jsonl" (Text.Utf8.encode blankText) = .ok [blank, blank] := by
  have hdocument : IsDocument (.dict (members blankFields)) := by
    refine .dict (by decide) (by decide) ?_
    simp only [blankFields, List.forall_mem_cons, List.not_mem_nil, false_imp_iff, implies_true,
      and_true]
    exact ⟨.null, .null⟩
  have hrows : ∀ row ∈ [members blankFields, members blankFields], IsDocument (.dict row) := by
    intro row hrow
    rcases List.mem_pair.1 hrow with rfl | rfl
    · exact hdocument
    · exact hdocument
  have hlines := Interchange.isLine_layoutLines hrows .lines
  rw [blankText, Interchange.readOctets,
    Text.Utf8.decode?_encode (Interchange.isScalar_ended hlines)]
  dsimp only
  rw [Interchange.unifyNewlines_ended hlines, Interchange.read,
    Interchange.readValues_layoutLines hrows .lines, ok_bind, Interchange.mappings?_objects]
  dsimp only
  rw [List.mapM_cons, List.mapM_cons, ofMapping_blankFields]
  rfl

private theorem hasNumbers_blank : blank.HasNumbers where
  amount x hx := by
    cases hx
    rfl
  balance x hx := by
    cases hx
    rfl

private theorem leavesUnnamed_blank : Call.LeavesUnnamed [sampleCall, blankCall] 1 blank := by
  refine ⟨[sampleCall], blankCall, [], rfl, by decide, fun j hj => absurd hj List.not_mem_nil,
    .inr ⟨?_, rfl⟩⟩
  rintro ⟨r, s, -, hr⟩
  cases hr

/-- A record that a rule names is read back as it is, and one without a description and without a
rule loses its empty name. -/
theorem ofMapping_toMapping_of_run_blank :
    ∃ u v, Call.run [sampleCall, blankCall] ⟨[blank, blank]⟩ = .ok ⟨[u, v]⟩ ∧
      u.name = .text "Shop" ∧ u.readBack = u ∧
      v.name = .text [] ∧ v.readBack = { v with name := .null } ∧
      (∃ m, v.toMapping = .ok m ∧
        Transaction.ofMapping (Transaction.mappingValue m) = .ok v.readBack) ∧
      ∃ text, Interchange.write .array [u, v] = .ok text ∧
        Interchange.readOctets "out.json" (Text.Utf8.encode text) =
          .ok [u.readBack, v.readBack] := by
  obtain ⟨u, v, hrun, hname⟩ : ∃ u v,
      Call.run [sampleCall, blankCall] ⟨[blank, blank]⟩ = .ok ⟨[u, v]⟩ ∧ u.name = .text "Shop" :=
    ⟨_, _, rfl, rfl⟩
  have hplain : ∀ k ∈ [sampleCall, blankCall], k.HasPlainRules := by
    intro k hk r hr
    rcases List.mem_pair.1 hk with rfl | rfl
    · rw [List.mem_singleton.1 hr]
      decide
    · cases hr
  have hnumbers : ∀ t ∈ [blank, blank], t.HasNumbers := by
    intro t ht
    rcases List.mem_pair.1 ht with rfl | rfl
    · exact hasNumbers_blank
    · exact hasNumbers_blank
  obtain ⟨hrecords, htext⟩ := ofMapping_toMapping_of_run hrun
  obtain ⟨-, hlost, hkept⟩ := hrecords 0 _ _ u ofMapping_blankFields rfl rfl
  obtain ⟨hback, hempty, -⟩ := hrecords 1 _ _ v ofMapping_blankFields rfl rfl
  obtain ⟨hnone, hnull⟩ := hempty leavesUnnamed_blank
  refine ⟨u, v, hrun, hname, hkept fun h => ?_, hnone, hnull,
    hback hasReadableAmounts_blankFields hasNumbers_blank,
    htext "in.jsonl" _ readOctets_blankText hnumbers hplain .array "out.json"⟩
  have hfalse := (hlost h).1
  rw [hname] at hfalse
  cases hfalse

/-- A categorizer with a rule for every description, whose name is the two halves of a character. -/
def halvesCall : Call where
  categorizer :=
    { store := ⟨[⟨[CodePoint.ofNat 0xD83D, CodePoint.ofNat 0xDE00], ⟨[], []⟩, ∅, "a.yml", 0⟩],
        ["a.yml"]⟩
      smallLimit := .ofInt 1
      largeLimit := .ofInt 1000 }
  limits := {}
  ids := [0]

/-- An empty name is lost in the mapping, and a name of two halves is another one in the text. -/
theorem empty_name_lost :
    (∃ u m, Transaction.ofMapping (members blankFields) = .ok blank ∧ blank.HasNumbers ∧
      Call.run [detailCall] ⟨[blank]⟩ = .ok ⟨[u]⟩ ∧ u.toMapping = .ok m ∧
      Transaction.ofMapping (Transaction.mappingValue m) = .ok { u with name := .null } ∧
      u ≠ { u with name := .null }) ∧
    ∃ u text, Call.run [halvesCall] ⟨[blank]⟩ = .ok ⟨[u]⟩ ∧
      u.name = .text [CodePoint.ofNat 0xD83D, CodePoint.ofNat 0xDE00] ∧
      Interchange.write .lines [u] = .ok text ∧
      (Interchange.readOctets "out.jsonl" (Text.Utf8.encode text)).toOption.map
        (fun ts => ts.map fun t => t.name.text?) = some [some [CodePoint.ofNat 0x1F600]] := by
  refine ⟨?_, ?_⟩
  · obtain ⟨u, hrun, hempty, hname, hfacts⟩ : ∃ u, Call.run [detailCall] ⟨[blank]⟩ = .ok ⟨[u]⟩ ∧
        u.readBack = { u with name := .null } ∧ u.name = .text [] ∧ blank.SameFacts u :=
      ⟨_, rfl, rfl, rfl, ⟨rfl, rfl, rfl, rfl, rfl, rfl, rfl, rfl⟩⟩
    have hwritable : blank.IsWritable :=
      (Transaction.isReadFrom_of_ofMapping ofMapping_blankFields).isWritable
        hasReadableAmounts_blankFields
    obtain ⟨m, hm, hback, -⟩ := Transaction.ofMapping_toMapping_of_isWritable
      (hwritable.congr hfacts) (hasNumbers_blank.congr hfacts)
    refine ⟨u, m, ofMapping_blankFields, hasNumbers_blank, hrun, hm, hempty ▸ hback, fun h => ?_⟩
    have hnull : u.name = .null := congrArg Transaction.name h
    rw [hname] at hnull
    cases hnull
  · refine ⟨_, _, rfl, rfl, rfl, ?_⟩
    decide +kernel

end LedgerTags
