import LedgerTags.Interchange
import LedgerTags.Proofs.DateText
import LedgerTags.Proofs.Display
import LedgerTags.Proofs.TagSets

/-!
# Transactions as mappings

Each field of a transaction that is read comes from an entry of its mapping
(`isReadFrom_of_ofMapping`). If the mapping is one of a document, the fields are definite (`IsRead`,
`isRead_of_ofMapping`): texts, days, decimals, and a name and notes that are absent or count as
present. The mapping of such a transaction is a mapping of a document again, and it is read as the
same transaction unless one of the amounts is a NaN (`ofMapping_toMapping`). Of any transaction that
can be written so, only a name and notes that do not count as present are lost
(`ofMapping_toMapping_of_isWritable`).
-/

namespace LedgerTags

open Json

/-! ### Fields that are read -/

/-- Plain characters are no surrogates. -/
theorem Json.noPairs_of_isPlain {t : Text} (h : ∀ c ∈ t, c.IsPlain) : NoPairs t := by
  refine noPairs_of_isSurrogate (Text.IsScalar.of_allShown fun c hc => ?_)
  have := h c hc
  rw [CodePoint.IsPlain] at this
  rw [IsShown]
  omega

namespace Transaction

/-- A text without pairs of surrogates. -/
def IsPlainField (v : Value) : Prop := ∃ t, v = .text t ∧ NoPairs t

/-- A detail: absent, or a value of a document that counts as present. -/
def IsDetail (v : Value) : Prop := v = .null ∨ IsDocument v ∧ v.isTrue = true

/-- An amount whose numeral is read back. -/
def IsAmount (v : Value) : Prop := ∃ x : Decimal, v = .decimal x ∧ x.IsReadable

/-- A transaction as a mapping of a document is read. -/
structure IsRead (t : Transaction) : Prop where
  bank : IsPlainField t.bank
  account : IsPlainField t.account
  /-- A transaction with a post date has a transaction date. -/
  dates : ∃ post transaction : Option Date, t.postDate = dateValue post ∧
    t.transactionDate = dateValue transaction ∧ (transaction = none → post = none)
  description : IsPlainField t.description
  name : IsDetail t.name
  amount : IsAmount t.amount
  balance : IsAmount t.balance
  notes : IsDetail t.notes
  tags : ∀ s ∈ t.tags, NoPairs s

section Fields

variable {v w : Value}

private theorem isDocument_lookup {es : List (Value × Value)} (h : IsDocument (.dict es))
    (key : Text) : IsDocument (Value.lookup key es) := by
  have hmembers {fs : List (Text × Value)} (h : ∀ e ∈ fs, IsDocument e.2) :
      IsDocument (Value.lookup key (members fs)) := by
    induction fs with
    | nil => exact .null
    | cons f fs ih =>
      obtain ⟨hf, hfs⟩ := List.forall_mem_cons.1 h
      rw [Value.lookup, members_cons, Value.lookup?]
      split
      · exact hf
      · exact ih hfs
  cases h with
  | dict _ _ h => exact hmembers h

/-- A value that counts as true is not replaced. -/
theorem orElse_of_isTrue (h : v.isTrue = true) : v.orElse w = v := if_pos h

/-- A value that counts as false is replaced. -/
theorem orElse_of_not_isTrue (h : v.isTrue = false) : v.orElse w = w :=
  if_neg (by rw [h]; decide)

/-- Replacing a value that counts as false gives a document if both are documents. -/
theorem isDocument_orElse (hv : IsDocument v) (hw : IsDocument w) : IsDocument (v.orElse w) := by
  rw [Value.orElse]
  split
  · exact hv
  · exact hw

private theorem toText_eq_ok {t : Text} (h : v.toText = .ok t) : t = v.plain := by
  rw [Value.toText] at h
  split at h <;> cases h
  rfl

private theorem isPlainField_of_readText (hv : IsDocument v) (h : readText v = .ok w) :
    IsPlainField w := by
  obtain ⟨t, ht, h⟩ := bind_eq_ok_iff.1 h
  cases h
  refine ⟨t, rfl, ?_⟩
  rw [toText_eq_ok ht]
  exact Value.noPairs_plain (isDocument_orElse hv (.text .nil))

/-- A field for texts is read as a text. -/
theorem exists_text_of_readText (h : readText v = .ok w) : ∃ s, w = .text s := by
  obtain ⟨s, -, h⟩ := bind_eq_ok_iff.1 h
  cases h
  exact ⟨s, rfl⟩

/-- A text is read as it is. -/
theorem readText_text (t : Text) : readText (.text t) = .ok (.text t) := by
  cases t <;> rfl

/-- A plain field can be written as a document. -/
theorem IsPlainField.isDocument (h : IsPlainField v) : IsDocument v := by
  obtain ⟨t, rfl, ht⟩ := h
  exact .text ht

private theorem isDetail_orElse (hv : IsDocument v) : IsDetail (v.orElse .null) := by
  cases htrue : v.isTrue with
  | false => exact .inl (orElse_of_not_isTrue htrue)
  | true =>
    rw [orElse_of_isTrue htrue]
    exact .inr ⟨hv, htrue⟩

/-- A name and notes can be written as documents. -/
theorem IsDetail.isDocument (h : IsDetail v) : IsDocument v := by
  rcases h with rfl | h
  · exact .null
  · exact h.1

private theorem IsDetail.orElse_eq (h : IsDetail v) : v.orElse .null = v := by
  rcases h with rfl | h
  · rfl
  · exact orElse_of_isTrue h.2

/-- What is read as an amount is readable, if it is not taken over as a decimal that is not. -/
theorem isReadable_of_toAmount {x : Decimal} (hv : ∀ y, v = .decimal y → y.IsReadable)
    (h : v.toAmount = .ok x) : x.IsReadable := by
  cases v with
  | decimal y =>
    cases h
    exact hv x rfl
  | null | bool b => cases h
  | _ =>
    rw [Value.toAmount.eq_def] at h
    obtain ⟨t, -, h⟩ := bind_eq_ok_iff.1 h
    split at h
    · next hsome =>
      cases h
      exact Decimal.isReadable_of_ofText? hsome
    · cases h

/-- The collection that the tags of a field are the members of. -/
def tagField (v : Value) : Value :=
  match v.orElse (.tuple []) with
  | .text t => .list [.text t]
  | w => w

private theorem readTags_eq_ok {s : TagSet} (h : readTags v = .ok s) :
    ∃ ts, (tagField v).collection? = some (ts.map .text) ∧ s = TagSet.ofList ts := by
  unfold readTags at h
  dsimp only at h
  split at h
  · next xs hxs =>
    have hfield : (tagField v).collection? = some xs := by
      rw [← hxs, tagField]
      cases v.orElse (.tuple []) <;> rfl
    split at h
    · next ts hts =>
      cases h
      exact ⟨ts, by rw [hfield, mapM_text?_eq_some_iff.1 hts], rfl⟩
    · cases h
  · cases h

private theorem noPairs_of_readTags {s : TagSet} (hv : IsDocument v) (h : readTags v = .ok s) :
    ∀ t ∈ s, NoPairs t := by
  obtain ⟨ts, hts, rfl⟩ := readTags_eq_ok h
  have hfield : ∀ x ∈ ((tagField v).collection?).getD [], IsDocument x := by
    rw [tagField]
    cases htrue : v.isTrue with
    | false =>
      rw [orElse_of_not_isTrue htrue]
      exact fun x hx => by cases hx
    | true =>
      rw [orElse_of_isTrue htrue]
      cases hv with
      | text ht => exact List.forall_mem_singleton.2 (.text ht)
      | list hxs => exact hxs
      | _ => exact fun x hx => by cases hx
  intro t ht
  rw [hts] at hfield
  cases hfield _ (List.mem_map_of_mem (TagSet.mem_ofList.1 ht)) with
  | text ht => exact ht

/-- The tags of a set are read back from their list. -/
theorem readTags_toList (s : TagSet) : readTags (.list (s.toList.map .text)) = .ok s := by
  have hset : TagSet.ofList s.toList = s := TagSet.ext fun x => TagSet.mem_ofList
  cases hs : s.toList with
  | nil =>
    rw [← hset, hs]
    rfl
  | cons t ts =>
    have htexts : (s.toList.map Value.text).mapM Value.text? = some s.toList :=
      mapM_text?_eq_some_iff.2 rfl
    rw [← hs, readTags, orElse_of_isTrue (by rw [hs]; rfl)]
    dsimp only [Value.collection?]
    rw [htexts]
    exact congrArg Except.ok hset

end Fields

/-! ### Reading a mapping -/

theorem hasNumeral_zero : Value.hasNumeral 0 = true := by
  rw [Value.hasNumeral, decide_eq_true_iff]
  exact Nat.pow_pos (by decide)

/-- Where the fields of a transaction that is read come from. -/
structure IsReadFrom (row : List (Value × Value)) (t : Transaction) : Prop where
  bank : readText (Value.lookup Field.bank.toText row) = .ok t.bank
  account : readText (Value.lookup Field.account.toText row) = .ok t.account
  /-- The post date stands in for a transaction date that is not there. -/
  dates : ∃ post transaction, (Value.lookup Field.postDate.toText row).toDate = .ok post ∧
    (Value.lookup Field.transactionDate.toText row).toDate = .ok transaction ∧
    t.postDate = dateValue post ∧
    t.transactionDate = (dateValue transaction).orElse (dateValue post)
  description : readText (Value.lookup Field.description.toText row) = .ok t.description
  name : t.name = (Value.lookup Field.name.toText row).orElse .null
  amount : ∃ x, ((Value.lookup? Field.amount.toText row).getD (.int 0)).toAmount = .ok x ∧
    t.amount = .decimal x
  balance : ∃ x, ((Value.lookup? Field.balance.toText row).getD (.int 0)).toAmount = .ok x ∧
    t.balance = .decimal x
  notes : t.notes = (Value.lookup Field.notes.toText row).orElse .null
  tags : readTags (Value.lookup Field.tags.toText row) = .ok t.tags

/-- A transaction that was read comes from its mapping field by field. -/
theorem isReadFrom_of_ofMapping {row : List (Value × Value)} {t : Transaction}
    (h : ofMapping row = .ok t) : IsReadFrom row t := by
  have hdecimal {v w : Value} (h : (v.toAmount >>= fun x => pure (Value.decimal x)) = .ok w) :
      ∃ x, v.toAmount = .ok x ∧ w = .decimal x := by
    obtain ⟨x, hx, h⟩ := bind_eq_ok_iff.1 h
    cases h
    exact ⟨x, hx, rfl⟩
  unfold ofMapping at h
  obtain ⟨tags, htags, h⟩ := bind_eq_ok_iff.1 h
  obtain ⟨post, hpost, h⟩ := bind_eq_ok_iff.1 h
  obtain ⟨bank, hbank, h⟩ := bind_eq_ok_iff.1 h
  obtain ⟨account, haccount, h⟩ := bind_eq_ok_iff.1 h
  obtain ⟨transaction, htransaction, h⟩ := bind_eq_ok_iff.1 h
  obtain ⟨description, hdescription, h⟩ := bind_eq_ok_iff.1 h
  obtain ⟨amount, hamount, h⟩ := bind_eq_ok_iff.1 h
  obtain ⟨balance, hbalance, h⟩ := bind_eq_ok_iff.1 h
  cases h
  exact {
    bank := hbank
    account := haccount
    dates := ⟨post, transaction, hpost, htransaction, rfl, rfl⟩
    description := hdescription
    name := rfl
    amount := hdecimal hamount
    balance := hdecimal hbalance
    notes := rfl
    tags := htags }

section ReadFrom

variable {row : List (Value × Value)} {t : Transaction}

/-- The dates of a transaction that was read are days or nothing, and with a post date there is a
transaction date. -/
theorem IsReadFrom.exists_dates (h : IsReadFrom row t) :
    ∃ post transaction : Option Date, t.postDate = dateValue post ∧
      t.transactionDate = dateValue transaction ∧ (transaction = none → post = none) := by
  obtain ⟨post, transaction, -, -, hpost, htransaction⟩ := h.dates
  cases transaction with
  | none => exact ⟨post, post, hpost, htransaction, id⟩
  | some d => exact ⟨post, some d, hpost, htransaction, fun h => by cases h⟩

/-- What is read from a mapping of a document has definite fields. -/
theorem isRead_of_ofMapping (hrow : IsDocument (.dict row)) (h : ofMapping row = .ok t) :
    IsRead t := by
  have hread := isReadFrom_of_ofMapping h
  have hfield (f : Field) : IsDocument (Value.lookup f.toText row) := isDocument_lookup hrow _
  have hamount (f : Field) {w : Value}
      (h : ∃ x, ((Value.lookup? f.toText row).getD (.int 0)).toAmount = .ok x ∧ w = .decimal x) :
      IsAmount w := by
    obtain ⟨x, hx, rfl⟩ := h
    refine ⟨x, rfl, isReadable_of_toAmount (fun y hy => ?_) hx⟩
    have hdocument := hfield f
    rw [Value.lookup] at hdocument
    cases hlookup : Value.lookup? f.toText row with
    | none =>
      rw [hlookup] at hy
      cases hy
    | some v =>
      rw [hlookup] at hy hdocument
      cases hy
      cases hdocument
  exact {
    bank := isPlainField_of_readText (hfield _) hread.bank
    account := isPlainField_of_readText (hfield _) hread.account
    dates := hread.exists_dates
    description := isPlainField_of_readText (hfield _) hread.description
    name := hread.name ▸ isDetail_orElse (hfield _)
    amount := hamount _ hread.amount
    balance := hamount _ hread.balance
    notes := hread.notes ▸ isDetail_orElse (hfield _)
    tags := noPairs_of_readTags (hfield _) hread.tags }

end ReadFrom

/-! ### Writing a mapping -/

/-- The text of a day, null for none. -/
def dayText : Option Date → Value
  | some d => .text d.toText
  | none => .null

private theorem writeDate_dateValue (d : Option Date) :
    writeDate (dateValue d) = .ok (dayText d) := by
  cases d <;> rfl

/-- A day that was written is read back. -/
theorem toDate_dayText (d : Option Date) : (dayText d).toDate = .ok d := by
  cases d with
  | none => rfl
  | some d =>
    have hread := Period.ofText_toText d
    have hne : (Value.text d.toText).text? ≠ some [] := by
      intro hnil
      rw [Option.some.inj hnil] at hread
      cases hread
    have htext : (Value.text d.toText).toText = .ok d.toText := rfl
    rw [dayText, Value.toDate.eq_def]
    dsimp only
    rw [if_neg hne, htext, ok_bind, hread]
    rfl

private theorem isDocument_dayText (d : Option Date) : IsDocument (dayText d) := by
  cases d with
  | none => exact .null
  | some d => exact .text (noPairs_of_isPlain (DatePattern.isPlain_toText d))

/-- A text that is a number is read as that number. -/
theorem toAmount_text {t : Text} {x : Decimal} (h : Value.amountOfText? t = some x) :
    (Value.text t).toAmount = .ok x := by
  have htext : (Value.text t).toText = .ok t := rfl
  rw [Value.toAmount.eq_def]
  dsimp only
  rw [htext, ok_bind, h]
  rfl

private theorem amountOfText?_toText {x : Decimal} (h : x.IsReadable) (hnan : x.isNaN = false) :
    Value.amountOfText? x.toText = some x := by
  have hfilter : x.toText.filter (fun c => c.val != 44) = x.toText := by
    refine List.filter_eq_self.2 fun c hc => ?_
    exact bne_iff_ne.2 (Decimal.isPlain_toText hnan c hc).2.2.2
  rw [Value.amountOfText?, hfilter, Decimal.ofText?_toText h hnan]

/-- A number that was written is read back, with its exponent. -/
theorem toAmount_toText {x : Decimal} (h : x.IsReadable) (hnan : x.isNaN = false) :
    (Value.text x.toText).toAmount = .ok x :=
  toAmount_text (amountOfText?_toText h hnan)

/-- A whole number is written unless it has too many digits. -/
theorem toText_int (n : ℤ) : (Value.int n).toText =
    if Value.hasNumeral n then .ok (Decimal.ofInt n).toText else .error (.numeralTooLong none) := by
  rw [Decimal.toText_ofInt]
  rfl

/-- A whole number with a numeral is the amount of the same value. -/
theorem toAmount_int {n : ℤ} (hn : Value.hasNumeral n = true) :
    (Value.int n).toAmount = .ok (.ofInt n) := by
  have hreadable : (Decimal.ofInt n).IsReadable :=
    Decimal.isReadable_ofInt (by decide) (by decide) (of_decide_eq_true hn)
  rw [Value.toAmount.eq_def]
  dsimp only
  rw [toText_int, if_pos hn, ok_bind, amountOfText?_toText hreadable rfl]
  rfl

/-- A whole number is read as the decimal with the exponent zero. -/
theorem toAmount_int_eq_ok {n : ℤ} {x : Decimal} (h : (Value.int n).toAmount = .ok x) :
    x = .ofInt n := by
  by_cases hn : Value.hasNumeral n = true
  · rw [toAmount_int hn] at h
    cases h
    rfl
  · rw [Value.toAmount.eq_def] at h
    dsimp only at h
    rw [toText_int, if_neg hn] at h
    cases h

/-- What is written of a field, given the texts of the dates and amounts. -/
def written (t : Transaction) (post transaction : Value) (amount balance : Text) : Field → Value
  | .postDate => post
  | .transactionDate => transaction
  | .amount => .text amount
  | .balance => .text balance
  | .tags => .list (t.tags.toList.map .text)
  | f => t.get f

/-- The mapping of what is written of the fields. -/
def mappingOf (g : Field → Value) : List (Text × Value) := Field.all.map fun f => (f.toText, g f)

private theorem lookup?_mappingOf (g : Field → Value) (f : Field) :
    Value.lookup? f.toText (members (mappingOf g)) = some (g f) := by
  cases f <;> rfl

private theorem lookup_mappingOf (g : Field → Value) (f : Field) :
    Value.lookup f.toText (members (mappingOf g)) = g f := by
  rw [Value.lookup, lookup?_mappingOf, Option.getD_some]

private theorem isDocument_mappingOf {g : Field → Value} (h : ∀ f, IsDocument (g f)) :
    IsDocument (.dict (members (mappingOf g))) := by
  have hkeys : (Field.all.map Field.toText).Nodup := by decide
  refine .dict ?_ (fun e he => ?_) fun e he => ?_
  · rw [mappingOf, List.map_map]
    exact hkeys
  · obtain ⟨f, -, rfl⟩ := List.mem_map.1 he
    have hscalar : f.toText.IsScalar := by cases f <;> exact Text.isScalar_ofString _
    exact noPairs_of_isSurrogate hscalar
  · obtain ⟨f, -, rfl⟩ := List.mem_map.1 he
    exact h f

/-- The fields that are written as texts are texts, days and readable decimals. -/
structure IsWritable (t : Transaction) : Prop where
  bank : ∃ s, t.bank = .text s
  account : ∃ s, t.account = .text s
  /-- A transaction with a post date has a transaction date. -/
  dates : ∃ post transaction : Option Date, t.postDate = dateValue post ∧
    t.transactionDate = dateValue transaction ∧ (transaction = none → post = none)
  description : ∃ s, t.description = .text s
  amount : IsAmount t.amount
  balance : IsAmount t.balance

/-- The fields that are written as they are hold values of documents. -/
structure HoldsDocuments (t : Transaction) : Prop where
  bank : IsDocument t.bank
  account : IsDocument t.account
  description : IsDocument t.description
  name : IsDocument t.name
  notes : IsDocument t.notes
  tags : ∀ s ∈ t.tags, NoPairs s

/-- Neither the amount nor the balance is a NaN. -/
structure HasNumbers (t : Transaction) : Prop where
  amount : ∀ x, t.amount = .decimal x → x.isNaN = false
  balance : ∀ x, t.balance = .decimal x → x.isNaN = false

/-- The transaction without a name and without notes that do not count as present. -/
def readBack (t : Transaction) : Transaction :=
  { t with name := t.name.orElse .null, notes := t.notes.orElse .null }

section Written

variable {t : Transaction} {x y : Decimal} {post transaction : Option Date}

/-- A transaction that was read can be written. -/
theorem IsRead.isWritable (ht : IsRead t) : IsWritable t := by
  have htext {v : Value} (hv : IsPlainField v) : ∃ s, v = .text s := by
    obtain ⟨s, hs, -⟩ := hv
    exact ⟨s, hs⟩
  exact {
    bank := htext ht.bank
    account := htext ht.account
    dates := ht.dates
    description := htext ht.description
    amount := ht.amount
    balance := ht.balance }

/-- A transaction that was read holds documents. -/
theorem IsRead.holdsDocuments (ht : IsRead t) : HoldsDocuments t where
  bank := ht.bank.isDocument
  account := ht.account.isDocument
  description := ht.description.isDocument
  name := ht.name.isDocument
  notes := ht.notes.isDocument
  tags := ht.tags

/-- A transaction that was read becomes itself when it is written and read. -/
theorem IsRead.readBack_eq (ht : IsRead t) : t.readBack = t := by
  rw [readBack, ht.name.orElse_eq, ht.notes.orElse_eq]

/-- What is written of a transaction that holds values of documents is a value of a document. -/
theorem isDocument_written (ht : HoldsDocuments t) (hx : x.isNaN = false) (hy : y.isNaN = false)
    (f : Field) :
    IsDocument (written t (dayText post) (dayText transaction) x.toText y.toText f) := by
  cases f with
  | bank => exact ht.bank
  | account => exact ht.account
  | postDate => exact isDocument_dayText post
  | transactionDate => exact isDocument_dayText transaction
  | description => exact ht.description
  | name => exact ht.name
  | amount => exact .text (noPairs_of_isPlain (Decimal.isPlain_toText hx))
  | balance => exact .text (noPairs_of_isPlain (Decimal.isPlain_toText hy))
  | notes => exact ht.notes
  | tags =>
    refine .list fun v hv => ?_
    obtain ⟨s, hs, rfl⟩ := List.mem_map.1 hv
    exact .text (ht.tags s hs)

private theorem toMapping_eq (hx : t.amount = .decimal x) (hy : t.balance = .decimal y)
    (hpost : t.postDate = dateValue post)
    (htransaction : t.transactionDate = dateValue transaction) :
    t.toMapping =
      .ok (mappingOf (written t (dayText post) (dayText transaction) x.toText y.toText)) := by
  rw [toMapping, hpost, htransaction, writeDate_dateValue, writeDate_dateValue, hx, hy]
  rfl

/-- The mapping of a transaction is read as the transaction itself, but for a name and notes that do
not count as present, unless one of the amounts is a NaN. -/
theorem ofMapping_toMapping_of_isWritable (ht : IsWritable t) (hnumbers : HasNumbers t) :
    ∃ m, t.toMapping = .ok m ∧ ofMapping (mappingValue m) = .ok t.readBack ∧
      (HoldsDocuments t → IsDocument (.dict (mappingValue m))) := by
  obtain ⟨x, hx, hxread⟩ := ht.amount
  obtain ⟨y, hy, hyread⟩ := ht.balance
  obtain ⟨post, transaction, hpost, htransaction, hdates⟩ := ht.dates
  obtain ⟨bank, hbank⟩ := ht.bank
  obtain ⟨account, haccount⟩ := ht.account
  obtain ⟨description, hdescription⟩ := ht.description
  have hxnan := hnumbers.amount x hx
  have hynan := hnumbers.balance y hy
  refine ⟨_, toMapping_eq hx hy hpost htransaction, ?_,
    fun hdocuments => isDocument_mappingOf (isDocument_written hdocuments hxnan hynan)⟩
  have horElse : (dateValue transaction).orElse (dateValue post) = dateValue transaction := by
    cases transaction with
    | none => rw [hdates rfl]; rfl
    | some d => rfl
  have hfield := lookup_mappingOf
    (written t (dayText post) (dayText transaction) x.toText y.toText)
  have hfield' := lookup?_mappingOf
    (written t (dayText post) (dayText transaction) x.toText y.toText)
  show ofMapping (members _) = _
  simp only [ofMapping, hfield, hfield', written, get, Option.getD_some, readTags_toList,
    toDate_dayText, hbank, haccount, hdescription, readText_text, toAmount_toText hxread hxnan,
    toAmount_toText hyread hynan, horElse, ok_bind, pure_eq_ok]
  rw [readBack, ← hbank, ← haccount, ← hdescription, ← hx, ← hy, ← hpost, ← htransaction]

end Written

/-- The mapping of a transaction that was read is a mapping of a document, and is read as the same
transaction unless an amount is a NaN. -/
theorem ofMapping_toMapping {t : Transaction} (ht : IsRead t)
    (hamount : ∀ x, t.amount = .decimal x → x.isNaN = false)
    (hbalance : ∀ x, t.balance = .decimal x → x.isNaN = false) :
    ∃ m, t.toMapping = .ok m ∧ IsDocument (.dict (mappingValue m)) ∧
      ofMapping (mappingValue m) = .ok t := by
  obtain ⟨m, hm, hback, hdocument⟩ :=
    ofMapping_toMapping_of_isWritable ht.isWritable ⟨hamount, hbalance⟩
  exact ⟨m, hm, hdocument ht.holdsDocuments, by rw [hback, ht.readBack_eq]⟩

end Transaction

end LedgerTags
