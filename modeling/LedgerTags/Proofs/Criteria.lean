import LedgerTags.Proofs.Mapping
import LedgerTags.Proofs.Periods
import LedgerTags.Proofs.Quantity
import LedgerTags.Query.Resolve
import Mathlib.Data.List.Infix

/-!
# What the arguments of a filter say

`Criterion.Says` reads an argument of a filter directly: texts are compared in lower case, amounts
by their exact values, and dates by the years, months and days that are named. The bounds of a range
of amounts are decimals; a binary number is the one that its text stands for.

The criterion that an argument becomes is met exactly by the transactions of which the argument says
so (`decides_ofArgument`), and the criteria of several arguments by those of which each argument
does (`decidesAll_resolveKeys`).
-/

namespace LedgerTags

/-! ### Parts of texts -/

namespace Text

private theorem startsWith_iff {t lit : Text} : t.startsWith lit = true ↔ lit <+: t := by
  rw [startsWith, Option.isSome_iff_exists]
  exact exists_congr fun rest => dropLiteral?_eq_some_iff.trans eq_comm

/-- A text occurs in another exactly if it is a part of it. -/
theorem occursIn_iff {needle t : Text} : occursIn needle t = true ↔ needle <:+: t := by
  induction t with
  | nil => rw [occursIn, List.isEmpty_iff, List.infix_nil]
  | cons c t ih => rw [occursIn, Bool.or_eq_true_iff, startsWith_iff, ih, List.infix_cons_iff]

end Text

namespace Criterion

/-! ### The direct reading -/

/-- The lower case of a text field, empty if it is absent. -/
def lowerText : Value → Text
  | .text s => Text.lower s
  | _ => []

/-- The exact value of a bound of amounts; a binary number is the decimal that its text stands
for. -/
def boundQuantity? : Value → Option Quantity
  | .int n => some (Quantity.ofRat n)
  | .decimal x => x.quantity?
  | .float x => (Value.amountOfText? x.toText).bind Decimal.quantity?
  | _ => none

/-- The value names a day, or a year or month that the day lies in. -/
def Names (v : Value) (d : Date) : Prop :=
  match v with
  | .text s => ∃ p, DatePattern.ofText? s = some p ∧ p.Agrees d
  | .date e => d = e
  | .dateTime t => d = t.date
  | _ => False

/-- What an argument says of an amount. -/
inductive SaysAmount (q : Quantity) : Value → Prop where
  | deposit {w : Text} (hw : Text.lower w.trim ∈ depositWords) (h : Quantity.ofRat 0 < q) :
    SaysAmount q (.text w)
  | withdrawal {w : Text} (hw : Text.lower w.trim ∈ withdrawalWords) (h : q < Quantity.ofRat 0) :
    SaysAmount q (.text w)
  | range {v lo hi : Value} {a b : Quantity} (hv : v.sequence? = some [lo, hi])
    (ha : boundQuantity? lo = some a) (hb : boundQuantity? hi = some b) (hlo : a ≤ q)
    (hhi : q ≤ b) : SaysAmount q v

/-- What an argument says of a post date. -/
inductive SaysDate (d : Date) : Value → Prop where
  | period {s : Text} (h : Names (.text s) d) : SaysDate d (.text s)
  /-- The day is not before the first days of one period, and not after the last ones of
  another. -/
  | range {v first last : Value} {a b : Date} (hv : v.sequence? = some [first, last])
    (ha : Names first a) (hb : Names last b) (hlo : a.le d = true) (hhi : d.le b = true) :
    SaysDate d v

/-- What an argument says of a transaction. -/
def Says (t : Transaction) (key : FilterKey) (v : Value) : Prop :=
  match key with
  | .bank | .account => ∃ s, v = .text s ∧ lowerText (t.get key.field) = Text.lower s
  | .name | .description | .notes =>
    ∃ s, v = .text s ∧ Text.lower s <:+: lowerText (t.get key.field)
  | .tags => ∃ s ∈ t.tags, v = .text s ∨ ∃ vs, v.collection? = some vs ∧ .text s ∈ vs
  | .amount => ∃ q, t.amount.quantity? = some q ∧ SaysAmount q v
  | .date => ∃ d, t.postDate = .date d ∧ SaysDate d v

/-- An argument given by name that is no question to be asked, and no number of days. -/
def IsPlain (named : Text × Argument) : Prop :=
  ∃ v, named.2 = .value v ∧ (named.1 = FilterKey.date.toText → ∀ n, v ≠ .int n)

/-- Every argument that is given says so. -/
def Met (named : List (Text × Argument)) (t : Transaction) : Prop :=
  ∀ key v, named.lookup key.toText = some (.value v) → v ≠ .null → Says t key v

/-- A transaction with fields of the kinds that they are meant to have: texts or null, a date or
null, and a number other than NaN. -/
structure IsFilterable (t : Transaction) : Prop where
  texts : ∀ key ∈ [FilterKey.bank, .account, .name, .description, .notes],
    t.get key.field = .null ∨ ∃ s, t.get key.field = .text s
  date : t.postDate = .null ∨ ∃ d, t.postDate = .date d
  amount : ∃ q, t.amount.quantity? = some q

/-- The test of a criterion succeeds and says whether something is so. -/
def Decides (t : Transaction) (c : Criterion) (p : Prop) : Prop :=
  ∃ b, c.test t = .ok b ∧ (b = true ↔ p)

section Decisions

variable {t : Transaction} {c : Criterion} {key : FilterKey} {v : Value}

private theorem not_refuse {α : Type} {expected : String} {x : α}
    (h : refuse key v expected = .ok x) : False := by
  cases h

/-- Nothing and texts are put in lower case without an error. -/
theorem lowerOrEmpty_eq (h : v = .null ∨ ∃ s, v = .text s) :
    v.lowerOrEmpty = .ok (lowerText v) := by
  rcases h with rfl | ⟨s, rfl⟩
  · rfl
  · cases s <;> rfl

private theorem decides_exact (ht : IsFilterable t)
    (hkey : key ∈ [FilterKey.bank, .account, .name, .description, .notes]) (s : Text) :
    Decides t (.exact key s) (lowerText (t.get key.field) = s) := by
  refine ⟨lowerText (t.get key.field) == s, ?_, beq_iff_eq⟩
  rw [test, lowerOrEmpty_eq (ht.texts key hkey)]
  rfl

private theorem decides_contains (ht : IsFilterable t)
    (hkey : key ∈ [FilterKey.bank, .account, .name, .description, .notes]) (s : Text) :
    Decides t (.contains key s) (s <:+: lowerText (t.get key.field)) := by
  refine ⟨Text.occursIn s (lowerText (t.get key.field)), ?_, Text.occursIn_iff⟩
  rw [test, lowerOrEmpty_eq (ht.texts key hkey)]
  rfl

/-- A text argument that is understood is a text. -/
theorem ofText_eq_ok (h : ofText key (.value v) = .ok c) :
    ∃ s, v = .text s ∧
      c = if isExactKey key then .exact key (Text.lower s) else .contains key (Text.lower s) := by
  unfold ofText at h
  split at h
  · next heq => cases heq
  · next heq =>
    cases heq
    cases h
    exact ⟨_, rfl, rfl⟩
  · exact (not_refuse h).elim

private theorem decides_ofTags (h : ofTags (.value v) = .ok c) : Decides t c (Says t .tags v) := by
  unfold ofTags at h
  split at h
  · next heq => cases heq
  · next s heq =>
    cases heq
    cases h
    refine ⟨_, rfl, TagSet.contains_iff.trans ⟨fun hs => ⟨s, hs, .inl rfl⟩, ?_⟩⟩
    rintro ⟨s', hs', heq | ⟨vs, hvs, -⟩⟩
    · cases heq
      exact hs'
    · cases hvs
  · next heq =>
    cases heq
    split at h
    · next vs hvs =>
      split at h
      · next x xs hxs =>
        cases h
        have hmem (s : Text) : s ∈ TagSet.ofList (x :: xs) ↔ Value.text s ∈ vs := by
          rw [TagSet.mem_ofList, mapM_text?_eq_some_iff.1 hxs]
          exact ⟨List.mem_map_of_mem, fun hs => by
            obtain ⟨u, hu, heq⟩ := List.mem_map.1 hs
            cases heq
            exact hu⟩
        refine ⟨_, rfl, TagSet.meets_iff.trans ⟨?_, ?_⟩⟩
        · rintro ⟨s, hs, hst⟩
          exact ⟨s, hst, .inr ⟨vs, hvs, (hmem s).1 hs⟩⟩
        · rintro ⟨s, hst, rfl | ⟨vs', hvs', hs⟩⟩
          · cases hvs
          · rw [hvs] at hvs'
            cases hvs'
            exact ⟨s, (hmem s).2 hs, hst⟩
      · exact (not_refuse h).elim
    · exact (not_refuse h).elim

/-! ### Amounts -/

private theorem decides_sign {q : Quantity} (hq : t.amount.quantity? = some q) (positive : Bool) :
    Decides t (.sign positive)
      (if positive then Quantity.ofRat 0 < q else q < Quantity.ofRat 0) := by
  have hzero : (Value.int 0).quantity? = some (Quantity.ofRat 0) := rfl
  obtain ⟨b, hb, hiff⟩ := Value.test_of_quantity? (if positive then .gt else .lt) hq hzero
  refine ⟨b, hb, ?_⟩
  cases positive <;> exact hiff

private theorem test_inRange {lo hi : Value} {i j : Bool} (hne : t.get key.field ≠ .null)
    (hlo : Value.test .le lo (t.get key.field) = .ok i)
    (hhi : Value.test .le (t.get key.field) hi = .ok j) :
    (inRange key lo hi).test t = .ok (i && j) := by
  rw [test]
  split
  · next h => exact absurd h hne
  · rw [hlo, ok_bind]
    cases i
    · rfl
    · exact hhi

/-- The test for a range decides whether the amount lies in it, the bounds included. -/
theorem decides_inRange {q : Quantity} (hq : t.amount.quantity? = some q) {x y : Decimal}
    {a b : Quantity} (ha : x.quantity? = some a) (hb : y.quantity? = some b) :
    Decides t (.inRange .amount (.decimal x) (.decimal y)) (a ≤ q ∧ q ≤ b) := by
  have hne : t.get FilterKey.amount.field ≠ .null := fun (h : t.amount = .null) => by
    rw [h] at hq
    cases hq
  obtain ⟨i, hi, hle⟩ := Value.test_of_quantity? .le (v := .decimal x) ha hq
  obtain ⟨j, hj, hle'⟩ := Value.test_of_quantity? .le (w := .decimal y) hq hb
  exact ⟨i && j, test_inRange hne hi hj, Bool.and_eq_true_iff.trans (and_congr hle hle')⟩

/-- The amount of a bound has the exact value of the bound. -/
theorem boundQuantity?_eq {x : Decimal} (hv : isBound v = true) (h : v.toAmount = .ok x) :
    boundQuantity? v = x.quantity? := by
  cases v with
  | int n =>
    rw [Transaction.toAmount_int_eq_ok h, Decimal.quantity?_ofInt]
    rfl
  | decimal y =>
    cases h
    rfl
  | float y =>
    have htext : (Value.float y).toText = .ok y.toText := rfl
    rw [Value.toAmount.eq_def] at h
    dsimp only at h
    rw [htext, ok_bind] at h
    rw [boundQuantity?]
    split at h
    · next hx =>
      cases h
      rw [hx]
      rfl
    · cases h
  | _ => cases hv

private theorem exists_quantity? {x : Decimal} (h : x.isFinite = true) :
    ∃ a, x.quantity? = some a := by
  cases x with
  | finite s c e => exact ⟨_, rfl⟩
  | _ => cases h

private theorem decides_ofAmounts {q : Quantity} (hq : t.amount.quantity? = some q) {lo hi : Value}
    (hlo : isBound lo = true) (hhi : isBound hi = true) (h : ofAmounts v lo hi = .ok c) :
    ∃ a b, boundQuantity? lo = some a ∧ boundQuantity? hi = some b ∧
      Decides t c (a ≤ q ∧ q ≤ b) := by
  obtain ⟨x, hx, h⟩ := bind_eq_ok_iff.1 h
  obtain ⟨y, hy, h⟩ := bind_eq_ok_iff.1 h
  split at h
  · exact (not_refuse h).elim
  · next hfinite =>
    split at h
    · exact (not_refuse h).elim
    · cases h
      rw [Bool.not_eq_true, Bool.not_eq_false', Bool.and_eq_true] at hfinite
      obtain ⟨a, ha⟩ := exists_quantity? hfinite.1
      obtain ⟨b, hb⟩ := exists_quantity? hfinite.2
      refine ⟨a, b, ?_, ?_, decides_inRange hq ha hb⟩
      · rw [boundQuantity?_eq hlo hx, ha]
      · rw [boundQuantity?_eq hhi hy, hb]

private theorem Decides.congr {p p' : Prop} (h : Decides t c p) (hp : p ↔ p') : Decides t c p' := by
  obtain ⟨b, hb, hiff⟩ := h
  exact ⟨b, hb, hiff.trans hp⟩

/-- No word means both a deposit and a withdrawal. -/
theorem not_mem_withdrawalWords {w : Text} (hw : w ∈ depositWords) : w ∉ withdrawalWords := by
  have hwords : ∀ w ∈ depositWords, w ∉ withdrawalWords := by decide
  exact hwords w hw

/-- The words for a deposit ask for a positive amount. -/
theorem saysAmount_deposit {q : Quantity} {w : Text} (hw : Text.lower w.trim ∈ depositWords) :
    SaysAmount q (.text w) ↔ Quantity.ofRat 0 < q := by
  refine ⟨?_, .deposit hw⟩
  rintro (⟨-, h⟩ | ⟨hw', -⟩ | ⟨hv, -⟩)
  · exact h
  · exact absurd hw' (not_mem_withdrawalWords hw)
  · cases hv

/-- The words for a withdrawal ask for a negative amount. -/
theorem saysAmount_withdrawal {q : Quantity} {w : Text}
    (hw : Text.lower w.trim ∈ withdrawalWords) :
    SaysAmount q (.text w) ↔ q < Quantity.ofRat 0 := by
  refine ⟨?_, .withdrawal hw⟩
  rintro (⟨hw', -⟩ | ⟨-, h⟩ | ⟨hv, -⟩)
  · exact absurd hw (not_mem_withdrawalWords hw')
  · exact h
  · cases hv

/-- A pair of bounds asks for an amount between them. -/
theorem saysAmount_range {q a b : Quantity} {lo hi : Value} (hv : v.sequence? = some [lo, hi])
    (ha : boundQuantity? lo = some a) (hb : boundQuantity? hi = some b) :
    SaysAmount q v ↔ a ≤ q ∧ q ≤ b := by
  refine ⟨?_, fun hab => .range hv ha hb hab.1 hab.2⟩
  rintro (⟨hw, -⟩ | ⟨hw, -⟩ | ⟨hv', ha', hb', hlo, hhi⟩)
  · cases hv
  · cases hv
  · rw [hv] at hv'
    cases hv'
    rw [ha] at ha'
    rw [hb] at hb'
    cases ha'
    cases hb'
    exact ⟨hlo, hhi⟩

/-- What is asked of a transaction by the amount is asked of the quantity of its amount. -/
theorem says_amount {q : Quantity} (hq : t.amount.quantity? = some q) :
    Says t .amount v ↔ SaysAmount q v := by
  refine ⟨?_, fun h => ⟨q, hq, h⟩⟩
  rintro ⟨q', hq', h⟩
  rw [hq] at hq'
  cases hq'
  exact h

private theorem decides_ofAmount (ht : IsFilterable t) (h : ofAmount (.value v) = .ok c) :
    Decides t c (Says t .amount v) := by
  obtain ⟨q, hq⟩ := ht.amount
  unfold ofAmount at h
  split at h
  · next heq => cases heq
  · next w heq =>
    cases heq
    dsimp only at h
    split at h
    · next hw =>
      cases h
      have hmem : Text.lower w.trim ∈ depositWords := List.contains_iff_mem.1 hw
      exact (decides_sign hq true).congr ((says_amount hq).trans (saysAmount_deposit hmem)).symm
    · split at h
      · next hw =>
        cases h
        have hmem : Text.lower w.trim ∈ withdrawalWords := List.contains_iff_mem.1 hw
        exact (decides_sign hq false).congr
          ((says_amount hq).trans (saysAmount_withdrawal hmem)).symm
      · exact (not_refuse h).elim
  · next heq =>
    cases heq
    split at h
    · next lo hi hv =>
      split at h
      · next hbound =>
        obtain ⟨hlo, hhi⟩ := Bool.and_eq_true_iff.1 hbound
        obtain ⟨a, b, ha, hb, hdecides⟩ := decides_ofAmounts hq hlo hhi h
        exact hdecides.congr ((says_amount hq).trans (saysAmount_range hv ha hb)).symm
      · exact (not_refuse h).elim
    · exact (not_refuse h).elim

/-! ### Dates -/

/-- The period of a text consists of the days that the text names. -/
theorem names_of_toPeriod {s : Text} {period : Period}
    (h : (Value.text s).toPeriod = .ok (some period)) :
    Names (.text s) period.first ∧ Names (.text s) period.last ∧
      ∀ d, period.contains d = true ↔ Names (.text s) d := by
  have hread : Period.ofText s = .ok (some period) := by
    rw [Value.toPeriod] at h
    cases hread : Period.ofText s with
    | error e =>
      rw [hread] at h
      cases h
    | ok found =>
      rw [hread] at h
      cases h
      rfl
  rw [Period.ofText] at hread
  split at hread
  · next p hp =>
    obtain ⟨hfirst, hlast, hcontains⟩ := DatePattern.isPeriod_of_period hread
    have hnames (d : Date) : Names (.text s) d ↔ p.Agrees d := by
      refine ⟨?_, fun h => ⟨p, hp, h⟩⟩
      rintro ⟨p', hp', h⟩
      rw [hp] at hp'
      cases hp'
      exact h
    exact ⟨(hnames _).2 hfirst, (hnames _).2 hlast, fun d => (hcontains d).trans (hnames d).symm⟩
  · cases hread

/-- The period of a value consists of the days that the value names. -/
theorem names_of_periodOf {period : Period} (h : periodOf v = .ok (some period)) :
    Names v period.first ∧ Names v period.last ∧
      ∀ d, period.contains d = true ↔ Names v d := by
  unfold periodOf at h
  split at h
  · cases h
    exact ⟨rfl, rfl, fun _ => DatePattern.contains_day⟩
  · cases h
    exact ⟨rfl, rfl, fun _ => DatePattern.contains_day⟩
  · cases v with
    | text s => exact names_of_toPeriod h
    | _ => cases h

/-- Not before any day of a period means not before its first day. -/
theorem exists_names_le_iff {period : Period} (h : periodOf v = .ok (some period)) (d : Date) :
    (∃ a, Names v a ∧ a.le d = true) ↔ period.first.le d = true := by
  obtain ⟨hfirst, -, hcontains⟩ := names_of_periodOf h
  refine ⟨?_, fun hd => ⟨_, hfirst, hd⟩⟩
  rintro ⟨a, ha, had⟩
  exact Date.le_trans (DatePattern.contains_eq_true.1 ((hcontains a).2 ha)).1 had

private theorem exists_le_names_iff {period : Period} (h : periodOf v = .ok (some period))
    (d : Date) : (∃ b, Names v b ∧ d.le b = true) ↔ d.le period.last = true := by
  obtain ⟨-, hlast, hcontains⟩ := names_of_periodOf h
  refine ⟨?_, fun hd => ⟨_, hlast, hd⟩⟩
  rintro ⟨b, hb, hdb⟩
  exact Date.le_trans hdb (DatePattern.contains_eq_true.1 ((hcontains b).2 hb)).2

/-- Dates are compared as days of the calendar. -/
theorem test_date (op : Comparison) (a b : Date) :
    Value.test op (.date a) (.date b) = .ok (op.holds (a.compare b)) := by
  rw [Value.test]

private theorem test_le_date (a b : Date) : Value.test .le (.date a) (.date b) = .ok (a.le b) := by
  have hholds : Comparison.le.holds (a.compare b) = a.le b := by
    rw [Date.le]
    cases a.compare b <;> rfl
  rw [test_date, hholds]

/-- A criterion on the post date fails if there is none, and is decided by the day otherwise. -/
theorem decides_postDate (ht : IsFilterable t) {p : Date → Prop}
    (hnull : t.postDate = .null → c.test t = .ok false)
    (hdate : ∀ d, t.postDate = .date d → Decides t c (p d)) :
    Decides t c (∃ d, t.postDate = .date d ∧ p d) := by
  rcases ht.date with hd | ⟨d, hd⟩
  · refine ⟨false, hnull hd, iff_of_false Bool.false_ne_true ?_⟩
    rintro ⟨d', hd', -⟩
    rw [hd] at hd'
    cases hd'
  · refine (hdate d hd).congr ⟨fun h => ⟨d, hd, h⟩, ?_⟩
    rintro ⟨d', hd', h⟩
    rw [hd] at hd'
    cases hd'
    exact h

/-- A range of days is not met without a post date. -/
theorem test_dates_null (h : t.postDate = .null) (lo hi : Value) :
    (inRange .date lo hi).test t = .ok false := by
  have hfield : t.get FilterKey.date.field = .null := h
  rw [test, hfield]

/-- A range of days is met by the days between its ends. -/
theorem test_dates {d : Date} (h : t.postDate = .date d) (a b : Date) :
    (inRange .date (.date a) (.date b)).test t = .ok (a.le d && d.le b) := by
  have hfield : t.get FilterKey.date.field = .date d := h
  refine test_inRange ?_ ?_ ?_
  · rw [hfield]
    exact nofun
  · rw [hfield, test_le_date]
  · rw [hfield, test_le_date]

/-- The criterion of two periods asks for the days from the first day of the one to the last of the
other. -/
theorem decides_dates (ht : IsFilterable t) (a b : Date) :
    Decides t (.inRange .date (.date a) (.date b))
      (∃ d, t.postDate = .date d ∧ a.le d = true ∧ d.le b = true) := by
  refine decides_postDate ht (fun hnull => test_dates_null hnull _ _) fun d hd => ?_
  exact ⟨a.le d && d.le b, test_dates hd a b, by rw [Bool.and_eq_true]⟩

private theorem decides_inPeriod (ht : IsFilterable t) (period : Period) :
    Decides t (.inPeriod period)
      (∃ d, t.postDate = .date d ∧ period.contains d = true) := by
  refine decides_postDate ht (fun hnull => ?_) fun d hd => ⟨period.contains d, ?_, Iff.rfl⟩
  · rw [test, hnull]
    rfl
  · rw [test, hd]
    rfl

private theorem decides_period (ht : IsFilterable t) {s : Text} {period : Period}
    (h : (Value.text s).toPeriod = .ok (some period)) :
    Decides t (.inPeriod period) (Says t .date (.text s)) := by
  obtain ⟨-, -, hcontains⟩ := names_of_toPeriod h
  refine (decides_inPeriod ht period).congr (exists_congr fun d => and_congr_right fun _ => ?_)
  rw [hcontains]
  refine ⟨.period, ?_⟩
  rintro (h | ⟨hv, -⟩)
  · exact h
  · cases hv

/-- Only the first days of the one period and the last ones of the other matter. -/
theorem decides_range (ht : IsFilterable t) {a b : Value} {p q : Period}
    (hnottext : ∀ s, v ≠ .text s) (hv : v.sequence? = some [a, b])
    (hp : periodOf a = .ok (some p)) (hq : periodOf b = .ok (some q)) :
    Decides t (.inRange .date (.date p.first) (.date q.last)) (Says t .date v) := by
  refine (decides_dates ht p.first q.last).congr
    (exists_congr fun d => and_congr_right fun _ => ?_)
  rw [← exists_names_le_iff hp, ← exists_le_names_iff hq]
  constructor
  · rintro ⟨⟨x, hx, hxd⟩, y, hy, hdy⟩
    exact .range hv hx hy hxd hdy
  · rintro (_ | ⟨hv', hx, hy, hlo, hhi⟩)
    · exact absurd rfl (hnottext _)
    · rw [hv] at hv'
      cases hv'
      exact ⟨⟨_, hx, hlo⟩, _, hy, hhi⟩

private theorem decides_ofDate (ht : IsFilterable t) {latest : Option Value}
    (hint : ∀ n, v ≠ .int n) (h : ofDate latest (.value v) = .ok c) :
    Decides t c (Says t .date v) := by
  unfold ofDate at h
  split at h
  · next heq => cases heq
  next heq =>
  cases heq
  split at h
  · next n => exact absurd rfl (hint n)
  · next s =>
    obtain ⟨found, hfound, h⟩ := bind_eq_ok_iff.1 h
    split at h
    · next period =>
      cases h
      exact decides_period ht hfound
    · exact (not_refuse h).elim
  · next hnotint hnottext =>
    split at h
    · next first last hv =>
      obtain ⟨p, hp, h⟩ := bind_eq_ok_iff.1 h
      obtain ⟨q, hq, h⟩ := bind_eq_ok_iff.1 h
      split at h
      · next p q _ =>
        split at h
        · exact (not_refuse h).elim
        · cases h
          exact decides_range ht hnottext hv hp hq
      · exact (not_refuse h).elim
    · exact (not_refuse h).elim

/-! ### All arguments -/

private theorem decides_ofText (ht : IsFilterable t)
    (hkey : key ∈ [FilterKey.bank, .account, .name, .description, .notes])
    (h : ofText key (.value v) = .ok c) : Decides t c (Says t key v) := by
  obtain ⟨s, rfl, rfl⟩ := ofText_eq_ok h
  have htext (p : Text → Prop) : p s ↔ ∃ s', Value.text s = .text s' ∧ p s' := by
    refine ⟨fun hp => ⟨s, rfl, hp⟩, ?_⟩
    rintro ⟨s', heq, hp⟩
    cases heq
    exact hp
  cases key with
  | bank | account =>
    exact (decides_exact ht hkey _).congr (htext fun s' => lowerText _ = Text.lower s')
  | name | description | notes =>
    exact (decides_contains ht hkey _).congr (htext fun s' => Text.lower s' <:+: lowerText _)
  | tags | amount | date => exact absurd hkey (by decide)

/-- The criterion of an argument is met exactly by the transactions of which the argument says
so. -/
theorem decides_ofArgument (ht : IsFilterable t) {ts : List Transaction}
    (hdate : key = .date → ∀ n, v ≠ .int n) (h : ofArgument ts key (.value v) = .ok c) :
    Decides t c (Says t key v) := by
  cases key with
  | tags => exact decides_ofTags h
  | amount => exact decides_ofAmount ht h
  | date =>
    obtain ⟨latest, -, h⟩ := bind_eq_ok_iff.1 h
    exact decides_ofDate ht (hdate rfl) h
  | bank | account | name | description | notes => exact decides_ofText ht (by decide) h

/-- Of the values, the null value is the one that asks for nothing. -/
theorem isAbsent_iff : (Argument.value v).isAbsent = true ↔ v = .null := by
  cases v <;> simp [Argument.isAbsent]

/-- The test of several criteria succeeds and says whether something is so. -/
def DecidesAll (t : Transaction) (cs : List Criterion) (p : Prop) : Prop :=
  ∃ b, testAll t cs = .ok b ∧ (b = true ↔ p)

private theorem decidesAll_cons {cs : List Criterion} {p q : Prop} (hc : Decides t c p)
    (hcs : DecidesAll t cs q) : DecidesAll t (c :: cs) (p ∧ q) := by
  obtain ⟨b, hb, hp⟩ := hc
  obtain ⟨b', hb', hq⟩ := hcs
  refine ⟨b && b', ?_, Bool.and_eq_true_iff.trans (and_congr hp hq)⟩
  rw [testAll, hb, ok_bind]
  cases b
  · rfl
  · exact hb'

/-- The criteria of the arguments for some keys are met exactly by the transactions of which each
of these arguments says so. -/
theorem decidesAll_resolveKeys (ht : IsFilterable t) {ts : List Transaction} {arguments : Criteria}
    (hplain : ∀ key a, arguments.lookup key = some a → IsPlain (key.toText, a))
    {keys : List FilterKey} {cs : List Criterion} (h : resolveKeys ts arguments keys = .ok cs) :
    DecidesAll t cs (∀ key ∈ keys, ∀ v, arguments.lookup key = some (.value v) → v ≠ .null →
      Says t key v) := by
  induction keys generalizing cs with
  | nil =>
    cases h
    exact ⟨true, rfl, iff_of_true rfl nofun⟩
  | cons key keys ih =>
    simp only [List.forall_mem_cons]
    rw [resolveKeys] at h
    split at h
    · next hnone =>
      obtain ⟨b, hb, hiff⟩ := ih h
      refine ⟨b, hb, hiff.trans (and_iff_right fun v hv => ?_).symm⟩
      rw [hnone] at hv
      cases hv
    · next a ha =>
      obtain ⟨v, rfl : a = .value v, hdate⟩ := hplain key a ha
      -- A key has one argument at most, so the claim for this key is one about that argument.
      have hfirst : (∀ w, arguments.lookup key = some (.value w) → w ≠ .null → Says t key w) ↔
          (v ≠ .null → Says t key v) := by
        refine ⟨fun hw => hw v ha, fun hv w hw => ?_⟩
        rw [ha] at hw
        cases hw
        exact hv
      rw [hfirst]
      split at h
      · next habsent =>
        obtain rfl : v = .null := isAbsent_iff.1 habsent
        obtain ⟨b, hb, hiff⟩ := ih h
        exact ⟨b, hb, hiff.trans (and_iff_right fun hne => absurd rfl hne).symm⟩
      · next hpresent =>
        obtain ⟨c, hc, h⟩ := bind_eq_ok_iff.1 h
        obtain ⟨cs', hcs, h⟩ := bind_eq_ok_iff.1 h
        cases h
        have hne : v ≠ .null := fun hv => hpresent (isAbsent_iff.2 hv)
        have hkeydate (hk : key = .date) : ∀ n, v ≠ .int n := hdate (by rw [hk])
        rw [imp_iff_right hne]
        exact decidesAll_cons (decides_ofArgument ht hkeydate hc) (ih hcs)

end Decisions

end Criterion

end LedgerTags
