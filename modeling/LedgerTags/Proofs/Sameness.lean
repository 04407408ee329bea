import LedgerTags.Proofs.Outcome
import LedgerTags.Proofs.Quantity
import LedgerTags.Transaction

/-!
# Values by what they stand for

Values of different form can be equal: the numbers `-10` and `-10.00`, the two zeros, and the same
moment told in two time zones. `Value.scalar?` takes a value to what it stands for, the same for all
equal ones, so that equality of values becomes equality on `Scalar` (`Value.same_of_scalar?`). A NaN
stands for nothing, and neither do collections.

The key of a transaction is what the five parts of its identity stand for. Two transactions that
have keys are duplicates exactly if the keys are equal (`Transaction.sameList_identity`).
-/

namespace LedgerTags

/-- What a value that is no collection stands for. -/
inductive Scalar where
  | null
  | text (t : Text)
  | octets (bs : List UInt8)
  | date (d : Date)
  /-- A dated time, in universal time if it is known how far from it. -/
  | moment (isKnown : Bool) (microseconds : ℤ)
  | time (t : TimeOfDay)
  | number (q : Quantity)
deriving DecidableEq

/-- Dated times are the same if both know how far they are from universal time or both do not, and
they tell the same microsecond. -/
theorem DateTime.same_eq (s t : DateTime) :
    s.same t =
      decide (s.offset.isSome = t.offset.isSome ∧ s.toMicroseconds = t.toMicroseconds) := by
  rw [Bool.eq_iff_iff, same, beq_iff_eq, decide_eq_true_iff, compare?]
  split
  · next h => rw [Option.some_inj, compare_eq_iff_eq, and_iff_right h]
  · next h => exact iff_of_false nofun fun hst => h hst.1

private theorem Decimal.isSignaling_of_quantity? {x : Decimal} {q : Quantity}
    (h : x.quantity? = some q) : x.isSignaling = false := by
  cases x with
  | nan => cases h
  | _ => rfl

namespace Value

/-- What a value stands for. -/
def scalar? : Value → Option Scalar
  | .null => some .null
  | .text t => some (.text t)
  | .octets bs => some (.octets bs)
  | .date d => some (.date d)
  | .dateTime t => some (.moment t.offset.isSome t.toMicroseconds)
  | .time t => some (.time t)
  | v => v.quantity?.map .number

/-- A number stands for its exact value. -/
theorem eq_number_of_scalar? {v : Value} {x : Decimal} {a : Scalar} (hx : v.number? = some x)
    (h : v.scalar? = some a) : ∃ q, v.quantity? = some q ∧ a = .number q := by
  have hmap : v.scalar? = v.quantity?.map .number := by
    cases v with
    | bool _ | int _ | float _ | decimal _ => rfl
    | _ => cases hx
  obtain ⟨q, hq, rfl⟩ := Option.map_eq_some_iff.1 (hmap ▸ h)
  exact ⟨q, hq, rfl⟩

/-- Numbers of all kinds are equal if their exact values are. -/
theorem same_of_quantity? {v w : Value} {p q : Quantity} (hv : v.quantity? = some p)
    (hw : w.quantity? = some q) : same v w = .ok (decide (p = q)) := by
  obtain ⟨x, hx, hp⟩ := exists_number? hv
  obtain ⟨y, hy, hq⟩ := exists_number? hw
  obtain ⟨o, ho, hcompares⟩ := Decimal.compare?_compares hp hq
  have hsame : same v w = sameNumber x y := by
    cases v with
    | bool _ | int _ | float _ | decimal _ =>
      cases w with
      | bool _ | int _ | float _ | decimal _ =>
        rw [same.eq_def]
        dsimp only
        rw [hx, hy]
      | _ => cases hw
    | _ => cases hv
  have hequal : (some o == some Ordering.eq) = decide (p = q) := by
    rw [Bool.eq_iff_iff, beq_iff_eq, Option.some_inj, decide_eq_true_iff]
    exact hcompares.eq_eq
  rw [hsame, sameNumber, Decimal.equal, Decimal.isSignaling_of_quantity? hp,
    Decimal.isSignaling_of_quantity? hq, Decimal.sameValue, ho, hequal]
  rfl

/-- Values are equal exactly if they stand for the same thing. -/
theorem same_of_scalar? {v w : Value} {a b : Scalar} (hv : v.scalar? = some a)
    (hw : w.scalar? = some b) : same v w = .ok (decide (a = b)) := by
  cases v with
  | bool _ | int _ | float _ | decimal _ =>
    obtain ⟨p, hp, rfl⟩ := eq_number_of_scalar? rfl hv
    cases w with
    | bool _ | int _ | float _ | decimal _ =>
      obtain ⟨q, hq, rfl⟩ := eq_number_of_scalar? rfl hw
      rw [same_of_quantity? hp hq]
      simp only [Scalar.number.injEq]
    | null | text _ | octets _ | date _ | dateTime _ | time _ =>
      cases hw
      rw [same.eq_def]
      simp [number?]
    | _ => cases hw
  | null | text _ | octets _ | date _ | dateTime _ | time _ =>
    cases hv
    cases w with
    | bool _ | int _ | float _ | decimal _ =>
      obtain ⟨q, hq, rfl⟩ := eq_number_of_scalar? rfl hw
      rw [same.eq_def]
      simp [number?]
    | null | text _ | octets _ | date _ | dateTime _ | time _ =>
      cases hw
      rw [same.eq_def]
      simp [number?, DateTime.same_eq]
    | _ => cases hw
  | _ => cases hv

/-- Scalars can be hashed. -/
theorem checkHashable_of_scalar? {v : Value} {a : Scalar} (h : v.scalar? = some a) :
    checkHashable v = .ok () := by
  cases v with
  | decimal x =>
    obtain ⟨q, hq, -⟩ := eq_number_of_scalar? rfl h
    rw [checkHashable, Decimal.isSignaling_of_quantity? hq]
    rfl
  | null | bool _ | int _ | float _ | text _ | octets _ | date _ | dateTime _ | time _ =>
    simp only [checkHashable]
  | _ => cases h

/-- Lists of values are equal exactly if their members stand for the same things. -/
theorem sameList_of_scalars {vs ws : List Value} (hvs : ∀ v ∈ vs, v.scalar?.isSome = true)
    (hws : ∀ w ∈ ws, w.scalar?.isSome = true) :
    sameList vs ws = .ok (decide (vs.map scalar? = ws.map scalar?)) := by
  induction vs generalizing ws with
  | nil => cases ws <;> simp [sameList]
  | cons v vs ih =>
    cases ws with
    | nil => simp [sameList]
    | cons w ws =>
      obtain ⟨hv, hvs⟩ := List.forall_mem_cons.1 hvs
      obtain ⟨hw, hws⟩ := List.forall_mem_cons.1 hws
      obtain ⟨a, ha⟩ := Option.isSome_iff_exists.1 hv
      obtain ⟨b, hb⟩ := Option.isSome_iff_exists.1 hw
      rw [sameList, same_of_scalar? ha hb, ok_bind, ih hvs hws, List.map_cons, List.map_cons, ha,
        hb]
      by_cases hab : a = b <;> simp [hab]

private theorem checkAllHashable_of_scalars {vs : List Value}
    (h : ∀ v ∈ vs, v.scalar?.isSome = true) : checkAllHashable vs = .ok () := by
  induction vs with
  | nil => rw [checkAllHashable]
  | cons v vs ih =>
    obtain ⟨hv, hvs⟩ := List.forall_mem_cons.1 h
    obtain ⟨a, ha⟩ := Option.isSome_iff_exists.1 hv
    rw [checkAllHashable, checkHashable_of_scalar? ha, ok_bind, ih hvs]

end Value

namespace Transaction

/-- What the bank, the account, the post date, the amount and the balance stand for. -/
def key (t : Transaction) : List (Option Scalar) := t.identity.map Value.scalar?

/-- Bank, account, post date, amount and balance are no collections, and no NaN is among them. -/
def IsKeyed (t : Transaction) : Prop := ∀ v ∈ t.identity, v.scalar?.isSome = true

variable {t u : Transaction}

/-- Two transactions are duplicates exactly if their keys are equal. -/
theorem sameList_identity (ht : t.IsKeyed) (hu : u.IsKeyed) :
    Value.sameList t.identity u.identity = .ok (decide (t.key = u.key)) :=
  Value.sameList_of_scalars ht hu

/-- What identifies a transaction with a key can be hashed. -/
theorem checkAllHashable_identity (ht : t.IsKeyed) :
    Value.checkAllHashable t.identity = .ok () :=
  Value.checkAllHashable_of_scalars ht

end Transaction

end LedgerTags
