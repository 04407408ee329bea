import LedgerTags.Ledger
import LedgerTags.Proofs.Sameness
import LedgerTags.Query.Merge

/-!
# Which records survive a merge

A merge goes over the records of two collections one after the other and keeps one survivor for each
key. `Survive rs kept` says what the survivors are after the records `rs`: one for each key that has
occurred, in the order in which the keys occurred first, and each of them the first among the best
of its duplicates (`IsBest`). It holds at the start and is kept by one more record
(`Survive.place`), so it holds after all of them (`survive_placeAll`). The main result is
`merge_keeps_best`.
-/

namespace LedgerTags

namespace Record

/-- What the duplicates of a record have in common. -/
def key (r : Record) : List (Option Scalar) := r.transaction.key

/-- A record that occurs several times is the same transaction each time. -/
def Coherent (rs : List Record) : Prop :=
  ∀ r ∈ rs, ∀ s ∈ rs, r.id = s.id → r.transaction = s.transaction

/-- Fewer records are coherent too. -/
theorem Coherent.subset {rs us : List Record} (h : Coherent rs) (hus : us ⊆ rs) : Coherent us :=
  fun r hr s hs => h r (hus hr) s (hus hs)

end Record

namespace Ledger

variable {l : Ledger} {ids : List ℕ}

/-- The records that are listed are those of the ledger. -/
theorem get?_of_mem_records {r : Record} (h : r ∈ l.records ids) :
    l.get? r.id = some r.transaction := by
  obtain ⟨id, -, hid⟩ := List.mem_filterMap.1 h
  obtain ⟨t, ht, rfl⟩ := Option.map_eq_some_iff.1 hid
  exact ht

/-- The records of a ledger are coherent, however often they are taken. -/
theorem coherent_records (l : Ledger) (ids : List ℕ) : Record.Coherent (l.records ids) := by
  intro r hr s hs hid
  have hs' := get?_of_mem_records hs
  rw [← hid, get?_of_mem_records hr] at hs'
  exact Option.some.inj hs'

end Ledger

namespace Query

/-! ### The best of the duplicates -/

/-- A record is the first of those among its duplicates that have the most of name, notes and
tags. -/
def IsBest (rs : List Record) (r : Record) : Prop :=
  ∃ before after, rs = before ++ r :: after ∧
    (∀ s ∈ before, s.key = r.key → s.transaction.populated < r.transaction.populated) ∧
    ∀ s ∈ after, s.key = r.key → s.transaction.populated ≤ r.transaction.populated

namespace IsBest

variable {rs : List Record} {r s : Record}

/-- The best record is one of them. -/
theorem mem (h : IsBest rs r) : r ∈ rs := by
  obtain ⟨before, after, rfl, -⟩ := h
  exact List.mem_append_right before List.mem_cons_self

/-- No duplicate has more of name, notes and tags than the best record. -/
theorem populated_le (h : IsBest rs r) (hs : s ∈ rs) (hkey : s.key = r.key) :
    s.transaction.populated ≤ r.transaction.populated := by
  obtain ⟨before, after, rfl, hbefore, hafter⟩ := h
  rcases List.mem_append.1 hs with hs | hs
  · exact (hbefore s hs hkey).le
  · rcases List.mem_cons.1 hs with rfl | hs
    · exact le_refl _
    · exact hafter s hs hkey

/-- The best record stays the best one when no better duplicate of it follows. -/
theorem append (h : IsBest rs r)
    (hs : s.key = r.key → s.transaction.populated ≤ r.transaction.populated) :
    IsBest (rs ++ [s]) r := by
  obtain ⟨before, after, rfl, hbefore, hafter⟩ := h
  refine ⟨before, after ++ [s], by rw [List.append_assoc, List.cons_append], hbefore,
    fun u hu hkey => ?_⟩
  rcases List.mem_append.1 hu with hu | hu
  · exact hafter u hu hkey
  · obtain rfl := List.mem_singleton.1 hu
    exact hs hkey

/-- A record that has more than all its duplicates before it is the best one. -/
theorem last (h : ∀ s ∈ rs, s.key = r.key → s.transaction.populated < r.transaction.populated) :
    IsBest (rs ++ [r]) r :=
  ⟨rs, [], rfl, h, fun _ hs => absurd hs List.not_mem_nil⟩

end IsBest

/-! ### One more record -/

/-- What the survivors are after some records. -/
structure Survive (rs : List Record) (kept : List Survivor) : Prop where
  origin : ∀ s ∈ kept, ∃ r ∈ rs, r.id = s.first ∧ r.transaction.identity = s.identity ∧
    r.key = s.record.key
  best : ∀ s ∈ kept, IsBest rs s.record
  complete : ∀ r ∈ rs, ∃ s ∈ kept, s.record.key = r.key
  ordered : (kept.map (·.record.key)).Pairwise fun k l =>
    (rs.map Record.key).idxOf k < (rs.map Record.key).idxOf l

section Step

variable {rs : List Record} {kept : List Survivor} {r : Record}

theorem Survive.nil : Survive [] [] where
  origin _ hs := absurd hs List.not_mem_nil
  best _ hs := absurd hs List.not_mem_nil
  complete _ hr := absurd hr List.not_mem_nil
  ordered := .nil

private theorem Survive.nodup (h : Survive rs kept) : (kept.map (·.record.key)).Nodup :=
  h.ordered.imp fun hlt heq => (heq ▸ hlt).false

/-- The survivors have no keys but those of the records. -/
theorem Survive.mem_keys (h : Survive rs kept) {k : List (Option Scalar)}
    (hk : k ∈ kept.map (·.record.key)) : k ∈ rs.map Record.key := by
  obtain ⟨s, hs, rfl⟩ := List.mem_map.1 hk
  exact List.mem_map_of_mem (h.best s hs).mem

/-- A record agrees with a survivor exactly if their keys are equal. -/
theorem Survive.agrees_iff (h : Survive rs kept)
    (hkeyed : ∀ u ∈ rs ++ [r], u.transaction.IsKeyed) (hcoherent : Record.Coherent (rs ++ [r]))
    {s : Survivor} (hs : s ∈ kept) : s.agrees r = true ↔ s.record.key = r.key := by
  obtain ⟨u, hu, hid, hidentity, hkey⟩ := h.origin s hs
  have hu' : u ∈ rs ++ [r] := List.mem_append_left _ hu
  have hr : r ∈ rs ++ [r] := List.mem_append_right _ List.mem_cons_self
  have hsame := Transaction.sameList_identity (hkeyed u hu') (hkeyed r hr)
  rw [Survivor.agrees, ← hidentity, hsame, ← hkey, Bool.or_eq_true, beq_iff_eq, ← hid]
  refine ⟨fun h => h.elim (fun heq => ?_) of_decide_eq_true, fun h => .inr (decide_eq_true h)⟩
  exact congrArg Transaction.key (hcoherent u hu' r hr heq)

/-- A record takes part in the choice of the first survivor with which it agrees, or it is a new
survivor. -/
theorem place_eq (r : Record) (kept : List Survivor) :
    (∃ front s back, kept = front ++ s :: back ∧ s.agrees r = true ∧
      place r kept = front ++ s.take r :: back) ∨
    ((∀ s ∈ kept, ¬s.agrees r = true) ∧
      place r kept = kept ++ [⟨r.id, r.transaction.identity, r⟩]) := by
  induction kept with
  | nil => exact .inr ⟨fun _ hs => absurd hs List.not_mem_nil, rfl⟩
  | cons s kept ih =>
    rw [place]
    by_cases hs : s.agrees r = true
    · exact .inl ⟨[], s, kept, rfl, hs, if_pos hs⟩
    · rw [if_neg hs]
      rcases ih with ⟨front, s', back, rfl, hs', hplace⟩ | ⟨hnone, hplace⟩
      · exact .inl ⟨s :: front, s', back, rfl, hs', by rw [hplace, List.cons_append]⟩
      · exact .inr ⟨List.forall_mem_cons.2 ⟨hs, hnone⟩, by rw [hplace, List.cons_append]⟩

private theorem Survivor.key_take {s : Survivor} (h : s.record.key = r.key) :
    (s.take r).record.key = s.record.key := by
  rw [Survivor.take]
  split
  · exact h.symm
  · rfl

/-- Keys that have occurred keep their places when a record is added. -/
theorem Survive.ordered_append (h : Survive rs kept) (r : Record) :
    (kept.map (·.record.key)).Pairwise fun k l =>
      ((rs ++ [r]).map Record.key).idxOf k < ((rs ++ [r]).map Record.key).idxOf l := by
  refine h.ordered.imp_of_mem fun hk hl hlt => ?_
  rwa [List.map_append, List.idxOf_append_of_mem (h.mem_keys hk),
    List.idxOf_append_of_mem (h.mem_keys hl)]

/-- A duplicate of a survivor replaces it or not. -/
theorem Survive.replace {front back : List Survivor} {s : Survivor}
    (h : Survive rs (front ++ s :: back)) (hkey : s.record.key = r.key) :
    Survive (rs ++ [r]) (front ++ s.take r :: back) := by
  have hs : s ∈ front ++ s :: back := List.mem_append_right front List.mem_cons_self
  have hkeys : (front ++ s.take r :: back).map (·.record.key) =
      (front ++ s :: back).map (·.record.key) := by
    rw [List.map_append, List.map_append, List.map_cons, List.map_cons, Survivor.key_take hkey]
  -- The survivors are those from before, apart from the one that may be replaced.
  have hmem {u : Survivor} (hu : u ∈ front ++ s.take r :: back) :
      u = s.take r ∨ u ∈ front ++ s :: back ∧ u.record.key ≠ r.key := by
    have hnodup := h.nodup
    rw [List.map_append, List.map_cons, List.nodup_middle, List.nodup_cons, List.mem_append,
      List.mem_map, List.mem_map, hkey] at hnodup
    rcases List.mem_append.1 hu with hu | hu
    · exact .inr ⟨List.mem_append_left _ hu, fun heq => hnodup.1 (.inl ⟨u, hu, heq⟩)⟩
    · rcases List.mem_cons.1 hu with rfl | hu
      · exact .inl rfl
      · exact .inr ⟨List.mem_append_right _ (List.mem_cons_of_mem _ hu),
          fun heq => hnodup.1 (.inr ⟨u, hu, heq⟩)⟩
  refine ⟨fun u hu => ?_, fun u hu => ?_, fun u hu => ?_, hkeys ▸ h.ordered_append r⟩
  · have horigin : ∀ u ∈ front ++ s :: back, ∃ v ∈ rs ++ [r], v.id = u.first ∧
        v.transaction.identity = u.identity ∧ v.key = u.record.key := fun u hu =>
      (h.origin u hu).imp fun v hv => ⟨List.mem_append_left _ hv.1, hv.2⟩
    rcases hmem hu with rfl | ⟨hu, -⟩
    · obtain ⟨v, hv, hid, hidentity, hvkey⟩ := horigin s hs
      refine ⟨v, hv, hid.trans ?_, hidentity.trans ?_, hvkey.trans (Survivor.key_take hkey).symm⟩
      · rw [Survivor.take]
        split <;> rfl
      · rw [Survivor.take]
        split <;> rfl
    · exact horigin u hu
  · rcases hmem hu with rfl | ⟨hu, hne⟩
    · rw [Survivor.take]
      split
      · next hlt =>
        exact .last fun v hv hvkey =>
          ((h.best s hs).populated_le hv (hvkey.trans hkey.symm)).trans_lt hlt
      · next hle => exact (h.best s hs).append fun _ => not_lt.1 hle
    · exact (h.best u hu).append fun heq => absurd heq.symm hne
  · have hcomplete : u.key ∈ (front ++ s :: back).map (·.record.key) := by
      rcases List.mem_append.1 hu with hu | hu
      · obtain ⟨v, hv, hvkey⟩ := h.complete u hu
        exact List.mem_map.2 ⟨v, hv, hvkey⟩
      · obtain rfl := List.mem_singleton.1 hu
        exact List.mem_map.2 ⟨s, hs, hkey⟩
    exact List.mem_map.1 (hkeys ▸ hcomplete)

/-- A record with a new key is a new survivor. -/
theorem Survive.insert (h : Survive rs kept) (hnew : ∀ s ∈ kept, s.record.key ≠ r.key) :
    Survive (rs ++ [r]) (kept ++ [⟨r.id, r.transaction.identity, r⟩]) := by
  have hfresh : ∀ u ∈ rs, u.key ≠ r.key := fun u hu heq => by
    obtain ⟨s, hs, hkey⟩ := h.complete u hu
    exact hnew s hs (hkey.trans heq)
  have hr : r ∈ rs ++ [r] := List.mem_append_right _ List.mem_cons_self
  refine ⟨fun s hs => ?_, fun s hs => ?_, fun u hu => ?_, ?_⟩
  · rcases List.mem_append.1 hs with hs | hs
    · exact (h.origin s hs).imp fun v hv => ⟨List.mem_append_left _ hv.1, hv.2⟩
    · obtain rfl := List.mem_singleton.1 hs
      exact ⟨r, hr, rfl, rfl, rfl⟩
  · rcases List.mem_append.1 hs with hs | hs
    · exact (h.best s hs).append fun heq => absurd heq.symm (hnew s hs)
    · obtain rfl := List.mem_singleton.1 hs
      exact .last fun u hu heq => absurd heq (hfresh u hu)
  · rcases List.mem_append.1 hu with hu | hu
    · obtain ⟨s, hs, hkey⟩ := h.complete u hu
      exact ⟨s, List.mem_append_left _ hs, hkey⟩
    · obtain rfl := List.mem_singleton.1 hu
      exact ⟨_, List.mem_append_right _ List.mem_cons_self, rfl⟩
  · -- The new key has its first place behind all the others.
    rw [List.map_append (f := fun s : Survivor => s.record.key), List.pairwise_append]
    refine ⟨h.ordered_append r, List.pairwise_singleton _ _, fun k hk l hl => ?_⟩
    obtain rfl := List.mem_singleton.1 hl
    have hlast : r.key ∉ rs.map Record.key := fun hmem => by
      obtain ⟨u, hu, heq⟩ := List.mem_map.1 hmem
      exact hfresh u hu heq
    rw [List.map_append, List.idxOf_append_of_mem (h.mem_keys hk),
      List.idxOf_append_of_notMem hlast]
    exact Nat.lt_add_right _ (List.idxOf_lt_length_of_mem (h.mem_keys hk))

/-- Placing one more record keeps the survivors what they are of all records so far. -/
theorem Survive.place (h : Survive rs kept) (hkeyed : ∀ u ∈ rs ++ [r], u.transaction.IsKeyed)
    (hcoherent : Record.Coherent (rs ++ [r])) : Survive (rs ++ [r]) (place r kept) := by
  rcases place_eq r kept with ⟨front, s, back, rfl, hagrees, hplace⟩ | ⟨hnone, hplace⟩
  · have hs : s ∈ front ++ s :: back := List.mem_append_right front List.mem_cons_self
    rw [hplace]
    exact h.replace ((h.agrees_iff hkeyed hcoherent hs).1 hagrees)
  · rw [hplace]
    exact h.insert fun s hs hkey => hnone s hs ((h.agrees_iff hkeyed hcoherent hs).2 hkey)

end Step

/-! ### All records -/

/-- Going over further records goes well, and the survivors are those of all records. -/
theorem survive_placeAll {done rs : List Record} {kept : List Survivor} (h : Survive done kept)
    (hkeyed : ∀ r ∈ done ++ rs, r.transaction.IsKeyed)
    (hcoherent : Record.Coherent (done ++ rs)) :
    ∃ kept', placeAll kept rs = .ok kept' ∧ Survive (done ++ rs) kept' := by
  induction rs generalizing done kept with
  | nil => exact ⟨kept, rfl, by rwa [List.append_nil]⟩
  | cons r rs ih =>
    rw [List.append_cons] at hkeyed hcoherent
    have hfirst : ∀ u ∈ done ++ [r], u ∈ done ++ [r] ++ rs := fun u hu =>
      List.mem_append_left rs hu
    have hstep := h.place (fun u hu => hkeyed u (hfirst u hu))
      fun u hu v hv => hcoherent u (hfirst u hu) v (hfirst v hv)
    obtain ⟨kept', hrest, hsurvive⟩ := ih hstep hkeyed hcoherent
    have hr := hkeyed r (hfirst r (List.mem_append_right done List.mem_cons_self))
    refine ⟨kept', ?_, by rwa [List.append_cons]⟩
    rw [placeAll, Transaction.checkAllHashable_identity hr, ok_bind, hrest]

variable {a b : List Record}

/-- A merge keeps one record for each key that occurs, in the order in which the keys occur first:
of the records with that key the first one among those with the most of name, notes and tags. The
records with one key are those that the merge takes for duplicates. -/
theorem merge_keeps_best (hkeyed : ∀ r ∈ a ++ b, r.transaction.IsKeyed)
    (hcoherent : Record.Coherent (a ++ b)) :
    (∀ r ∈ a ++ b, ∀ s ∈ a ++ b,
      Value.sameList r.transaction.identity s.transaction.identity =
        .ok (decide (r.key = s.key))) ∧
    ∃ out, merge a b = .ok out ∧
      (out.map Record.key).Nodup ∧
      (∀ k, k ∈ out.map Record.key ↔ k ∈ (a ++ b).map Record.key) ∧
      ((out.map Record.key).Pairwise fun k l =>
        ((a ++ b).map Record.key).idxOf k < ((a ++ b).map Record.key).idxOf l) ∧
      ∀ r ∈ out, IsBest (a ++ b) r := by
  refine ⟨fun r hr s hs => Transaction.sameList_identity (hkeyed r hr) (hkeyed s hs), ?_⟩
  obtain ⟨kept, hplace, hsurvive⟩ :
      ∃ kept, placeAll [] (a ++ b) = .ok kept ∧ Survive (a ++ b) kept :=
    survive_placeAll .nil hkeyed hcoherent
  have hkeys : (kept.map (·.record)).map Record.key = kept.map (·.record.key) := List.map_map
  refine ⟨kept.map (·.record), by rw [merge, hplace]; rfl, hkeys ▸ hsurvive.nodup, fun k => ?_,
    hkeys ▸ hsurvive.ordered, fun r hr => ?_⟩
  · rw [hkeys]
    refine ⟨hsurvive.mem_keys, fun hk => ?_⟩
    obtain ⟨r, hr, rfl⟩ := List.mem_map.1 hk
    exact List.mem_map.2 (hsurvive.complete r hr)
  · obtain ⟨s, hs, rfl⟩ := List.mem_map.1 hr
    exact hsurvive.best s hs

/-- A transaction of some amount. -/
def sampleOf (amount : Decimal) (name : Value) : Transaction :=
  { bank := "b", account := .null, postDate := .null, amount := .decimal amount, name }

/-- Ten withdrawn and nothing, and the same amounts in another form, the first one with a name. -/
def sampleLedger : Ledger where
  transactions :=
    [sampleOf (.finite true 10 0) .null, sampleOf (.finite false 0 0) .null,
      sampleOf (.finite true 1000 (-2)) "Rent", sampleOf (.finite true 0 2) .null]

/-- The records of the sample have keys. -/
theorem sampleLedger_isKeyed (ids : List ℕ) :
    ∀ r ∈ sampleLedger.records ids, r.transaction.IsKeyed := by
  have hamount (s : Bool) (c : ℕ) (e : ℤ) (name : Value) :
      (sampleOf (.finite s c e) name).IsKeyed := by
    simp only [Transaction.IsKeyed, Transaction.identity, sampleOf, List.forall_mem_cons]
    exact ⟨rfl, rfl, rfl, rfl, rfl, fun _ h => absurd h List.not_mem_nil⟩
  have hall : ∀ t ∈ sampleLedger.transactions, t.IsKeyed := by
    simp only [sampleLedger, List.forall_mem_cons, hamount]
    simp
  intro r hr
  exact hall _ (List.mem_of_getElem? (Ledger.get?_of_mem_records hr))

/-- Amounts of different form are duplicates; the record with a name takes the place of the one that
comes first, and comes again at the end. -/
theorem merge_keeps_best_sample :
    let a := sampleLedger.records [0, 1]
    let b := sampleLedger.records [2, 3, 0]
    (∀ r ∈ a ++ b, r.transaction.IsKeyed) ∧ Record.Coherent (a ++ b) ∧
    ∃ out, merge a b = .ok out ∧ out.map (·.id) = [2, 1] ∧
      (out.map Record.key).Nodup ∧ ∀ r ∈ out, IsBest (a ++ b) r := by
  intro a b
  have hrecords : a ++ b = sampleLedger.records [0, 1, 2, 3, 0] := rfl
  have hkeyed : ∀ r ∈ a ++ b, r.transaction.IsKeyed := hrecords ▸ sampleLedger_isKeyed _
  have hcoherent : Record.Coherent (a ++ b) :=
    hrecords ▸ Ledger.coherent_records sampleLedger [0, 1, 2, 3, 0]
  obtain ⟨-, out, hout, hnodup, -, -, hbest⟩ := merge_keeps_best hkeyed hcoherent
  have hids : (merge a b).toOption.map (fun rs => rs.map (·.id)) = some [2, 1] := by
    decide +kernel
  refine ⟨hkeyed, hcoherent, out, hout, ?_, hnodup, hbest⟩
  rw [hout] at hids
  exact Option.some.inj hids

end Query

end LedgerTags
