import LedgerTags.Proofs.DateFilters
import LedgerTags.Proofs.RecordOrder
import LedgerTags.Query.Group

/-!
# Groups are an ordered partition

A group has the records whose period starts on the day that is its key, in the order of the
collection (`groupAt`), and the keys are these first days, each of them once (`Grouped`). This holds
at the start and is kept by one more record (`Grouped.add`, `Grouped.skip`), so it holds after all
of them (`exists_grouped`).

In ascending order the groups one after the other are the stable sort of the records with a day by
the first days of their periods (`isStableSort_flatMap`). There is only one such list, so a sort by
these first days returns the same (`group_partitions`).
-/

namespace LedgerTags

open Sorting

/-! ### The first day of the period of a record -/

namespace Record

/-- The period that holds the day of a record starts on the day `k`. -/
def startsOn (b : Bucket) (f : Field) (k : Date) (r : Record) : Bool :=
  decide ((r.day? f).map b.start = some k)

variable {b : Bucket} {f : Field} {r : Record} {d k : Date}

/-- A record belongs to the group of the day with which the period of its own day starts. -/
theorem startsOn_iff : r.startsOn b f k = true ↔ ∃ d, r.day? f = some d ∧ b.start d = k := by
  rw [startsOn, decide_eq_true_iff, Option.map_eq_some_iff]

/-- A record belongs to the group with which the period of its day starts. -/
theorem startsOn_of_day? (h : r.day? f = some d) (b : Bucket) :
    r.startsOn b f (b.start d) = true := startsOn_iff.2 ⟨d, h, rfl⟩

/-- The number of the first day of the period that holds the day of a record. -/
def startNumber (b : Bucket) (f : Field) (r : Record) : ℕ :=
  ((r.day? f).map fun d => (b.start d).ordinal).getD 0

private theorem startNumber_eq (h : r.startsOn b f k = true) : r.startNumber b f = k.ordinal := by
  obtain ⟨d, hd, rfl⟩ := startsOn_iff.1 h
  rw [startNumber, hd]
  rfl

private theorem isSome_day? (h : r.startsOn b f k = true) : (r.day? f).isSome = true := by
  obtain ⟨d, hd, -⟩ := startsOn_iff.1 h
  rw [hd]
  rfl

/-- The period of a record with a day starts on `k` exactly if its first day has the number of
`k`. -/
theorem startsOn_iff_startNumber (h : (r.day? f).isSome = true) :
    r.startsOn b f k = true ↔ r.startNumber b f = k.ordinal := by
  refine ⟨startNumber_eq, fun hnumber => ?_⟩
  obtain ⟨d, hd⟩ := Option.isSome_iff_exists.1 h
  have hstarts := startsOn_of_day? hd b
  rw [startNumber_eq hstarts] at hnumber
  rwa [Date.ordinal_injective hnumber] at hstarts

end Record

/-- The period of a date starts with a date. -/
theorem Value.bucketStart_date (b : Bucket) (d : Date) :
    Value.bucketStart (.date d) (.text b.toText) = .ok (.date (b.start d)) := by
  have hfirst : (b.first d).mapError Error.noSuchDay = .ok (b.start d) := by
    rw [b.first_eq]
    rfl
  have hstart : Value.bucketStart (.date d) (.text b.toText) =
      ((b.first d).mapError Error.noSuchDay >>= fun start => .ok (.date start)) := by
    cases b <;> rfl
  rw [hstart, hfirst, ok_bind]

/-- Dates are the same key exactly if they are the same day. -/
theorem Value.sameKey_date (d e : Date) :
    Value.sameKey (.date d) (.date e) = decide (d = e) := by
  rw [sameKey, same]

namespace Query

variable {b : Bucket} {f : Field} {rs : List Record} {r : Record} {d k : Date} {keys : List Date}

/-- The records with a day in a field. -/
def dated (f : Field) (rs : List Record) : List Record := rs.filter fun r => (r.day? f).isSome

private theorem mem_dated : r ∈ dated f rs ↔ r ∈ rs ∧ ∃ d, r.day? f = some d := by
  rw [dated, List.mem_filter, Option.isSome_iff_exists]

/-! ### Collecting the groups -/

/-- The group of the records whose period starts on a day. -/
def groupAt (b : Bucket) (f : Field) (rs : List Record) (k : Date) : Group :=
  (.date k, rs.filter (Record.startsOn b f k))

/-- The keys are the first days of the periods of the records, each of them once. -/
def Grouped (b : Bucket) (f : Field) (rs : List Record) (keys : List Date) : Prop :=
  keys.Nodup ∧ ∀ k, k ∈ keys ↔ ∃ r ∈ rs, r.startsOn b f k = true

private theorem addToGroup_of_mem {members members' : Date → List Record} (hnodup : keys.Nodup)
    (hk : k ∈ keys) (hsame : members' k = members k ++ [r])
    (hother : ∀ j ∈ keys, j ≠ k → members' j = members j) :
    addToGroup (.date k) r (keys.map fun j => (.date j, members j)) =
      keys.map fun j => (.date j, members' j) := by
  induction keys with
  | nil => cases hk
  | cons j keys ih =>
    obtain ⟨hj, hnodup⟩ := List.nodup_cons.1 hnodup
    rw [List.map_cons, addToGroup, Value.sameKey_date, List.map_cons]
    by_cases hjk : j = k
    · subst hjk
      have hrest : ∀ i ∈ keys, members i = members' i := by
        intro i hi
        have hne : i ≠ j := fun hij => hj (hij ▸ hi)
        exact (hother i (List.mem_cons_of_mem j hi) hne).symm
      rw [decide_eq_true rfl, if_pos rfl, hsame]
      congr 1
      exact List.map_congr_left fun i hi => by rw [hrest i hi]
    · have hmem : k ∈ keys := (List.mem_cons.1 hk).resolve_left (Ne.symm hjk)
      rw [decide_eq_false hjk, if_neg Bool.false_ne_true, hother j List.mem_cons_self hjk,
        ih hnodup hmem fun i hi => hother i (List.mem_cons_of_mem j hi)]

private theorem addToGroup_of_not_mem {members : Date → List Record} (hk : k ∉ keys) :
    addToGroup (.date k) r (keys.map fun j => (.date j, members j)) =
      (keys.map fun j => (.date j, members j)) ++ [(.date k, [r])] := by
  induction keys with
  | nil => rfl
  | cons j keys ih =>
    rw [List.mem_cons, not_or] at hk
    rw [List.map_cons, addToGroup, Value.sameKey_date, decide_eq_false (Ne.symm hk.1),
      if_neg Bool.false_ne_true, ih hk.2, List.cons_append]

/-- One more record with a day goes to the group of its period, or opens it. -/
theorem Grouped.add (h : Grouped b f rs keys) (hr : r.startsOn b f k = true) :
    ∃ keys', addToGroup (.date k) r (keys.map (groupAt b f rs)) =
        keys'.map (groupAt b f (rs ++ [r])) ∧ Grouped b f (rs ++ [r]) keys' := by
  obtain ⟨hnodup, hmem⟩ := h
  have hone : ∀ j, r.startsOn b f j = true ↔ j = k := by
    intro j
    obtain ⟨d, hd, rfl⟩ := Record.startsOn_iff.1 hr
    rw [Record.startsOn, decide_eq_true_iff, hd, Option.map_some, Option.some_inj, eq_comm]
  have hmem' : ∀ j, (∃ s ∈ rs ++ [r], s.startsOn b f j = true) ↔ j ∈ keys ∨ j = k := by
    intro j
    simp only [List.mem_append, List.mem_singleton, or_and_right, exists_or, exists_eq_left, hmem,
      hone]
  have hself : rs.filter (Record.startsOn b f k) ++ [r] =
      (rs ++ [r]).filter (Record.startsOn b f k) := by
    rw [List.filter_append, List.filter_cons_of_pos hr, List.filter_nil]
  have hother : ∀ j, j ≠ k →
      (rs ++ [r]).filter (Record.startsOn b f j) = rs.filter (Record.startsOn b f j) := by
    intro j hjk
    have hnot : ¬r.startsOn b f j = true := mt (hone j).1 hjk
    rw [List.filter_append, List.filter_cons_of_neg hnot, List.filter_nil, List.append_nil]
  by_cases hk : k ∈ keys
  · refine ⟨keys, addToGroup_of_mem hnodup hk hself.symm fun j _ => hother j, hnodup, fun j => ?_⟩
    rw [hmem']
    exact ⟨.inl, fun hj => hj.elim id fun hjk => hjk ▸ hk⟩
  · have hnone : rs.filter (Record.startsOn b f k) = [] := by
      rw [List.filter_eq_nil_iff]
      intro s hs hstarts
      exact hk ((hmem k).2 ⟨s, hs, hstarts⟩)
    refine ⟨keys ++ [k], ?_, ?_, fun j => ?_⟩
    · have hkeys : keys.map (groupAt b f rs) = keys.map (groupAt b f (rs ++ [r])) := by
        refine List.map_congr_left fun j hj => ?_
        have hjk : j ≠ k := fun hjk => hk (hjk ▸ hj)
        rw [groupAt, groupAt, hother j hjk]
      have hopened : addToGroup (.date k) r (keys.map (groupAt b f rs)) =
          keys.map (groupAt b f rs) ++ [(.date k, [r])] := addToGroup_of_not_mem hk
      rw [hopened, List.map_append, ← hkeys, List.map_singleton, groupAt, ← hself, hnone,
        List.nil_append]
    · exact hnodup.append (List.nodup_singleton k) (List.disjoint_singleton.2 hk)
    · rw [hmem', List.mem_append, List.mem_singleton]

/-- A record without a day is left out. -/
theorem Grouped.skip (h : Grouped b f rs keys) (hr : r.day? f = none) :
    keys.map (groupAt b f (rs ++ [r])) = keys.map (groupAt b f rs) ∧
      Grouped b f (rs ++ [r]) keys := by
  have hnot : ∀ k, ¬r.startsOn b f k = true := by
    intro k hstarts
    obtain ⟨d, hd, -⟩ := Record.startsOn_iff.1 hstarts
    rw [hr] at hd
    cases hd
  refine ⟨List.map_congr_left fun k _ => ?_, h.1, fun k => ?_⟩
  · rw [groupAt, groupAt, List.filter_append, List.filter_cons_of_neg (hnot k), List.filter_nil,
      List.append_nil]
  · simp [h.2, hnot]

/-- After all records the groups are those of the collection. -/
theorem exists_grouped {done : List Record} (h : Grouped b f done keys)
    (hrs : ∀ r ∈ rs, r.HoldsDay f) :
    ∃ keys', addAllToGroups f (.text b.toText) (keys.map (groupAt b f done)) rs =
        .ok (keys'.map (groupAt b f (done ++ rs))) ∧ Grouped b f (done ++ rs) keys' := by
  induction rs generalizing done keys with
  | nil =>
    rw [List.append_nil]
    exact ⟨keys, rfl, h⟩
  | cons r rs ih =>
    obtain ⟨hr, hrs⟩ := List.forall_mem_cons.1 hrs
    rw [List.append_cons]
    have hnone := hr.day?_eq_none_iff
    rcases hr with hnull | ⟨d, hd⟩
    · obtain ⟨hsame, h'⟩ := h.skip (hnone.2 hnull)
      rw [addAllToGroups, hnull, ← hsame]
      exact ih h' hrs
    · have hday : r.day? f = some d := Record.day?_eq_some_iff.2 hd
      obtain ⟨keys', hadd, h'⟩ := h.add (Record.startsOn_of_day? hday b)
      have hhash : Value.checkHashable (.date (b.start d)) = .ok () :=
        Value.checkHashable_of_scalar? rfl
      rw [addAllToGroups, hd]
      dsimp only
      rw [Value.bucketStart_date, ok_bind, hhash, ok_bind, hadd]
      exact ih h' hrs

/-! ### The groups in order -/

/-- The groups of a collection partition its records with a day by the first days of their periods,
which are the keys, in order. -/
structure IsPartition (b : Bucket) (f : Field) (rs : List Record) (groups : List Group) : Prop where
  ascending : groups.Pairwise fun g h => Value.test .lt g.1 h.1 = .ok true
  nonempty : ∀ g ∈ groups, g.2 ≠ []
  /-- The members of a group are the records whose period starts on its key, in their order. -/
  members : ∀ g ∈ groups, ∃ k, g.1 = .date k ∧ g.2 = rs.filter (Record.startsOn b f k)
  exists_unique : ∀ r ∈ dated f rs, ∃! g, g ∈ groups ∧ r ∈ g.2
  perm : (groups.flatMap (·.2)).Perm (dated f rs)

/-- Groups are sorted by their keys. -/
theorem exists_sort_groups (h : Grouped b f rs keys) :
    ∃ keys', Sorting.sort (fun g h : Group => Value.test .lt g.1 h.1) (keys.map (groupAt b f rs)) =
        .ok (keys'.map (groupAt b f rs)) ∧
      (keys'.Pairwise fun j k => j.ordinal < k.ordinal) ∧ Grouped b f rs keys' := by
  have hfollows : Follows (fun g h : Group => Value.test .lt g.1 h.1) (fun g => Value.dayNumber g.1)
      (keys.map (groupAt b f rs)) := by
    intro g hg h hh
    obtain ⟨j, -, rfl⟩ := List.mem_map.1 hg
    obtain ⟨k, -, rfl⟩ := List.mem_map.1 hh
    have hdates : ∀ v ∈ [Value.date j, .date k], ∃ d, v = .date d := by simp
    exact Value.isRank_dayNumber hdates _ (by simp [groupAt]) _ (by simp [groupAt])
  have hinjective : (groupAt b f rs).Injective := by
    intro j k hjk
    have hkeys : Value.date j = .date k := congrArg Prod.fst hjk
    exact Value.date.inj hkeys
  obtain ⟨groups, hsort, hstable⟩ := exists_stableSort hfollows
  obtain ⟨keys', rfl, hkeys⟩ := hstable.exists_map hinjective
  have hnodup : keys'.Nodup := hkeys.perm.nodup_iff.2 h.1
  refine ⟨keys', hsort, ?_, hnodup, fun k => hkeys.mem_iff.trans (h.2 k)⟩
  exact (hkeys.ordered.and hnodup).imp fun hle =>
    lt_of_le_of_ne hle.1 fun heq => hle.2 (Date.ordinal_injective heq)

/-- Of lists that are empty but for one key, what stands one after the other is the list at that
key. -/
theorem flatMap_eq_single {α : Type} {lists : Date → List α} (hnodup : keys.Nodup) (hk : k ∈ keys)
    (h : ∀ j ∈ keys, j ≠ k → lists j = []) : keys.flatMap lists = lists k := by
  obtain ⟨before, after, rfl⟩ := List.append_of_mem hk
  obtain ⟨-, hafter, hcross⟩ := List.nodup_append.1 hnodup
  have hbefore : before.flatMap lists = [] := by
    rw [List.flatMap_eq_nil_iff]
    exact fun j hj => h j (by simp [hj]) (hcross j hj k List.mem_cons_self)
  have hafter' : after.flatMap lists = [] := by
    rw [List.flatMap_eq_nil_iff]
    intro j hj
    exact h j (by simp [hj]) fun hjk => (List.nodup_cons.1 hafter).1 (hjk ▸ hj)
  rw [List.flatMap_append, List.flatMap_cons, hbefore, hafter', List.nil_append, List.append_nil]

/-- The groups one after the other are the stable sort of the records with a day. -/
theorem isStableSort_flatMap (h : Grouped b f rs keys)
    (hkeys : keys.Pairwise fun j k => j.ordinal < k.ordinal) :
    IsStableSort (Record.startNumber b f) (dated f rs)
      (keys.flatMap fun k => rs.filter (Record.startsOn b f k)) where
  ordered := by
    have hnumber : ∀ k, ∀ r ∈ rs.filter (Record.startsOn b f k),
        r.startNumber b f = k.ordinal := fun k r hr =>
      Record.startNumber_eq (List.mem_filter.1 hr).2
    rw [List.pairwise_flatMap]
    refine ⟨fun k _ => ?_, hkeys.imp fun hlt r hr s hs => ?_⟩
    · exact List.pairwise_of_forall_mem_list fun r hr s hs => by
        rw [hnumber k r hr, hnumber k s hs]
    · rw [hnumber _ r hr, hnumber _ s hs]
      exact hlt.le
  filter_rank n := by
    rw [List.filter_flatMap]
    have hnone : ∀ k ∈ keys, k.ordinal ≠ n →
        ((rs.filter (Record.startsOn b f k)).filter fun r => r.startNumber b f = n) = [] := by
      intro k _ hne
      rw [List.filter_eq_nil_iff]
      intro r hr hnumber
      rw [decide_eq_true_iff, Record.startNumber_eq (List.mem_filter.1 hr).2] at hnumber
      exact hne hnumber
    by_cases hn : ∃ k ∈ keys, k.ordinal = n
    · obtain ⟨k, hk, rfl⟩ := hn
      rw [flatMap_eq_single h.1 hk fun j hj hjk =>
        hnone j hj fun heq => hjk (Date.ordinal_injective heq), dated, List.filter_filter,
        List.filter_filter]
      refine List.filter_congr fun r _ => ?_
      rw [Bool.eq_iff_iff, Bool.and_eq_true, Bool.and_eq_true, decide_eq_true_iff]
      refine and_congr_right fun hnumber => ⟨Record.isSome_day?, fun hday => ?_⟩
      exact (Record.startsOn_iff_startNumber hday).2 hnumber
    · have hleft : keys.flatMap (fun k =>
          (rs.filter (Record.startsOn b f k)).filter fun r => r.startNumber b f = n) = [] := by
        rw [List.flatMap_eq_nil_iff]
        exact fun k hk => hnone k hk fun heq => hn ⟨k, hk, heq⟩
      rw [hleft, eq_comm, List.filter_eq_nil_iff]
      intro r hr hnumber
      obtain ⟨hr, d, hd⟩ := mem_dated.1 hr
      have hstarts := Record.startsOn_of_day? hd b
      rw [decide_eq_true_iff, Record.startNumber_eq hstarts] at hnumber
      exact hn ⟨b.start d, (h.2 _).2 ⟨r, hr, hstarts⟩, hnumber⟩

/-- The groups of a collection in order are a partition. -/
theorem isPartition_map (h : Grouped b f rs keys)
    (hkeys : keys.Pairwise fun j k => j.ordinal < k.ordinal) :
    IsPartition b f rs (keys.map (groupAt b f rs)) where
  ascending := by
    rw [List.pairwise_map]
    refine hkeys.imp fun {j k} hlt => ?_
    have hdates : ∀ v ∈ [Value.date j, .date k], ∃ d, v = .date d := by simp
    have htest := Value.isRank_dayNumber hdates (.date j) (by simp) (.date k) (by simp)
    rwa [Value.dayNumber, Value.dayNumber, decide_eq_true hlt] at htest
  nonempty := by
    rw [List.forall_mem_map]
    intro k hk
    obtain ⟨r, hr, hstarts⟩ := (h.2 k).1 hk
    exact List.ne_nil_of_mem (List.mem_filter.2 ⟨hr, hstarts⟩)
  members := by
    rw [List.forall_mem_map]
    exact fun k _ => ⟨k, rfl, rfl⟩
  exists_unique := by
    intro r hdated
    obtain ⟨hr, d, hd⟩ := mem_dated.1 hdated
    have hstarts := Record.startsOn_of_day? hd b
    have hkey : b.start d ∈ keys := (h.2 _).2 ⟨r, hr, hstarts⟩
    refine ⟨groupAt b f rs (b.start d),
      ⟨List.mem_map_of_mem hkey, List.mem_filter.2 ⟨hr, hstarts⟩⟩, ?_⟩
    rintro g ⟨hg, hmem⟩
    obtain ⟨k, -, rfl⟩ := List.mem_map.1 hg
    obtain ⟨e, he, rfl⟩ := Record.startsOn_iff.1 (List.mem_filter.1 hmem).2
    rw [hd] at he
    rw [Option.some.inj he]
  perm := by
    rw [List.flatMap_map]
    exact (isStableSort_flatMap h hkeys).perm

/-! ### Groups and the sort by their keys -/

/-- The key that computes the first day of the period of a record. -/
def startKey (b : Bucket) (f : Field) (sharing : Sharing) : Key :=
  ⟨fun t => Value.bucketStart (t.get f) (.text b.toText), sharing⟩

/-- The first days of the periods sort records with a day. -/
theorem exists_sortBy_startKey (hdays : ∀ r ∈ rs, ∃ d, r.day? f = some d)
    (hcoherent : Record.Coherent rs) {sharing : Sharing} (hsharing : sharing ≠ .always) :
    ∃ out, sortBy (startKey b f sharing) false rs = .ok out ∧
      IsStableSort (Record.startNumber b f) rs out := by
  have hvalue : ∀ r ∈ rs, ∃ d, r.startsOn b f d = true ∧
      (startKey b f sharing).value r.transaction = .ok (.date d) := by
    intro r hr
    obtain ⟨d, hd⟩ := hdays r hr
    have hget : r.transaction.get f = .date d := Record.day?_eq_some_iff.1 hd
    refine ⟨b.start d, Record.startsOn_of_day? hd b, ?_⟩
    show Value.bucketStart (r.transaction.get f) (.text b.toText) = _
    rw [hget, Value.bucketStart_date]
  have hvalueAt : ∀ r ∈ rs, ∃ d, r.startNumber b f = d.ordinal ∧
      (startKey b f sharing).valueAt r = .date d := by
    intro r hr
    obtain ⟨d, hstarts, hd⟩ := hvalue r hr
    refine ⟨d, Record.startNumber_eq hstarts, ?_⟩
    rw [Key.valueAt, hd]
    rfl
  have hdates : ∀ v ∈ (startKey b f sharing).present rs, ∃ d, v = .date d := by
    intro v hv
    obtain ⟨r, hr, rfl⟩ := List.mem_map.1 (List.mem_filter.1 hv).1
    obtain ⟨d, -, hd⟩ := hvalueAt r hr
    exact ⟨d, hd⟩
  have horders : (startKey b f sharing).Orders rs :=
    { exists_value := fun r hr => by
        obtain ⟨d, -, hd⟩ := hvalue r hr
        exact ⟨_, hd⟩
      always := fun hshared => absurd hshared hsharing
      preordered := Value.isPreordered_dates hdates }
  have hrank : Value.IsRank (fun v => (v.dayNumber : ℤ)) ((startKey b f sharing).present rs) := by
    intro v hv w hw
    rw [Value.isRank_dayNumber hdates v hv w hw, decide_eq_decide.2 Int.ofNat_lt.symm]
  obtain ⟨out, hsort, hstable⟩ :=
    exists_sortBy_place horders hcoherent hrank (List.Subset.refl rs) false
  refine ⟨out, hsort, hstable.congr fun r hr s hs => ?_⟩
  obtain ⟨d, hnumber, hd⟩ := hvalueAt r hr
  obtain ⟨e, hnumber', he⟩ := hvalueAt s hs
  simp [placeOf, hd, he, hnumber, hnumber', isMissing, Value.dayNumber, Prod.Lex.toLex_le_toLex]

private theorem bucketOf_toText (b : Bucket) : bucketOf (.text b.toText) = .ok b := by
  cases b <;> rfl

private theorem dateFieldOf_toText (hf : f = .postDate ∨ f = .transactionDate) :
    dateFieldOf (.text f.toText) = .ok f := by
  rcases hf with rfl | rfl <;> rfl

/-- Grouping goes well, and gives the groups of the first days of the periods in order. -/
theorem exists_group_eq (hf : f = .postDate ∨ f = .transactionDate) (hrs : ∀ r ∈ rs, r.HoldsDay f)
    (b : Bucket) : ∃ keys, group rs (.text b.toText) (.text f.toText) =
        .ok (keys.map (groupAt b f rs)) ∧
      (keys.Pairwise fun j k => j.ordinal < k.ordinal) ∧ Grouped b f rs keys := by
  have hnil : Grouped b f [] [] := by
    refine ⟨List.nodup_nil, fun k => iff_of_false List.not_mem_nil ?_⟩
    simp
  obtain ⟨keys, hadd, hgrouped⟩ := exists_grouped hnil hrs
  rw [List.nil_append] at hadd hgrouped
  have hadd' : addAllToGroups f (.text b.toText) [] rs = .ok (keys.map (groupAt b f rs)) := hadd
  obtain ⟨keys', hsort, hkeys, hgrouped'⟩ := exists_sort_groups hgrouped
  refine ⟨keys', ?_, hkeys, hgrouped'⟩
  rw [group, bucketOf_toText, ok_bind, dateFieldOf_toText hf, ok_bind, hadd', ok_bind, hsort]

/-- Records whose date field holds a day or nothing are partitioned in order, and the groups one
after the other are what a sort of the records with a day by the first days of their periods
returns. -/
theorem group_partitions (hf : f = .postDate ∨ f = .transactionDate)
    (hrs : ∀ r ∈ rs, r.HoldsDay f) (hcoherent : Record.Coherent rs) (b : Bucket) :
    ∃ groups, group rs (.text b.toText) (.text f.toText) = .ok groups ∧
      IsPartition b f rs groups ∧
      ∀ sharing, sharing ≠ .always →
        sort (dated f rs) (.key (startKey b f sharing)) false = .ok (groups.flatMap (·.2)) := by
  obtain ⟨keys, hgroup, hkeys, hgrouped⟩ := exists_group_eq hf hrs b
  refine ⟨_, hgroup, isPartition_map hgrouped hkeys, fun sharing hsharing => ?_⟩
  have hdays : ∀ r ∈ dated f rs, ∃ d, r.day? f = some d := fun r hr => (mem_dated.1 hr).2
  have hcoherent' : Record.Coherent (dated f rs) := fun r hr s hs =>
    hcoherent r (mem_dated.1 hr).1 s (mem_dated.1 hs).1
  obtain ⟨out, hout, hstable⟩ := exists_sortBy_startKey hdays hcoherent' hsharing
  obtain rfl := hstable.unique (isStableSort_flatMap hgrouped hkeys)
  rw [sort, Key.ofArgument, ok_bind, hout, List.flatMap_map]
  rfl

/-- The months of the days in order, without the record that has no day. -/
theorem group_partitions_leapLedger :
    let rs := leapLedger.records [0, 1, 2, 3, 4]
    (∀ r ∈ rs, r.HoldsDay .postDate) ∧ Record.Coherent rs ∧
    ∃ groups, group rs (.text "month") (.text "post_date") = .ok groups ∧
      groups.map (fun g => g.2.map (·.id)) = [[2], [0, 4], [3]] ∧
      IsPartition .month .postDate rs groups ∧
      sort (dated .postDate rs) (.key (startKey .month .postDate .never)) false =
        .ok (groups.flatMap (·.2)) := by
  intro rs
  have hcoherent : Record.Coherent rs := Ledger.coherent_records leapLedger [0, 1, 2, 3, 4]
  obtain ⟨groups, hgroup, hpartition, hsorted⟩ :=
    group_partitions (.inl rfl) holdsDay_leapLedger hcoherent .month
  have hids : (group rs (.text "month") (.text "post_date")).toOption.map
      (fun groups => groups.map fun g => g.2.map (·.id)) = some [[2], [0, 4], [3]] := by
    decide +kernel
  have hgroup' : group rs (.text "month") (.text "post_date") = .ok groups := hgroup
  rw [hgroup'] at hids
  exact ⟨holdsDay_leapLedger, hcoherent, groups, hgroup', Option.some.inj hids, hpartition,
    hsorted .never (by decide)⟩

end Query

end LedgerTags
