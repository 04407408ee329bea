import LedgerTags.Proofs.Composition
import LedgerTags.Proofs.Counting
import LedgerTags.Proofs.Filtering
import LedgerTags.Proofs.RecordOrder
import LedgerTags.Proofs.TagSets
import LedgerTags.Proofs.Tallies

/-!
# Counts are exact

A count is the tally of what it visits: of each record the value of the key, or in ascending order
its members if it is a set of texts (`count_eq_tally`). The table that it fills is the tally of the
values that have been visited (`Tallied`), and one more value keeps it so (`Tallied.add`).

So the laws of tallies are laws of counts, and a count agrees with the filters by tag and by bank
(`count_tallies`).
-/

namespace LedgerTags

open Sorting

/-! ### What is visited -/

namespace Value

/-- The members of a set. -/
def members? : Value → Option (List Value)
  | set xs | frozenSet xs => some xs
  | _ => none

/-- What is visited of a value: the members of a set in ascending order, or the value itself. -/
def visited (v : Value) : List Value :=
  match v.members? with
  | some xs => (TagSet.ofList (xs.filterMap text?)).toList.map .text
  | none => [v]

/-- Whether a value equals a key, or is a set that holds it. -/
def countsFor (v k : Value) : Bool :=
  match v.members? with
  | some xs => xs.any (sameKey k)
  | none => sameKey k v

/-- How often a value counts: once, or once for each member of a set. -/
def weight (v : Value) : ℕ :=
  match v.members? with
  | some xs => xs.length
  | none => 1

/-- A value that can be counted: a key that is no set, or a set of texts without repeats. -/
inductive IsCountable (v : Value) : Prop where
  | key (hkey : IsKey v) (hset : v.members? = none)
  | texts (us : List Text) (hnodup : us.Nodup) (hset : v.members? = some (us.map .text))

variable {v k : Value} {us : List Text}

private theorem visited_texts (hset : v.members? = some (us.map .text)) :
    v.visited = (TagSet.ofList us).toList.map .text := by
  have hus : (us.map .text).filterMap text? = us := by
    rw [List.filterMap_map]
    exact List.filterMap_some
  rw [visited, hset]
  dsimp only
  rw [hus]

namespace IsCountable

private theorem of_scalar? {a : Scalar} (h : v.scalar? = some a) : IsCountable v := by
  refine .key (.of_scalar? h) ?_
  cases v with
  | set _ | frozenSet _ => cases h
  | _ => rfl

private theorem isKey_visited (h : IsCountable v) : ∀ w ∈ v.visited, IsKey w := by
  cases h with
  | key hkey hset =>
    rw [visited, hset]
    exact List.forall_mem_singleton.2 hkey
  | texts us _ hset =>
    rw [visited_texts hset, List.forall_mem_map]
    exact fun t _ => isKey_text t

/-- What is visited of one value is different. -/
theorem differ_visited (h : IsCountable v) : Differ v.visited := by
  cases h with
  | key hkey hset =>
    rw [visited, hset]
    exact List.pairwise_singleton _ _
  | texts us _ hset =>
    rw [visited_texts hset]
    refine List.pairwise_map.2 ((TagSet.nodup_toList _).imp fun hne => ?_)
    rw [sameKey_text, decide_eq_false hne]

private theorem length_visited (h : IsCountable v) : v.visited.length = v.weight := by
  cases h with
  | key hkey hset =>
    rw [visited, weight, hset]
    rfl
  | texts us hnodup hset =>
    rw [visited_texts hset, weight, hset, List.length_map]
    simp [(TagSet.perm_ofList hnodup).length_eq]

/-- A value is visited for the keys for which it counts. -/
theorem any_visited (h : IsCountable v) (hk : IsKey k) :
    v.visited.any (sameKey · k) = v.countsFor k := by
  cases h with
  | key hkey hset =>
    rw [visited, countsFor, hset]
    simp [hkey.sameKey_comm hk]
  | texts us hnodup hset =>
    have hmem : ∀ t, t ∈ (TagSet.ofList us).toList ↔ t ∈ us := fun t => TagSet.mem_ofList
    rw [visited_texts hset, countsFor, hset, Bool.eq_iff_iff]
    simp [hk.sameKey_comm (isKey_text _), hmem]

private theorem countP_visited (h : IsCountable v) (hk : IsKey k) :
    v.visited.countP (sameKey k) = if v.countsFor k then 1 else 0 := by
  rw [← any_visited h hk, ← countP_sameKey h.isKey_visited h.differ_visited hk]
  refine List.countP_congr fun w hw => ?_
  rw [hk.sameKey_comm (h.isKey_visited w hw)]

end IsCountable

end Value

namespace Key

/-- A key has values for the records, and they can be counted. -/
structure Counts (key : Key) (rs : List Record) : Prop where
  exists_value : ∀ r ∈ rs, ∃ v, key.value r.transaction = .ok v
  /-- Values that are the same thing for all records are the same. -/
  always : key.sharing = .always → ∀ r ∈ rs, ∀ s ∈ rs, key.valueAt r = key.valueAt s
  countable : ∀ r ∈ rs, (key.valueAt r).IsCountable

private theorem Counts.subset {key : Key} {rs us : List Record} (h : key.Counts rs)
    (hus : us ⊆ rs) : key.Counts us where
  exists_value r hr := h.exists_value r (hus hr)
  always hshared r hr s hs := h.always hshared r (hus hr) s (hus hs)
  countable r hr := h.countable r (hus hr)

end Key

namespace Query

variable {key : Key} {r : Record} {rs : List Record}

/-- What a record contributes to a count. -/
def contributed (key : Key) (r : Record) : List Key.Keyed :=
  match (key.valueAt r).members? with
  | some _ => (key.valueAt r).visited.map fun v => ⟨v, none⟩
  | none => [⟨key.valueAt r, key.identityAt r⟩]

private theorem value_contributed (key : Key) (r : Record) :
    (contributed key r).map (·.value) = (key.valueAt r).visited := by
  rw [contributed]
  split
  · rw [List.map_map]
    exact List.map_id _
  · next hset =>
    rw [Value.visited, hset]
    rfl

/-- Texts are visited in ascending order. -/
theorem sort_texts {us : List Text} (hnodup : us.Nodup) :
    Sorting.sort (Value.test .lt) (us.map .text) =
      .ok ((TagSet.ofList us).toList.map .text) := by
  have htexts : ∀ v ∈ us.map Value.text, ∃ t, v = .text t := by
    intro v hv
    obtain ⟨t, -, rfl⟩ := List.mem_map.1 hv
    exact ⟨t, rfl⟩
  have hinjective : Value.text.Injective := fun s t h => Value.text.inj h
  obtain ⟨rank, hrank⟩ := (Value.isPreordered_texts htexts).exists_rank
  obtain ⟨ys, hsort, hstable⟩ := exists_stableSort hrank
  obtain ⟨ts, rfl, hts⟩ := hstable.exists_map hinjective
  have hdistinct : ts.Nodup := hts.perm.nodup_iff.2 hnodup
  have hascending : ts.Pairwise (Text.lt · · = true) := by
    refine (hts.ordered.and hdistinct).imp_of_mem fun {s t} hs ht hle => ?_
    have htest := hrank (.text t) (List.mem_map_of_mem (hts.mem_iff.1 ht)) (.text s)
      (List.mem_map_of_mem (hts.mem_iff.1 hs))
    have hnot : ¬rank (.text t) < rank (.text s) := not_lt.2 hle.1
    rw [Value.test_lt_text, decide_eq_false hnot, Except.ok.injEq] at htest
    exact Text.lt_of_not_lt (by rw [htest]; exact Bool.false_ne_true) (Ne.symm hle.2)
  have hsame := Text.eq_of_mem_iff hascending (TagSet.ofList us).ascending fun t =>
    hts.mem_iff.trans TagSet.mem_ofList.symm
  rw [hsort, hsame]

/-- Of a set the sorted members are contributed. -/
theorem contributions_eq_members (k : Key.Keyed) : contributions k =
    match k.value.members? with
    | some xs => do return (← Sorting.sort (Value.test .lt) xs).map fun x => ⟨x, none⟩
    | none => .ok [k] := by
  obtain ⟨v, identity⟩ := k
  cases v <;> rfl

private theorem contributions_contributed (h : (key.valueAt r).IsCountable) :
    contributions ⟨key.valueAt r, key.identityAt r⟩ = .ok (contributed key r) := by
  rw [contributions_eq_members, contributed]
  cases h with
  | key hkey hset => rw [hset]
  | texts us hnodup hset =>
    rw [hset]
    dsimp only
    rw [sort_texts hnodup, ← Value.visited_texts hset]
    rfl

/-! ### One more value -/

/-- The entry of a tally in the table that is returned. -/
def Tally.entry (t : Tally) : Value × ℕ := (t.keyed.value, t.count)

/-- Keys that are the same thing have the same value. -/
def Shared (ks : List Key.Keyed) : Prop :=
  ∀ k ∈ ks, ∀ l ∈ ks, k.identity.isSome = true → k.identity = l.identity → k.value = l.value

variable {ks done : List Key.Keyed} {k : Key.Keyed} {ts : List Tally}

/-- Keys are looked up by their values. -/
theorem keyed_same (hkeys : ∀ k ∈ ks, k.value.IsKey) (hshared : Shared ks) {k l : Key.Keyed}
    (hk : k ∈ ks) (hl : l ∈ ks) : k.same l = .ok (Value.sameKey k.value l.value) := by
  rw [Key.Keyed.same]
  split
  · next hsame =>
    rw [Bool.and_eq_true, beq_iff_eq] at hsame
    rw [hshared k hk l hl hsame.1 hsame.2, Value.sameKey_iff.2 (hkeys l hl).same_self]
  · obtain ⟨b, hb⟩ := (hkeys k hk).exists_same (hkeys l hl)
    rw [Value.sameKey, hb]

private theorem entries_addToTallies (hsame : ∀ t ∈ ts, t.keyed.same k =
      .ok (Value.sameKey t.keyed.value k.value))
    (hkeys : ∀ t ∈ ts, t.keyed.value.IsKey) (hk : k.value.IsKey)
    (hdiffer : Value.Differ (ts.map (·.keyed.value))) :
    (addToTallies k ts).map Tally.entry =
      if ts.any fun t => Value.sameKey t.keyed.value k.value then
        (ts.map Tally.entry).map fun e =>
          (e.1, e.2 + if Value.sameKey e.1 k.value then 1 else 0)
      else ts.map Tally.entry ++ [(k.value, 1)] := by
  induction ts with
  | nil => rfl
  | cons t ts ih =>
    obtain ⟨ht, hsame⟩ := List.forall_mem_cons.1 hsame
    obtain ⟨hkey, hkeys⟩ := List.forall_mem_cons.1 hkeys
    obtain ⟨hfirst, hdiffer⟩ := List.pairwise_cons.1 hdiffer
    rw [addToTallies, ht, List.any_cons]
    dsimp only
    cases hold : Value.sameKey t.keyed.value k.value with
    | true =>
      -- The others differ from this one, so they are left as they are.
      have hrest : ∀ e ∈ ts.map Tally.entry,
          (e.1, e.2 + if Value.sameKey e.1 k.value then 1 else 0) = e := by
        intro e he
        obtain ⟨u, hu, rfl⟩ := List.mem_map.1 he
        have hne := hfirst _ (List.mem_map_of_mem hu)
        rw [hkey.sameKey_congr hk (hkeys u hu) hold, hk.sameKey_comm (hkeys u hu)] at hne
        simp [Tally.entry, hne]
      rw [if_pos rfl, Bool.true_or, if_pos rfl, List.map_cons, List.map_cons, List.map_cons,
        List.map_congr_left hrest, List.map_id']
      simp [Tally.entry, hold]
    | false =>
      rw [if_neg Bool.false_ne_true, List.map_cons, ih hsame hkeys hdiffer, Bool.false_or]
      split <;> simp [Tally.entry, hold]

private theorem keyed_of_mem_addToTallies {t : Tally} (ht : t ∈ addToTallies k ts) :
    t.keyed = k ∨ ∃ u ∈ ts, t.keyed = u.keyed := by
  induction ts with
  | nil =>
    obtain rfl := List.mem_singleton.1 ht
    exact .inl rfl
  | cons u ts ih =>
    rw [addToTallies] at ht
    split_ifs at ht
    · rcases List.mem_cons.1 ht with rfl | ht
      · exact .inr ⟨u, List.mem_cons_self, rfl⟩
      · exact .inr ⟨t, List.mem_cons_of_mem u ht, rfl⟩
    · rcases List.mem_cons.1 ht with rfl | ht
      · exact .inr ⟨t, List.mem_cons_self, rfl⟩
      · refine (ih ht).imp_right fun hold => ?_
        obtain ⟨v, hv, hkeyed⟩ := hold
        exact ⟨v, List.mem_cons_of_mem u hv, hkeyed⟩

/-- The table after some keys. -/
structure Tallied (ks : List Key.Keyed) (ts : List Tally) : Prop where
  entries : ts.map Tally.entry = Value.tally (ks.map (·.value))
  keyed_mem : ∀ t ∈ ts, t.keyed ∈ ks

/-- One more label keeps the tallies those of the labels that were counted. -/
theorem Tallied.add (h : Tallied done ts) (hkeys : ∀ l ∈ done ++ [k], l.value.IsKey)
    (hshared : Shared (done ++ [k])) : Tallied (done ++ [k]) (addToTallies k ts) where
  entries := by
    have hmem : k ∈ done ++ [k] := by simp
    have hold : ∀ t ∈ ts, t.keyed ∈ done ++ [k] := fun t ht =>
      List.mem_append_left _ (h.keyed_mem t ht)
    have hvalues : ts.map (·.keyed.value) = Value.distinct (done.map (·.value)) := by
      rw [← Value.keys_tally, ← h.entries, List.map_map]
      rfl
    have hdone : ∀ v ∈ done.map (·.value), v.IsKey :=
      List.forall_mem_map.2 fun l hl => hkeys l (List.mem_append_left _ hl)
    have hany : (ts.any fun t => Value.sameKey t.keyed.value k.value) =
        (Value.distinct (done.map (·.value))).any (Value.sameKey · k.value) := by
      rw [← hvalues, List.any_map]
      rfl
    rw [entries_addToTallies (fun t ht => keyed_same hkeys hshared (hold t ht) hmem)
      (fun t ht => hkeys _ (hold t ht)) (hkeys k hmem) (hvalues ▸ Value.differ_distinct _), hany,
      h.entries, List.map_append, List.map_singleton, Value.tally_append_singleton hdone
      (hkeys k hmem)]
  keyed_mem t ht := by
    rcases keyed_of_mem_addToTallies ht with hnew | ⟨u, hu, hkeyed⟩
    · simp [hnew]
    · rw [hkeyed]
      exact List.mem_append_left _ (h.keyed_mem u hu)

/-- After all keys the table is their tally. -/
theorem exists_tallied (h : Tallied done ts) (hkeys : ∀ l ∈ done ++ ks, l.value.IsKey)
    (hshared : Shared (done ++ ks)) :
    ∃ ts', addAllToTallies ts ks = .ok ts' ∧ Tallied (done ++ ks) ts' := by
  induction ks generalizing done ts with
  | nil =>
    rw [List.append_nil]
    exact ⟨ts, rfl, h⟩
  | cons k ks ih =>
    rw [List.append_cons] at hkeys hshared ⊢
    have hsub : done ++ [k] ⊆ done ++ [k] ++ ks := List.subset_append_left _ _
    have hstep := h.add (fun l hl => hkeys l (hsub hl)) fun l hl l' hl' =>
      hshared l (hsub hl) l' (hsub hl')
    have hhash := (hkeys k (hsub (by simp))).checkHashable
    rw [addAllToTallies, hhash, ok_bind]
    exact ih hstep hkeys hshared

/-! ### All records -/

private theorem addAllToTallies_append (ts : List Tally) (ks ks' : List Key.Keyed) :
    addAllToTallies ts (ks ++ ks') =
      addAllToTallies ts ks >>= fun ts' => addAllToTallies ts' ks' := by
  induction ks generalizing ts with
  | nil => rfl
  | cons k ks ih =>
    rw [List.cons_append, addAllToTallies, addAllToTallies]
    cases Value.checkHashable k.value with
    | error e => rfl
    | ok _ => exact ih _

/-- Records are counted by adding what they contribute one after the other. -/
theorem countFrom_eq (h : key.Counts rs) (ts : List Tally) :
    countFrom key ts rs = addAllToTallies ts (rs.flatMap (contributed key)) := by
  have hof : ∀ r ∈ rs, key.of r = .ok ⟨key.valueAt r, key.identityAt r⟩ := fun r hr =>
    Key.of_eq (Key.value_eq_valueAt (h.exists_value r hr))
  have hcountable := h.countable
  clear h
  induction rs generalizing ts with
  | nil => rfl
  | cons r rs ih =>
    obtain ⟨hr, hof⟩ := List.forall_mem_cons.1 hof
    obtain ⟨hfirst, hcountable⟩ := List.forall_mem_cons.1 hcountable
    rw [countFrom, hr, ok_bind, contributions_contributed hfirst, ok_bind, List.flatMap_cons,
      addAllToTallies_append]
    exact congrArg _ (funext fun ts' => ih ts' hof hcountable)

private theorem isKey_contributed (h : key.Counts rs) :
    ∀ k ∈ rs.flatMap (contributed key), k.value.IsKey := by
  intro k hk
  obtain ⟨r, hr, hk⟩ := List.mem_flatMap.1 hk
  refine (h.countable r hr).isKey_visited k.value ?_
  rw [← value_contributed]
  exact List.mem_map_of_mem hk

/-- Only a value that is no set can be the same thing as another one. -/
theorem eq_of_mem_contributed {k : Key.Keyed} (hk : k ∈ contributed key r)
    (hsome : k.identity.isSome = true) : k = ⟨key.valueAt r, key.identityAt r⟩ := by
  rw [contributed] at hk
  split at hk
  · obtain ⟨v, -, rfl⟩ := List.mem_map.1 hk
    cases hsome
  · exact List.mem_singleton.1 hk

private theorem shared_contributed (h : key.Counts rs) (hcoherent : Record.Coherent rs) :
    Shared (rs.flatMap (contributed key)) := by
  intro k hk l hl hsome hidentity
  obtain ⟨r, hr, hk⟩ := List.mem_flatMap.1 hk
  obtain ⟨s, hs, hl⟩ := List.mem_flatMap.1 hl
  obtain rfl := eq_of_mem_contributed hk hsome
  obtain rfl := eq_of_mem_contributed hl (hidentity ▸ hsome)
  exact Key.valueAt_eq_of_identityAt hcoherent (fun hshared => h.always hshared r hr s hs) hr hs
    hsome hidentity

/-- What a count visits of some records. -/
def visitedBy (key : Key) (rs : List Record) : List Value :=
  rs.flatMap fun r => (key.valueAt r).visited

private theorem map_value_contributed (key : Key) (rs : List Record) :
    (rs.flatMap (contributed key)).map (·.value) = visitedBy key rs := by
  rw [List.map_flatMap]
  exact List.flatMap_congr fun r _ => value_contributed key r

private theorem isKey_visitedBy (h : key.Counts rs) : ∀ v ∈ visitedBy key rs, v.IsKey := by
  intro v hv
  obtain ⟨r, hr, hv⟩ := List.mem_flatMap.1 hv
  exact (h.countable r hr).isKey_visited v hv

/-- A count is the tally of what it visits. -/
theorem count_eq_tally {argument : KeyArgument} (hargument : Key.ofArgument argument = .ok key)
    (h : key.Counts rs) (hcoherent : Record.Coherent rs) :
    count rs argument = .ok (Value.tally (visitedBy key rs)) := by
  have hstart : Tallied [] [] := ⟨rfl, fun _ ht => absurd ht List.not_mem_nil⟩
  obtain ⟨ts, hadd, htallied⟩ : ∃ ts,
      addAllToTallies [] (rs.flatMap (contributed key)) = .ok ts ∧
        Tallied (rs.flatMap (contributed key)) ts :=
    exists_tallied hstart (isKey_contributed h) (shared_contributed h hcoherent)
  rw [count, hargument, ok_bind, countFrom_eq h, hadd, ← map_value_contributed, ← htallied.entries]
  rfl

/-- The keys of a count are the distinct values that are visited, in the order in which they occur
first. The count of a key is the number of records whose value equals it, or is a set that holds it,
and together the counts are as many as the records, or as the members of their sets. -/
structure IsTally (key : Key) (rs : List Record) (out : List (Value × ℕ)) : Prop where
  keys : out.map Prod.fst = Value.distinct (visitedBy key rs)
  count : ∀ e ∈ out, e.2 = rs.countP fun r => (key.valueAt r).countsFor e.1
  sum : (out.map Prod.snd).sum = (rs.map fun r => (key.valueAt r).weight).sum
  length : (∀ r ∈ rs, (key.valueAt r).members? = none) → (out.map Prod.snd).sum = rs.length

private theorem countP_visitedBy (h : key.Counts rs) {v : Value} (hv : v.IsKey) :
    (visitedBy key rs).countP (Value.sameKey v) =
      rs.countP fun r => (key.valueAt r).countsFor v := by
  rw [visitedBy, List.countP_flatMap, ← Value.sum_map_ite_one]
  exact congrArg List.sum (List.map_congr_left fun r hr => (h.countable r hr).countP_visited hv)

private theorem sum_tally (h : key.Counts rs) :
    ((Value.tally (visitedBy key rs)).map Prod.snd).sum =
    (rs.map fun r => (key.valueAt r).weight).sum := by
  have hall := Value.sum_filter_tally (isKey_visitedBy h) (p := fun _ => true) fun _ _ _ _ _ => rfl
  rw [List.filter_true, List.countP_true, visitedBy, List.length_flatMap] at hall
  rw [visitedBy, hall]
  exact congrArg List.sum (List.map_congr_left fun r hr => (h.countable r hr).length_visited)

private theorem isTally_tally (h : key.Counts rs) :
    IsTally key rs (Value.tally (visitedBy key rs)) where
  keys := Value.keys_tally _
  count := by
    refine List.forall_mem_map.2 fun v hv => ?_
    exact countP_visitedBy h (Value.isKey_of_mem_distinct (isKey_visitedBy h) hv)
  sum := sum_tally h
  length hplain := by
    have hone : ∀ r ∈ rs, (key.valueAt r).weight = 1 := by
      intro r hr
      rw [Value.weight, hplain r hr]
    rw [sum_tally h, List.map_congr_left hone, List.map_const', List.sum_replicate_nat, mul_one]

/-! ### Counts and filters -/

/-- Tags can always be counted. -/
theorem counts_tags (rs : List Record) : (Key.ofField .tags).Counts rs where
  exists_value r _ := ⟨_, rfl⟩
  always hshared := by cases hshared
  countable r _ := .texts r.transaction.tags.toList (TagSet.nodup_toList _) rfl

private theorem counts_bank (hbank : ∀ r ∈ rs, ∃ s, r.transaction.bank = .text s) :
    (Key.ofField .bank).Counts rs where
  exists_value r _ := ⟨_, rfl⟩
  always hshared := by cases hshared
  countable r hr := by
    obtain ⟨s, hs⟩ := hbank r hr
    have hvalue : (Key.ofField .bank).valueAt r = .text s := hs
    rw [hvalue]
    exact .of_scalar? rfl

private theorem filterNamed_tag (rs : List Record) (g : Text) :
    filterNamed rs [("tags", .value (.text g))] false =
      .ok (rs.filter fun r => r.transaction.tags.contains g) := by
  have hresolve : Criterion.resolve (rs.map (·.transaction)) [(.tags, .value (.text g))] =
      .ok [.hasTag g] := rfl
  rw [filterNamed_eq_select rfl hresolve]
  exact select_eq_filter fun r _ => Criterion.testAll_singleton _ _

private theorem filterNamed_bank (hbank : ∀ r ∈ rs, ∃ s, r.transaction.bank = .text s) (s : Text) :
    filterNamed rs [("bank", .value (.text s))] false =
      .ok (rs.filter fun r => Criterion.lowerText r.transaction.bank == Text.lower s) := by
  have hresolve : Criterion.resolve (rs.map (·.transaction)) [(.bank, .value (.text s))] =
      .ok [.exact .bank (Text.lower s)] := rfl
  rw [filterNamed_eq_select rfl hresolve]
  refine select_eq_filter fun r hr => ?_
  have hlower : (r.transaction.get FilterKey.bank.field).lowerOrEmpty =
      .ok (Criterion.lowerText r.transaction.bank) := Criterion.lowerOrEmpty_eq (.inr (hbank r hr))
  rw [Criterion.testAll_singleton, Criterion.test, hlower]
  rfl

/-- The count of a tag is the number of records that a filter by it keeps. -/
theorem countOf_tag (rs : List Record) (g : Text) :
    Value.countOf (Value.tally (visitedBy (.ofField .tags) rs)) (.text g) =
      (rs.filter fun r => r.transaction.tags.contains g).length := by
  rw [Value.countOf_tally (isKey_visitedBy (counts_tags rs)) (Value.isKey_text g),
    countP_visitedBy (counts_tags rs) (Value.isKey_text g), ← List.countP_eq_length_filter]
  refine List.countP_congr fun r _ => ?_
  change (r.transaction.tags.toList.map Value.text).any (Value.sameKey (.text g)) = true ↔ _
  simp [Value.sameKey_text, TagSet.mem_def]

private theorem visitedBy_bank (hbank : ∀ r ∈ rs, ∃ s, r.transaction.bank = .text s) :
    visitedBy (.ofField .bank) rs = rs.map (·.transaction.bank) := by
  rw [visitedBy, ← List.flatMap_singleton' (rs.map _), List.flatMap_map]
  refine List.flatMap_congr fun r hr => ?_
  obtain ⟨s, hs⟩ := hbank r hr
  have hvalue : (Key.ofField .bank).valueAt r = .text s := hs
  rw [hvalue, hs]
  rfl

/-- The counts of the banks that differ in case only add up to the number of records that a filter
by them keeps. -/
theorem sum_filter_banks (hbank : ∀ r ∈ rs, ∃ s, r.transaction.bank = .text s) (s : Text) :
    (((Value.tally (visitedBy (.ofField .bank) rs)).filter fun e =>
        Criterion.lowerText e.1 == Text.lower s).map Prod.snd).sum =
      (rs.filter fun r => Criterion.lowerText r.transaction.bank == Text.lower s).length := by
  have hkeys := isKey_visitedBy (counts_bank hbank)
  rw [visitedBy_bank hbank] at hkeys ⊢
  have hsame : ∀ v ∈ rs.map (·.transaction.bank), ∀ w ∈ rs.map (·.transaction.bank),
      Value.sameKey v w = true →
        (Criterion.lowerText v == Text.lower s) = (Criterion.lowerText w == Text.lower s) := by
    intro v hv w hw hvw
    obtain ⟨r, hr, rfl⟩ := List.mem_map.1 hv
    obtain ⟨r', hr', rfl⟩ := List.mem_map.1 hw
    obtain ⟨t, ht⟩ := hbank r hr
    obtain ⟨t', ht'⟩ := hbank r' hr'
    rw [ht, ht', Value.sameKey_text, decide_eq_true_iff] at hvw
    rw [ht, ht', hvw]
  rw [Value.sum_filter_tally hkeys hsame, List.countP_map, List.countP_eq_length_filter]
  rfl

/-- A count tallies exactly. The count of two collections one after the other has the keys of the
first one first, then the new keys of the second one, and the counts add up key by key. The count of
a tag is the number of records that a filter by it keeps; if the banks are texts, a filter by a bank
keeps as many records as the counts of the banks that differ from it in case only. -/
theorem count_tallies {a b : List Record} (hcoherent : Record.Coherent (a ++ b)) :
    (∀ argument key, Key.ofArgument argument = .ok key → key.Counts (a ++ b) →
      ∃ out outA outB, count (a ++ b) argument = .ok out ∧ count a argument = .ok outA ∧
        count b argument = .ok outB ∧ IsTally key (a ++ b) out ∧
        out.map Prod.fst = outA.map Prod.fst ++ (outB.map Prod.fst).filter (fun v =>
          !(outA.map Prod.fst).any (Value.sameKey · v)) ∧
        ∀ v : Value, v.IsKey →
          Value.countOf out v = Value.countOf outA v + Value.countOf outB v) ∧
    (∃ out, count (a ++ b) (.value (.text "tags")) = .ok out ∧
      ∀ g, ∃ kept, filterNamed (a ++ b) [("tags", .value (.text g))] false = .ok kept ∧
        Value.countOf out (.text g) = kept.length) ∧
    ((∀ r ∈ a ++ b, ∃ s, r.transaction.bank = .text s) →
      ∃ out, count (a ++ b) (.value (.text "bank")) = .ok out ∧
        ∀ s, ∃ kept, filterNamed (a ++ b) [("bank", .value (.text s))] false = .ok kept ∧
          kept.length = ((out.filter fun e =>
            Criterion.lowerText e.1 == Text.lower s).map Prod.snd).sum) := by
  refine ⟨fun argument key hargument h => ?_, ?_, fun hbank => ?_⟩
  · have ha : key.Counts a := h.subset (List.subset_append_left a b)
    have hb : key.Counts b := h.subset (List.subset_append_right a b)
    have hvisited : visitedBy key (a ++ b) = visitedBy key a ++ visitedBy key b :=
      List.flatMap_append
    refine ⟨_, _, _, count_eq_tally hargument h hcoherent,
      count_eq_tally hargument ha (hcoherent.subset (List.subset_append_left a b)),
      count_eq_tally hargument hb (hcoherent.subset (List.subset_append_right a b)),
      isTally_tally h, ?_, fun v hv => ?_⟩
    · rw [Value.keys_tally, Value.keys_tally, Value.keys_tally, hvisited,
        Value.distinct_append (isKey_visitedBy ha) (isKey_visitedBy hb)]
    · rw [Value.countOf_tally (isKey_visitedBy h) hv, Value.countOf_tally (isKey_visitedBy ha) hv,
        Value.countOf_tally (isKey_visitedBy hb) hv, hvisited, List.countP_append]
  · exact ⟨_, count_eq_tally rfl (counts_tags _) hcoherent, fun g =>
      ⟨_, filterNamed_tag _ g, countOf_tag _ g⟩⟩
  · exact ⟨_, count_eq_tally rfl (counts_bank hbank) hcoherent, fun s =>
      ⟨_, filterNamed_bank hbank s, (sum_filter_banks hbank s).symm⟩⟩

/-- Two withdrawals of ten, written differently, from banks that differ in case only, and nothing
from another bank. -/
def countedLedger : Ledger where
  transactions :=
    [{ sampleOf (.finite true 10 0) .null with bank := "First", tags := .ofList ["b", "a"] },
      { sampleOf (.finite true 1000 (-2)) .null with bank := "FIRST", tags := .ofList ["a"] },
      { sampleOf (.finite false 0 0) .null with bank := "Other" }]

/-- Amounts of different form are counted together; the first tag occurs in three records, and so
does the first bank in lower case. -/
theorem count_tallies_sample :
    let a := countedLedger.records [0, 1]
    let b := countedLedger.records [2, 0]
    Record.Coherent (a ++ b) ∧ (Key.ofField .amount).Counts (a ++ b) ∧
    (∀ r ∈ a ++ b, ∃ s, r.transaction.bank = .text s) ∧
    (∃ out, count (a ++ b) (.value (.text "amount")) = .ok out ∧
      IsTally (.ofField .amount) (a ++ b) out ∧ out.map Prod.snd = [3, 1]) ∧
    (∃ out kept, count (a ++ b) (.value (.text "tags")) = .ok out ∧
      filterNamed (a ++ b) [("tags", .value (.text "a"))] false = .ok kept ∧
      Value.countOf out (.text "a") = kept.length ∧ kept.map (·.id) = [0, 1, 0]) ∧
    ∃ out kept, count (a ++ b) (.value (.text "bank")) = .ok out ∧
      filterNamed (a ++ b) [("bank", .value (.text "first"))] false = .ok kept ∧
      out.map (fun e => (e.1.text?.getD [], e.2)) =
        ([("First", 2), ("FIRST", 1), ("Other", 1)] : List (Text × ℕ)) ∧
      kept.map (·.id) = [0, 1, 0] := by
  intro a b
  have hmem : ∀ r ∈ a ++ b, r.transaction ∈ countedLedger.transactions := by
    intro r hr
    have hr' : r ∈ countedLedger.records [0, 1, 2, 0] := hr
    exact List.mem_of_getElem? (Ledger.get?_of_mem_records hr')
  have hcoherent : Record.Coherent (a ++ b) := Ledger.coherent_records countedLedger [0, 1, 2, 0]
  have hamounts : ∀ t ∈ countedLedger.transactions, ∃ x, t.amount.scalar? = some x := by
    simp [countedLedger, sampleOf, Value.scalar?, Value.quantity?, Decimal.quantity?]
  have hbanks : ∀ t ∈ countedLedger.transactions, ∃ s, t.bank = .text s := by
    simp [countedLedger]
  have hcounts : (Key.ofField .amount).Counts (a ++ b) := by
    refine ⟨fun r _ => ⟨_, rfl⟩, fun hshared => (by cases hshared), fun r hr => ?_⟩
    obtain ⟨x, hx⟩ := hamounts _ (hmem r hr)
    exact .of_scalar? hx
  have hbank : ∀ r ∈ a ++ b, ∃ s, r.transaction.bank = .text s := fun r hr => hbanks _ (hmem r hr)
  obtain ⟨hcount, ⟨outTags, htags, hkeptTags⟩, hcountBank⟩ := count_tallies hcoherent
  obtain ⟨out, -, -, hout, -, -, htally, -, -⟩ :=
    hcount (.value (.text "amount")) (.ofField .amount) rfl hcounts
  obtain ⟨kept, hkept, hlength⟩ := hkeptTags "a"
  obtain ⟨outBank, hbankOut, hkeptBank⟩ := hcountBank hbank
  obtain ⟨kept', hkept', -⟩ := hkeptBank "first"
  have hcounted : (count (a ++ b) (.value (.text "amount"))).toOption.map
      (fun out => out.map Prod.snd) = some [3, 1] := by decide +kernel
  have hids : (filterNamed (a ++ b) [("tags", .value (.text "a"))] false).toOption.map
      (fun rs => rs.map (·.id)) = some [0, 1, 0] := by decide +kernel
  have hbankCounts : (count (a ++ b) (.value (.text "bank"))).toOption.map
      (fun out => out.map fun e => (e.1.text?.getD [], e.2)) =
      some ([("First", 2), ("FIRST", 1), ("Other", 1)] : List (Text × ℕ)) := by decide +kernel
  have hids' : (filterNamed (a ++ b) [("bank", .value (.text "first"))] false).toOption.map
      (fun rs => rs.map (·.id)) = some [0, 1, 0] := by decide +kernel
  rw [hout] at hcounted
  rw [hkept] at hids
  rw [hbankOut] at hbankCounts
  rw [hkept'] at hids'
  exact ⟨hcoherent, hcounts, hbank, ⟨out, hout, htally, Option.some.inj hcounted⟩,
    ⟨outTags, kept, htags, hkept, hlength, Option.some.inj hids⟩,
    outBank, kept', hbankOut, hkept', Option.some.inj hbankCounts, Option.some.inj hids'⟩

end Query

end LedgerTags
