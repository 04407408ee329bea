import LedgerTags.Taxonomy.Store
import Mathlib.Data.List.Sort

/-!
# Tag sets by their members

An ascending list of texts is determined by its members (`Text.eq_of_mem_iff`), and so is a tag set
(`TagSet.ext`): so the ways to build one that have the same
members are the same: adding tags one by one or in any other order, and all at once.
-/

namespace LedgerTags

/-- Ascending lists with the same members are equal. -/
theorem Text.eq_of_mem_iff {ss ts : List Text} (hs : ss.Pairwise (lt · · = true))
    (ht : ts.Pairwise (lt · · = true)) (h : ∀ t, t ∈ ss ↔ t ∈ ts) : ss = ts := by
  have hirrefl : Std.Irrefl fun a b => lt a b = true := ⟨fun a => by simp [lt_irrefl]⟩
  have hantisymm : Std.Antisymm fun a b => lt a b = true := by
    refine ⟨fun a b hab hba => ?_⟩
    have haa := lt_trans hab hba
    rw [lt_irrefl] at haa
    cases haa
  exact List.Pairwise.eq_of_mem_iff hs ht h

namespace TagSet

/-- Sets with the same members are equal. -/
theorem ext {s t : TagSet} (h : ∀ x, x ∈ s ↔ x ∈ t) : s = t := by
  obtain ⟨xs, hxs⟩ := s
  obtain ⟨ys, hys⟩ := t
  obtain rfl : xs = ys := Text.eq_of_mem_iff hxs hys h
  rfl

/-- No tag is listed twice. -/
theorem nodup_toList (s : TagSet) : s.toList.Nodup := by
  refine s.ascending.imp fun {a b} hlt => ?_
  rintro rfl
  rw [Text.lt_irrefl] at hlt
  cases hlt

/-- A list without repeats has the members of its set. -/
theorem perm_ofList {ts : List Text} (h : ts.Nodup) : (ofList ts).toList.Perm ts :=
  (List.perm_ext_iff_of_nodup (nodup_toList _) h).2 fun _ => mem_ofList

@[simp] theorem contains_iff {s : TagSet} {x : Text} : s.contains x = true ↔ x ∈ s := by
  rw [contains, List.contains_iff_mem, mem_def]

/-- Two sets meet exactly if they have a tag in common. -/
theorem meets_iff {s t : TagSet} : s.meets t = true ↔ ∃ x, x ∈ s ∧ x ∈ t := by
  simp only [meets, List.any_eq_true, contains_iff, mem_def]

end TagSet

/-- The tags of a store are those of its rules. -/
theorem RuleStore.mem_allTags_iff {s : RuleStore} {x : Text} :
    x ∈ s.allTags ↔ ∃ r ∈ s.rules, x ∈ r.tags := by
  have hfold : ∀ (rs : List Rule) (tags : TagSet),
      x ∈ rs.foldl (fun tags r => tags.union r.tags) tags ↔ x ∈ tags ∨ ∃ r ∈ rs, x ∈ r.tags := by
    intro rs
    induction rs with
    | nil => simp
    | cons r rs ih =>
      intro tags
      rw [List.foldl_cons, ih, TagSet.mem_union, List.exists_mem_cons_iff, or_assoc]
  rw [allTags, hfold]
  simp

end LedgerTags
