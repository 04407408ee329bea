import LedgerTags.Proofs.BrokenTaxonomies
import LedgerTags.Proofs.RelatedTexts

/-!
# Descriptions in lower case

A categorizer looks for the first rule that applies to a description in lower case, although the
patterns ignore letter case by themselves. `Node.hides` says which parts of a pattern cannot show
that a text has been put into lower case, and `Node.leaves` looks at all parts of a tree with the
options under which each one stands. If every part hides it, and no dotted capital I becomes two
characters, a store gives a text the rule that it gives to its lower case (`firstMatch_lower`).
Neither condition can be left out (`firstMatch_shows_lower`).
-/

namespace LedgerTags

/-! ### Texts -/

/-- How the characters of a text are related to those of its lower case. -/
structure Lowering (d : Text) (c c' : CodePoint) : Prop where
  lowersTo : LowersTo c c'
  ascii : d.all CodePoint.isAscii = true → c.val < 128
  plain : Text.lower d = d.map CodePoint.lower → c' = c.lower

private theorem forall₂_lowersTo {t : Text} (ht : ∀ c ∈ t, c.val ≠ 0x130) (before : Text) :
    List.Forall₂ LowersTo t (Text.lowerAfter before t) := by
  induction t generalizing before with
  | nil => exact .nil
  | cons c t ih =>
    obtain ⟨hc, hrest⟩ := List.forall_mem_cons.1 ht
    rw [Text.lowerAfter_cons, Text.lowerAt, if_neg hc]
    split_ifs with hsigma
    · obtain rfl : c = Text.capitalSigma := CodePoint.ext_val hsigma
      exact .cons .final (ih hrest _)
    · obtain rfl : c = Text.capitalSigma := CodePoint.ext_val hsigma
      have hlower : CodePoint.ofNat 0x3c3 = Text.capitalSigma.lower := by decide
      rw [hlower]
      exact .cons (.lower hc) (ih hrest _)
    · exact .cons (.lower hc) (ih hrest _)

private theorem forall₂_lowering {d : Text} (hd : ∀ c ∈ d, c.val ≠ 0x130) :
    List.Forall₂ (Lowering d) d (Text.lower d) := by
  have hlowers : List.Forall₂ LowersTo d (Text.lower d) := forall₂_lowersTo hd []
  have hplain : List.Forall₂ (fun c c' => LowersTo c c' ∧
      (Text.lower d = d.map CodePoint.lower → c' = c.lower)) d (Text.lower d) := by
    by_cases h : Text.lower d = d.map CodePoint.lower
    · rw [h, List.forall₂_map_right_iff, List.forall₂_same]
      exact fun c hc => ⟨.lower (hd c hc), fun _ => rfl⟩
    · exact hlowers.imp fun _ _ hc => ⟨hc, fun h' => absurd h' h⟩
  have hascii : ∀ c ∈ d, d.all CodePoint.isAscii = true → c.val < 128 := fun c hc h =>
    of_decide_eq_true (List.all_eq_true.1 h c hc)
  exact ((List.forall₂_and_left _ _).2 ⟨hascii, hplain⟩).imp fun _ _ h => ⟨h.2.1, h.1, h.2.2⟩

namespace Pattern

/-! ### Patterns -/

/-- A reference to a group. -/
def Node.isReference : Node → Bool
  | .reference _ => true
  | _ => false

/-- Whether a part of a pattern cannot show that `d` has been put into lower case. Letter case is
ignored there, by the rules of all scripts unless `d` is in ASCII; and characters of `d` are not
compared with each other, unless each one becomes its own lower case. -/
def Node.hides (d : Text) (o : Options) (n : Node) : Bool :=
  o.ignoreCase && (o.unicode || d.all CodePoint.isAscii) &&
    (!n.isReference || Text.lower d == d.map CodePoint.lower)

mutual

/-- Whether a condition holds of all parts of a node that have no parts of their own, each with the
options under which it stands. -/
def Node.leaves (p : Options → Node → Bool) (o : Options) : Node → Bool
  | .literal c => p o (.literal c)
  | .notLiteral c => p o (.notLiteral c)
  | .any => p o .any
  | .set negated items => p o (.set negated items)
  | .anchor a => p o (.anchor a)
  | .reference g => p o (.reference g)
  | .group _ added removed body => sequenceLeaves p (o.inside added removed) body
  | .atomic body => sequenceLeaves p o body
  | .look _ _ body => sequenceLeaves p o body
  | .branch alternatives => branchLeaves p o alternatives
  | .repeat _ _ _ body => sequenceLeaves p o body
  | .conditional _ yes no =>
    sequenceLeaves p o yes &&
      match no with
      | some no => sequenceLeaves p o no
      | none => true

/-- Whether the condition holds throughout a sequence. -/
def sequenceLeaves (p : Options → Node → Bool) (o : Options) : List Node → Bool
  | [] => true
  | n :: ns => n.leaves p o && sequenceLeaves p o ns

/-- Whether the condition holds throughout alternatives. -/
def branchLeaves (p : Options → Node → Bool) (o : Options) : List (List Node) → Bool
  | [] => true
  | a :: as => sequenceLeaves p o a && branchLeaves p o as

end

section

variable {d : Text} {widths : ℕ → ℕ × ℕ}

private theorem ignores_of_hides {o : Options} {n : Node} (h : n.hides d o = true) :
    o.Ignores (Lowering d) := by
  rw [Node.hides, Bool.and_eq_true_iff, Bool.and_eq_true_iff, Bool.or_eq_true_iff] at h
  exact ⟨h.1.1, fun _ _ hc => hc.lowersTo, h.1.2.imp_right fun hd _ _ hc => hc.ascii hd⟩

private theorem fold_respects {o : Options} {g : ℕ} (h : (Node.reference g).hides d o = true) :
    o.fold.Respects (Lowering d) := by
  have ho := ignores_of_hides h
  have hlower : Text.lower d = d.map CodePoint.lower := by
    rw [Node.hides, Bool.and_eq_true_iff] at h
    exact eq_of_beq h.2
  have happly {c c' : CodePoint} (hc : Lowering d c c') : o.fold.apply c = o.fold.apply c' := by
    rcases apply_cases ho hc with heq | ⟨hunicode, hsmall, hfinal⟩
    · exact heq
    · -- The final sigma does not come about, as every character becomes its own lower case.
      rw [Options.fold, ho.ignoreCase, hunicode] at hsmall hfinal
      obtain rfl : c' = smallSigma := (hc.plain hlower).trans hsmall
      exact absurd hfinal (by decide)
  intro c c' e e' hc he
  rw [happly hc, happly he]

mutual

private theorem respects_of_prepare {o : Options} {n : Node} {x : Step}
    (h : n.leaves (Node.hides d) o = true) (hx : n.prepare widths o = .ok x) :
    x.Respects (Lowering d) := by
  cases n with
  | literal c =>
    cases hx
    exact .char (literalTest_respects (ignores_of_hides h) false c)
  | notLiteral c =>
    cases hx
    exact .char (literalTest_respects (ignores_of_hides h) true c)
  | any =>
    cases hx
    exact .char (anyTest_respects (ignores_of_hides h))
  | set negated items =>
    cases hx
    exact .char (setTest_respects (ignores_of_hides h) negated items)
  | anchor a =>
    cases hx
    have ho := ignores_of_hides h
    exact .anchor ⟨fun _ _ hc => category_respects ho .word hc,
      fun _ _ hc => isFeed_respects ho hc⟩ _ a
  | group number added removed body =>
    rw [Node.leaves] at h
    obtain ⟨steps, hsteps, hx⟩ := bind_eq_ok_iff.1 hx
    have hbody := respects_of_prepareAll h hsteps
    cases number with
    | some g =>
      cases hx
      exact .capture g hbody
    | none =>
      cases hx
      exact .sequence hbody
  | atomic body =>
    obtain ⟨steps, hsteps, hx⟩ := bind_eq_ok_iff.1 hx
    cases hx
    exact .atomic (respects_of_prepareAll h hsteps)
  | look behind negated body =>
    have hsteps (back : ℕ) (h' : (prepareAll widths o body >>= fun steps =>
        pure (Step.look back negated steps)) = .ok x) : x.Respects (Lowering d) := by
      obtain ⟨steps, hsteps, hx⟩ := bind_eq_ok_iff.1 h'
      cases hx
      exact .look back negated (respects_of_prepareAll h hsteps)
    cases behind with
    | true =>
      obtain ⟨back, -, hx⟩ := bind_eq_ok_iff.1 hx
      exact hsteps back hx
    | false => exact hsteps 0 hx
  | branch alternatives =>
    obtain ⟨steps, hsteps, hx⟩ := bind_eq_ok_iff.1 hx
    cases hx
    exact .branch (respects_of_prepareEach h hsteps)
  | «repeat» kind min max body =>
    rw [Node.prepare] at hx
    split_ifs at hx
    · cases hx
    · obtain ⟨steps, hsteps, hx⟩ := bind_eq_ok_iff.1 hx
      cases hx
      exact .repeat kind min max (respects_of_prepareAll h hsteps)
  | reference g =>
    cases hx
    exact .reference (fold_respects h) g
  | conditional g yes no =>
    cases no with
    | some no =>
      obtain ⟨hyes, hno⟩ := Bool.and_eq_true_iff.1 h
      obtain ⟨steps, hsteps, hx⟩ := bind_eq_ok_iff.1 hx
      obtain ⟨more, hmore, hx⟩ := bind_eq_ok_iff.1 hx
      cases hx
      exact .conditional g (respects_of_prepareAll hyes hsteps) (respects_of_prepareAll hno hmore)
    | none =>
      obtain ⟨hyes, -⟩ := Bool.and_eq_true_iff.1 h
      obtain ⟨steps, hsteps, hx⟩ := bind_eq_ok_iff.1 hx
      cases hx
      exact .conditional g (respects_of_prepareAll hyes hsteps) fun x hx =>
        absurd hx List.not_mem_nil

private theorem respects_of_prepareAll {o : Options} {ns : List Node} {xs : List Step}
    (h : sequenceLeaves (Node.hides d) o ns = true) (hxs : prepareAll widths o ns = .ok xs) :
    ∀ x ∈ xs, x.Respects (Lowering d) := by
  cases ns with
  | nil =>
    cases hxs
    exact fun x hx => absurd hx List.not_mem_nil
  | cons n ns =>
    rw [sequenceLeaves, Bool.and_eq_true_iff] at h
    obtain ⟨x, hx, hxs⟩ := bind_eq_ok_iff.1 hxs
    obtain ⟨rest, hrest, hxs⟩ := bind_eq_ok_iff.1 hxs
    cases hxs
    exact List.forall_mem_cons.2 ⟨respects_of_prepare h.1 hx, respects_of_prepareAll h.2 hrest⟩

private theorem respects_of_prepareEach {o : Options} {alternatives : List (List Node)}
    {xss : List (List Step)} (h : branchLeaves (Node.hides d) o alternatives = true)
    (hxss : prepareEach widths o alternatives = .ok xss) :
    ∀ xs ∈ xss, ∀ x ∈ xs, x.Respects (Lowering d) := by
  cases alternatives with
  | nil =>
    cases hxss
    exact fun x hx => absurd hx List.not_mem_nil
  | cons a as =>
    rw [branchLeaves, Bool.and_eq_true_iff] at h
    obtain ⟨xs, hxs, hxss⟩ := bind_eq_ok_iff.1 hxss
    obtain ⟨rest, hrest, hxss⟩ := bind_eq_ok_iff.1 hxss
    cases hxss
    exact List.forall_mem_cons.2 ⟨respects_of_prepareAll h.1 hxs, respects_of_prepareEach h.2 hrest⟩

end

end

/-! ### Stores -/

/-- A pattern in which nothing shows that a text has been put into lower case. -/
def Hides (p : Pattern) (d : Text) : Prop :=
  ∀ reading, readPattern { ignoreCase := true } p.text = .ok reading →
    sequenceLeaves (Node.hides d) reading.options reading.nodes = true

private theorem occursIn_lower {p : Pattern} {t d : Text} (hcompile : compile t = .ok p)
    (h : p.Hides d) (hd : ∀ c ∈ d, c.val ≠ 0x130) : p.occursIn (Text.lower d) = p.occursIn d := by
  obtain ⟨reading, hreading, hcompile⟩ := bind_eq_ok_iff.1 hcompile
  obtain ⟨steps, hsteps, hp⟩ := bind_eq_ok_iff.1 hcompile
  cases hp
  exact (occursIn_eq (respects_of_prepareAll (h reading hreading) hsteps)
    (forall₂_lowering hd)).symm

end Pattern

namespace RuleStore

/-- The ways to make a store: from documents, or from the files of a directory. -/
def IsMade (store : RuleStore) : Prop :=
  (∃ docs, ofDocuments docs = .ok store) ∨ ∃ fs directory, load fs directory = .ok store

private theorem exists_compile_of_ofValue {source : Text} {doc : Value} {file : TaxonomyFile}
    (h : TaxonomyFile.ofValue source doc = .ok file) :
    ∀ r ∈ file.rules, ∃ t, Pattern.compile t = .ok r.pattern := by
  intro r hr
  obtain ⟨e, -, hin, hgives⟩ := (Declaration.exists_gives_iff h).1 r hr
  obtain ⟨_, _, _, _, t, _, _, _, _, _, _, _, hcompile, _⟩ := hin
  exact ⟨t, hgives.pattern ▸ hcompile⟩

private theorem exists_compile_of_readDocuments {i : ℕ} {docs : List Value} {rules : List Rule}
    (h : readDocuments i docs = .ok rules) :
    ∀ r ∈ rules, ∃ t, Pattern.compile t = .ok r.pattern := by
  induction docs generalizing i rules with
  | nil =>
    cases h
    exact fun r hr => absurd hr List.not_mem_nil
  | cons doc docs ih =>
    obtain ⟨file, hfile, h⟩ := bind_eq_ok_iff.1 h
    obtain ⟨rest, hrest, h⟩ := bind_eq_ok_iff.1 h
    cases h
    exact List.forall_mem_append.2 ⟨exists_compile_of_ofValue hfile, ih hrest⟩

/-- The patterns of a store have been compiled. -/
theorem IsMade.exists_compile {store : RuleStore} (h : store.IsMade) {r : Rule}
    (hr : r ∈ store.rules) : ∃ t, Pattern.compile t = .ok r.pattern := by
  rcases h with ⟨docs, h⟩ | ⟨fs, directory, h⟩
  · obtain ⟨vs, -, h⟩ := bind_eq_ok_iff.1 h
    obtain ⟨rules, hrules, h⟩ := bind_eq_ok_iff.1 h
    cases h
    exact exists_compile_of_readDocuments hrules r hr
  · obtain ⟨e, ⟨_, _, _, _, _, _, hin⟩, hgives⟩ := Declaration.exists_declared h hr
    obtain ⟨_, _, _, _, t, _, _, _, _, _, _, _, hcompile, _⟩ := hin
    exact ⟨t, hgives.pattern ▸ hcompile⟩

/-- A text without the dotted capital I is given the same rule in lower case, if nothing in the
patterns of the store shows the difference. -/
theorem firstMatch_lower {store : RuleStore} (hmade : store.IsMade) {d : Text}
    (hdotted : ∀ c ∈ d, c.val ≠ 0x130) (hpatterns : ∀ r ∈ store.rules, r.pattern.Hides d) :
    store.firstMatch (Text.lower d) = store.firstMatch d := by
  refine List.find?_congr fun r hr => ?_
  obtain ⟨t, hcompile⟩ := hmade.exists_compile hr
  exact Pattern.occursIn_lower hcompile (hpatterns r hr) hdotted

/-- Documents with one rule. -/
def soleRule (pattern : Text) : Value :=
  .list [.dict [(.text "data", .list [.dict [
    (.text "name", .text "shop"), (.text "match", .text pattern)]])]]

/-- A pattern with a range of letters, a repeat and the end of a word. -/
def shopPattern : Text := "[à-ω]+ s[hk]op\\b"

/-- A text in whose lower case a sigma ends a word. -/
def shopText : Text := "ÀÉ ΓΙΩΡΓΟΣ SHOP"

/-- A rule for shops finds a description in capitals and in lower case. -/
theorem firstMatch_lower_shop :
    ∃ store : RuleStore, store.IsMade ∧ (∀ c ∈ shopText, c.val ≠ 0x130) ∧
      (∀ r ∈ store.rules, r.pattern.Hides shopText) ∧
      (store.firstMatch shopText).map (·.name) = some ("shop" : Text) ∧
      store.firstMatch (Text.lower shopText) = store.firstMatch shopText := by
  have hrun : (ofDocuments (soleRule shopPattern)).toOption.map (fun store =>
      (store.rules.map (·.pattern.text), (store.firstMatch shopText).map (·.name))) =
      some ([shopPattern], some ("shop" : Text)) := by decide +kernel
  have hdotted : ∀ c ∈ shopText, c.val ≠ 0x130 := by decide +kernel
  cases hstore : ofDocuments (soleRule shopPattern) with
  | error e =>
    rw [hstore] at hrun
    cases hrun
  | ok store =>
    rw [hstore] at hrun
    obtain ⟨hpatterns, hname⟩ := Prod.mk.inj (Option.some.inj hrun)
    have hmade : store.IsMade := .inl ⟨_, hstore⟩
    have hhides : ∀ r ∈ store.rules, r.pattern.Hides shopText := by
      intro r hr reading hreading
      have hcheck : (Pattern.readPattern { ignoreCase := true } shopPattern).toOption.all
          (fun reading => Pattern.sequenceLeaves (Pattern.Node.hides shopText) reading.options
            reading.nodes) = true := by decide +kernel
      have htext : r.pattern.text ∈ [shopPattern] := hpatterns ▸ List.mem_map_of_mem hr
      rw [List.mem_singleton.1 htext] at hreading
      rw [hreading] at hcheck
      exact hcheck
    exact ⟨store, hmade, hdotted, hhides, hname, firstMatch_lower hmade hdotted hhides⟩

/-- The sole rule of a pattern is found for a text or for its lower case, and not for both. -/
def SoleRuleTells (pattern d : Text) : Prop :=
  ∃ store, ofDocuments (soleRule pattern) = .ok store ∧
    store.firstMatch (Text.lower d) ≠ store.firstMatch d

private theorem soleRuleTells_of_any {pattern d : Text}
    (h : (ofDocuments (soleRule pattern)).toOption.any (fun store =>
      (store.firstMatch (Text.lower d)).isSome != (store.firstMatch d).isSome) = true) :
    SoleRuleTells pattern d := by
  cases hstore : ofDocuments (soleRule pattern) with
  | error _ =>
    rw [hstore] at h
    cases h
  | ok store =>
    rw [hstore] at h
    refine ⟨store, hstore, fun heq => ?_⟩
    rw [Except.toOption, Option.any_some, heq, bne_self_eq_false] at h
    cases h

/-- Lower case shows where letter case is not ignored, where it is ignored in ASCII only, where the
lower case is longer, and where characters of the text are compared with each other. -/
theorem firstMatch_shows_lower :
    SoleRuleTells "(?-i:A)" "A" ∧ SoleRuleTells "(?a)é" "É" ∧ SoleRuleTells "^.$" "İ" ∧
      SoleRuleTells "(.)\\1" "ΑΣΣ" :=
  ⟨soleRuleTells_of_any (by decide +kernel), soleRuleTells_of_any (by decide +kernel),
    soleRuleTells_of_any (by decide +kernel), soleRuleTells_of_any (by decide +kernel)⟩

end RuleStore

end LedgerTags
