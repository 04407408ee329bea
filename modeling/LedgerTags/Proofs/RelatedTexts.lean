import LedgerTags.Proofs.CaseFolding

/-!
# Matching related texts

Two texts are related if their characters are, one by one. A pattern whose steps do not tell related
characters apart (`Step.Respects`) goes the same way through both: from alike places, with
continuations that lead from alike places to alike results, a step gives alike results
(`Step.Respects.runsAlike`), so that the pattern occurs in both texts or in neither
(`occursIn_eq`). The relation may be any one.
-/

namespace LedgerTags

namespace Pattern

variable {R : CodePoint → CodePoint → Prop}

/-! ### Places -/

/-- The same groups have been matched, and the texts of each one are related. -/
def CapturesAlike (R : CodePoint → CodePoint → Prop) : (gs hs : List (ℕ × Text)) → Prop :=
  List.Forall₂ fun g h => g.1 = h.1 ∧ List.Forall₂ R g.2 h.2

/-- Two places at the same index of related texts. -/
structure Cursor.Alike (R : CodePoint → CodePoint → Prop) (s t : Cursor) : Prop where
  before : List.Forall₂ R s.before t.before
  after : List.Forall₂ R s.after t.after
  index : s.index = t.index
  captures : CapturesAlike R s.captures t.captures

/-- Two results that are both failures or alike places. -/
abbrev ResultsAlike (R : CodePoint → CodePoint → Prop) : (o p : Option Cursor) → Prop :=
  Option.Rel (Cursor.Alike R)

/-- Two continuations that lead from alike places to alike results. -/
def LeadsAlike (R : CodePoint → CodePoint → Prop) (k l : Continuation) : Prop :=
  ∀ ⦃s t⦄, Cursor.Alike R s t → ResultsAlike R (k s) (l t)

/-- A way of matching that gives alike results from alike places with alike continuations. -/
def RunsAlike (R : CodePoint → CodePoint → Prop)
    (run : Cursor → Continuation → Option Cursor) : Prop :=
  ∀ ⦃s t k l⦄, Cursor.Alike R s t → LeadsAlike R k l → ResultsAlike R (run s k) (run t l)

section

variable {s t : Cursor} {o p o' p' : Option Cursor} {k l : Continuation}

private theorem leadsAlike_some : LeadsAlike R some some := fun _ _ h => .some h

private theorem ResultsAlike.bind (h : ResultsAlike R o p) (hk : LeadsAlike R k l) :
    ResultsAlike R (o.bind k) (p.bind l) := by
  cases h with
  | none => exact .none
  | some h => exact hk h

private theorem ResultsAlike.or (h : ResultsAlike R o p) (h' : ResultsAlike R o' p') :
    ResultsAlike R (o.or o') (p.or p') := by
  cases h with
  | none => exact h'
  | some h => exact .some h

private theorem isSome_eq_of_rel {α β : Type} {P : α → β → Prop} {o : Option α} {p : Option β}
    (h : Option.Rel P o p) : o.isSome = p.isSome := by
  cases h <;> rfl

private theorem Cursor.Alike.take? {test : CharTest} (htest : test.Respects R) (h : s.Alike R t) :
    ResultsAlike R (s.take? test) (t.take? test) := by
  obtain ⟨before, after, index, captures⟩ := s
  obtain ⟨before', after', index', captures'⟩ := t
  obtain ⟨hbefore, hafter, hindex, hcaptures⟩ := h
  cases hafter with
  | nil => exact .none
  | cons hc hafter =>
    unfold Cursor.take?
    dsimp only
    rw [htest hc]
    split_ifs
    · exact .some ⟨.cons hc hbefore, hafter, congrArg (· + 1) hindex, hcaptures⟩
    · exact .none

private theorem Cursor.Alike.back? (n : ℕ) (h : s.Alike R t) :
    ResultsAlike R (s.back? n) (t.back? n) := by
  induction n generalizing s t with
  | zero => exact .some h
  | succ n ih =>
    obtain ⟨before, after, index, captures⟩ := s
    obtain ⟨before', after', index', captures'⟩ := t
    obtain ⟨hbefore, hafter, hindex, hcaptures⟩ := h
    cases hbefore with
    | nil => exact .none
    | cons hc hbefore => exact ih ⟨hbefore, .cons hc hafter, congrArg (· - 1) hindex, hcaptures⟩

/-- Mapped by a fold, characters are the same exactly if the related ones are. -/
def Fold.Respects (R : CodePoint → CodePoint → Prop) (f : Fold) : Prop :=
  ∀ ⦃c d c' d'⦄, R c d → R c' d' → (f.apply c = f.apply c' ↔ f.apply d = f.apply d')

private theorem Cursor.Alike.takeText? {fold : Fold} (hfold : fold.Respects R) {x y : Text}
    (hxy : List.Forall₂ R x y) (h : s.Alike R t) :
    ResultsAlike R (s.takeText? fold x) (t.takeText? fold y) := by
  induction hxy generalizing s t with
  | nil => exact .some h
  | cons hc hxy ih =>
    obtain ⟨before, after, index, captures⟩ := s
    obtain ⟨before', after', index', captures'⟩ := t
    obtain ⟨hbefore, hafter, hindex, hcaptures⟩ := h
    cases hafter with
    | nil => exact .none
    | cons hd hafter =>
      unfold Cursor.takeText?
      dsimp only
      rw [if_congr (hfold hc hd) rfl rfl]
      split_ifs
      · exact ih ⟨.cons hd hbefore, hafter, congrArg (· + 1) hindex, hcaptures⟩
      · exact .none

/-- The tests of a place do not tell related characters apart. -/
structure AnchorRespects (R : CodePoint → CodePoint → Prop) (ascii : Bool) : Prop where
  isWord : ∀ ⦃c d⦄, R c d → Category.holds ascii .word c = Category.holds ascii .word d
  isFeed : ∀ ⦃c d⦄, R c d → (c.val == 10) = (d.val == 10)

private theorem isEmpty_eq {x y : Text} (h : List.Forall₂ R x y) : x.isEmpty = y.isEmpty := by
  cases h <;> rfl

private theorem Cursor.Alike.isAt_eq {ascii : Bool} (hanchor : AnchorRespects R ascii)
    (multiline : Bool)
    (a : Anchor) (h : s.Alike R t) : s.isAt ascii multiline a = t.isAt ascii multiline a := by
  have hword {x y : Text} (h : List.Forall₂ R x y) :
      Cursor.headIsWord ascii x = Cursor.headIsWord ascii y := by
    cases h with
    | nil => rfl
    | cons hc _ => exact hanchor.isWord hc
  have hfeed {x y : Text} (h : List.Forall₂ R x y) :
      Cursor.headIsFeed x = Cursor.headIsFeed y := by
    cases h with
    | nil => rfl
    | cons hc _ => exact hanchor.isFeed hc
  unfold Cursor.isAt
  rw [isEmpty_eq h.before, isEmpty_eq h.after, hword h.before, hword h.after, hfeed h.before,
    hfeed h.after, h.after.length_eq]

private theorem CapturesAlike.lookup {gs hs : List (ℕ × Text)} (h : CapturesAlike R gs hs) (g : ℕ) :
    Option.Rel (List.Forall₂ R) (gs.lookup g) (hs.lookup g) := by
  induction h with
  | nil => exact .none
  | @cons e f _ _ hg _ ih =>
    obtain ⟨i, x⟩ := e
    obtain ⟨j, y⟩ := f
    obtain ⟨rfl, hxy⟩ := hg
    rw [List.lookup_cons, List.lookup_cons]
    cases g == i with
    | true => exact .some hxy
    | false => exact ih

/-! ### Turns of a repeat -/

variable {turn : Cursor → Continuation → Option Cursor}

private theorem mandatory_alike (hturn : RunsAlike R turn) (n : ℕ) :
    RunsAlike R (mandatory turn n) := by
  induction n with
  | zero => exact fun s t k l h hk => hk h
  | succ n ih => exact fun s t k l h hk => hturn h fun _ _ h' => ih h' hk

private theorem optional_alike (hturn : RunsAlike R turn) (greedy : Bool) (n : ℕ)
    (last : Option ℕ) : RunsAlike R (optional greedy turn n last) := by
  induction n generalizing last with
  | zero => exact fun s t k l h hk => hk h
  | succ n ih =>
    intro s t k l h hk
    have hmore : ResultsAlike R (turn s fun s' => optional greedy turn n (some s.index) s' k)
        (turn t fun t' => optional greedy turn n (some t.index) t' l) := by
      rw [h.index]
      exact hturn h fun _ _ h' => ih (some t.index) h' hk
    unfold optional
    rw [if_congr (by rw [h.index]) rfl rfl]
    split_ifs
    · exact hk h
    · cases greedy with
      | true => exact hmore.or (hk h)
      | false => exact (hk h).or hmore

private theorem greedyRun_alike {turn : Cursor → Option Cursor} (hturn : LeadsAlike R turn turn)
    (n : ℕ) (last : Option ℕ) (h : s.Alike R t) :
    (greedyRun turn n last s).Alike R (greedyRun turn n last t) := by
  induction n generalizing last s t with
  | zero => exact h
  | succ n ih =>
    unfold greedyRun
    rw [if_congr (by rw [h.index]) rfl rfl]
    split_ifs
    · exact h
    · have hnext := hturn h
      revert hnext
      generalize turn s = o
      generalize turn t = p
      rintro (hnext | _)
      · dsimp only
        rw [h.index]
        exact ih _ hnext
      · exact h

private theorem turnLimit_eq (h : s.Alike R t) (min : ℕ) (max : Option ℕ) :
    turnLimit s min max = turnLimit t min max := by
  cases max <;> simp only [turnLimit, h.after.length_eq]

/-! ### Steps -/

/-- Nothing in a step tells related characters apart. -/
inductive Step.Respects (R : CodePoint → CodePoint → Prop) : Step → Prop
  | char {test : CharTest} (h : test.Respects R) : Respects R (.char test)
  | anchor {ascii : Bool} (h : AnchorRespects R ascii) (multiline : Bool) (a : Anchor) :
    Respects R (.anchor ascii multiline a)
  | capture (g : ℕ) {body : List Step} (h : ∀ x ∈ body, Respects R x) :
    Respects R (.capture g body)
  | sequence {body : List Step} (h : ∀ x ∈ body, Respects R x) : Respects R (.sequence body)
  | atomic {body : List Step} (h : ∀ x ∈ body, Respects R x) : Respects R (.atomic body)
  | look (back : ℕ) (negated : Bool) {body : List Step} (h : ∀ x ∈ body, Respects R x) :
    Respects R (.look back negated body)
  | branch {alternatives : List (List Step)} (h : ∀ a ∈ alternatives, ∀ x ∈ a, Respects R x) :
    Respects R (.branch alternatives)
  | repeat (kind : RepeatKind) (min : ℕ) (max : Option ℕ) {body : List Step}
    (h : ∀ x ∈ body, Respects R x) : Respects R (.repeat kind min max body)
  | reference {fold : Fold} (h : fold.Respects R) (g : ℕ) : Respects R (.reference fold g)
  | conditional (g : ℕ) {yes no : List Step} (hyes : ∀ x ∈ yes, Respects R x)
    (hno : ∀ x ∈ no, Respects R x) : Respects R (.conditional g yes no)

private theorem runAll_alike {steps : List Step} (h : ∀ x ∈ steps, RunsAlike R x.run) :
    RunsAlike R (runAll steps) := by
  induction steps with
  | nil => exact fun s t k l hst hk => hk hst
  | cons x steps ih =>
    obtain ⟨hx, hsteps⟩ := List.forall_mem_cons.1 h
    exact fun s t k l hst hk => hx hst fun _ _ h' => ih hsteps h' hk

private theorem runAny_alike {alternatives : List (List Step)}
    (h : ∀ a ∈ alternatives, ∀ x ∈ a, RunsAlike R x.run) : RunsAlike R (runAny alternatives) := by
  induction alternatives with
  | nil => exact fun s t k l _ _ => .none
  | cons a as ih =>
    obtain ⟨ha, has⟩ := List.forall_mem_cons.1 h
    exact fun s t k l hst hk => (runAll_alike ha hst hk).or (ih has hst hk)

variable {body : List Step}

private theorem anchor_alike {ascii : Bool} (h : AnchorRespects R ascii) (multiline : Bool)
    (a : Anchor) : RunsAlike R (Step.anchor ascii multiline a).run := by
  intro s t k l hst hk
  unfold Step.run
  rw [hst.isAt_eq h]
  split_ifs
  · exact hk hst
  · exact .none

private theorem capture_alike (h : RunsAlike R (runAll body)) (g : ℕ) :
    RunsAlike R (Step.capture g body).run := by
  intro s t k l hst hk
  refine h hst fun s' t' h' => hk ⟨h'.before, h'.after, h'.index, .cons ⟨rfl, ?_⟩ h'.captures⟩
  rw [hst.index, h'.index]
  exact List.forall₂_take _ hst.after

private theorem look_alike (h : RunsAlike R (runAll body)) (back : ℕ) (negated : Bool) :
    RunsAlike R (Step.look back negated body).run := by
  intro s t k l hst hk
  have hfails : ResultsAlike R (if negated then k s else none)
      (if negated then l t else none) := by
    split_ifs
    · exact hk hst
    · exact .none
  have hback := hst.back? back
  unfold Step.run
  revert hback
  generalize s.back? back = start
  generalize t.back? back = start'
  rintro (hstart | _)
  · have hinner := h hstart leadsAlike_some
    dsimp only
    revert hinner
    generalize runAll body _ some = inner
    generalize runAll body _ some = inner'
    rintro (hinner | _)
    · dsimp only
      split_ifs
      · exact .none
      · exact hk ⟨hst.before, hst.after, hst.index, hinner.captures⟩
    · exact hfails
  · exact hfails

private theorem repeat_alike (h : RunsAlike R (runAll body)) (kind : RepeatKind) (min : ℕ)
    (max : Option ℕ) : RunsAlike R (Step.repeat kind min max body).run := by
  intro s t k l hst hk
  cases kind with
  | greedy | lazy =>
    refine mandatory_alike h min hst fun s' t' h' => ?_
    rw [turnLimit_eq h']
    exact optional_alike h _ _ none h' hk
  | possessive =>
    have hturn : LeadsAlike R (fun s => runAll body s some) fun s => runAll body s some :=
      fun _ _ h' => h h' leadsAlike_some
    have hturns : RunsAlike R fun s k => (runAll body s some).bind k :=
      fun _ _ _ _ h' hk => (hturn h').bind hk
    refine (mandatory_alike hturns min hst leadsAlike_some).bind fun s' t' h' => hk ?_
    rw [turnLimit_eq h']
    exact greedyRun_alike hturn _ none h'

private theorem reference_alike {fold : Fold} (h : fold.Respects R) (g : ℕ) :
    RunsAlike R (Step.reference fold g).run := by
  intro s t k l hst hk
  have hlookup := hst.captures.lookup g
  unfold Step.run
  revert hlookup
  generalize s.captures.lookup g = x
  generalize t.captures.lookup g = y
  rintro (hxy | _)
  · exact (hst.takeText? h hxy).bind hk
  · exact .none

private theorem conditional_alike {yes no : List Step} (hyes : RunsAlike R (runAll yes))
    (hno : RunsAlike R (runAll no)) (g : ℕ) : RunsAlike R (Step.conditional g yes no).run := by
  intro s t k l hst hk
  have hsome := isSome_eq_of_rel (hst.captures.lookup g)
  unfold Step.run
  rw [hsome]
  split_ifs
  · exact hyes hst hk
  · exact hno hst hk

/-- A step that does not tell related characters apart gives alike results from alike places with
alike continuations. -/
theorem Step.Respects.runsAlike {x : Step} (h : x.Respects R) : RunsAlike R x.run := by
  induction h with
  | char h => exact fun s t k l hst hk => (hst.take? h).bind hk
  | anchor h multiline a => exact anchor_alike h multiline a
  | capture g _ ih => exact capture_alike (runAll_alike ih) g
  | sequence _ ih => exact runAll_alike ih
  | atomic _ ih => exact fun s t k l hst hk => (runAll_alike ih hst leadsAlike_some).bind hk
  | look back negated _ ih => exact look_alike (runAll_alike ih) back negated
  | branch _ ih => exact runAny_alike ih
  | «repeat» kind min max _ ih => exact repeat_alike (runAll_alike ih) kind min max
  | reference h g => exact reference_alike h g
  | conditional g _ _ hyes hno => exact conditional_alike (runAll_alike hyes) (runAll_alike hno) g

end

/-! ### Patterns -/

private theorem matchesAt_eq {p : Pattern} (hp : ∀ x ∈ p.steps, x.Respects R) {x y x' y' : Text}
    (hbefore : List.Forall₂ R x y) (hafter : List.Forall₂ R x' y') (index : ℕ) :
    p.matchesAt x x' index = p.matchesAt y y' index :=
  have halike : Cursor.Alike R { before := x, after := x', index }
      { before := y, after := y', index } := ⟨hbefore, hafter, rfl, .nil⟩
  isSome_eq_of_rel (runAll_alike (fun x hx => (hp x hx).runsAlike) halike leadsAlike_some)

/-- A pattern that does not tell related characters apart occurs in both of two related texts or in
neither. -/
theorem occursIn_eq {p : Pattern} (hp : ∀ x ∈ p.steps, x.Respects R) {x y : Text}
    (h : List.Forall₂ R x y) : p.occursIn x = p.occursIn y := by
  have hfrom {before before' : Text} (hbefore : List.Forall₂ R before before') (index : ℕ) :
      p.occursFrom before index x = p.occursFrom before' index y := by
    induction h generalizing before before' index with
    | nil => exact matchesAt_eq hp hbefore .nil index
    | cons hc h ih =>
      rw [occursFrom, occursFrom, matchesAt_eq hp hbefore (.cons hc h), ih (.cons hc hbefore)]
  exact hfrom .nil 0

end Pattern

end LedgerTags
