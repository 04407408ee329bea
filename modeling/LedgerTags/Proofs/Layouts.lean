import LedgerTags.Proofs.JsonPrefix
import LedgerTags.Proofs.RoundTrip

/-!
# The two layouts

Objects that stand on lines are read like the same objects in an array (`readOctets_layouts`), blank
lines or not, as long as no object holds one of the characters beyond the carriage return and the
line feed that end lines. Three of these may stand in the texts of an object as they are, and an
object with one of them is read from an array alone: on a line it is cut, and the first of its parts
is no document.

The lines are followed from the text without the white space around it (`exists_trim_eq`) to the
lines that it is cut into (`visibleLines_splitLines_append`), and the array from member to member
(`readItems_joinWith`). What is read of an object is the same in both, by what reading a part of a
text comes to.
-/

namespace LedgerTags

open Json Text

namespace Text

/-! ### Blank lines -/

/-- The lines that are not blank. -/
def visibleLines (ls : List Text) : List Text := ls.filter fun l => !l.trim.isEmpty

private theorem visibleLines_of_blank {l : Text} (h : ∀ c ∈ l, c.isSpace = true) (ls : List Text) :
    visibleLines (l :: ls) = visibleLines ls :=
  List.filter_cons_of_neg (by rw [isEmpty_trim_iff.2 h]; decide)

private theorem visibleLines_append (ls ms : List Text) :
    visibleLines (ls ++ ms) = visibleLines ls ++ visibleLines ms := List.filter_append ..

/-! ### Lines that are cut -/

private theorem splitLinesFrom_boundary {c : CodePoint} (hc : isLineBoundary c = true)
    (hreturn : c.val ≠ 13) (line t : Text) :
    splitLinesFrom line (c :: t) = line.reverse :: splitLines t := by
  rw [splitLinesFrom.eq_def]
  dsimp only
  rw [if_pos hc]
  cases t with
  | nil => rfl
  | cons d t => exact if_neg fun h => hreturn h.1

/-- A line ends at a boundary. A line feed behind a carriage return ends no other line, but that
would be a blank one. -/
theorem visibleLines_boundary {c : CodePoint} (hc : isLineBoundary c = true) (line t : Text) :
    visibleLines (splitLinesFrom line (c :: t)) = visibleLines (line.reverse :: splitLines t) := by
  by_cases hreturn : c.val = 13
  · rw [splitLinesFrom.eq_def]
    dsimp only
    rw [if_pos hc]
    cases t with
    | nil => rfl
    | cons d t =>
      dsimp only
      split_ifs with hfeed
      · have hblank : splitLines (d :: t) = [] :: splitLines t :=
          splitLinesFrom_boundary (by simp [isLineBoundary, hfeed.2]) (by omega) [] t
        have hdrop (ls : List Text) : visibleLines ([] :: ls) = visibleLines ls :=
          visibleLines_of_blank (fun _ hc => absurd hc List.not_mem_nil) ls
        rw [hblank, visibleLines, visibleLines, List.filter_cons, List.filter_cons]
        exact congrArg _ (hdrop _).symm
      · rfl
  · rw [splitLinesFrom_boundary hc hreturn]

private theorem splitLinesFrom_of_not {c : CodePoint} (hc : isLineBoundary c = false)
    (line t : Text) : splitLinesFrom line (c :: t) = splitLinesFrom (c :: line) t :=
  splitLinesFrom_append (List.forall_mem_singleton.2 hc) line t

/-- At a boundary a text is cut apart. -/
theorem visibleLines_splitLinesFrom_append {c : CodePoint} (hc : isLineBoundary c = true)
    (line t u : Text) : visibleLines (splitLinesFrom line (t ++ c :: u)) =
      visibleLines (splitLinesFrom line t) ++ visibleLines (splitLines u) := by
  induction t generalizing line with
  | nil =>
    rw [List.nil_append, visibleLines_boundary hc, ← List.singleton_append, visibleLines_append]
    refine congrArg (· ++ _) ?_
    rw [splitLinesFrom.eq_def]
    dsimp only
    split_ifs with hline
    · rw [List.isEmpty_iff.1 hline]
      rfl
    · rfl
  | cons d t ih =>
    rw [List.cons_append]
    by_cases hd : isLineBoundary d = true
    · have hcons (ls : List Text) : visibleLines (line.reverse :: ls) =
          visibleLines [line.reverse] ++ visibleLines ls := visibleLines_append [line.reverse] ls
      rw [visibleLines_boundary hd, visibleLines_boundary hd, hcons, hcons (splitLines t),
        List.append_assoc]
      exact congrArg _ (ih [])
    · rw [splitLinesFrom_of_not (by simpa using hd), splitLinesFrom_of_not (by simpa using hd), ih]

/-- Lines before and behind a boundary are split apart from each other. -/
theorem visibleLines_splitLines_append {c : CodePoint} (hc : isLineBoundary c = true)
    (t u : Text) : visibleLines (splitLines (t ++ c :: u)) =
      visibleLines (splitLines t) ++ visibleLines (splitLines u) :=
  visibleLines_splitLinesFrom_append hc [] t u

/-- Lines with their ends, and a last line without one, are cut one by one. -/
theorem visibleLines_splitLines_ended (ls : List Text) (l : Text) :
    visibleLines (splitLines (ended ls ++ l)) =
      (ls ++ [l]).flatMap fun l => visibleLines (splitLines l) := by
  induction ls with
  | nil => simp
  | cons m ls ih =>
    rw [ended_cons, List.append_assoc, List.cons_append, visibleLines_splitLines_append (by decide),
      ih]
    rfl

/-- A text without boundaries is one line. -/
theorem visibleLines_splitLines_line {l : Text} (h : ∀ c ∈ l, isLineBoundary c = false) :
    visibleLines (splitLines l) = visibleLines [l] := by
  have hsplit := splitLinesFrom_append h [] []
  rw [List.append_nil, List.append_nil] at hsplit
  rw [splitLines, hsplit, splitLinesFrom.eq_def]
  dsimp only
  split_ifs with hempty
  · rw [List.isEmpty_iff, List.reverse_eq_nil_iff] at hempty
    rw [hempty]
    rfl
  · rw [List.reverse_reverse]

/-- White space holds no line that is not blank. -/
theorem visibleLines_splitLines_blank {l : Text} (h : ∀ c ∈ l, c.isSpace = true) :
    visibleLines (splitLines l) = [] := by
  have hfrom (line : Text) (hline : ∀ c ∈ line, c.isSpace = true) :
      visibleLines (splitLinesFrom line l) = [] := by
    induction l generalizing line with
    | nil =>
      have hlast := visibleLines_splitLinesFrom_append (c := '\n') (by decide) line [] []
      rw [List.nil_append, visibleLines_boundary (by decide), visibleLines_of_blank] at hlast
      · exact (List.append_eq_nil_iff.1 hlast.symm).1
      · exact fun c hc => hline c (List.mem_reverse.1 hc)
    | cons d l ih =>
      obtain ⟨hd, hl⟩ := List.forall_mem_cons.1 h
      by_cases hboundary : isLineBoundary d = true
      · rw [visibleLines_boundary hboundary, visibleLines_of_blank, splitLines]
        · exact ih hl [] fun _ hc => absurd hc List.not_mem_nil
        · exact fun c hc => hline c (List.mem_reverse.1 hc)
      · rw [splitLinesFrom_of_not (by simpa using hboundary)]
        exact ih hl _ (List.forall_mem_cons.2 ⟨hd, hline⟩)
  exact hfrom [] fun _ hc => absurd hc List.not_mem_nil

/-! ### Joined lines -/

private theorem joinWith_cons {sep t : Text} {ts : List Text} (h : ts ≠ []) :
    joinWith sep (t :: ts) = t ++ (sep ++ joinWith sep ts) := by
  obtain ⟨u, us, rfl⟩ := List.exists_cons_of_ne_nil h
  rw [joinWith, List.append_assoc]
  exact h

private theorem joinWith_newline {ls : List Text} (h : ls ≠ []) :
    joinWith "\n" ls ++ [('\n' : CodePoint)] = ended ls := by
  induction ls with
  | nil => exact absurd rfl h
  | cons l ls ih =>
    by_cases hls : ls = []
    · rw [hls, ended_singleton]
      rfl
    · rw [joinWith_cons hls, List.append_assoc, List.append_assoc, ih hls, ended_cons]
      rfl

/-- The end of the last line does not matter to trimming. -/
theorem trim_joinWith (ls : List Text) : (joinWith "\n" ls).trim = (ended ls).trim := by
  by_cases hls : ls = []
  · subst hls
    rfl
  · have hspace : ∀ c ∈ [('\n' : CodePoint)], c.isSpace = true := by decide
    rw [← joinWith_newline hls, trim_append hspace]

end Text

namespace Interchange

/-! ### Objects -/

/-- The text of an object with nothing around it. -/
structure IsObject (t : Text) : Prop where
  brace : ∃ u, t = ('\x7b' : CodePoint) :: u
  reads : ∃ es, Reads readValue t (.dict es)

/-- Blanks that end no line. -/
def IsPadding (a : Text) : Prop := ∀ c ∈ a, c.val = 32 ∨ c.val = 9

/-- A line with an object on it, and blanks around that. -/
def HoldsObject (l : Text) : Prop :=
  ∃ a t a', IsPadding a ∧ IsPadding a' ∧ IsObject t ∧ l = a ++ (t ++ a')

section Objects

variable {a a' l t u : Text}

private theorem IsPadding.areBlanks (h : IsPadding a) : AreBlanks a := by
  intro c hc
  rcases h c hc with hval | hval <;> simp [isBlank, hval]

private theorem IsPadding.isSpace (h : IsPadding a) : ∀ c ∈ a, c.isSpace = true := by
  intro c hc
  rcases h c hc with hval | hval <;> simp [CodePoint.isSpace, hval]

private theorem IsPadding.isLineBoundary (h : IsPadding a) : ∀ c ∈ a, isLineBoundary c = false := by
  intro c hc
  rcases h c hc with hval | hval <;> simp [Text.isLineBoundary, hval]

private theorem IsPadding.not_mem (h : IsPadding a) {c : CodePoint}
    (hc : Text.isLineBoundary c = true) : c ∉ a := by
  intro hmem
  rw [h.isLineBoundary c hmem] at hc
  cases hc

private theorem IsPadding.endsNumber (h : IsPadding a) (hu : EndsNumber u) : EndsNumber (a ++ u) :=
  endsNumber_append h.areBlanks hu

private theorem IsObject.trimLeft_append (h : IsObject t) (ha : IsPadding a) (u : Text) :
    trimLeft (a ++ (t ++ u)) = t ++ u := by
  obtain ⟨v, rfl⟩ := h.brace
  rw [Text.trimLeft_append ha.isSpace]
  exact trimLeft_cons (by decide) _

private theorem IsObject.trimRight_append (h : IsObject t) (ha : IsPadding a) (u : Text) :
    trimRight (u ++ (t ++ a)) = u ++ t := by
  obtain ⟨es, hes⟩ := h.reads
  obtain ⟨w, c, rfl, hspace⟩ := hes.closed es rfl
  rw [← List.append_assoc, Text.trimRight_append ha.isSpace, ← List.append_assoc,
    trimRight_append_singleton hspace]

private theorem IsObject.trim_eq (h : IsObject t) (ha : IsPadding a) (ha' : IsPadding a') :
    (a ++ (t ++ a')).trim = t := by
  rw [trim, h.trimLeft_append ha, ← List.nil_append (t ++ a'), h.trimRight_append ha',
    List.nil_append]

/-- What is left of a line without its padding is the object. -/
theorem HoldsObject.trim (h : HoldsObject l) : IsObject l.trim := by
  obtain ⟨a, t, a', ha, ha', ht, rfl⟩ := h
  rwa [ht.trim_eq ha ha']

/-- A line with an object on it is the object with blanks around it. -/
theorem HoldsObject.exists_padding (h : HoldsObject l) :
    ∃ a a', IsPadding a ∧ IsPadding a' ∧ l = a ++ (l.trim ++ a') := by
  obtain ⟨a, t, a', ha, ha', ht, rfl⟩ := h
  exact ⟨a, a', ha, ha', by rw [ht.trim_eq ha ha']⟩

/-- A boundary of lines on a line with an object stands inside of the object. -/
theorem HoldsObject.mem_trim_iff (h : HoldsObject l) {c : CodePoint}
    (hc : Text.isLineBoundary c = true) : c ∈ l.trim ↔ c ∈ l := by
  obtain ⟨a, a', ha, ha', hl⟩ := h.exists_padding
  have hmem : c ∈ l ↔ c ∈ a ++ (l.trim ++ a') := iff_of_eq (congrArg (c ∈ ·) hl)
  rw [hmem, List.mem_append, List.mem_append]
  refine ⟨fun h => .inr (.inl h), fun h => ?_⟩
  exact (h.resolve_left (ha.not_mem hc)).resolve_right (ha'.not_mem hc)

private theorem isPadding_nil : IsPadding [] := fun _ hc => absurd hc List.not_mem_nil

private theorem HoldsObject.exists_trimLeft (h : HoldsObject l) :
    ∃ l', HoldsObject l' ∧ l'.trim = l.trim ∧ (∃ u, l' = ('\x7b' : CodePoint) :: u) ∧
      ∀ u, trimLeft (l ++ u) = l' ++ u := by
  obtain ⟨a, t, a', ha, ha', ht, rfl⟩ := h
  refine ⟨t ++ a', ⟨[], t, a', isPadding_nil, ha', ht, rfl⟩, ?_, ?_, fun u => ?_⟩
  · exact (ht.trim_eq isPadding_nil ha').trans (ht.trim_eq ha ha').symm
  · obtain ⟨u, rfl⟩ := ht.brace
    exact ⟨_, rfl⟩
  · rw [List.append_assoc, List.append_assoc, ht.trimLeft_append ha]

private theorem HoldsObject.exists_trimRight (h : HoldsObject l) :
    ∃ l', HoldsObject l' ∧ l'.trim = l.trim ∧
      ∀ u s, (∀ c ∈ s, c.isSpace = true) → trimRight (u ++ (l ++ s)) = u ++ l' := by
  obtain ⟨a, t, a', ha, ha', ht, rfl⟩ := h
  refine ⟨a ++ t, ⟨a, t, [], ha, isPadding_nil, ht, by rw [List.append_nil]⟩, ?_,
    fun u s hs => ?_⟩
  · have htrim := ht.trim_eq ha isPadding_nil
    rw [List.append_nil] at htrim
    exact htrim.trans (ht.trim_eq ha ha').symm
  · rw [← List.append_assoc, Text.trimRight_append hs, ← List.append_assoc,
      ht.trimRight_append ha', List.append_assoc]

/-- A document that is an object stands on a line, if it holds no other end of a line. -/
theorem holdsObject_of_readWith {es : List (Value × Value)} (h : readWith none l = .ok (.dict es))
    (hbreaks : ∀ c ∈ l, c.val ≠ 10 ∧ c.val ≠ 13) : HoldsObject l := by
  obtain ⟨a, t, a', ha, ha', rfl, hreads, fuel, hvalue⟩ := exists_used_of_readWith h
  have hpadding {b : Text} (hb : AreBlanks b) (hbreaks : ∀ c ∈ b, c.val ≠ 10 ∧ c.val ≠ 13) :
      IsPadding b := by
    intro c hc
    have hblank := hb c hc
    have hbreak := hbreaks c hc
    simp only [isBlank, Bool.or_eq_true, beq_iff_eq] at hblank
    omega
  obtain ⟨hbreaks, hbreaks'⟩ := List.forall_mem_append.1 hbreaks
  obtain ⟨-, hbreaks'⟩ := List.forall_mem_append.1 hbreaks'
  refine ⟨a, t, a', hpadding ha hbreaks, hpadding ha' hbreaks', ⟨?_, es, hreads⟩, rfl⟩
  obtain ⟨c, u, ht, hbrace⟩ := exists_brace_of_readValue hvalue
  obtain ⟨d, w, rfl⟩ := List.exists_cons_of_ne_nil hreads.ne_nil
  rw [List.cons_append, List.cons.injEq] at ht
  exact ⟨w, by rw [ht.1, CodePoint.ext_val (b := '\x7b') hbrace]⟩

/-- What an object is read as does not depend on what stands around it. -/
theorem IsObject.read (h : IsObject t) :
    (∀ v, Json.read t = .ok v → ∃ es, v = .dict es) ∧
    (∀ a a', AreBlanks a → AreBlanks a' → Json.read (a ++ (t ++ a')) = Json.read t) ∧
    ∀ fuel u, 2 * t.length ≤ fuel → EndsNumber u →
      readValue (some Numeral.digitLimit) fuel (t ++ u) = (Json.read t).map fun v => (v, u) := by
  obtain ⟨es, hes⟩ := h.reads
  obtain ⟨o, hlimited, hdocument, hvalue⟩ := hes.readWith (some Numeral.digitLimit)
  have hread := hdocument [] [] areBlanks_nil areBlanks_nil
  rw [List.nil_append, List.append_nil] at hread
  rw [Json.read, hread]
  refine ⟨fun v hv => ?_, hdocument, hvalue⟩
  rcases hlimited with rfl | ⟨-, n, rfl⟩
  · exact ⟨es, (Except.ok.inj hv).symm⟩
  · cases hv

/-- The padding of a line does not change what is read. -/
theorem HoldsObject.read (h : HoldsObject l) : Json.read l = Json.read l.trim := by
  obtain ⟨a, a', ha, ha', hl⟩ := h.exists_padding
  rw [hl, h.trim.trim_eq ha ha']
  exact h.trim.read.2.1 a a' ha.areBlanks ha'.areBlanks

end Objects

/-! ### Objects on lines -/

/-- Lines that are blank or hold an object. -/
def HoldObjects (ls : List Text) : Prop :=
  ∀ l ∈ ls, (∀ c ∈ l, c.isSpace = true) ∨ HoldsObject l

/-- The objects on some lines. -/
def objectTexts (ls : List Text) : List Text := (visibleLines ls).map trim

section Lines

variable {ls : List Text} {l : Text}

private theorem visibleLines_of_holdsObject (h : HoldsObject l) (ls : List Text) :
    visibleLines (l :: ls) = l :: visibleLines ls := by
  refine List.filter_cons_of_pos ?_
  obtain ⟨u, hu⟩ := h.trim.brace
  rw [hu]
  rfl

private theorem holdObjects_of_visibleLines (h : ∀ l ∈ visibleLines ls, HoldsObject l) :
    HoldObjects ls := by
  intro l hl
  by_cases hempty : l.trim.isEmpty = true
  · exact .inl (isEmpty_trim_iff.1 hempty)
  · exact .inr (h l (List.mem_filter.2 ⟨hl, by simpa using hempty⟩))

private theorem objectTexts_of_blank (h : ∀ c ∈ l, c.isSpace = true) (ls : List Text) :
    objectTexts (l :: ls) = objectTexts ls := by
  rw [objectTexts, visibleLines_of_blank h, objectTexts]

private theorem objectTexts_of_holdsObject (h : HoldsObject l) (ls : List Text) :
    objectTexts (l :: ls) = l.trim :: objectTexts ls := by
  rw [objectTexts, visibleLines_of_holdsObject h, List.map_cons, objectTexts]

private theorem objectTexts_append (ls ms : List Text) :
    objectTexts (ls ++ ms) = objectTexts ls ++ objectTexts ms := by
  rw [objectTexts, visibleLines_append, List.map_append, objectTexts, objectTexts]

/-- What trimming on the left leaves of some lines are lines with the same objects. -/
theorem exists_trimLeft_eq (h : HoldObjects ls) :
    ∃ ls', HoldObjects ls' ∧ objectTexts ls' = objectTexts ls ∧ trimLeft (ended ls) = ended ls' ∧
      (ls' = [] ∨ ∃ u, ended ls' = ('\x7b' : CodePoint) :: u) := by
  induction ls with
  | nil => exact ⟨[], h, rfl, rfl, .inl rfl⟩
  | cons l ls ih =>
    obtain ⟨hl, hls⟩ := List.forall_mem_cons.1 h
    rcases hl with hblank | hobject
    -- A blank line is trimmed away, with its end.
    · obtain ⟨ls', hls', htexts, htrim, hbrace⟩ := ih hls
      refine ⟨ls', hls', by rw [objectTexts_of_blank hblank, htexts], ?_, hbrace⟩
      rw [ended_cons, trimLeft_append hblank, ← htrim]
      exact trimLeft_append (s := ['\n']) (by decide) _
    -- Of the first line with an object the blanks before that are.
    · obtain ⟨l', hl', htext, ⟨u, hu⟩, htrim⟩ := hobject.exists_trimLeft
      refine ⟨l' :: ls, List.forall_mem_cons.2 ⟨.inr hl', hls⟩, ?_, ?_, .inr ?_⟩
      · rw [objectTexts_of_holdsObject hl', objectTexts_of_holdsObject hobject, htext]
      · rw [ended_cons, ended_cons, htrim]
      · exact ⟨_, by rw [ended_cons, hu, List.cons_append]⟩

/-- What trimming on the right leaves of some lines are lines with the same objects. -/
theorem exists_trimRight_eq (h : HoldObjects ls) :
    ∃ ls' l, HoldObjects (ls' ++ [l]) ∧ objectTexts (ls' ++ [l]) = objectTexts ls ∧
      trimRight (ended ls) = ended ls' ++ l := by
  induction ls using List.reverseRecOn with
  | nil =>
    have hblank : ∀ c ∈ ([] : Text), c.isSpace = true := fun _ hc => absurd hc List.not_mem_nil
    exact ⟨[], [], List.forall_mem_singleton.2 (.inl hblank), rfl, rfl⟩
  | append_singleton ls l ih =>
    obtain ⟨hls, hl⟩ := List.forall_mem_append.1 h
    rcases hl l List.mem_cons_self with hblank | hobject
    · obtain ⟨ls', l', hls', htexts, htrim⟩ := ih hls
      refine ⟨ls', l', hls', ?_, ?_⟩
      · rw [htexts, objectTexts_append, objectTexts_of_blank hblank]
        exact (List.append_nil _).symm
      · rw [ended_append, ended_singleton, trimRight_append, htrim]
        exact List.forall_mem_append.2 ⟨hblank, by decide⟩
    · obtain ⟨l', hl', htext, htrim⟩ := hobject.exists_trimRight
      have hlast : ∀ m ∈ [l'], (∀ c ∈ m, c.isSpace = true) ∨ HoldsObject m :=
        List.forall_mem_singleton.2 (.inr hl')
      refine ⟨ls, l', List.forall_mem_append.2 ⟨hls, hlast⟩, ?_, ?_⟩
      · rw [objectTexts_append, objectTexts_append, objectTexts_of_holdsObject hl',
          objectTexts_of_holdsObject hobject, htext]
      · rw [ended_append, ended_singleton]
        exact htrim _ _ (by decide)

/-- What trimming leaves of some lines are lines with the same objects. If there is an object, the
text begins with its brace. -/
theorem exists_trim_eq (h : HoldObjects ls) :
    ∃ ls' l, HoldObjects (ls' ++ [l]) ∧ objectTexts (ls' ++ [l]) = objectTexts ls ∧
      (joinWith "\n" ls).trim = ended ls' ++ l ∧
      (ended ls' ++ l = [] ∨ ∃ u, ended ls' ++ l = ('\x7b' : CodePoint) :: u) := by
  obtain ⟨ls₁, hls₁, htexts₁, htrim₁, hbrace⟩ := exists_trimLeft_eq h
  obtain ⟨ls₂, l, hls₂, htexts₂, htrim₂⟩ := exists_trimRight_eq hls₁
  refine ⟨ls₂, l, hls₂, htexts₂.trans htexts₁, ?_, ?_⟩
  · rw [trim_joinWith, trim, htrim₁, htrim₂]
  · rw [← htrim₂]
    rcases hbrace with rfl | ⟨u, hu⟩
    · exact .inl rfl
    · right
      rw [hu]
      exact exists_trimRight_cons (by decide) u

/-! ### Reading lines -/

private theorem isLineBoundary_ne_brace {c : CodePoint} (hc : isLineBoundary c = true) :
    c ≠ '\x7b' := by
  rintro rfl
  cases hc

/-- An object without a boundary of lines is one line, whatever blanks stand around it. -/
theorem visibleLines_of_no_boundary (h : HoldsObject l)
    (hboundary : ∀ c ∈ l.trim, isLineBoundary c = false) :
    visibleLines (splitLines l) = [l] := by
  obtain ⟨a, a', ha, ha', hl⟩ := h.exists_padding
  have hline : ∀ c ∈ l, isLineBoundary c = false := by
    rw [hl, List.forall_mem_append, List.forall_mem_append]
    exact ⟨ha.isLineBoundary, hboundary, ha'.isLineBoundary⟩
  rw [visibleLines_splitLines_line hline, visibleLines_of_holdsObject h]
  rfl

/-- Without boundaries inside of the objects each of them is read. -/
theorem mapM_read_visibleLines (h : HoldObjects ls)
    (hboundary : ∀ t ∈ objectTexts ls, ∀ c ∈ t, isLineBoundary c = false) :
    (ls.flatMap fun l => visibleLines (splitLines l)).mapM Json.read =
      (objectTexts ls).mapM Json.read := by
  induction ls with
  | nil => rfl
  | cons l ls ih =>
    obtain ⟨hl, hls⟩ := List.forall_mem_cons.1 h
    rw [List.flatMap_cons]
    rcases hl with hblank | hobject
    · rw [objectTexts_of_blank hblank] at hboundary ⊢
      rw [visibleLines_splitLines_blank hblank, List.nil_append, ih hls hboundary]
    · rw [objectTexts_of_holdsObject hobject] at hboundary ⊢
      obtain ⟨hfirst, hrest⟩ := List.forall_mem_cons.1 hboundary
      rw [visibleLines_of_no_boundary hobject hfirst, List.singleton_append, List.mapM_cons,
        List.mapM_cons, hobject.read, ih hls hrest]

/-- A part of an object that a boundary cuts off is no document. -/
theorem not_read_of_boundary {c : CodePoint} {p u : Text} (h : HoldsObject l)
    (hl : l = p ++ c :: u) (hc : isLineBoundary c = true) (v : Value) : Json.read p ≠ .ok v := by
  intro hread
  obtain ⟨a, a', ha, ha', htext⟩ := h.exists_padding
  obtain ⟨es, hes⟩ := h.trim.reads
  obtain ⟨b, used, b', hb, hb', rfl, hused, -⟩ := exists_used_of_readWith hread
  -- Both the object and the document are what the line begins with, behind blanks.
  have hsame : l.trim ++ a' = used ++ (b' ++ c :: u) := by
    rw [← hes.skipBlanks_append ha.areBlanks, ← hused.skipBlanks_append hb, ← htext, hl]
    simp
  have hends : EndsNumber (b' ++ c :: u) := by
    refine endsNumber_append hb' (endsNumber_cons u ?_)
    simp only [isLineBoundary, Bool.or_eq_true, Bool.and_eq_true, decide_eq_true_eq,
      beq_iff_eq] at hc
    rw [CodePoint.isAsciiDigit_eq_false_iff]
    omega
  have hends' : EndsNumber a' := by
    simpa using ha'.endsNumber endsNumber_nil
  have hfuel := Nat.le_add_right (2 * l.trim.length) (2 * used.length)
  have hobject := hes.readValue_none hfuel hends'
  rw [hsame, hused.readValue_none (Nat.le_add_left _ _) hends] at hobject
  -- So the boundary is one of the blanks behind the object, which it is not.
  have hrest : b' ++ c :: u = a' := congrArg Prod.snd (Except.ok.inj hobject)
  exact ha'.not_mem hc (hrest ▸ List.mem_append_right b' List.mem_cons_self)

/-- A line that is cut inside of its object is not read. -/
theorem exists_not_read (h : HoldsObject l) (hboundary : ∃ c ∈ l.trim, isLineBoundary c = true) :
    ∃ p ∈ visibleLines (splitLines l), ∀ v, Json.read p ≠ .ok v := by
  obtain ⟨a, a', ha, ha', hl⟩ := h.exists_padding
  obtain ⟨d, hd, hd'⟩ := hboundary
  have hmem : d ∈ l := by
    rw [hl]
    exact List.mem_append_right a (List.mem_append_left a' hd)
  -- The first boundary ends the first part, and that holds the brace of the object.
  obtain ⟨c, hfind⟩ := Option.isSome_iff_exists.1 (List.find?_isSome.2 ⟨d, hmem, hd'⟩)
  obtain ⟨hc, p, u, hp, hbefore⟩ := List.find?_eq_some_iff_append.1 hfind
  have hline : ∀ e ∈ p, isLineBoundary e = false := fun e he => by simpa using hbefore e he
  refine ⟨p, ?_, not_read_of_boundary h hp hc⟩
  have hbrace : ('\x7b' : CodePoint) ∈ p := by
    obtain ⟨w, hw⟩ := h.trim.brace
    rw [hw] at hl
    rcases List.append_eq_append_iff.1 (hp.symm.trans hl) with ⟨as, has, hcut⟩ | ⟨bs, rfl, hcut⟩
    · cases as with
      | nil => exact absurd (List.cons.inj hcut).1 (isLineBoundary_ne_brace hc)
      | cons e as =>
        obtain ⟨rfl, -⟩ := List.cons.inj hcut
        exact absurd (has ▸ List.mem_append_right p List.mem_cons_self) (ha.not_mem hc)
    · cases bs with
      | nil => exact absurd (List.cons.inj hcut).1.symm (isLineBoundary_ne_brace hc)
      | cons e bs =>
        rw [(List.cons.inj hcut).1]
        exact List.mem_append_right a List.mem_cons_self
  have hvisible : visibleLines [p] = [p] := by
    refine List.filter_cons_of_pos ?_
    rw [Bool.not_eq_true']
    refine Bool.eq_false_iff.2 fun hempty => ?_
    exact absurd (isEmpty_trim_iff.1 hempty _ hbrace) (by decide)
  rw [hp, visibleLines_splitLines_append hc, visibleLines_splitLines_line hline, hvisible]
  exact List.mem_cons_self

/-- The objects on lines are read, and a line is refused if it is cut inside of its object. -/
theorem readValues_lines (h : HoldObjects ls) :
    ((∀ t ∈ objectTexts ls, ∀ c ∈ t, isLineBoundary c = false) →
      readValues (joinWith "\n" ls) = (objectTexts ls).mapM Json.read) ∧
    ((∃ t ∈ objectTexts ls, ∃ c ∈ t, isLineBoundary c = true) →
      ∃ e, readValues (joinWith "\n" ls) = .error e) := by
  obtain ⟨ls', l, hls', htexts, htrim, hbrace⟩ := exists_trim_eq h
  have hread : readValues (joinWith "\n" ls) =
      ((ls' ++ [l]).flatMap fun l => visibleLines (splitLines l)).mapM Json.read := by
    rw [← visibleLines_splitLines_ended, readValues, htrim]
    rcases hbrace with hnil | ⟨u, hu⟩
    · rw [hnil]
      rfl
    · rw [hu]
      rfl
  rw [hread, ← htexts]
  refine ⟨mapM_read_visibleLines hls', ?_⟩
  rintro ⟨t, ht, hboundary⟩
  obtain ⟨m, hm, rfl⟩ := List.mem_map.1 ht
  have hobject : HoldsObject m := by
    obtain ⟨hmem, hvisible⟩ := List.mem_filter.1 hm
    refine (hls' m hmem).resolve_left fun hblank => ?_
    rw [isEmpty_trim_iff.2 hblank] at hvisible
    cases hvisible
  obtain ⟨p, hp, hfails⟩ := exists_not_read hobject hboundary
  have hmem : p ∈ (ls' ++ [l]).flatMap fun l => visibleLines (splitLines l) :=
    List.mem_flatMap.2 ⟨m, (List.mem_filter.1 hm).1, hp⟩
  cases hresult : ((ls' ++ [l]).flatMap fun l => visibleLines (splitLines l)).mapM Json.read with
  | error e => exact ⟨e, rfl⟩
  | ok vs =>
    obtain ⟨v, hv⟩ := exists_ok_of_mapM hresult hmem
    exact absurd hv (hfails v)

end Lines

/-! ### Objects in an array -/

section Arrays

variable {ls : List Text}

private theorem exists_brace_of_joinWith {rs : List Text} (h : ∀ r ∈ rs, HoldsObject r)
    (hne : rs ≠ [])
    (v : Text) : ∃ u, skipBlanks (joinWith "," rs ++ v) = ('\x7b' : CodePoint) :: u := by
  obtain ⟨r, rs, rfl⟩ := List.exists_cons_of_ne_nil hne
  obtain ⟨a, t, a', ha, -, ht, rfl⟩ := h r List.mem_cons_self
  obtain ⟨es, hes⟩ := ht.reads
  obtain ⟨u, rfl⟩ := ht.brace
  obtain ⟨rest, hrest⟩ : ∃ rest, joinWith "," ((a ++ (('\x7b' : CodePoint) :: u ++ a')) :: rs) =
      a ++ (('\x7b' : CodePoint) :: u ++ rest) := by
    by_cases hnil : rs = []
    · exact ⟨a', by rw [hnil, joinWith]⟩
    · exact ⟨a' ++ (ofString "," ++ joinWith "," rs), by rw [joinWith_cons hnil]; simp⟩
  refine ⟨u ++ (rest ++ v), ?_⟩
  rw [hrest, List.append_assoc, List.append_assoc, hes.skipBlanks_append ha.areBlanks,
    List.cons_append]

/-- The members of an array are read one by one. -/
theorem readItems_joinWith {rs : List Text} (h : ∀ r ∈ rs, HoldsObject r) (hne : rs ≠ [])
    (done : List Value) {fuel : ℕ} (hfuel : 2 * (joinWith "," rs).length < fuel) :
    readItems (some Numeral.digitLimit) fuel done
        (skipBlanks (joinWith "," rs ++ [(']' : CodePoint)])) =
      ((rs.map trim).mapM Json.read).map fun vs => (.list (done.reverse ++ vs), []) := by
  induction rs generalizing fuel done with
  | nil => exact absurd rfl hne
  | cons r rs ih =>
    obtain ⟨⟨a, t, a', ha, ha', ht, rfl⟩, hrs⟩ := List.forall_mem_cons.1 h
    obtain ⟨es, hes⟩ := ht.reads
    obtain ⟨-, -, hvalue⟩ := ht.read
    obtain ⟨k, rfl⟩ : ∃ k, fuel = k + 1 := ⟨fuel - 1, by omega⟩
    rw [List.map_cons, List.mapM_cons, ht.trim_eq ha ha']
    by_cases hnil : rs = []
    · subst hnil
      have htext : joinWith "," [a ++ (t ++ a')] ++ [(']' : CodePoint)] =
          a ++ (t ++ (a' ++ (']' : CodePoint) :: [])) := by
        simp [joinWith]
      have hlength : 2 * t.length ≤ k := by
        simp [joinWith] at hfuel
        omega
      rw [htext, hes.skipBlanks_append ha.areBlanks,
        readItems_close ha'.areBlanks (by decide) (by decide)
          (hvalue k _ hlength (endsNumber_mark ha'.areBlanks (by decide) []))]
      cases Json.read t with
      | error e => rfl
      | ok v => simp [Except.map]
    · have htext : joinWith "," ((a ++ (t ++ a')) :: rs) ++ [(']' : CodePoint)] =
          a ++ (t ++ (a' ++ (',' : CodePoint) :: (joinWith "," rs ++ [(']' : CodePoint)]))) := by
        rw [joinWith_cons hnil]
        simp [ofString]
      have hseparator : (ofString ",").length = 1 := rfl
      simp only [joinWith_cons hnil, List.length_append] at hfuel
      have hlength : 2 * t.length ≤ k := by omega
      have hlength' : 2 * (joinWith "," rs).length < k := by omega
      rw [htext, hes.skipBlanks_append ha.areBlanks,
        readItems_comma ha'.areBlanks (by decide) (by decide)
          (hvalue k _ hlength (endsNumber_mark ha'.areBlanks (by decide) _))]
      cases Json.read t with
      | error e => rfl
      | ok v =>
        rw [ok_bind, ok_bind, ih hrs hnil (v :: done) hlength']
        cases (rs.map trim).mapM Json.read with
        | error e => rfl
        | ok vs => simp [Except.map]

/-- An array of objects is read member by member. -/
theorem readValues_joinWith {rs : List Text} (h : ∀ r ∈ rs, HoldsObject r) :
    readValues ("[" ++ joinWith "," rs ++ "]") = (rs.map trim).mapM Json.read := by
  have htext : ("[" ++ joinWith "," rs ++ "]" : Text) =
      ('[' : CodePoint) :: (joinWith "," rs ++ [(']' : CodePoint)]) := by
    simp [ofString]
  have harray : isArray (('[' : CodePoint) :: (joinWith "," rs ++ [(']' : CodePoint)])) = true :=
    rfl
  have htrim : trim (('[' : CodePoint) :: (joinWith "," rs ++ [(']' : CodePoint)])) =
      ('[' : CodePoint) :: (joinWith "," rs ++ [(']' : CodePoint)]) := by
    rw [trim, trimLeft_cons (by decide), ← List.cons_append, trimRight_append_singleton (by decide)]
  have hread : Json.read (('[' : CodePoint) :: (joinWith "," rs ++ [(']' : CodePoint)])) =
      ((rs.map trim).mapM Json.read).map .list := by
    by_cases hnil : rs = []
    · subst hnil
      rfl
    rw [Json.read, readWith, skipBlanks_cons (by decide)]
    obtain ⟨u, hu⟩ := exists_brace_of_joinWith h hnil [(']' : CodePoint)]
    rw [readValue_bracket (by decide) hu, if_neg (by decide), ← hu,
      readItems_joinWith h hnil [] (by simp; omega)]
    cases (rs.map trim).mapM Json.read <;> rfl
  rw [htext, readValues, htrim]
  rw [if_neg (by simp), if_pos harray, hread]
  cases (rs.map trim).mapM Json.read <;> rfl

end Arrays

/-! ### Both layouts -/

section Layouts

variable {rs ls : List Text} {source source' : Text} {lines array : List UInt8}

/-- What is read from texts with the same objects does not depend on how messages name them. -/
theorem read_congr {t u : Text} (h : readValues t = readValues u)
    (hobjects : ∀ vs, readValues t = .ok vs → ∃ rows, mappings? vs = some rows) :
    read source t = read source' u := by
  rw [read, read, ← h]
  cases hvalues : readValues t with
  | error e => rfl
  | ok vs =>
    obtain ⟨rows, hrows⟩ := hobjects vs hvalues
    rw [ok_bind, ok_bind, hrows]

private theorem exists_mappings? {ts : List Text} {vs : List Value} (h : ∀ t ∈ ts, IsObject t)
    (hread : ts.mapM Json.read = .ok vs) : ∃ rows, mappings? vs = some rows := by
  have hdict : ∀ v ∈ vs, ∃ es, v = .dict es := by
    intro v hv
    obtain ⟨t, ht, htv⟩ := exists_of_mem_mapM hread hv
    exact (h t ht).read.1 v htv
  have hrows : ∃ rows, vs = objects rows := by
    clear hread
    induction vs with
    | nil => exact ⟨[], rfl⟩
    | cons v vs ih =>
      obtain ⟨⟨es, rfl⟩, hvs⟩ := List.forall_mem_cons.1 hdict
      obtain ⟨rows, rfl⟩ := ih hvs
      exact ⟨es :: rows, rfl⟩
  obtain ⟨rows, rfl⟩ := hrows
  exact ⟨rows, mappings?_objects rows⟩

private theorem readOctets_of_breaks {octets : List UInt8} {t : Text}
    (h : Utf8.decode? octets = some t) (hreturn : ∀ c ∈ t, c.val ≠ 13) :
    readOctets source octets = read source t := by
  rw [readOctets, h]
  dsimp only
  rw [unifyNewlines_eq_self hreturn]

private theorem forall_mem_joinWith {P : CodePoint → Prop} {sep : Text} {ts : List Text}
    (hsep : ∀ c ∈ sep, P c) (h : ∀ t ∈ ts, ∀ c ∈ t, P c) : ∀ c ∈ joinWith sep ts, P c := by
  induction ts with
  | nil => exact fun _ hc => absurd hc List.not_mem_nil
  | cons t ts ih =>
    obtain ⟨ht, hts⟩ := List.forall_mem_cons.1 h
    by_cases hnil : ts = []
    · rwa [hnil, joinWith]
    · rw [joinWith_cons hnil, List.forall_mem_append, List.forall_mem_append]
      exact ⟨ht, hsep, ih hts⟩

variable (source source') in
/-- Objects on lines, with blank lines or without, are read like the same objects in an array, as
long as none of them holds a character that ends a line. If one does, the lines are refused. The
objects may hold whole numbers of any length; too long ones are refused in both layouts. -/
theorem readOctets_layouts (hobjects : ∀ r ∈ rs, ∃ es, Json.readWith none r = .ok (.dict es))
    (hbreaks : ∀ l ∈ ls, ∀ c ∈ l, c.val ≠ 10 ∧ c.val ≠ 13) (hrs : visibleLines ls = rs)
    (hlines : Utf8.decode? lines = some (joinWith "\n" ls))
    (harray : Utf8.decode? array = some ("[" ++ joinWith "," rs ++ "]")) :
    ((∀ r ∈ rs, ∀ c ∈ r, isLineBoundary c = false) →
      readOctets source lines = readOctets source' array) ∧
    ((∃ r ∈ rs, ∃ c ∈ r, isLineBoundary c = true) → ∃ e, readOctets source lines = .error e) := by
  subst hrs
  have hholds : ∀ r ∈ visibleLines ls, HoldsObject r := by
    intro r hr
    obtain ⟨es, hes⟩ := hobjects r hr
    exact holdsObject_of_readWith hes (hbreaks r (List.mem_filter.1 hr).1)
  obtain ⟨hagree, hrefuse⟩ := readValues_lines (holdObjects_of_visibleLines hholds)
  have hreturn : ∀ c ∈ joinWith "\n" ls, c.val ≠ 13 :=
    forall_mem_joinWith (by decide) fun l hl c hc => (hbreaks l hl c hc).2
  have hreturn' : ∀ c ∈ ("[" ++ joinWith "," (visibleLines ls) ++ "]" : Text), c.val ≠ 13 := by
    have hmembers : ∀ c ∈ joinWith "," (visibleLines ls), c.val ≠ 13 :=
      forall_mem_joinWith (by decide) fun l hl c hc => (hbreaks l (List.mem_filter.1 hl).1 c hc).2
    exact List.forall_mem_append.2 ⟨List.forall_mem_append.2 ⟨by decide, hmembers⟩, by decide⟩
  have harray' := readValues_joinWith hholds
  rw [readOctets_of_breaks hlines hreturn, readOctets_of_breaks harray hreturn']
  constructor
  · intro hboundary
    have hread := hagree fun t ht c hc => by
      obtain ⟨r, hr, rfl⟩ := List.mem_map.1 ht
      by_contra hne
      have hc' := ((hholds r hr).mem_trim_iff (by simpa using hne)).1 hc
      exact hne (hboundary r hr c hc')
    refine read_congr (hread.trans harray'.symm) fun vs hvs => ?_
    refine exists_mappings? (fun t ht => ?_) (hread.symm.trans hvs)
    obtain ⟨r, hr, rfl⟩ := List.mem_map.1 ht
    exact (hholds r hr).trim
  · rintro ⟨r, hr, c, hc, hboundary⟩
    obtain ⟨e, he⟩ := hrefuse ⟨r.trim, List.mem_map_of_mem hr, c,
      ((hholds r hr).mem_trim_iff hboundary).2 hc, hboundary⟩
    exact ⟨e, by rw [read, he]; rfl⟩

end Layouts

/-! ### An object with a line separator in a text -/

/-- Two objects without such a character, the second one between blanks. -/
def plainObjects : List Text :=
  ["\x7b\"description\": \"Bread\"\x7d", " \x7b\"amount\": \"1.50\", \"notes\": 1e3\x7d\t"]

/-- The objects on lines, with blank lines between them. -/
def plainLines : List Text :=
  ["", "\x7b\"description\": \"Bread\"\x7d", " \u2028",
    " \x7b\"amount\": \"1.50\", \"notes\": 1e3\x7d\t", ""]

/-- An object whose text holds a line separator as it is. -/
def separatedObject : Text := "\x7b\"description\": \"a\u2028b\"\x7d"

/-- Whether an object is what was read. -/
def isObjectRead : Outcome Value → Bool
  | .ok (.dict _) => true
  | _ => false

private theorem exists_dict_of_isObjectRead {o : Outcome Value} (h : isObjectRead o = true) :
    ∃ es, o = .ok (.dict es) := by
  unfold isObjectRead at h
  split at h
  · next es => exact ⟨es, rfl⟩
  · cases h

/-- Objects on lines with blanks and blank lines between them, the same objects in an array, and a
line that a separator cuts. -/
theorem readOctets_layouts_samples :
    (∀ r ∈ plainObjects, ∃ es, Json.readWith none r = .ok (.dict es)) ∧
    (∀ l ∈ plainLines, ∀ c ∈ l, c.val ≠ 10 ∧ c.val ≠ 13) ∧ visibleLines plainLines = plainObjects ∧
    readOctets "in.jsonl" (Utf8.encode (joinWith "\n" plainLines)) =
      readOctets "in.json" (Utf8.encode ("[" ++ joinWith "," plainObjects ++ "]")) ∧
    ∃ e, readOctets "in.jsonl" (Utf8.encode (joinWith "\n" [separatedObject])) = .error e := by
  have hplain : ∀ r ∈ plainObjects, isObjectRead (Json.readWith none r) = true := by decide +kernel
  have hobjects : ∀ r ∈ plainObjects, ∃ es, Json.readWith none r = .ok (.dict es) :=
    fun r hr => exists_dict_of_isObjectRead (hplain r hr)
  have hseparated : ∀ r ∈ [separatedObject], isObjectRead (Json.readWith none r) = true := by
    decide +kernel
  have hbreaks : ∀ l ∈ plainLines, ∀ c ∈ l, c.val ≠ 10 ∧ c.val ≠ 13 := by decide
  have hvisible : visibleLines plainLines = plainObjects := by decide
  refine ⟨hobjects, hbreaks, hvisible, ?_, ?_⟩
  · have hlayouts := readOctets_layouts "in.jsonl" "in.json" hobjects hbreaks hvisible
      (Utf8.decode?_encode (by decide)) (Utf8.decode?_encode (by decide))
    exact hlayouts.1 (by decide)
  · have hbreaks' : ∀ l ∈ [separatedObject], ∀ c ∈ l, c.val ≠ 10 ∧ c.val ≠ 13 := by decide
    have hlayouts := readOctets_layouts "in.jsonl" "in.json"
      (fun r hr => exists_dict_of_isObjectRead (hseparated r hr)) hbreaks' (by decide)
      (Utf8.decode?_encode (by decide)) (Utf8.decode?_encode (by decide))
    exact hlayouts.2 ⟨_, List.mem_cons_self, '\u2028', by decide, by decide⟩

/-- The object is read from an array, and not from a line. -/
theorem separated_object_refused_on_line :
    (∃ es, Json.readWith none separatedObject = .ok (.dict es)) ∧
    (∀ c ∈ separatedObject, c.val ≠ 10 ∧ c.val ≠ 13) ∧
    (∃ ts, readOctets "in.json" (Utf8.encode ("[" ++ separatedObject ++ "]")) = .ok ts ∧
      ts.map (·.description.text?) = [some (ofString "a\u2028b")]) ∧
    ∃ e, readOctets "in.jsonl" (Utf8.encode separatedObject) = .error e := by
  have hobject : isObjectRead (Json.readWith none separatedObject) = true := by decide +kernel
  have harray : (readOctets "in.json" (Utf8.encode ("[" ++ separatedObject ++ "]"))).toOption.map
      (·.map (·.description.text?)) = some [some (ofString "a\u2028b")] := by decide +kernel
  have hline : (readOctets "in.jsonl" (Utf8.encode separatedObject)).toOption = none := by
    decide +kernel
  refine ⟨exists_dict_of_isObjectRead hobject, by decide +kernel, ?_, ?_⟩
  · generalize readOctets "in.json" _ = x at harray ⊢
    cases x with
    | error e => cases harray
    | ok ts => exact ⟨ts, rfl, Option.some.inj harray⟩
  · generalize readOctets "in.jsonl" _ = x at hline ⊢
    cases x with
    | error e => exact ⟨e, rfl⟩
    | ok ts => cases hline

end Interchange

end LedgerTags
