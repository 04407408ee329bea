import LedgerTags.Proofs.JsonNumber
import LedgerTags.Proofs.Outcome

/-!
# Documents in JSON

`IsDocument` says which values a JSON document can hold as the reader gives them: whole numbers of
4300 digits at most, binary numbers of the format, texts without pairs of surrogates, and mappings
with different keys. What is read is such a value (`isDocument_of_read`), and such a value is read
back from what is written (`read_write`), which is one line of ASCII characters (`allShown_write`).
-/

namespace LedgerTags.Json

open Text

/-- A mapping with texts as keys. -/
def members (es : List (Text × Value)) : List (Value × Value) := es.map fun e => (.text e.1, e.2)

@[simp] theorem members_nil : members [] = [] := rfl

@[simp] theorem members_cons (e : Text × Value) (es : List (Text × Value)) :
    members (e :: es) = (.text e.1, e.2) :: members es := rfl

/-- A value of a JSON document. -/
inductive IsDocument : Value → Prop where
  | null : IsDocument .null
  | bool (b : Bool) : IsDocument (.bool b)
  | int {n : ℤ} (h : Value.hasNumeral n = true) : IsDocument (.int n)
  | float (x : Binary64) : IsDocument (.float x)
  | text {t : Text} (h : NoPairs t) : IsDocument (.text t)
  | list {xs : List Value} (h : ∀ x ∈ xs, IsDocument x) : IsDocument (.list xs)
  | dict {es : List (Text × Value)} (hkeys : (es.map (·.1)).Nodup)
    (hpairs : ∀ e ∈ es, NoPairs e.1) (h : ∀ e ∈ es, IsDocument e.2) :
    IsDocument (.dict (members es))

private theorem isDocument_dict_nil : IsDocument (.dict []) :=
  @IsDocument.dict [] List.nodup_nil (fun e he => by cases he) fun e he => by cases he

/-! ### Entries -/

section Entries

variable {key : Text} {v : Value} {es : List (Text × Value)}

private theorem lookup?_members_eq_none (h : key ∉ es.map (·.1)) :
    Value.lookup? key (members es) = none := by
  induction es with
  | nil => rfl
  | cons e es ih =>
    obtain ⟨hne, hmem⟩ := not_or.1 (mt List.mem_cons.2 h)
    rw [members_cons, Value.lookup?, if_neg (Ne.symm hne), ih hmem]

private theorem isSome_lookup?_members (h : key ∈ es.map (·.1)) :
    (Value.lookup? key (members es)).isSome := by
  induction es with
  | nil => cases h
  | cons e es ih =>
    rw [members_cons, Value.lookup?]
    split
    · rfl
    · next hne => exact ih ((List.mem_cons.1 h).resolve_left (Ne.symm hne))

/-- An entry with a new key comes last. -/
theorem putEntry_members_of_not_mem (h : key ∉ es.map (·.1)) :
    putEntry (members es) key v = members (es ++ [(key, v)]) := by
  rw [putEntry, lookup?_members_eq_none h, members, members, List.map_append]
  rfl

/-- An entry with a known key takes the place of the earlier one. -/
theorem putEntry_members_of_mem (h : key ∈ es.map (·.1)) :
    putEntry (members es) key v = members (es.map fun e => if e.1 = key then (e.1, v) else e) := by
  rw [putEntry, if_pos (isSome_lookup?_members h), members, members, List.map_map, List.map_map]
  refine List.map_congr_left fun e _ => ?_
  show (if some e.1 = some key then (Value.text e.1, v) else (.text e.1, e.2)) = _
  by_cases he : e.1 = key
  · rw [if_pos (congrArg some he), Function.comp_apply, if_pos he]
  · rw [if_neg (mt Option.some.inj he), Function.comp_apply, if_neg he]

/-- Putting an entry into a mapping leaves a mapping with different keys. -/
theorem IsDocument.putEntry {fs : List (Value × Value)} (h : IsDocument (.dict fs))
    (hkey : NoPairs key) (hv : IsDocument v) : IsDocument (.dict (putEntry fs key v)) := by
  cases h with
  | @dict es hkeys hpairs hes =>
    -- A known key keeps its place, and a new one comes last.
    by_cases hmem : key ∈ es.map (·.1)
    · have hfst : (es.map fun e => if e.1 = key then (e.1, v) else e).map (·.1) = es.map (·.1) := by
        rw [List.map_map]
        refine List.map_congr_left fun e _ => ?_
        rw [Function.comp_apply]
        split <;> rfl
      rw [putEntry_members_of_mem hmem]
      refine .dict (hfst ▸ hkeys) (fun e he => ?_) fun e he => ?_
      · obtain ⟨d, hd, rfl⟩ := List.mem_map.1 he
        split
        · exact hpairs d hd
        · exact hpairs d hd
      · obtain ⟨d, hd, rfl⟩ := List.mem_map.1 he
        split
        · exact hv
        · exact hes d hd
    · rw [putEntry_members_of_not_mem hmem]
      refine .dict ?_ ?_ ?_
      · rw [List.map_append, List.nodup_append]
        refine ⟨hkeys, List.nodup_singleton _, fun a ha b hb hab => hmem ?_⟩
        obtain rfl := List.mem_singleton.1 hb
        exact hab ▸ ha
      · exact List.forall_mem_append.2 ⟨hpairs, List.forall_mem_singleton.2 hkey⟩
      · exact List.forall_mem_append.2 ⟨hes, List.forall_mem_singleton.2 hv⟩

end Entries

/-! ### Reading what is written -/

section Reading

variable {limit : Option ℕ} {fuel : ℕ}

/-- Where there are no blanks none are skipped. -/
theorem skipBlanks_cons {c : CodePoint} {t : Text} (h : isBlank c = false) :
    skipBlanks (c :: t) = c :: t := List.dropWhile_cons_of_neg (by simp [h])

/-- A text of blanks. -/
def AreBlanks (b : Text) : Prop := ∀ c ∈ b, isBlank c = true

theorem areBlanks_nil : AreBlanks [] := fun _ hc => absurd hc List.not_mem_nil

/-- Blanks are skipped up to the first character that is none. -/
theorem skipBlanks_append {b u : Text} (hb : AreBlanks b) (hu : ∀ c ∈ u.head?, isBlank c = false) :
    skipBlanks (b ++ u) = u := by
  rw [skipBlanks, List.dropWhile_append_of_pos hb]
  cases u with
  | nil => rfl
  | cons c u => exact skipBlanks_cons (hu c rfl)

/-- Blanks in front of a mark are skipped. -/
theorem skipBlanks_mark {b : Text} {c : CodePoint} (hb : AreBlanks b) (hc : isBlank c = false)
    (u : Text) : skipBlanks (b ++ c :: u) = c :: u :=
  skipBlanks_append hb fun d hd => by cases hd; exact hc

/-- A value begins neither with a blank nor with the end of an array. -/
theorem exists_cons_of_readValue {t : Text} {r : Value × Text}
    (h : readValue limit fuel t = .ok r) :
    ∃ c u, t = c :: u ∧ isBlank c = false ∧ c.val ≠ 93 := by
  cases fuel with
  | zero => rw [readValue] at h; cases h
  | succ fuel =>
    cases t with
    | nil => rw [readValue] at h; cases h
    | cons c u =>
      refine ⟨c, u, rfl, ?_⟩
      by_contra hc
      -- None of the five characters begins a text, an array, an object, a word or a number.
      have hval : c.val = 32 ∨ c.val = 9 ∨ c.val = 10 ∨ c.val = 13 ∨ c.val = 93 := by
        simp only [isBlank, Bool.or_eq_false_iff, beq_eq_false_iff_ne, not_and_or, ne_eq,
          not_not] at hc
        omega
      have hdigit : c.isAsciiDigit = false := by
        rw [CodePoint.isAsciiDigit_eq_false_iff]
        omega
      have hword : readWord (c :: u) = none := by
        refine readWord_eq_none ?_
        simp only [List.mem_cons, List.not_mem_nil, or_false]
        omega
      have hwhole : readWhole (c :: u) = none := by
        rw [readWhole.eq_def]
        dsimp only
        rw [if_neg (by omega), if_neg (by rw [hdigit]; decide)]
      rw [readValue, if_neg (by omega), if_neg (by omega), if_neg (by omega), hword] at h
      dsimp only at h
      rw [if_neg (by omega), readNumber, hwhole] at h
      cases h

/-- The value is read back from its written form, whatever follows that does not go on with it. -/
def ReadsBack (v : Value) : Prop :=
  ∀ fuel rest, (write v).length ≤ fuel → EndsNumber rest →
    readValue (some Numeral.digitLimit) (fuel + 1) (write v ++ rest) = .ok (v, rest)

/-- A written form that is read back begins with a character of the value. -/
theorem ReadsBack.exists_cons {v : Value} (h : ReadsBack v) :
    ∃ c u, write v = c :: u ∧ isBlank c = false ∧ c.val ≠ 93 := by
  have hread := h (write v).length [] le_rfl endsNumber_nil
  rw [List.append_nil] at hread
  exact exists_cons_of_readValue hread

/-! ### Arrays -/

section Items

variable {done : List Value} {b t u : Text} {c : CodePoint} {o : Outcome Value}

/-- The last member ends the array. -/
theorem readItems_close (hb : AreBlanks b) (hblank : isBlank c = false) (hc : c.val = 93)
    (h : readValue limit fuel t = o.map fun x => (x, b ++ c :: u)) :
    readItems limit (fuel + 1) done t =
      (o.map fun x => .list (x :: done).reverse).map fun v => (v, u) := by
  rw [readItems, h]
  cases o with
  | error e => rfl
  | ok x =>
    dsimp only [Except.map]
    rw [ok_bind]
    dsimp only
    rw [skipBlanks_mark hb hblank]
    exact if_pos hc

/-- Behind a comma further members are read. -/
theorem readItems_comma (hb : AreBlanks b) (hblank : isBlank c = false) (hc : c.val = 44)
    (h : readValue limit fuel t = o.map fun x => (x, b ++ c :: u)) :
    readItems limit (fuel + 1) done t =
      o >>= fun x => readItems limit fuel (x :: done) (skipBlanks u) := by
  rw [readItems, h]
  cases o with
  | error e => rfl
  | ok x =>
    dsimp only [Except.map]
    rw [ok_bind]
    dsimp only
    rw [skipBlanks_mark hb hblank]
    exact (if_neg (by omega)).trans (if_pos hc)

end Items

private theorem readItems_last {t rest : Text} {v : Value} (done : List Value)
    (h : readValue limit fuel t = .ok (v, (']' : CodePoint) :: rest)) :
    readItems limit (fuel + 1) done t = .ok (.list (done.reverse ++ [v]), rest) := by
  rw [← List.reverse_cons]
  exact readItems_close (o := .ok v) areBlanks_nil (by decide) (by decide) h

private theorem readItems_next {t rest : Text} {v : Value} (done : List Value)
    (h : readValue limit fuel t = .ok (v, (',' : CodePoint) :: (' ' : CodePoint) :: rest)) :
    readItems limit (fuel + 1) done t = readItems limit fuel (v :: done) (skipBlanks rest) :=
  readItems_comma (o := .ok v) (c := ',') (u := ' ' :: rest) areBlanks_nil (by decide) (by decide) h

private theorem writeItems_cons_cons (x y : Value) (ys : List Value) :
    writeItems (x :: y :: ys) =
      write x ++ ((',' : CodePoint) :: (' ' : CodePoint) :: writeItems (y :: ys)) := by
  rw [writeItems, List.append_assoc]
  · rfl
  · exact List.cons_ne_nil _ _

/-- The members of an array begin like the first of them. -/
theorem exists_cons_of_writeItems {xs : List Value} (hne : xs ≠ []) (h : ∀ x ∈ xs, ReadsBack x) :
    ∃ c u, writeItems xs = c :: u ∧ isBlank c = false ∧ c.val ≠ 93 := by
  obtain ⟨x, ys, rfl⟩ := List.exists_cons_of_ne_nil hne
  obtain ⟨c, u, hcons, hc⟩ := (h x List.mem_cons_self).exists_cons
  cases ys with
  | nil => exact ⟨c, u, hcons, hc⟩
  | cons y ys => exact ⟨c, _, by rw [writeItems_cons_cons, hcons, List.cons_append], hc⟩

/-- The members of an array are read back from its first member on. -/
theorem readItems_writeItems {xs : List Value} (hne : xs ≠ []) (h : ∀ x ∈ xs, ReadsBack x)
    (done : List Value) (rest : Text) (hfuel : (writeItems xs).length + 2 ≤ fuel) :
    readItems (some Numeral.digitLimit) fuel done (writeItems xs ++ (']' : CodePoint) :: rest) =
      .ok (.list (done.reverse ++ xs), rest) := by
  induction xs generalizing fuel done with
  | nil => exact absurd rfl hne
  | cons x xs ih =>
    -- One step is taken for the member itself, and the rest of the fuel reads what follows.
    obtain ⟨fuel, rfl⟩ : ∃ k, fuel = k + 2 := ⟨fuel - 2, by omega⟩
    obtain ⟨hx, hxs⟩ := List.forall_mem_cons.1 h
    cases xs with
    | nil =>
      exact readItems_last done
        (hx fuel _ (Nat.le_of_add_le_add_right hfuel) (endsNumber_cons rest (by decide)))
    | cons y ys =>
      have hne' : y :: ys ≠ [] := List.cons_ne_nil _ _
      obtain ⟨c, u, hcons, hblank, -⟩ := exists_cons_of_writeItems hne' hxs
      rw [writeItems_cons_cons, List.length_append, List.length_cons, List.length_cons] at hfuel
      rw [writeItems_cons_cons, List.append_assoc, List.cons_append, List.cons_append,
        readItems_next done (hx fuel _ (by omega) (endsNumber_cons _ (by decide))), hcons,
        List.cons_append, skipBlanks_cons hblank, ← List.cons_append, ← hcons,
        ih hne' hxs (x :: done) (by omega), List.reverse_cons, List.append_assoc]
      rfl

/-! ### Objects -/

section Marks

variable {done : List (Value × Value)} {key b s t t' u : Text}
  {q d c : CodePoint} {o : Outcome Value}

/-- The last entry ends the object. -/
theorem readEntries_close (hq : q.val = 34) (hkey : readString s = some (key, t))
    (hcolon : skipBlanks t = d :: t') (hd : d.val = 58) (hb : AreBlanks b)
    (hblank : isBlank c = false) (hc : c.val = 125)
    (h : readValue limit fuel (skipBlanks t') = o.map fun x => (x, b ++ c :: u)) :
    readEntries limit (fuel + 1) done (q :: s) =
      (o.map fun x => .dict (putEntry done key x)).map fun v => (v, u) := by
  rw [readEntries, if_neg (not_not_intro hq), hkey]
  dsimp only
  rw [hcolon]
  dsimp only
  rw [if_neg (not_not_intro hd), h]
  cases o with
  | error e => rfl
  | ok x =>
    dsimp only [Except.map]
    rw [ok_bind]
    dsimp only
    rw [skipBlanks_mark hb hblank]
    exact if_pos hc

/-- Behind a comma further entries are read. -/
theorem readEntries_comma (hq : q.val = 34) (hkey : readString s = some (key, t))
    (hcolon : skipBlanks t = d :: t') (hd : d.val = 58) (hb : AreBlanks b)
    (hblank : isBlank c = false) (hc : c.val = 44)
    (h : readValue limit fuel (skipBlanks t') = o.map fun x => (x, b ++ c :: u)) :
    readEntries limit (fuel + 1) done (q :: s) =
      o >>= fun x => readEntries limit fuel (putEntry done key x) (skipBlanks u) := by
  rw [readEntries, if_neg (not_not_intro hq), hkey]
  dsimp only
  rw [hcolon]
  dsimp only
  rw [if_neg (not_not_intro hd), h]
  cases o with
  | error e => rfl
  | ok x =>
    dsimp only [Except.map]
    rw [ok_bind]
    dsimp only
    rw [skipBlanks_mark hb hblank]
    exact (if_neg (by omega)).trans (if_pos hc)

end Marks

section Objects

variable {s t rest : Text} {done : List (Value × Value)} {key : Text} {v : Value}

private theorem readEntries_last
    (hkey : readString s = some (key, (':' : CodePoint) :: (' ' : CodePoint) :: t))
    (h : readValue limit fuel (skipBlanks t) = .ok (v, ('\x7d' : CodePoint) :: rest)) :
    readEntries limit (fuel + 1) done (('"' : CodePoint) :: s) =
      .ok (.dict (putEntry done key v), rest) :=
  readEntries_close (o := .ok v) (by decide) hkey (skipBlanks_cons (by decide)) (by decide)
    areBlanks_nil (by decide) (by decide) h

private theorem readEntries_next
    (hkey : readString s = some (key, (':' : CodePoint) :: (' ' : CodePoint) :: t))
    (h : readValue limit fuel (skipBlanks t) =
      .ok (v, (',' : CodePoint) :: (' ' : CodePoint) :: rest)) :
    readEntries limit (fuel + 1) done (('"' : CodePoint) :: s) =
      readEntries limit fuel (putEntry done key v) (skipBlanks rest) :=
  readEntries_comma (o := .ok v) (c := ',') (u := ' ' :: rest) (by decide) hkey
    (skipBlanks_cons (by decide)) (by decide) areBlanks_nil (by decide) (by decide) h

private theorem writeEntries_singleton (e : Text × Value) :
    writeEntries (members [e]) =
      ('"' : CodePoint) :: (e.1.flatMap escapeChar ++
        (('"' : CodePoint) :: (':' : CodePoint) :: (' ' : CodePoint) :: write e.2)) := by
  show writeEntries [(.text e.1, e.2)] = _
  rw [writeEntries, writeString, List.append_assoc, List.append_assoc, List.append_assoc]
  rfl

private theorem writeEntries_cons_cons (e d : Text × Value) (es : List (Text × Value)) :
    writeEntries (members (e :: d :: es)) =
      writeEntries (members [e]) ++
        ((',' : CodePoint) :: (' ' : CodePoint) :: writeEntries (members (d :: es))) := by
  show writeEntries ((.text e.1, e.2) :: members (d :: es)) = _
  rw [writeEntries, List.append_assoc]
  · rfl
  · exact List.cons_ne_nil _ _

/-- The entries of an object begin with the quote of the first key. -/
theorem exists_cons_of_writeEntries {es : List (Text × Value)} (hne : es ≠ []) :
    ∃ u, writeEntries (members es) = ('"' : CodePoint) :: u := by
  obtain ⟨e, ds, rfl⟩ := List.exists_cons_of_ne_nil hne
  cases ds with
  | nil => exact ⟨_, writeEntries_singleton e⟩
  | cons d ds =>
    exact ⟨_, by rw [writeEntries_cons_cons, writeEntries_singleton, List.cons_append]⟩

end Objects

/-- The entries of an object are read back from its first key on. -/
theorem readEntries_writeEntries {es : List (Text × Value)} (hne : es ≠ [])
    (done : List (Text × Value)) (hkeys : ((done ++ es).map (·.1)).Nodup)
    (hpairs : ∀ e ∈ es, NoPairs e.1) (h : ∀ e ∈ es, ReadsBack e.2) (rest : Text)
    (hfuel : (writeEntries (members es)).length + 2 ≤ fuel) :
    readEntries (some Numeral.digitLimit) fuel (members done)
        (writeEntries (members es) ++ ('\x7d' : CodePoint) :: rest) =
      .ok (.dict (members (done ++ es)), rest) := by
  induction es generalizing fuel done with
  | nil => exact absurd rfl hne
  | cons e es ih =>
    obtain ⟨fuel, rfl⟩ : ∃ k, fuel = k + 2 := ⟨fuel - 2, by omega⟩
    obtain ⟨he, hes⟩ := List.forall_mem_cons.1 h
    obtain ⟨hpair, hpairs'⟩ := List.forall_mem_cons.1 hpairs
    obtain ⟨c, u, hcons, hblank, -⟩ := he.exists_cons
    -- The keys differ, so every entry that is read is put at the end.
    have hnew : e.1 ∉ done.map (·.1) := fun hmem => by
      rw [List.map_append, List.nodup_append] at hkeys
      exact hkeys.2.2 _ hmem _ List.mem_cons_self rfl
    have hskip (k : Text) : skipBlanks (write e.2 ++ k) = write e.2 ++ k := by
      rw [hcons]
      exact skipBlanks_cons hblank
    -- The key is read to its closing quote, and the value then stands behind the colon.
    have htext (k : Text) : writeEntries (members [e]) ++ k =
        ('"' : CodePoint) :: (e.1.flatMap escapeChar ++
          ('"' : CodePoint) :: (':' : CodePoint) :: (' ' : CodePoint) :: (write e.2 ++ k)) := by
      rw [writeEntries_singleton, List.cons_append, List.append_assoc]
      rfl
    have hkey (k : Text) := readString_escaped hpair
      ((':' : CodePoint) :: (' ' : CodePoint) :: (write e.2 ++ k))
    have hlength : (write e.2).length ≤ (writeEntries (members [e])).length := by
      rw [writeEntries_singleton, List.length_cons, List.length_append, List.length_cons,
        List.length_cons, List.length_cons]
      omega
    cases es with
    | nil =>
      have hread := he fuel (('\x7d' : CodePoint) :: rest) (by omega)
        (endsNumber_cons rest (by decide))
      rw [htext, readEntries_last (hkey _) (by rw [hskip, hread]), putEntry_members_of_not_mem hnew]
    | cons d es =>
      rw [writeEntries_cons_cons, List.length_append, List.length_cons, List.length_cons] at hfuel
      have hread (k : Text) := he fuel ((',' : CodePoint) :: (' ' : CodePoint) :: k) (by omega)
        (endsNumber_cons _ (by decide))
      have hquote (k : Text) : skipBlanks (writeEntries (members (d :: es)) ++ k) =
          writeEntries (members (d :: es)) ++ k := by
        obtain ⟨u, hu⟩ := exists_cons_of_writeEntries (List.cons_ne_nil d es)
        rw [hu]
        exact skipBlanks_cons (by decide)
      rw [writeEntries_cons_cons, List.append_assoc, List.cons_append, List.cons_append, htext,
        readEntries_next (hkey _) (by rw [hskip, hread]), hquote, putEntry_members_of_not_mem hnew,
        ih (List.cons_ne_nil _ _) (done ++ [e]) (by rw [List.append_assoc]; exact hkeys) hpairs' hes
          (by omega), List.append_assoc]
      rfl

/-! ### Values -/

private theorem readValue_text {t : Text} (h : NoPairs t) (rest : Text) :
    readValue limit (fuel + 1) (writeString t ++ rest) = .ok (.text t, rest) := by
  have htext : writeString t ++ rest =
      ('"' : CodePoint) :: (t.flatMap escapeChar ++ ('"' : CodePoint) :: rest) := by
    rw [writeString, List.append_assoc, List.append_assoc]
    rfl
  rw [htext, readValue, if_pos (by decide), readString_escaped h]

section Brackets

variable {s u : Text} {c d : CodePoint}

/-- A bracket opens a list, which ends at once or goes on with its first member. -/
theorem readValue_bracket (hc : c.val = 91) (h : skipBlanks s = d :: u) :
    readValue limit (fuel + 1) (c :: s) =
      if d.val = 93 then .ok (.list [], u) else readItems limit fuel [] (d :: u) := by
  rw [readValue, if_neg (by omega), if_pos hc, h]

/-- A brace opens an object, which ends at once or goes on with its first member. -/
theorem readValue_brace (hc : c.val = 123) (h : skipBlanks s = d :: u) :
    readValue limit (fuel + 1) (c :: s) =
      if d.val = 125 then .ok (.dict [], u) else readEntries limit fuel [] (d :: u) := by
  rw [readValue, if_neg (by omega), if_neg (by omega), if_pos hc, h]

end Brackets

private theorem readValue_array {c : CodePoint} {t u : Text} (h : t = c :: u)
    (hblank : isBlank c = false) (hend : c.val ≠ 93) :
    readValue limit (fuel + 1) (('[' : CodePoint) :: t) = readItems limit fuel [] t := by
  subst h
  exact (readValue_bracket (by decide) (skipBlanks_cons hblank)).trans (if_neg hend)

private theorem readValue_object {t : Text} :
    readValue limit (fuel + 1) (('\x7b' : CodePoint) :: ('"' : CodePoint) :: t) =
      readEntries limit fuel [] (('"' : CodePoint) :: t) :=
  (readValue_brace (by decide) (skipBlanks_cons (by decide))).trans (if_neg (by decide))

/-- A value of a document is read back from its written form. -/
theorem IsDocument.readsBack {v : Value} (h : IsDocument v) : ReadsBack v := by
  induction h with
  | null =>
    intro fuel rest hfuel _
    rfl
  | bool b =>
    intro fuel rest hfuel _
    cases b <;> rfl
  | int h =>
    intro fuel rest hfuel hrest
    exact readValue_ofInt h hrest
  | float x =>
    intro fuel rest hfuel hrest
    exact readValue_writeFloat x hrest
  | text h =>
    intro fuel rest hfuel _
    exact readValue_text h rest
  | @list xs _ ih =>
    intro fuel rest hfuel _
    by_cases hne : xs = []
    · subst hne
      rfl
    · obtain ⟨c, u, hcons, hblank, hend⟩ := exists_cons_of_writeItems hne ih
      have htext : write (.list xs) ++ rest =
          ('[' : CodePoint) :: (writeItems xs ++ (']' : CodePoint) :: rest) := by
        rw [write, List.append_assoc, List.append_assoc]
        rfl
      rw [htext, readValue_array (by rw [hcons, List.cons_append]) hblank hend]
      have hlength : (write (.list xs)).length = (writeItems xs).length + 2 := by
        rw [write, List.length_append, List.length_append]
        exact Nat.add_comm 1 _
      exact readItems_writeItems hne ih [] rest (hlength ▸ hfuel)
  | @dict es hkeys hpairs _ ih =>
    intro fuel rest hfuel _
    by_cases hne : es = []
    · subst hne
      rfl
    · obtain ⟨u, hu⟩ := exists_cons_of_writeEntries hne
      have htext : write (.dict (members es)) ++ rest =
          ('\x7b' : CodePoint) :: (writeEntries (members es) ++ ('\x7d' : CodePoint) :: rest) := by
        rw [write, List.append_assoc, List.append_assoc]
        rfl
      have hlength : (write (.dict (members es))).length =
          (writeEntries (members es)).length + 2 := by
        rw [write, List.length_append, List.length_append]
        exact Nat.add_comm 1 _
      have hread := readEntries_writeEntries hne [] hkeys hpairs ih rest (hlength ▸ hfuel)
      rw [htext]
      rw [hu] at hread ⊢
      exact readValue_object.trans hread

end Reading

/-- A value of a document is what its written form is read as. -/
theorem read_write {v : Value} (h : IsDocument v) : read (write v) = .ok v := by
  have hback := h.readsBack
  obtain ⟨c, u, hcons, hblank, -⟩ := hback.exists_cons
  have hread := hback (2 * (write v).length + 1) [] (by omega) endsNumber_nil
  have hskip : skipBlanks (write v) = write v := by
    rw [hcons]
    exact skipBlanks_cons hblank
  rw [List.append_nil] at hread
  rw [read, readWith, hskip, hread]
  rfl

/-! ### What is read -/

section Read

variable {fuel : ℕ} {t : Text} {r : Value × Text}

/-- What is read as digits are digits. -/
theorem areDigits_readDigits (t : Text) : AreDigits (Decimal.readDigits t).1 := by
  intro d hd
  obtain ⟨c, hc, rfl⟩ := List.mem_map.1 hd
  have hdigit := List.all_eq_true.1 List.all_takeWhile c hc
  rw [CodePoint.isAsciiDigit, Bool.and_eq_true, decide_eq_true_iff, decide_eq_true_iff] at hdigit
  omega

/-- What is read as the whole part of a number are digits. -/
theorem areDigits_of_readWhole {p : List ℕ × Text} (h : readWhole t = some p) : AreDigits p.1 := by
  cases t with
  | nil => cases h
  | cons c u =>
    rw [readWhole.eq_def] at h
    dsimp only at h
    split_ifs at h
    · cases h
      exact areDigits_replicate 1
    · cases h
      exact areDigits_readDigits _

private theorem isDocument_of_readNumber {negative : Bool}
    (h : readNumber (some Numeral.digitLimit) negative t = .ok r) : IsDocument r.1 := by
  rw [readNumber] at h
  split at h
  · cases h
  · next whole rest hwhole =>
    dsimp only at h
    split at h
    · split at h
      · cases h
      · next hlong =>
        cases h
        have hlength : whole.length ≤ Numeral.digitLimit :=
          not_lt.1 fun hlt => hlong (decide_eq_true hlt)
        have hpow : 10 ^ whole.length ≤ 10 ^ Numeral.digitLimit :=
          Nat.pow_le_pow_right (by decide) hlength
        have hlt : natOfDigits whole < 10 ^ Numeral.digitLimit :=
          (natOfDigits_lt (areDigits_of_readWhole hwhole)).trans_le hpow
        refine .int (decide_eq_true ?_)
        rw [Nat.pow_eq]
        cases negative
        · exact hlt
        · exact lt_of_eq_of_lt (Int.natAbs_neg _) hlt
    · cases h
      exact .float _

private theorem isDocument_of_readWord (h : readWord t = some r) : IsDocument r.1 := by
  have hwords : ∀ e ∈ words, IsDocument e.2 := by
    simp only [words, List.forall_mem_cons, List.not_mem_nil, false_imp_iff, implies_true, and_true]
    exact ⟨.null, .bool _, .bool _, .float _, .float _, .float _⟩
  obtain ⟨e, he, h⟩ := List.exists_of_findSome?_eq_some h
  obtain ⟨rest, -, rfl⟩ := Option.map_eq_some_iff.1 h
  exact hwords e he

/-- With this much fuel the readers lead to values of documents. -/
structure ReadsDocuments (fuel : ℕ) : Prop where
  value : ∀ {t r}, readValue (some Numeral.digitLimit) fuel t = .ok r → IsDocument r.1
  items : ∀ {done t r}, (∀ x ∈ done, IsDocument x) →
    readItems (some Numeral.digitLimit) fuel done t = .ok r → IsDocument r.1
  entries : ∀ {done t r}, IsDocument (.dict done) →
    readEntries (some Numeral.digitLimit) fuel done t = .ok r → IsDocument r.1

section Steps

variable {fuel : ℕ} (ih : ReadsDocuments fuel)
include ih

private theorem isDocument_of_readValue_succ
    (h : readValue (some Numeral.digitLimit) (fuel + 1) t = .ok r) : IsDocument r.1 := by
  rw [readValue.eq_def] at h
  dsimp only at h
  -- The first character decides what is read.
  split at h
  · cases h
  split_ifs at h
  · split at h
    · next hread =>
      cases h
      exact .text (noPairs_of_readString hread)
    · cases h
  · split at h
    · cases h
    · split_ifs at h
      · cases h
        exact .list fun x hx => by cases hx
      · exact ih.items (fun x hx => by cases hx) h
  · split at h
    · cases h
    · split_ifs at h
      · cases h
        exact isDocument_dict_nil
      · exact ih.entries isDocument_dict_nil h
  -- A minus sign can begin a word as well as a number.
  · split at h
    · next hword =>
      cases h
      exact isDocument_of_readWord hword
    · exact isDocument_of_readNumber h
  · split at h
    · next hword =>
      cases h
      exact isDocument_of_readWord hword
    · exact isDocument_of_readNumber h

private theorem isDocument_of_readItems_succ {done : List Value} (hdone : ∀ x ∈ done, IsDocument x)
    (h : readItems (some Numeral.digitLimit) (fuel + 1) done t = .ok r) : IsDocument r.1 := by
  rw [readItems] at h
  obtain ⟨⟨v, rest⟩, hv, h⟩ := bind_eq_ok_iff.1 h
  have hdone' : ∀ x ∈ v :: done, IsDocument x := List.forall_mem_cons.2 ⟨ih.value hv, hdone⟩
  dsimp only at h
  split at h
  · cases h
  split_ifs at h
  · cases h
    exact .list fun x hx => hdone' x (List.mem_reverse.1 hx)
  · exact ih.items hdone' h

private theorem isDocument_of_readEntries_succ {done : List (Value × Value)}
    (hdone : IsDocument (.dict done))
    (h : readEntries (some Numeral.digitLimit) (fuel + 1) done t = .ok r) : IsDocument r.1 := by
  rw [readEntries.eq_def] at h
  dsimp only at h
  split at h
  · cases h
  split at h
  · cases h
  split at h
  · cases h
  · next key rest hkey =>
    split at h
    · cases h
    split at h
    · cases h
    obtain ⟨⟨v, rest⟩, hv, h⟩ := bind_eq_ok_iff.1 h
    -- A key that occurred before is put in its place again, so the keys stay distinct.
    have hdone' := hdone.putEntry (noPairs_of_readString hkey) (ih.value hv)
    dsimp only at h
    split at h
    · cases h
    split_ifs at h
    · cases h
      exact hdone'
    · exact ih.entries hdone' h

end Steps

/-- Every step of reading leads to values of documents. -/
theorem readsDocuments (fuel : ℕ) : ReadsDocuments fuel := by
  induction fuel with
  | zero =>
    refine ⟨fun h => ?_, fun _ h => ?_, fun _ h => ?_⟩
    · rw [readValue] at h
      cases h
    · rw [readItems] at h
      cases h
    · rw [readEntries] at h
      cases h
  | succ fuel ih =>
    exact ⟨isDocument_of_readValue_succ ih, isDocument_of_readItems_succ ih,
      isDocument_of_readEntries_succ ih⟩

end Read

/-- What is read is a value of a document. -/
theorem isDocument_of_read {t : Text} {v : Value} (h : read t = .ok v) : IsDocument v := by
  rw [read, readWith] at h
  obtain ⟨⟨w, rest⟩, hw, h⟩ := bind_eq_ok_iff.1 h
  dsimp only at h
  split_ifs at h
  cases h
  exact (readsDocuments _).value hw

/-! ### ASCII -/

section Shown

private theorem allShown_digitText {ds : List ℕ} (h : AreDigits ds) : AllShown (digitText ds) := by
  intro c hc
  obtain ⟨d, hd, rfl⟩ := List.mem_map.1 hc
  have hlt := h d hd
  rw [IsShown, val_digitChar hlt]
  omega

private theorem allShown_ofNat (n : ℕ) : AllShown (ofNat n) := by
  rw [ofNat_eq_digitText]
  exact allShown_digitText (areDigits_digits n)

/-- The characters of a whole number are shown as they are. -/
theorem allShown_ofInt (n : ℤ) : AllShown (ofInt n) := by
  cases n with
  | ofNat k => exact allShown_ofNat k
  | negSucc k => exact .append (t := [('-' : CodePoint)]) (by decide) (allShown_ofNat (k + 1))

private theorem allShown_minus (s : Bool) : AllShown (minus s) := by
  cases s <;> decide

private theorem allShown_powerPart (p : Option ℤ) : AllShown (Binary64.powerPart p) := by
  cases p with
  | none => decide
  | some e =>
    rw [Binary64.powerPart, ofNatPadded_eq]
    refine .append (by decide) (.append ?_ (allShown_digitText (areDigits_padded 2 _)))
    split <;> decide

private theorem allShown_fractionText {ds : List ℕ} (h : AreDigits ds) :
    AllShown (fractionText ds) := by
  rw [fractionText]
  split
  · decide
  · exact .append (by decide) (allShown_digitText h)

/-- The characters of a floating-point number are shown as they are. -/
theorem allShown_writeFloat (x : Binary64) : AllShown (writeFloat x) := by
  cases x with
  | infinity s => cases s <;> decide
  | nan => decide
  | finite s m e h =>
    obtain ⟨w, f, p, hw, hf, -, -, -, htext⟩ := writeFloat_finite (s := s) h
    rw [htext]
    exact .append (allShown_minus s) (.append (.append (allShown_digitText hw)
      (allShown_fractionText hf)) (allShown_powerPart p))

private theorem allShown_writeItems {xs : List Value} (h : ∀ x ∈ xs, AllShown (write x)) :
    AllShown (writeItems xs) := by
  induction xs with
  | nil => decide
  | cons x xs ih =>
    obtain ⟨hx, hxs⟩ := List.forall_mem_cons.1 h
    cases xs with
    | nil => exact hx
    | cons y ys =>
      rw [writeItems_cons_cons]
      exact .append hx (.append (t := [',', ' ']) (by decide) (ih hxs))

private theorem allShown_writeEntries {es : List (Text × Value)}
    (h : ∀ e ∈ es, AllShown (write e.2)) : AllShown (writeEntries (members es)) := by
  induction es with
  | nil => decide
  | cons e es ih =>
    obtain ⟨he, hes⟩ := List.forall_mem_cons.1 h
    have hentry : AllShown (writeEntries (members [e])) :=
      .append (.append (allShown_writeString e.1) (by decide)) he
    cases es with
    | nil => exact hentry
    | cons d ds =>
      rw [writeEntries_cons_cons]
      exact hentry.append (.append (t := [',', ' ']) (by decide) (ih hes))

/-- A document is written on one line of ASCII characters. -/
theorem allShown_write {v : Value} (h : IsDocument v) : AllShown (write v) := by
  induction h with
  | null => decide
  | bool b => cases b <;> decide
  | @int n _ => exact allShown_ofInt n
  | float x => exact allShown_writeFloat x
  | text _ => exact allShown_writeString _
  | list _ ih => exact .append (by decide) (.append (allShown_writeItems ih) (by decide))
  | dict _ _ _ ih => exact .append (by decide) (.append (allShown_writeEntries ih) (by decide))

end Shown

end LedgerTags.Json
