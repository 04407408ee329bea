import LedgerTags.Proofs.Lines
import LedgerTags.Proofs.Octets
import LedgerTags.Proofs.Reflexivity

/-!
# The interchange text is read back

Transactions that were read, from octets of any form, can be written in both layouts, and what is
written is read as the same transactions in the same order (`readOctets_write`).
-/

namespace LedgerTags.Interchange

open Json Text

/-! ### Objects on lines -/

private theorem isLine_write {v : Value} (h : IsDocument v) (first last : CodePoint) {t : Text}
    (heq : Json.write v = first :: (t ++ [last])) (hfirst : first.isSpace = false)
    (hlast : last.isSpace = false) : IsLine (Json.write v) where
  shown := allShown_write h
  first := ⟨first, by rw [heq]; rfl, hfirst⟩
  last := ⟨last, by rw [heq, ← List.cons_append, List.getLast?_append]; rfl, hlast⟩

private theorem isLine_write_dict {row : List (Value × Value)} (h : IsDocument (.dict row)) :
    IsLine (Json.write (.dict row)) :=
  isLine_write h '\x7b' '\x7d' rfl (by decide) (by decide)

private theorem isLine_write_list {vs : List Value} (h : IsDocument (.list vs)) :
    IsLine (Json.write (.list vs)) :=
  isLine_write h '[' ']' rfl (by decide) (by decide)

section Layouts

variable {rows : List (List (Value × Value))}

/-- The objects of some mappings. -/
def objects (rows : List (List (Value × Value))) : List Value := rows.map .dict

private theorem isDocument_list (h : ∀ row ∈ rows, IsDocument (.dict row)) :
    IsDocument (.list (objects rows)) := by
  refine .list fun v hv => ?_
  obtain ⟨row, hrow, rfl⟩ := List.mem_map.1 hv
  exact h row hrow

private theorem isLine_of_mem (h : ∀ row ∈ rows, IsDocument (.dict row)) :
    ∀ l ∈ (objects rows).map Json.write, IsLine l := by
  intro l hl
  obtain ⟨v, hv, rfl⟩ := List.mem_map.1 hl
  obtain ⟨row, hrow, rfl⟩ := List.mem_map.1 hv
  exact isLine_write_dict (h row hrow)

private theorem isArray_ended {row : List (Value × Value)} :
    isArray (ended ((objects rows).map Json.write) ++ Json.write (.dict row)) = false := by
  cases rows with
  | nil => rfl
  | cons r rows =>
    rw [objects, List.map_cons, List.map_cons, ended_cons]
    rfl

private theorem filter_of_isLine {ls : List Text} (h : ∀ l ∈ ls, IsLine l) :
    ls.filter (fun l => !l.trim.isEmpty) = ls := by
  refine List.filter_eq_self.2 fun l hl => ?_
  rw [(h l hl).trim_eq, List.isEmpty_eq_false_iff.2 (h l hl).ne_nil]
  rfl

private theorem mapM_read (h : ∀ row ∈ rows, IsDocument (.dict row)) :
    ((objects rows).map Json.write).mapM Json.read = .ok (objects rows) := by
  refine mapM_eq_ok_iff.2 ?_
  rw [List.forall₂_map_left_iff, List.forall₂_same]
  intro v hv
  obtain ⟨row, hrow, rfl⟩ := List.mem_map.1 hv
  exact read_write (h row hrow)

/-- Objects on lines are read back. -/
theorem readValues_ended (h : ∀ row ∈ rows, IsDocument (.dict row)) :
    readValues (ended ((objects rows).map Json.write)) = .ok (objects rows) := by
  have hlines := isLine_of_mem h
  have hread := mapM_read h
  rcases List.eq_nil_or_concat' rows with rfl | ⟨init, row, rfl⟩
  · rfl
  -- Trimming takes away the end of the last line, so this one is treated apart.
  · have hobjects : (objects (init ++ [row])).map Json.write =
        (objects init).map Json.write ++ [Json.write (.dict row)] := by
      rw [objects, List.map_append, List.map_append]
      rfl
    rw [hobjects] at hlines hread ⊢
    obtain ⟨hinit, hlast⟩ := List.forall_mem_append.1 hlines
    have hlast := hlast _ List.mem_cons_self
    have hne : (ended ((objects init).map Json.write) ++ Json.write (.dict row)).isEmpty = false :=
      List.isEmpty_eq_false_iff.2 (List.append_ne_nil_of_right_ne_nil _ hlast.ne_nil)
    rw [readValues, trim_ended hinit hlast, hne, isArray_ended, if_neg (by decide),
      if_neg (by decide), readLines, splitLines_ended hinit hlast, filter_of_isLine hlines, hread]

/-- An array of objects is read back. -/
theorem readValues_array (h : ∀ row ∈ rows, IsDocument (.dict row)) :
    readValues (ended [Json.write (.list (objects rows))]) = .ok (objects rows) := by
  have hdocument := isDocument_list h
  have hline := isLine_write_list hdocument
  have htrim : (ended [Json.write (.list (objects rows))]).trim =
      Json.write (.list (objects rows)) := by
    rw [ended_singleton, trim_append_newline hline.first hline.last]
  have hne : (Json.write (.list (objects rows))).isEmpty = false := rfl
  have harray : isArray (Json.write (.list (objects rows))) = true := rfl
  rw [readValues, htrim, hne, harray, if_neg (by decide), if_pos rfl, read_write hdocument]
  rfl

/-- The lines of a text that is written. -/
def layoutLines (layout : Layout) (rows : List (List (Value × Value))) : List Text :=
  match layout with
  | .lines => (objects rows).map Json.write
  | .array => [Json.write (.list (objects rows))]

/-- Every line that is written is a line for the reader. -/
theorem isLine_layoutLines (h : ∀ row ∈ rows, IsDocument (.dict row)) (layout : Layout) :
    ∀ l ∈ layoutLines layout rows, IsLine l := by
  cases layout with
  | lines => exact isLine_of_mem h
  | array => exact List.forall_mem_singleton.2 (isLine_write_list (isDocument_list h))

/-- The lines that are written of some objects are read back in either layout. -/
theorem readValues_layoutLines (h : ∀ row ∈ rows, IsDocument (.dict row)) (layout : Layout) :
    readValues (ended (layoutLines layout rows)) = .ok (objects rows) := by
  cases layout with
  | lines => exact readValues_ended h
  | array => exact readValues_array h

/-- A list of objects is a list of mappings. -/
theorem mappings?_objects (rows : List (List (Value × Value))) :
    mappings? (objects rows) = some rows := by
  induction rows with
  | nil => rfl
  | cons row rows ih =>
    rw [objects, List.map_cons, mappings?, List.mapM_cons]
    show (mappings? (objects rows)).bind (fun rows => some (row :: rows)) = _
    rw [ih]
    rfl

/-- Documents that are mappings are the objects of these. -/
theorem eq_objects_of_mappings? {vs : List Value} (hvs : ∀ v ∈ vs, IsDocument v)
    (h : mappings? vs = some rows) : vs = objects rows := by
  induction vs generalizing rows with
  | nil =>
    cases h
    rfl
  | cons v vs ih =>
    obtain ⟨hv, hvs'⟩ := List.forall_mem_cons.1 hvs
    rw [mappings?, List.mapM_cons, Option.bind_eq_bind, Option.bind_eq_some_iff] at h
    obtain ⟨row, hrow, h⟩ := h
    obtain ⟨rows, hrows, h⟩ := Option.bind_eq_some_iff.1 h
    cases h
    rw [ih hvs' hrows]
    cases hv with
    | dict _ _ _ =>
      cases hrow
      rfl
    | _ => cases hrow

end Layouts

/-! ### What is read -/

private theorem isDocument_of_readValues {t : Text} {vs : List Value} (h : readValues t = .ok vs) :
    ∀ v ∈ vs, IsDocument v := by
  rw [readValues] at h
  split at h
  · cases h
    exact fun v hv => by cases hv
  split at h
  · obtain ⟨v, hv, h⟩ := bind_eq_ok_iff.1 h
    cases h
    -- Nothing but an array has members to speak of.
    cases isDocument_of_read hv with
    | list hxs => exact hxs
    | _ => exact fun v hv => by cases hv
  · intro v hv
    obtain ⟨l, -, hl⟩ := exists_of_mem_mapM h hv
    exact isDocument_of_read hl

/-- What is read consists of transactions with definite fields. -/
theorem isRead_of_read {source t : Text} {ts : List Transaction} (h : read source t = .ok ts) :
    ∀ x ∈ ts, x.IsRead := by
  obtain ⟨vs, hvs, h⟩ := bind_eq_ok_iff.1 h
  split at h
  · cases h
  · next rows hrows =>
    have hobjects := eq_objects_of_mappings? (isDocument_of_readValues hvs) hrows
    have hdocument := isDocument_of_readValues hvs
    intro x hx
    obtain ⟨row, hrow, hread⟩ := exists_of_mem_mapM h hx
    rw [hobjects] at hdocument
    exact Transaction.isRead_of_ofMapping (hdocument _ (List.mem_map_of_mem hrow)) hread

/-! ### Writing and reading back -/

/-- The objects of transactions that hold values of documents are read as the same transactions, but
for names and notes that do not count as present. -/
theorem exists_objects_of_isWritable {ts : List Transaction} (hts : ∀ t ∈ ts, t.IsWritable)
    (hdocuments : ∀ t ∈ ts, t.HoldsDocuments) (hnumbers : ∀ t ∈ ts, t.HasNumbers) :
    ∃ rows, ts.mapM object = .ok (objects rows) ∧ (∀ row ∈ rows, IsDocument (.dict row)) ∧
      rows.mapM Transaction.ofMapping = .ok (ts.map Transaction.readBack) := by
  induction ts with
  | nil => exact ⟨[], rfl, ⟨fun row hrow => (List.not_mem_nil hrow).elim, rfl⟩⟩
  | cons t ts ih =>
    obtain ⟨ht, hts⟩ := List.forall_mem_cons.1 hts
    obtain ⟨hdocument, hdocuments⟩ := List.forall_mem_cons.1 hdocuments
    obtain ⟨hnumber, hnumbers⟩ := List.forall_mem_cons.1 hnumbers
    obtain ⟨rows, hobjects, hrows, hread⟩ := ih hts hdocuments hnumbers
    obtain ⟨m, hm, hback, hrow⟩ := Transaction.ofMapping_toMapping_of_isWritable ht hnumber
    refine ⟨Transaction.mappingValue m :: rows, ?_,
      List.forall_mem_cons.2 ⟨hrow hdocument, hrows⟩, ?_⟩
    · rw [List.mapM_cons, hobjects, object, hm]
      rfl
    · rw [List.mapM_cons, hback, hread]
      rfl

/-- The objects of transactions that were read are read as the same transactions. -/
theorem exists_objects {ts : List Transaction} (hts : ∀ t ∈ ts, t.IsRead)
    (hnan : ∀ t ∈ ts, t.toValue.holdsNaN = false) :
    ∃ rows, ts.mapM object = .ok (objects rows) ∧ (∀ row ∈ rows, IsDocument (.dict row)) ∧
      rows.mapM Transaction.ofMapping = .ok ts := by
  -- No field holds a NaN, so in particular the two amounts are none.
  have hnumbers : ∀ t ∈ ts, t.HasNumbers := by
    intro t ht
    have hamount {x : Decimal} (f : Field) (hx : t.get f = .decimal x) : x.isNaN = false := by
      have hfield := Transaction.holdsNaN_get (hnan t ht) f
      rwa [hx] at hfield
    exact ⟨fun _ => hamount .amount, fun _ => hamount .balance⟩
  have hback : ts.map Transaction.readBack = ts := by
    conv_rhs => rw [← List.map_id ts]
    exact List.map_congr_left fun t ht => (hts t ht).readBack_eq
  obtain ⟨rows, hobjects, hdocuments, hread⟩ := exists_objects_of_isWritable
    (fun t ht => (hts t ht).isWritable) (fun t ht => (hts t ht).holdsDocuments) hnumbers
  exact ⟨rows, hobjects, hdocuments, by rw [hread, hback]⟩

/-- Lines together hold no surrogates. -/
theorem isScalar_ended {ls : List Text} (h : ∀ l ∈ ls, IsLine l) : (ended ls).IsScalar := by
  intro c hc
  obtain ⟨l, hl, hc⟩ := List.mem_flatMap.1 hc
  exact IsScalar.append (.of_allShown (h l hl).shown) (by decide : IsScalar ['\n']) c hc

/-- Unifying the ends of lines leaves written lines as they are. -/
theorem unifyNewlines_ended {ls : List Text} (h : ∀ l ∈ ls, IsLine l) :
    unifyNewlines (ended ls) = ended ls := by
  refine unifyNewlines_eq_self fun c hc => ?_
  obtain ⟨l, hl, hc⟩ := List.mem_flatMap.1 hc
  rcases List.mem_append.1 hc with hc | hc
  · have hshown := (h l hl).shown c hc
    rw [IsShown] at hshown
    omega
  · rw [List.mem_singleton.1 hc]
    decide

/-- Transactions that were read are written in either layout and read back in the same order, and
each of them equals itself. -/
theorem readOctets_write {source : Text} {octets : List UInt8} {ts : List Transaction}
    (h : readOctets source octets = .ok ts) (hnan : ∀ t ∈ ts, t.toValue.holdsNaN = false)
    (layout : Layout) (source' : Text) :
    ∃ text, write layout ts = .ok text ∧ readOctets source' (Utf8.encode text) = .ok ts ∧
      Value.sameList (ts.map (·.toValue)) (ts.map (·.toValue)) = .ok true := by
  have hread : ∀ t ∈ ts, t.IsRead := by
    rw [readOctets] at h
    split at h
    · exact isRead_of_read h
    · cases h
  obtain ⟨rows, hobjects, hdocuments, hback⟩ := exists_objects hread hnan
  have hlines := isLine_layoutLines hdocuments layout
  refine ⟨ended (layoutLines layout rows), ?_, ?_, ?_⟩
  · rw [write, writeLines, hobjects]
    cases layout <;> rfl
  · rw [readOctets, Utf8.decode?_encode (isScalar_ended hlines)]
    dsimp only
    rw [unifyNewlines_ended hlines, read, readValues_layoutLines hdocuments layout, ok_bind,
      mappings?_objects]
    exact hback
  · refine Value.sameList_self fun v hv => ?_
    obtain ⟨t, ht, rfl⟩ := List.mem_map.1 hv
    exact Transaction.same_toValue (hread t ht) (hnan t ht)

/-! ### A text with a line separator, a lone surrogate and a number with an exponent -/

/-- A mapping. -/
def sampleFields : List (Text × Value) := [
  ("bank", .text "Ba\u2028nk"), ("post_date", .text "2024/3/05"),
  ("name", .text [CodePoint.ofNat 0xD83D]), ("amount", .text "-1,000.50"),
  ("balance", .text "1e3"), ("notes", .list [.bool true]),
  ("tags", .list [.text "b", .text "a"])]

/-- The array of the mapping alone. -/
def sampleText : Text :=
  "[\x7b\"bank\": \"Ba\\u2028nk\", \"post_date\": \"2024/3/05\", \"name\": \"\\ud83d\", " ++
    ("\"amount\": \"-1,000.50\", \"balance\": \"1e3\", \"notes\": [true], " ++
      ("\"tags\": [\"b\", \"a\"]\x7d]\n" : Text))

private theorem isCalendarDay_sampleDate : IsCalendarDay 2024 3 5 := by decide

/-- The post date of the mapping. -/
def sampleDate : Date :=
  { year := 2024, month := 3, day := 5, valid := isCalendarDay_sampleDate }

/-- The transaction of the mapping. -/
def sample : Transaction where
  bank := .text "Ba\u2028nk"
  account := .text []
  postDate := .date sampleDate
  transactionDate := .date sampleDate
  name := .text [CodePoint.ofNat 0xD83D]
  amount := .decimal (.finite true 100050 (-2))
  balance := .decimal (.finite false 1 3)
  notes := .list [.bool true]
  tags := TagSet.ofList ["b", "a"]

private theorem isDocument_sampleFields : IsDocument (.dict (members sampleFields)) := by
  refine .dict (by decide) (by decide) ?_
  simp only [sampleFields, List.forall_mem_cons, List.not_mem_nil, false_imp_iff, implies_true,
    and_true]
  refine ⟨.text (by decide), .text (by decide), .text (by decide),
    .text (by decide), .text (by decide), .list ?_, .list ?_⟩
  · exact List.forall_mem_singleton.2 (.bool true)
  · simp only [List.forall_mem_cons, List.not_mem_nil, false_imp_iff, implies_true, and_true]
    exact ⟨.text (by decide), .text (by decide)⟩

private theorem ofMapping_sampleFields :
    Transaction.ofMapping (members sampleFields) = .ok sample := by
  have hamount : (Value.text "-1,000.50").toAmount = .ok (.finite true 100050 (-2)) :=
    Transaction.toAmount_text (by decide)
  have hbalance : (Value.text "1e3").toAmount = .ok (.finite false 1 3) :=
    Transaction.toAmount_text (by decide)
  have hdate : (Value.text "2024/3/05").toDate = .ok (some sampleDate) := by rfl
  have htags : Transaction.readTags (.list [.text "b", .text "a"]) =
      .ok (TagSet.ofList ["b", "a"]) := by rfl
  have hlookup (f : Field) : Value.lookup? f.toText (members sampleFields) =
      match f with
      | .bank => some (.text "Ba\u2028nk")
      | .postDate => some (.text "2024/3/05")
      | .name => some (.text [CodePoint.ofNat 0xD83D])
      | .amount => some (.text "-1,000.50")
      | .balance => some (.text "1e3")
      | .notes => some (.list [.bool true])
      | .tags => some (.list [.text "b", .text "a"])
      | _ => none := by cases f <;> rfl
  simp only [Transaction.ofMapping, Value.lookup, hlookup, Option.getD_some, Option.getD_none,
    htags, hdate, hamount, hbalance, ok_bind]
  rfl

private theorem readOctets_sampleText :
    readOctets "in.json" (Utf8.encode sampleText) = .ok [sample] := by
  have hdocuments : ∀ row ∈ [members sampleFields], IsDocument (.dict row) :=
    List.forall_mem_singleton.2 isDocument_sampleFields
  have hdecode : Utf8.decode? (Utf8.encode sampleText) = some sampleText :=
    Utf8.decode?_encode (by decide +kernel)
  have hunify : unifyNewlines sampleText = sampleText := by decide +kernel
  have hwrite : ended [Json.write (.list (objects [members sampleFields]))] = sampleText := by
    decide +kernel
  have hread : readValues sampleText = .ok (objects [members sampleFields]) := by
    rw [← hwrite]
    exact readValues_array hdocuments
  rw [readOctets, hdecode]
  dsimp only
  rw [hunify, read, hread, ok_bind, mappings?_objects]
  dsimp only
  rw [List.mapM_cons, ofMapping_sampleFields]
  rfl

/-- One transaction, read from an array, written on a line and read again. -/
theorem readOctets_write_sample :
    readOctets "in.json" (Utf8.encode sampleText) = .ok [sample] ∧
      (∀ t ∈ [sample], t.toValue.holdsNaN = false) ∧
      ∃ text, write .lines [sample] = .ok text ∧
        readOctets "out.json" (Utf8.encode text) = .ok [sample] ∧
        Value.sameList ([sample].map (·.toValue)) ([sample].map (·.toValue)) = .ok true :=
  have hnan : ∀ t ∈ [sample], t.toValue.holdsNaN = false := List.forall_mem_singleton.2 rfl
  ⟨readOctets_sampleText, hnan, readOctets_write readOctets_sampleText hnan .lines "out.json"⟩

end LedgerTags.Interchange
