import SymbolIndex.Proofs.Store.Contents

/-!
# Answers from tables

Tables answer a call from the entries that they hold, with two exceptions: they do not look at the
pattern of a call without categories, and they never find the empty word where they compare bytes.
All other calls are uniform: how the index is kept makes no difference to their answers.
-/

namespace SymbolIndex

open Text

/-- Whether a mode asks for the start of words with regard to case, which tables compare byte by
byte. -/
def Mode.comparesBytes (m : Mode) : Bool := m.start && m.caseSensitive && !m.regex && !m.glob

/-- Whether an index in memory and one in tables answer a call alike. -/
def Call.Uniform (c : Call) : Prop :=
  c.categories ≠ [] ∧ (c.query.mode.comparesBytes → c.query.pattern ≠ "")

namespace WordFilter

variable {q : Query} {f : WordFilter} {text word : String} {caseSensitive : Bool}

/-- Bytes are compared exactly when the filter is the one that tables look at. -/
theorem eq_start_iff [Regex.Limit] (h : ofQuery q = .ok f) :
    f = start text true ↔ q.mode.comparesBytes ∧ q.pattern = text := by
  obtain ⟨pattern, ⟨start, glob, regex, caseSensitive⟩⟩ := q
  simp only [ofQuery, Mode.comparesBytes] at h ⊢
  cases regex with
  | true =>
    cases hr : Regex.parse? pattern.toList with
    | none => simp [hr] at h
    | some r =>
      simp only [hr, if_true, Except.ok.injEq] at h
      simp [← h]
  | false =>
    cases glob with
    | true =>
      by_cases hall : pattern = Query.everythingPattern
      · simp only [hall, if_true, Bool.false_eq_true, if_false, Except.ok.injEq] at h
        simp [← h]
      · cases hg : Glob.toRegex? caseSensitive pattern.toList with
        | none => simp [hg, hall] at h
        | some r =>
          simp only [hg, hall, if_true, Bool.false_eq_true, if_false, Except.ok.injEq] at h
          simp [← h]
    | false =>
      simp only [Bool.false_eq_true, if_false, Except.ok.injEq] at h
      cases start <;> cases caseSensitive <;> simp [← h, fold]

/-- The only failure of a query is that of its pattern. -/
theorem exists_of_ofQuery_error [Regex.Limit] {failure : Failure} (h : ofQuery q = .error failure) :
    ∃ kind, failure = .invalidPattern kind q.pattern := by
  simp only [ofQuery] at h
  split at h
  · split at h
    · cases h
    · cases h
      exact ⟨_, rfl⟩
  · split at h
    · split at h
      · cases h
      · split at h
        · cases h
        · cases h
          exact ⟨_, rfl⟩
    · cases h

theorem accepts_start : (start text true).accepts word ↔ text.toList <+: word.toList := by
  simp only [accepts, fold, if_true, List.isPrefixOf_iff_prefix]

/-- The empty word starts with no text but the empty one. -/
theorem accepts_start_empty : (start text true).accepts "" ↔ text = "" := by
  rw [accepts_start, String.toList_empty, List.prefix_nil, String.toList_eq_nil_iff]

end WordFilter

/-- What steps one after another give has gone through what the first of them gives. -/
theorem exists_of_bind_ok {α β : Type} {x : Except Failure α} {f : α → Except Failure β}
    {b : β} (h : x >>= f = .ok b) : ∃ a, x = .ok a ∧ f a = .ok b := by
  cases x with
  | error failure => cases h
  | ok a => exact ⟨a, rfl, h⟩

/-- What steps on the elements of a list give has come from each of them. -/
theorem exists_of_mapM_ok {α β : Type} {g : α → Except Failure β} {l : List α} {bs : List β}
    (h : l.mapM g = .ok bs) : ∀ b ∈ bs, ∃ a ∈ l, g a = .ok b := by
  induction l generalizing bs with
  | nil =>
    cases h
    exact nofun
  | cons a l ih =>
    rw [List.mapM_cons] at h
    obtain ⟨b, hb, h⟩ := exists_of_bind_ok h
    obtain ⟨bs, hbs, h⟩ := exists_of_bind_ok h
    cases h
    refine List.forall_mem_cons.2 ⟨⟨a, List.mem_cons_self, hb⟩, fun b' hb' => ?_⟩
    obtain ⟨a', ha', hg⟩ := ih hbs b' hb'
    exact ⟨a', List.mem_cons_of_mem a ha', hg⟩

namespace Tables

open Entries

variable {t : Tables} {f : WordFilter} {e : EntryRow} {cs : List Char}

/-- Rows that the filter accepts come into question, except for the empty word among bytes. -/
theorem preselects_of_accepts [Regex.Limit] {q : Query} (hq : WordFilter.ofQuery q = .ok f)
    (hword : e.word = Utf8.encode cs) (haccepts : f.accepts (String.ofList cs)) :
    preselects f e = !(q.mode.comparesBytes && String.ofList cs == "") := by
  by_cases hbytes : q.mode.comparesBytes
  · have hf := (WordFilter.eq_start_iff hq).2 ⟨hbytes, rfl⟩
    subst hf
    have hfront : Utf8.encode q.pattern.toList <+: Utf8.encode cs := by
      rw [Utf8.encode_prefix_iff]
      simpa using WordFilter.accepts_start.1 haccepts
    have hempty : (Utf8.encode cs).isEmpty = (String.ofList cs == "") := by
      rw [Bool.eq_iff_iff, List.isEmpty_iff, beq_iff_eq, String.ofList_eq_empty_iff]
      exact ⟨fun h => Utf8.encode_injective h, fun h => h ▸ rfl⟩
    simp only [preselects, hword, hempty, hbytes, List.isPrefixOf_iff_prefix.2 hfront,
      Bool.and_true, Bool.true_and]
  · have hall : preselects f e = true := by
      rw [preselects.eq_def]
      split
      · exact absurd ((WordFilter.eq_start_iff hq).1 rfl).1 hbytes
      · rfl
    simp [hall, hbytes]

/-- A row whose word is text is answered without a failure. -/
theorem record?_eq (t : Tables) (f : WordFilter) (hword : e.word = Utf8.encode cs) :
    t.record? f e =
      .ok (if f.accepts (String.ofList cs) then some ⟨String.ofList cs, t.documentsOf e.id⟩
        else none) := by
  rw [record?, hword, Utf8.decode_encode]

/-- A row is answered with its record, or not at all. -/
theorem record_of_record? {record : Record} (h : t.record? f e = .ok (some record)) :
    ∃ cs, Utf8.decode e.word = .ok cs ∧ record = ⟨.ofList cs, t.documentsOf e.id⟩ := by
  rw [record?] at h
  split at h
  · cases h
  · rename_i cs hcs
    simp only [Except.ok.injEq, Option.ite_none_right_eq_some, Option.some.injEq] at h
    exact ⟨cs, hcs, h.2.symm⟩

/-- Whatever tables hold, they answer from their own records. -/
theorem answer_subset [Regex.Limit] {c : Call} {rs : List Record} (h : t.answer c = .ok rs) :
    rs ⊆ t.records c.categories := by
  rw [answer] at h
  split at h
  · cases h
    exact List.nil_subset _
  · obtain ⟨f, -, h⟩ := exists_of_bind_ok h
    obtain ⟨found, hfound, h⟩ := exists_of_bind_ok h
    cases h
    intro record hrecord
    obtain ⟨_, hmem, rfl⟩ := List.mem_filterMap.1 hrecord
    obtain ⟨e, he, hrow⟩ := exists_of_mapM_ok hfound _ hmem
    obtain ⟨cs, hcs, rfl⟩ := record_of_record? hrow
    exact List.mem_filterMap.2 ⟨e, List.mem_of_mem_filter he, by rw [hcs]⟩

/-- Whether a row is in one of the categories asked for. -/
private theorem any_tag_eq (categories : List Category) (e : EntryRow) :
    categories.any (·.tag == e.category) = e.category?.any fun c => categories.contains c := by
  rw [Bool.eq_iff_iff, List.any_eq_true, Option.any_eq_true]
  constructor
  · rintro ⟨c, hc, htag⟩
    exact ⟨c, EntryRow.category?_of_tag (beq_iff_eq.1 htag).symm, List.contains_iff_mem.2 hc⟩
  · rintro ⟨c, hcategory, hc⟩
    exact ⟨c, List.contains_iff_mem.1 hc, beq_iff_eq.2 (EntryRow.tag_of_category? hcategory)⟩

theorem mapM_ok {α β : Type} {g : α → Except Failure β} {g' : α → β} {l : List α}
    (h : ∀ a ∈ l, g a = .ok (g' a)) : l.mapM g = .ok (l.map g') := by
  induction l with
  | nil => rfl
  | cons a l ih =>
    rw [List.mapM_cons, h a List.mem_cons_self, ih fun b hb => h b (List.mem_cons_of_mem a hb)]
    rfl

/-- The records of tables are those of the entries that they hold. -/
theorem Consistent.records_eq (c : t.Consistent) (categories : List Category) :
    t.records categories = t.contents.records categories := by
  rw [Tables.records, c.rows_eq, List.filterMap_filter, Entries.records, contents,
    List.filter_filterMap, List.map_filterMap]
  refine List.filterMap_congr ?_
  intro e _
  rw [any_tag_eq, entryOf?, EntryRow.key?]
  cases e.category? with
  | none => simp
  | some category =>
    cases Utf8.decode e.word with
    | error fault => simp
    | ok cs => by_cases hc : category ∈ categories <;> simp [hc, Option.filter]

/-- Tables answer from the entries that they hold, and leave the empty word out where they compare
bytes. -/
theorem Consistent.answer_eq [Regex.Limit] (c : t.Consistent) (hr : t.Readable) {call : Call}
    (hne : call.categories ≠ []) :
    t.answer call = (t.contents.answer call).map fun rs =>
      rs.filter fun r => !(call.query.mode.comparesBytes && r.word == "") := by
  rw [answer, if_neg (by simpa using hne), Entries.answer]
  cases hq : WordFilter.ofQuery call.query with
  | error failure => rfl
  | ok f =>
    choose! text htext using hr
    have hrows : ((t.rows call.categories).filter (preselects f)).mapM (t.record? f) = .ok
        (((t.rows call.categories).filter (preselects f)).map fun e =>
          if f.accepts (String.ofList (text e)) then
            some ⟨String.ofList (text e), t.documentsOf e.id⟩
          else none) := by
      refine mapM_ok ?_
      intro e he
      rw [c.rows_eq] at he
      exact t.record?_eq f (htext e (List.mem_of_mem_filter (List.mem_of_mem_filter he)))
    change List.mapM (t.record? f) _ >>= _ = _
    rw [hrows, c.rows_eq]
    refine congrArg Except.ok ?_
    -- Both sides go through the rows of entries; a row is in both lists or in neither.
    simp only [List.filterMap_map, List.filterMap_filter, Entries.records, contents,
      List.filter_filterMap, List.map_filterMap]
    refine List.filterMap_congr ?_
    intro e he
    have hword := htext e he
    rw [any_tag_eq, entryOf?, EntryRow.key?, hword, Utf8.decode_encode]
    cases e.category? with
    | none => simp
    | some category =>
      by_cases hc : category ∈ call.categories
      · by_cases haccepts : f.accepts (String.ofList (text e))
        · simp [hc, haccepts, preselects_of_accepts hq hword haccepts, Option.filter]
        · simp [hc, haccepts, Option.filter]
      · simp [hc, Option.filter]

/-- Tables answer a uniform call from the entries that they hold. -/
theorem Consistent.answer_of_uniform [Regex.Limit] (c : t.Consistent) (hr : t.Readable) {call : Call}
    (hu : call.Uniform) : t.answer call = t.contents.answer call := by
  rw [c.answer_eq hr hu.1, Entries.answer]
  cases hq : WordFilter.ofQuery call.query with
  | error failure => rfl
  | ok f =>
    refine congrArg Except.ok (List.filter_eq_self.2 ?_)
    intro r hr
    by_cases hbytes : call.query.mode.comparesBytes
    · have haccepts : f.accepts r.word := (List.mem_filter.1 hr).2
      have hword : r.word ≠ "" := by
        intro hempty
        rw [(WordFilter.eq_start_iff hq).2 ⟨hbytes, rfl⟩, hempty] at haccepts
        exact hu.2 hbytes (WordFilter.accepts_start_empty.1 haccepts)
      simp [hword]
    · simp [hbytes]

end Tables

end SymbolIndex
