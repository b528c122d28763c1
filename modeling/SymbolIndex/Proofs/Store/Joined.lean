import SymbolIndex.Proofs.Selections
import SymbolIndex.Proofs.Store.RawAnswers

/-!
# Answers from joined tables

A call can be answered by one query over both tables, which gives a row for each document of an
entry and one row for an entry without documents. `regroup` goes through these rows in their order:
it reads a word where another entry begins, stops at a word that is no text, and adds the documents
of the further rows to the record. Whatever the tables hold, as long as no two entries have one
number, this loses no entry, doubles none, and gives every record its own documents, and
`Tables.answer` is what it leads to.
-/

namespace SymbolIndex

open Text

/-- A row of the joined tables: the row of an entry with one of its documents, or without a document
if the entry has none. -/
structure JoinedRow where
  entry : EntryRow
  document : Option DocumentRow

/-- Whether a joined row may stand before another one: rows are ordered by the numbers of their
entries and then by the positions of their documents. -/
def JoinedRow.Before (a b : JoinedRow) : Prop :=
  a.entry.id < b.entry.id ∨
    a.entry.id = b.entry.id ∧ ∀ d ∈ a.document, ∀ d' ∈ b.document, d.position ≤ d'.position

/-- What is kept on the way through joined rows: the number of the entry whose rows are gone
through, whether its word passes, and the records so far, the last one first. -/
structure Regrouping where
  entry : Option Nat := none
  passes : Bool := false
  records : List Record := []

namespace Regrouping

/-- Goes on to another entry. -/
def enter (f : WordFilter) (e : EntryRow) (s : Regrouping) : Except Failure Regrouping :=
  match Utf8.decode e.word with
  | .error fault => .error (.notText e.id fault)
  | .ok cs =>
    let word := String.ofList cs
    let passes := f.accepts word
    .ok { entry := some e.id, passes
          records := if passes then ⟨word, []⟩ :: s.records else s.records }

/-- Adds a document to the record of the entry, if there is one. -/
def note (s : Regrouping) (document : Option DocumentRow) : Regrouping :=
  match s.passes, document, s.records with
  | true, some d, r :: rs =>
    { s with records := { r with documents := r.documents ++ [d.document] } :: rs }
  | _, _, _ => s

/-- Goes through a joined row. -/
def step (f : WordFilter) (s : Regrouping) (row : JoinedRow) : Except Failure Regrouping :=
  if s.entry = some row.entry.id then .ok (s.note row.document)
  else (s.enter f row.entry).map (·.note row.document)

end Regrouping

/-- The records of joined rows that pass a filter. -/
def regroup (f : WordFilter) (rows : List JoinedRow) : Except Failure (List Record) :=
  (rows.foldlM (Regrouping.step f) {}).map (·.records.reverse)

namespace Tables

/-- The joined rows of an entry, by its documents. -/
def joinedWith (e : EntryRow) : List DocumentRow → List JoinedRow
  | [] => [⟨e, none⟩]
  | d :: ds => (d :: ds).map fun d => ⟨e, some d⟩

/-- Both tables joined. -/
def joined (t : Tables) : List JoinedRow :=
  t.entries.flatMap fun e => joinedWith e (t.documentRows e.id)

/-- Whether these are the joined rows that come into question for a filter, in their order.
Documents of one position may stand in any order. -/
structure Queried (t : Tables) (categories : List Category) (f : WordFilter)
    (rows : List JoinedRow) : Prop where
  perm : rows.Perm (t.joined.filter fun row =>
    categories.any (·.tag == row.entry.category) && preselects f row.entry)
  ordered : rows.Pairwise JoinedRow.Before

end Tables

namespace Regrouping

open Tables

variable {f : WordFilter} {e : EntryRow} {es : List EntryRow} {s : Regrouping}
variable {ds : List DocumentRow}

/-- What is kept after all rows of an entry: its record, if its word passes, before those so far. -/
def after (s : Regrouping) (e : EntryRow) (r : Option Record) : Regrouping where
  entry := some e.id
  passes := r.isSome
  records := r.toList ++ s.records

theorem enter_eq (f : WordFilter) (e : EntryRow) (s : Regrouping) :
    s.enter f e = (recordWith f (fun _ => []) e).map (s.after e) := by
  rw [enter, recordWith]
  cases Utf8.decode e.word with
  | error fault => rfl
  | ok cs => cases h : f.accepts (String.ofList cs) <;> simp [Except.map, after, h]

/-- The documents of an entry go to its record one after another. -/
theorem foldlM_notes (f : WordFilter) (e : EntryRow) (s : Regrouping) (r : Option Record)
    (ds : List DocumentRow) :
    (ds.map fun d => (⟨e, some d⟩ : JoinedRow)).foldlM (step f) (s.after e r) =
      .ok (s.after e (r.map fun r =>
        { r with documents := r.documents ++ ds.map (·.document) })) := by
  induction ds generalizing r with
  | nil => cases r <;> simp [pure, Except.pure]
  | cons d ds ih =>
    have hstep : step f (s.after e r) ⟨e, some d⟩ =
        .ok (s.after e (r.map fun r => { r with documents := r.documents ++ [d.document] })) := by
      refine (if_pos rfl).trans ?_
      cases r <;> rfl
    rw [List.map_cons, List.foldlM_cons, hstep]
    refine (ih _).trans ?_
    cases r <;> simp

/-- The rows of an entry that follow those of another one give its record with their documents. -/
theorem foldlM_joinedWith (hs : s.entry ≠ some e.id) (ds : List DocumentRow) :
    (joinedWith e ds).foldlM (step f) s =
      (recordWith f (fun _ => ds.map (·.document)) e).map (s.after e) := by
  have hstep : ∀ document : Option DocumentRow, step f s ⟨e, document⟩ =
      (recordWith f (fun _ => []) e).map fun r => (s.after e r).note document := by
    intro document
    rw [step, if_neg hs, enter_eq]
    cases recordWith f (fun _ => []) e <;> rfl
  cases ds with
  | nil =>
    rw [joinedWith, List.foldlM_cons, hstep, List.map_nil]
    cases recordWith f (fun _ => []) e with
    | error failure => rfl
    | ok r => cases r <;> rfl
  | cons d ds =>
    rw [joinedWith, List.map_cons, List.foldlM_cons, hstep, recordWith, recordWith]
    cases Utf8.decode e.word with
    | error fault => rfl
    | ok cs =>
      cases h : f.accepts (String.ofList cs) with
      | false =>
        simp only [h]
        exact foldlM_notes f e s none ds
      | true =>
        simp only [h]
        exact foldlM_notes f e s (some ⟨_, [d.document]⟩) ds

/-- The rows of entries, one after another, give the records of the entries. -/
theorem foldlM_flatMap_joinedWith (docs : EntryRow → List DocumentRow)
    (hids : (es.map (·.id)).Nodup) (hs : ∀ e ∈ es, s.entry ≠ some e.id) :
    ((es.flatMap fun e => joinedWith e (docs e)).foldlM (step f) s).map (·.records) =
      (es.mapM (recordWith f fun e => (docs e).map (·.document))).map fun found =>
        (found.filterMap id).reverse ++ s.records := by
  induction es generalizing s with
  | nil => rfl
  | cons e es ih =>
    rw [List.map_cons, List.nodup_cons] at hids
    have hrecord : recordWith f (fun _ => (docs e).map (·.document)) e =
      recordWith f (fun e => (docs e).map (·.document)) e := rfl
    rw [List.flatMap_cons, List.foldlM_append, foldlM_joinedWith (hs e List.mem_cons_self),
      List.mapM_cons, hrecord]
    cases recordWith f (fun e => (docs e).map (·.document)) e with
    | error failure => rfl
    | ok r =>
      -- The number that is kept is that of the last entry, which no further entry has.
      have hafter : ∀ e' ∈ es, (s.after e r).entry ≠ some e'.id := by
        intro e' he' hsame
        exact hids.1 (List.mem_map.2 ⟨e', he', (Option.some.inj hsame).symm⟩)
      refine (ih hids.2 hafter).trans ?_
      cases es.mapM (recordWith f fun e => (docs e).map (·.document)) with
      | error failure => rfl
      | ok found =>
        refine congrArg Except.ok ?_
        cases r <;> simp [after]

/-- Regrouping gives the records of the entries in their order. -/
theorem regroup_flatMap_joinedWith {docs : EntryRow → List DocumentRow}
    (hids : (es.map (·.id)).Nodup) :
    regroup f (es.flatMap fun e => joinedWith e (docs e)) =
      (es.mapM (recordWith f fun e => (docs e).map (·.document))).map (List.filterMap id) := by
  have hrun := foldlM_flatMap_joinedWith (f := f) (s := {}) docs hids fun _ _ => nofun
  have hmap : regroup f (es.flatMap fun e => joinedWith e (docs e)) =
      (((es.flatMap fun e => joinedWith e (docs e)).foldlM (step f) {}).map (·.records)).map
        List.reverse := by
    rw [regroup]
    cases (es.flatMap fun e => joinedWith e (docs e)).foldlM (step f) {} <;> rfl
  rw [hmap, hrun]
  cases es.mapM (recordWith f fun e => (docs e).map (·.document)) with
  | error failure => rfl
  | ok found => simp [Except.map]

end Regrouping

namespace Tables

variable {t : Tables} {f : WordFilter} {categories : List Category} {e : EntryRow}
variable {es : List EntryRow} {rows : List JoinedRow}

/-- Rows in whatever order that are the joined rows of an entry are those of its documents in some
order. -/
private theorem eq_joinedWith_of_perm {l : List JoinedRow} {ds : List DocumentRow}
    (h : l.Perm (joinedWith e ds)) :
    l = joinedWith e (l.filterMap (·.document)) ∧ (l.filterMap (·.document)).Perm ds := by
  have hdocuments : (joinedWith e ds).filterMap (·.document) = ds := by
    cases ds with
    | nil => rfl
    | cons d ds => simp [joinedWith, List.filterMap_map]
  have hperm := h.filterMap (·.document)
  rw [hdocuments] at hperm
  refine ⟨?_, hperm⟩
  cases ds with
  | nil => rw [List.perm_singleton.1 h]; rfl
  | cons d ds =>
    have hall : ∀ row ∈ l, row.document.map (fun d => (⟨e, some d⟩ : JoinedRow)) = some row := by
      intro row hrow
      obtain ⟨d', -, rfl⟩ := List.mem_map.1 (h.subset hrow)
      rfl
    have hmap : (l.filterMap (·.document)).map (fun d => (⟨e, some d⟩ : JoinedRow)) = l := by
      rw [List.map_filterMap, List.filterMap_congr hall, List.filterMap_some]
    cases hds : l.filterMap (·.document) with
    | nil =>
      rw [hds] at hperm
      exact absurd (List.perm_nil.1 hperm.symm) (List.cons_ne_nil _ _)
    | cons d' ds' => rw [joinedWith, ← hds, hmap]

theorem entry_of_mem_joinedWith {row : JoinedRow} {ds : List DocumentRow}
    (h : row ∈ joinedWith e ds) : row.entry = e := by
  cases ds with
  | nil => rw [List.mem_singleton.1 h]
  | cons d ds =>
    obtain ⟨d', -, rfl⟩ := List.mem_map.1 h
    rfl

/-- A condition on entries picks the joined rows of the entries that satisfy it. -/
private theorem filter_flatMap_joinedWith (p : EntryRow → Bool) (es : List EntryRow)
    (docs : EntryRow → List DocumentRow) :
    ((es.flatMap fun e => joinedWith e (docs e)).filter fun row => p row.entry) =
      (es.filter p).flatMap fun e => joinedWith e (docs e) := by
  induction es with
  | nil => rfl
  | cons e es ih =>
    rw [List.flatMap_cons, List.filter_append, ih]
    by_cases hp : p e
    · rw [List.filter_cons_of_pos hp, List.flatMap_cons, List.filter_eq_self.2]
      intro row hrow
      rw [entry_of_mem_joinedWith hrow, hp]
    · rw [List.filter_cons_of_neg hp, List.filter_eq_nil_iff.2, List.nil_append]
      intro row hrow
      rwa [entry_of_mem_joinedWith hrow]

/-- No two entries have one number. -/
private theorem filter_id_eq (hids : (es.map (·.id)).Nodup) (he : e ∈ es) {p : EntryRow → Bool}
    (hp : p e) : (es.filter fun e' => e'.id == e.id && p e') = [e] := by
  induction es with
  | nil => cases he
  | cons e' es ih =>
    rw [List.map_cons, List.nodup_cons] at hids
    have hne : ∀ e'' ∈ es, e''.id ≠ e'.id := fun e'' he'' hsame =>
      hids.1 (hsame ▸ List.mem_map_of_mem he'')
    rcases List.mem_cons.1 he with rfl | he
    · rw [List.filter_cons_of_pos (by simp [hp]), List.filter_eq_nil_iff.2]
      intro e'' he''
      simp [hne e'' he'']
    · rw [List.filter_cons_of_neg (by simp [(hne e he).symm]), ih hids.2 he]

/-- The rows of a query in their order are those of one entry after another. -/
theorem Queried.exists_documents (hq : t.Queried categories f rows)
    (hids : (t.entries.map (·.id)).Nodup) :
    ∃ docs : EntryRow → List DocumentRow,
      (∀ e ∈ (t.rows categories).filter (preselects f), (docs e).Perm (t.documentRows e.id) ∧
        (docs e).Pairwise fun d d' => d.position ≤ d'.position) ∧
      rows = ((t.rows categories).filter (preselects f)).flatMap fun e =>
        joinedWith e (docs e) := by
  have hgroup : ∀ e ∈ (t.rows categories).filter (preselects f),
      (rows.filter fun row => row.entry.id == e.id).Perm (joinedWith e (t.documentRows e.id)) := by
    intro e he
    obtain ⟨hentry, hp⟩ := mem_filter_rows.1 he
    have hperm := hq.perm.filter fun row => row.entry.id == e.id
    have hwhere := filter_flatMap_joinedWith (fun e' => e'.id == e.id &&
      (categories.any (·.tag == e'.category) && preselects f e')) t.entries fun e =>
        t.documentRows e.id
    have honly := filter_id_eq (p := fun e' =>
      categories.any (·.tag == e'.category) && preselects f e') hids hentry hp
    rw [honly, List.flatMap_singleton] at hwhere
    rwa [List.filter_filter, joined, hwhere] at hperm
  -- Rows that are ordered by number are the rows of each number, one number after another.
  refine ⟨fun e => (rows.filter fun row => row.entry.id == e.id).filterMap (·.document), ?_, ?_⟩
  · intro e he
    refine ⟨(eq_joinedWith_of_perm (hgroup e he)).2, ?_⟩
    rw [List.pairwise_filterMap]
    refine (hq.ordered.sublist List.filter_sublist).imp_of_mem ?_
    intro a b ha hb hbefore d hd d' hd'
    have ha' := List.of_mem_filter ha
    have hb' := List.of_mem_filter hb
    simp only [beq_iff_eq] at ha' hb'
    rcases hbefore with hlt | ⟨-, hle⟩
    · omega
    · exact hle d hd d' hd'
  · have hkeys : rows.Pairwise fun a b => a.entry.id ≤ b.entry.id :=
      hq.ordered.imp fun h => h.elim Nat.le_of_lt fun h => Nat.le_of_eq h.1
    have hmem : ∀ row ∈ rows,
        row.entry.id ∈ ((t.rows categories).filter (preselects f)).map (·.id) := by
      intro row hrow
      obtain ⟨hjoined, hwhere⟩ := List.mem_filter.1 (hq.perm.subset hrow)
      obtain ⟨e, he, hwith⟩ := List.mem_flatMap.1 hjoined
      rw [← entry_of_mem_joinedWith hwith] at he
      exact List.mem_map_of_mem (mem_filter_rows.2 ⟨he, hwhere⟩)
    have hsplit := Selections.eq_flatMap_filter hkeys
      (List.pairwise_map.2 (pairwise_filter_rows hids)) hmem
    rw [List.flatMap_map] at hsplit
    refine hsplit.trans (List.flatMap_congr fun e he => ?_)
    exact (eq_joinedWith_of_perm (hgroup e he)).1

private theorem joinedWith_perm {ds ds' : List DocumentRow} (h : ds.Perm ds') :
    (joinedWith e ds).Perm (joinedWith e ds') := by
  cases ds with
  | nil => rw [List.perm_nil.1 h.symm]
  | cons d ds =>
    cases ds' with
    | nil => exact absurd (List.perm_nil.1 h) (List.cons_ne_nil _ _)
    | cons d' ds' => exact h.map fun d => (⟨e, some d⟩ : JoinedRow)

/-- Rows that are gone through in the order of their numbers, each with its documents in order, are
the rows of a query in their order. -/
theorem queried_sortedRows (hids : (t.entries.map (·.id)).Nodup) (categories : List Category)
    (f : WordFilter) :
    t.Queried categories f (((t.rows categories).filter (preselects f)).flatMap fun e =>
      joinedWith e (t.sortedRows e)) where
  perm := by
    have hrows : ((t.rows categories).filter (preselects f)).Perm
        (t.entries.filter fun e => categories.any (·.tag == e.category) && preselects f e) := by
      have hperm := (List.mergeSort_perm (t.entries.filter fun e =>
        categories.any (·.tag == e.category)) fun a b => a.id ≤ b.id).filter (preselects f)
      rw [List.filter_filter] at hperm
      refine hperm.trans (.of_eq (List.filter_congr fun e _ => ?_))
      exact Bool.and_comm _ _
    have hwhere := filter_flatMap_joinedWith (fun e =>
      categories.any (·.tag == e.category) && preselects f e) t.entries fun e => t.documentRows e.id
    rw [joined, hwhere]
    refine (hrows.flatMap_right _).trans (List.Perm.flatMap_left _ fun e _ => ?_)
    exact joinedWith_perm (List.mergeSort_perm _ _)
  ordered := by
    refine List.pairwise_flatMap.2 ⟨?_, ?_⟩
    · intro e _
      have hsorted := t.pairwise_sortedRows e
      cases hds : t.sortedRows e with
      | nil => exact List.pairwise_singleton _ _
      | cons d ds =>
        rw [hds] at hsorted
        refine List.pairwise_map.2 (hsorted.imp fun hle => .inr ⟨rfl, ?_⟩)
        rintro _ ⟨⟩ _ ⟨⟩
        exact hle
    · refine (pairwise_filter_rows hids).imp ?_
      intro e e' hlt a ha b hb
      rw [← entry_of_mem_joinedWith ha, ← entry_of_mem_joinedWith hb] at hlt
      exact .inl hlt

/-- Tables answer a call for some category with a pattern that can be read, whatever words and
documents they hold: with the failure of the first row in question that is no text, or else with one
record for each row that passes, in the order of the numbers and with all documents of the row.
Going through the joined rows in any order that a query may give them leads to such an answer too,
and in one of these orders to the same one. For words that are texts and not empty, the comparison
of bytes selects those that the filter accepts. -/
theorem answer_exact [Regex.Limit] (hids : (t.entries.map (·.id)).Nodup) {c : Call}
    (hne : c.categories ≠ []) (hf : WordFilter.ofQuery c.query = .ok f) :
    t.Answers c.categories f (t.answer c) ∧
      (∀ rows, t.Queried c.categories f rows →
        t.Answers c.categories f (regroup f rows)) ∧
      (∃ rows, t.Queried c.categories f rows ∧ t.answer c = regroup f rows) ∧
      ∀ text, f = .start text true → ∀ (e : EntryRow) (word : String),
        e.word = Utf8.encode word.toList → word ≠ "" → (preselects f e ↔ f.accepts word) := by
  have hregroup : ∀ rows, t.Queried c.categories f rows →
      t.Answers c.categories f (regroup f rows) := by
    intro rows hq
    obtain ⟨docs, hdocs, rfl⟩ := hq.exists_documents hids
    rw [Regrouping.regroup_flatMap_joinedWith
      (List.pairwise_map.2 ((pairwise_filter_rows hids).imp Nat.ne_of_lt))]
    refine answers_of_mapM (fun e => mem_filter_rows_iff) (pairwise_filter_rows hids) ?_
    intro e he
    exact ⟨docs e, (hdocs e he).1, (hdocs e he).2, rfl⟩
  refine ⟨answers_answer hids hne hf, hregroup, ?_, ?_⟩
  · refine ⟨_, queried_sortedRows hids c.categories f, ?_⟩
    rw [answer_eq_mapM hne hf, Regrouping.regroup_flatMap_joinedWith
      (List.pairwise_map.2 ((pairwise_filter_rows hids).imp Nat.ne_of_lt))]
  · rintro text rfl e word hword hne
    have hbytes : e.word ≠ [] := by
      rw [hword]
      exact fun h => hne (String.toList_eq_nil_iff.1 (Utf8.encode_injective h))
    rw [WordFilter.accepts_start, ← Utf8.encode_prefix_iff, ← hword, preselects_iff]
    constructor
    · exact fun h => (h text rfl).2
    · rintro h _ ⟨⟩
      exact ⟨hbytes, h⟩

/-- A row that is no text fails a query for everything, and not one for the start of other words. An
entry without documents is listed. -/
theorem answer_exact_raw :
    let _ : Regex.Limit := .unlimited
    let visible : EntryRow := ⟨1, "property", Utf8.encode "Widget\x00visible".toList⟩
    let raw : EntryRow := ⟨2, "property", [0xFF]⟩
    let width : EntryRow := ⟨3, "property", Utf8.encode "Widget\x00width".toList⟩
    let t : Tables := ⟨[visible, raw, width], [⟨1, "b.js", 0⟩, ⟨1, "a.js", 1⟩]⟩
    let members : Query := ⟨"Widget\x00", { start := true, caseSensitive := true }⟩
    (t.entries.map (·.id)).Nodup ∧ WordFilter.ofQuery members = .ok (.start "Widget\x00" true) ∧
      t.Answers [.property] (.start "Widget\x00" true) (t.answer ⟨[.property], members⟩) ∧
      ¬ InQuestion [.property] (.start "Widget\x00" true) raw ∧
      t.answer ⟨[.property], .everything⟩ = .error (.notText 2 (.invalid 0 1)) := by
  intro limit visible raw width t members
  have hids : (t.entries.map (·.id)).Nodup := by decide
  have hmembers : WordFilter.ofQuery members = .ok (.start "Widget\x00" true) := rfl
  have hall : WordFilter.ofQuery .everything = .ok .all := rfl
  have hright := answer_exact (c := ⟨[.property], members⟩) hids (List.cons_ne_nil _ _) hmembers
  refine ⟨hids, hmembers, hright.1, ?_, ?_⟩
  · intro hquestion
    exact absurd (hquestion.2 _ rfl).2 (by decide)
  · have hraw : Utf8.decode raw.word = .error (.invalid 0 1) := by rfl
    have hquestion : InQuestion [.property] .all raw := ⟨⟨.property, by decide⟩, nofun⟩
    have hright :=
      answer_exact (c := ⟨[.property], .everything⟩) hids (List.cons_ne_nil _ _) hall
    obtain ⟨e, he, -, -, fault, hfault, hanswer⟩ := hright.1.fails
      ⟨raw, by decide, hquestion, Utf8.exists_fault_iff.1 ⟨_, hraw⟩⟩
    have htext : ∀ cs, e.word ≠ Utf8.encode cs := by
      rintro cs hcs
      rw [hcs, Utf8.decode_encode] at hfault
      cases hfault
    simp only [t, List.mem_cons, List.not_mem_nil, or_false] at he
    rcases he with rfl | rfl | rfl
    · exact absurd rfl (htext _)
    · rw [hanswer, ← Except.error.inj (hraw.symm.trans hfault)]
    · exact absurd rfl (htext _)

end Tables

end SymbolIndex
