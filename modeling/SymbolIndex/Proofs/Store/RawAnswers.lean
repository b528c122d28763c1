import SymbolIndex.Proofs.Store.Answers

/-!
# Right answers from whatever the tables hold

Tables may hold words that are no text and entries without documents. `Tables.Answers` says what a
call has to be answered then. A word that is no text fails the call, and among several of them it is
the first one that does. If all words in question are texts, each entry whose word passes is
answered once, in the order of the numbers, with its documents in the order of their positions. All
that is asked of the tables is that no two entries have one number.
-/

namespace SymbolIndex

open Text

namespace Tables

variable {t : Tables} {f : WordFilter} {categories : List Category} {e e' : EntryRow}
variable {es : List EntryRow}

/-- Whether a row comes into question for a filter: one of a category that is asked for. Where the
start of words is compared with regard to case, its word is not empty and starts with the bytes of
the pattern. -/
def InQuestion (categories : List Category) (f : WordFilter) (e : EntryRow) : Prop :=
  (∃ c ∈ categories, c.tag = e.category) ∧
    ∀ text, f = .start text true → e.word ≠ [] ∧ Utf8.encode text.toList <+: e.word

/-- Whether these are the documents of an entry in the order of their positions. -/
def DocumentsInOrder (t : Tables) (entry : Nat) (documents : List String) : Prop :=
  ∃ ds : List DocumentRow, ds.Perm (t.documentRows entry) ∧
    ds.Pairwise (fun d d' => d.position ≤ d'.position) ∧ documents = ds.map (·.document)

theorem DocumentsInOrder.mem_iff {entry : Nat} {documents : List String} {document : String}
    (h : t.DocumentsInOrder entry documents) :
    document ∈ documents ↔ document ∈ t.documentsOf entry := by
  obtain ⟨ds, hperm, -, rfl⟩ := h
  rw [documentsOf]
  exact ((hperm.trans (List.mergeSort_perm _ _).symm).map _).mem_iff

/-- Whether a record has the word of a row and its documents. -/
structure Describes (t : Tables) (e : EntryRow) (r : Record) : Prop where
  word : e.word = Utf8.encode r.word.toList
  documents : t.DocumentsInOrder e.id r.documents

/-- Whether a call for a filter is answered rightly: with the failure of the first row in question
that is no text, or with the rows that pass, each once, in the order of their numbers. -/
structure Answers (t : Tables) (categories : List Category) (f : WordFilter)
    (result : Except Failure (List Record)) : Prop where
  fails : (∃ e ∈ t.entries, InQuestion categories f e ∧ ¬ Utf8.IsText e.word) →
    ∃ e ∈ t.entries, InQuestion categories f e ∧
      (∀ e' ∈ t.entries, InQuestion categories f e' → ¬ Utf8.IsText e'.word → e.id ≤ e'.id) ∧
      ∃ fault, Utf8.decode e.word = .error fault ∧ result = .error (.notText e.id fault)
  answers : (∀ e ∈ t.entries, InQuestion categories f e → Utf8.IsText e.word) →
    ∃ matched rs, result = .ok rs ∧ matched.Pairwise (fun e e' : EntryRow => e.id < e'.id) ∧
      (∀ e, e ∈ matched ↔ e ∈ t.entries ∧ InQuestion categories f e ∧
        ∃ word : String, e.word = Utf8.encode word.toList ∧ f.accepts word) ∧
      List.Forall₂ t.Describes matched rs

theorem preselects_iff :
    preselects f e ↔
      ∀ text, f = .start text true → e.word ≠ [] ∧ Utf8.encode text.toList <+: e.word := by
  rw [preselects.eq_def]
  split
  · rename_i text
    simp [List.isPrefixOf_iff_prefix]
  · rename_i hne
    exact iff_of_true rfl fun text h => absurd h (hne text)

theorem mem_filter_rows :
    e ∈ (t.rows categories).filter (preselects f) ↔
      e ∈ t.entries ∧ (categories.any (·.tag == e.category) && preselects f e) = true := by
  rw [List.mem_filter, rows, List.mem_mergeSort, List.mem_filter, and_assoc, Bool.and_eq_true]

/-- The rows of entries that are gone through are those in question. -/
theorem mem_filter_rows_iff :
    e ∈ (t.rows categories).filter (preselects f) ↔ e ∈ t.entries ∧ InQuestion categories f e := by
  simp only [mem_filter_rows, Bool.and_eq_true, List.any_eq_true, beq_iff_eq, preselects_iff,
    InQuestion]

private theorem pairwise_mergeSort_key {α : Type} (key : α → Nat) (l : List α) :
    (l.mergeSort fun a b => key a ≤ key b).Pairwise fun a b => key a ≤ key b := by
  refine (List.pairwise_mergeSort ?_ ?_ l).imp fun h => of_decide_eq_true h
  · intro a b c hab hbc
    exact decide_eq_true (Nat.le_trans (of_decide_eq_true hab) (of_decide_eq_true hbc))
  · intro a b
    simp only [Bool.or_eq_true, decide_eq_true_eq]
    exact Nat.le_total _ _

/-- The rows of entries are gone through in the order of their numbers. -/
theorem pairwise_filter_rows (hids : (t.entries.map (·.id)).Nodup) :
    ((t.rows categories).filter (preselects f)).Pairwise fun e e' => e.id < e'.id := by
  refine List.Pairwise.sublist List.filter_sublist ?_
  have hle : (t.rows categories).Pairwise fun e e' => e.id ≤ e'.id := pairwise_mergeSort_key _ _
  have hne : (t.rows categories).Pairwise fun e e' => e.id ≠ e'.id := by
    have hnodup : ((t.rows categories).map (·.id)).Nodup := by
      refine ((List.mergeSort_perm _ _).map _).nodup_iff.2 ?_
      exact (List.filter_sublist.map _).nodup hids
    exact List.pairwise_map.1 hnodup
  exact hle.imp₂ (fun _ _ => Nat.lt_of_le_of_ne) hne

/-- The record of a row with the given documents, if its word passes. -/
def recordWith (f : WordFilter) (documents : EntryRow → List String) (e : EntryRow) :
    Except Failure (Option Record) :=
  match Utf8.decode e.word with
  | .error fault => .error (.notText e.id fault)
  | .ok cs =>
    .ok (if f.accepts (String.ofList cs) then some ⟨String.ofList cs, documents e⟩ else none)

private theorem recordWith_eq {documents : EntryRow → List String} {word : String}
    (h : e.word = Utf8.encode word.toList) :
    recordWith f documents e =
      .ok (if f.accepts word then some ⟨word, documents e⟩ else none) := by
  simp only [recordWith, h, Utf8.decode_encode, String.ofList_toList]

/-- Steps on the elements of a list, one after another, fail as the first one does that fails. -/
private theorem mapM_fails {α β : Type} {g : α → Except Failure β} {l : List α}
    (h : ∃ a ∈ l, ∃ failure, g a = .error failure) :
    ∃ l₁ a l₂ failure, l = l₁ ++ a :: l₂ ∧ (∀ x ∈ l₁, ∃ b, g x = .ok b) ∧
      g a = .error failure ∧ l.mapM g = .error failure := by
  induction l with
  | nil => exact absurd h (by simp)
  | cons a l ih =>
    rw [List.mapM_cons]
    cases ha : g a with
    | error failure => exact ⟨[], a, l, failure, rfl, nofun, ha, rfl⟩
    | ok b =>
      have hrest : ∃ a ∈ l, ∃ failure, g a = .error failure := by
        obtain ⟨x, hx, failure, hfailure⟩ := h
        rcases List.mem_cons.1 hx with rfl | hx
        · cases ha.symm.trans hfailure
        · exact ⟨x, hx, failure, hfailure⟩
      obtain ⟨l₁, x, l₂, failure, rfl, hok, hx, hl⟩ := ih hrest
      refine ⟨a :: l₁, x, l₂, failure, rfl, ?_, hx, by rw [hl]; rfl⟩
      exact List.forall_mem_cons.2 ⟨⟨b, ha⟩, hok⟩

variable {documents : EntryRow → List String}

/-- Where all words are texts, the rows that pass are described in their order. -/
private theorem mapM_recordWith_of_isText
    (hdocuments : ∀ e ∈ es, t.DocumentsInOrder e.id (documents e))
    (htext : ∀ e ∈ es, Utf8.IsText e.word) :
    ∃ matched rs, (es.mapM (recordWith f documents)).map (List.filterMap id) = .ok rs ∧
      matched.Sublist es ∧
      (∀ e ∈ es, e ∈ matched ↔ ∃ word : String, e.word = Utf8.encode word.toList ∧ f.accepts word) ∧
      List.Forall₂ t.Describes matched rs := by
  have hword : ∀ e ∈ es, ∃ word : String, e.word = Utf8.encode word.toList := by
    intro e he
    obtain ⟨cs, hcs⟩ := htext e he
    exact ⟨String.ofList cs, by rw [hcs, String.toList_ofList]⟩
  choose! word hword using hword
  refine ⟨es.filter fun e => f.accepts (word e),
    (es.filter fun e => f.accepts (word e)).map fun e => ⟨word e, documents e⟩, ?_,
    List.filter_sublist, ?_, ?_⟩
  · rw [mapM_ok fun e he => recordWith_eq (hword e he)]
    refine congrArg Except.ok ?_
    rw [List.filterMap_map, ← List.filterMap_eq_map, List.filterMap_filter]
    rfl
  · intro e he
    rw [List.mem_filter, and_iff_right he]
    constructor
    · exact fun h => ⟨word e, hword e he, h⟩
    · rintro ⟨w, hw, haccepts⟩
      have hsame : w.toList = (word e).toList := Utf8.encode_injective (hw.symm.trans (hword e he))
      rwa [String.ext_iff.2 hsame] at haccepts
  · rw [List.forall₂_map_right_iff, List.forall₂_same]
    intro e he
    have hmem := List.mem_of_mem_filter he
    exact ⟨hword e hmem, hdocuments e hmem⟩

/-- Rows that are gone through in the order of their numbers, each with its documents, give the
right answer. -/
theorem answers_of_mapM (hmem : ∀ e, e ∈ es ↔ e ∈ t.entries ∧ InQuestion categories f e)
    (hids : es.Pairwise fun e e' => e.id < e'.id)
    (hdocuments : ∀ e ∈ es, t.DocumentsInOrder e.id (documents e)) :
    t.Answers categories f ((es.mapM (recordWith f documents)).map (List.filterMap id)) := by
  constructor
  case answers =>
    intro htext
    obtain ⟨matched, rs, hrs, hsub, hmatched, hall⟩ := mapM_recordWith_of_isText (f := f) hdocuments
      fun e he => htext e ((hmem e).1 he).1 ((hmem e).1 he).2
    refine ⟨matched, rs, hrs, hids.sublist hsub, fun e => ?_, hall⟩
    rw [← and_assoc, ← hmem]
    constructor
    · exact fun h => ⟨hsub.subset h, (hmatched e (hsub.subset h)).1 h⟩
    · exact fun h => (hmatched e h.1).2 h.2
  case fails =>
    rintro ⟨e₀, he₀, hquestion, hno⟩
    have hfails : ∃ e ∈ es, ∃ failure, recordWith f documents e = .error failure := by
      obtain ⟨fault, hfault⟩ := Utf8.exists_fault_iff.2 hno
      refine ⟨e₀, (hmem e₀).2 ⟨he₀, hquestion⟩, .notText e₀.id fault, ?_⟩
      simp only [recordWith, hfault]
    obtain ⟨es₁, e, es₂, failure, hes, hok, herror, hfail⟩ := mapM_fails hfails
    have he := (hmem e).1 (hes ▸ List.mem_append_right _ List.mem_cons_self)
    refine ⟨e, he.1, he.2, ?_, ?_⟩
    · intro e' he' hquestion' hno'
      have hmem' := (hmem e').2 ⟨he', hquestion'⟩
      rw [hes, List.mem_append, List.mem_cons] at hmem'
      rw [hes, List.pairwise_append, List.pairwise_cons] at hids
      rcases hmem' with hfront | rfl | hback
      · obtain ⟨record, hrecord⟩ := hok e' hfront
        obtain ⟨fault, hfault⟩ := Utf8.exists_fault_iff.2 hno'
        rw [recordWith, hfault] at hrecord
        cases hrecord
      · exact Nat.le_refl _
      · exact Nat.le_of_lt (hids.2.1.1 e' hback)
    · rw [recordWith] at herror
      split at herror
      · rename_i fault hfault
        rw [hfail, ← Except.error.inj herror]
        exact ⟨fault, hfault, rfl⟩
      · cases herror

/-- The documents of an entry by their positions. -/
def sortedRows (t : Tables) (e : EntryRow) : List DocumentRow :=
  (t.documentRows e.id).mergeSort fun a b => a.position ≤ b.position

theorem pairwise_sortedRows (t : Tables) (e : EntryRow) :
    (t.sortedRows e).Pairwise fun d d' => d.position ≤ d'.position :=
  pairwise_mergeSort_key _ _

/-- An answer goes through the rows in question, each with the documents by their positions. -/
theorem answer_eq_mapM [Regex.Limit] {c : Call} (hne : c.categories ≠ [])
    (hf : WordFilter.ofQuery c.query = .ok f) :
    t.answer c = (((t.rows c.categories).filter (preselects f)).mapM
      (recordWith f fun e => (t.sortedRows e).map (·.document))).map (List.filterMap id) := by
  have hrecord : t.record? f = recordWith f fun e => (t.sortedRows e).map (·.document) := by
    funext e
    rw [record?, recordWith]
    cases Utf8.decode e.word <;> rfl
  rw [answer, if_neg (by simpa using hne), hf, ← hrecord]
  change ((t.rows c.categories).filter (preselects f)).mapM (t.record? f) >>= _ = _
  cases ((t.rows c.categories).filter (preselects f)).mapM (t.record? f) <;> rfl

/-- Tables answer calls rightly. -/
theorem answers_answer [Regex.Limit] (hids : (t.entries.map (·.id)).Nodup) {c : Call}
    (hne : c.categories ≠ []) (hf : WordFilter.ofQuery c.query = .ok f) :
    t.Answers c.categories f (t.answer c) := by
  rw [answer_eq_mapM hne hf]
  refine answers_of_mapM (fun e => mem_filter_rows_iff) (pairwise_filter_rows hids) ?_
  intro e _
  exact ⟨t.sortedRows e, List.mergeSort_perm _ _, t.pairwise_sortedRows e, rfl⟩

end Tables

end SymbolIndex
