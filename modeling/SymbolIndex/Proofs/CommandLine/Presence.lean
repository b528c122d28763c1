import SymbolIndex.Proofs.CommandLine.Import
import SymbolIndex.Proofs.Store.RawAnswers

/-!
# Imported records in the index

An import adds the documents of its lines, one after another, so that every line with documents is
found afterwards with all of these. A line without documents is counted with the others, and nothing
is added for it: its word is found only if the index held it before or another line brings it. The
query for exactly a word looks at all words of the category, so that it fails beside a word that is
no text, whatever has been imported.
-/

namespace SymbolIndex

open Text

/-- The query for exactly a word. -/
def Query.exactly (word : String) : Query := { pattern := word, mode := { caseSensitive := true } }

theorem Query.ofQuery_exactly [Regex.Limit] (word : String) :
    WordFilter.ofQuery (exactly word) = .ok (.exact word true) :=
  rfl

theorem WordFilter.accepts_exact {text word : String} :
    (exact text true).accepts word ↔ word = text := by
  simp [accepts, fold]

namespace Tables

variable {t : Tables} {e : EntryRow} {category : Category} {word : String}
variable {documents : List String}

/-- The rows in question for exactly a word are those of the category. -/
theorem inQuestion_exactly :
    InQuestion [category] (.exact word true) e ↔ e.category = category.tag := by
  simp [InQuestion, eq_comm]

private theorem exists_mem_of_forall₂ {α β : Type} {R : α → β → Prop} {as : List α} {bs : List β}
    (h : List.Forall₂ R as bs) : (∀ a ∈ as, ∃ b ∈ bs, R a b) ∧ ∀ b ∈ bs, ∃ a ∈ as, R a b := by
  induction h with
  | nil => exact ⟨nofun, nofun⟩
  | cons hab _ ih =>
    refine ⟨List.forall_mem_cons.2 ⟨⟨_, List.mem_cons_self, hab⟩, fun a ha => ?_⟩,
      List.forall_mem_cons.2 ⟨⟨_, List.mem_cons_self, hab⟩, fun b hb => ?_⟩⟩
    · obtain ⟨b, hb, hR⟩ := ih.1 a ha
      exact ⟨b, List.mem_cons_of_mem _ hb, hR⟩
    · obtain ⟨a, ha, hR⟩ := ih.2 b hb
      exact ⟨a, List.mem_cons_of_mem _ ha, hR⟩

/-- A word is found with some documents if it has a row with these and the whole category can be
read. -/
theorem exists_answer_exactly_iff [Regex.Limit] (c : t.Consistent) :
    (∃ rs, t.answer ⟨[category], .exactly word⟩ = .ok rs ∧
        ∃ r ∈ rs, r.word = word ∧ documents ⊆ r.documents) ↔
      (∀ bytes, t.HasKey (category.tag, bytes) → Utf8.IsText bytes) ∧
        ∃ e ∈ t.entries, e.key = rowKey (category, word) ∧ documents ⊆ t.documentsOf e.id := by
  have hids : (t.entries.map (·.id)).Nodup := List.pairwise_map.2 (c.ids.imp Nat.ne_of_lt)
  have hanswers : t.Answers [category] (.exact word true) (t.answer ⟨[category], .exactly word⟩) :=
    answers_answer (c := ⟨[category], .exactly word⟩) hids (List.cons_ne_nil _ _)
      (Query.ofQuery_exactly word)
  by_cases htext : ∀ bytes, t.HasKey (category.tag, bytes) → Utf8.IsText bytes
  · rw [and_iff_right htext]
    obtain ⟨matched, rs, hrs, -, hmatched, hall⟩ := hanswers.answers fun e he hquestion =>
      htext e.word ⟨e, he, Prod.ext (inQuestion_exactly.1 hquestion) rfl⟩
    have hkey : ∀ e, e ∈ matched ↔ e ∈ t.entries ∧ e.key = rowKey (category, word) := by
      intro e
      simp only [hmatched, inQuestion_exactly, WordFilter.accepts_exact, exists_eq_right,
        EntryRow.key, rowKey, Prod.mk.injEq]
    obtain ⟨hforward, hback⟩ := exists_mem_of_forall₂ hall
    rw [hrs]
    constructor
    · rintro ⟨_, ⟨⟩, r, hr, rfl, hdocuments⟩
      obtain ⟨e, he, hdescribes⟩ := hback r hr
      obtain ⟨hentry, hekey⟩ := (hkey e).1 he
      exact ⟨e, hentry, hekey, fun d hd => hdescribes.documents.mem_iff.1 (hdocuments hd)⟩
    · rintro ⟨e, hentry, hekey, hdocuments⟩
      obtain ⟨r, hr, hdescribes⟩ := hforward e ((hkey e).2 ⟨hentry, hekey⟩)
      have hword : Utf8.encode r.word.toList = Utf8.encode word.toList :=
        hdescribes.word.symm.trans (Prod.mk.inj hekey).2
      refine ⟨rs, rfl, r, hr, String.toList_inj.1 (Utf8.encode_injective hword), ?_⟩
      exact fun d hd => hdescribes.documents.mem_iff.2 (hdocuments hd)
  · refine iff_of_false ?_ fun h => htext h.1
    rintro ⟨rs, hrs, -⟩
    simp only [not_forall] at htext
    obtain ⟨bytes, ⟨e, he, hekey⟩, hno⟩ := htext
    obtain ⟨hcategory, rfl⟩ := Prod.mk.inj hekey
    obtain ⟨_, -, -, -, fault, -, hfail⟩ :=
      hanswers.fails ⟨e, he, inQuestion_exactly.2 hcategory, hno⟩
    cases hrs.symm.trans hfail

end Tables

/-- Whether the tables of a database have a row for a category and a word. -/
def Database.HasKey (db : Database) (key : String × List UInt8) : Prop :=
  ∃ t, db.HasTables t ∧ t.HasKey key

theorem Database.HasTables.hasKey_iff {db : Database} {t : Tables} (ht : db.HasTables t)
    (key : String × List UInt8) : db.HasKey key ↔ t.HasKey key := by
  refine ⟨?_, fun h => ⟨t, ht, h⟩⟩
  rintro ⟨t', ht', h⟩
  obtain rfl : t' = t := Option.some.inj (congrArg Database.tables (ht'.symm.trans ht))
  exact h

/-- The category and word of a line. -/
def ImportLine.key (l : ImportLine) : Category × String := (l.category, l.record.word)

namespace CommandLine

variable {look : String → FileContent} {i : Invocation} {db db' : Database} {t : Tables}
variable {content output : String} {colored : Bool} {ls : List ImportLine} {l : ImportLine}

/-- Whether the query for exactly the word of a line finds a record of it with all documents of the
line. -/
def Found [Regex.Limit] (db : Database) (l : ImportLine) : Prop :=
  ∃ rs, db.answer ⟨[l.category], .exactly l.record.word⟩ = .ok rs ∧
    ∃ r ∈ rs, r.word = l.record.word ∧ l.record.documents ⊆ r.documents

theorem mem_importEntries {e : Category × String × String} :
    e ∈ importEntries ls ↔
      ∃ l ∈ ls, ∃ document ∈ l.record.documents, (l.category, l.record.word, document) = e := by
  simp only [importEntries, List.mem_flatMap, List.mem_map]

/-- Lines bring a word if one of them has it with documents. -/
theorem exists_mem_importEntries_iff {k : Category × String} :
    (∃ e ∈ importEntries ls, rowKey k = rowKey (e.1, e.2.1)) ↔
      ∃ l ∈ ls, l.key = k ∧ l.record.documents ≠ [] := by
  constructor
  · rintro ⟨e, he, hkey⟩
    obtain ⟨l, hl, document, hdocument, rfl⟩ := mem_importEntries.1 he
    exact ⟨l, hl, (rowKey_injective hkey).symm, List.ne_nil_of_mem hdocument⟩
  · rintro ⟨l, hl, rfl, hne⟩
    obtain ⟨document, hdocument⟩ := List.exists_mem_of_ne_nil _ hne
    exact ⟨_, mem_importEntries.2 ⟨l, hl, document, hdocument, rfl⟩, rfl⟩

/-- After an import a line is found if its word has a row and the category could be read before:
what the import adds is text, and the documents of the line come with it. -/
theorem found_of_addAll_iff [Regex.Limit] (c : t.Consistent) (hl : l ∈ ls)
    (ht' : db'.HasTables (t.addAll (importEntries ls))) :
    Found db' l ↔
      (∀ bytes, t.HasKey (l.category.tag, bytes) → Utf8.IsText bytes) ∧
        ((∃ l' ∈ ls, l'.key = l.key ∧ l'.record.documents ≠ []) ∨ t.HasKey (rowKey l.key)) := by
  have c' := c.addAll (importEntries ls)
  rw [Found, ht'.answer_eq, Tables.exists_answer_exactly_iff c', ← exists_mem_importEntries_iff,
    ← Tables.hasKey_addAll]
  refine and_congr ?_ ?_
  · simp only [Tables.hasKey_addAll]
    refine ⟨fun h bytes hkey => h bytes (.inr hkey), fun h bytes hkey => ?_⟩
    rcases hkey with ⟨e, -, hkey⟩ | hkey
    · exact ⟨e.2.1.toList, (Prod.mk.inj hkey).2⟩
    · exact h bytes hkey
  · refine ⟨fun ⟨e, he, hkey, _⟩ => ⟨e, he, hkey⟩, fun ⟨e, he, hkey⟩ => ⟨e, he, hkey, ?_⟩⟩
    intro document hdocument
    obtain ⟨e', he', hkey', hnoted⟩ : (t.addAll (importEntries ls)).Notes l.key document :=
      c.notes_addAll (.inl (mem_importEntries.2 ⟨l, hl, document, hdocument, rfl⟩))
    rwa [c'.eq_of_key he he' (hkey.trans hkey'.symm)]

/-- A successful import prints the number of the lines with a record, and every one of these is
found afterwards, with two exceptions: a line without documents, unless its word was in the index
or comes with another line, and a line of a category that holds a word that is no text. -/
theorem found_imported_iff [Regex.Limit] (hr : db.Reachable) (hi : Importing look i db content)
    (hrun : run look colored i = { outcome := .ok output, database := some db' }) :
    ∃ ls entries, ReadAs (lines content) ls ∧ db'.Reachable ∧ db'.size = .ok entries ∧
      output = importReport i.json colored ls.length entries ∧
      ∀ l ∈ ls, Found db' l ↔
        (∀ bytes, db.HasKey (l.category.tag, bytes) → Utf8.IsText bytes) ∧
          (l.record.documents ≠ [] ∨ db.HasKey (rowKey l.key) ∨
            ∃ l' ∈ ls, l'.key = l.key ∧ l'.record.documents ≠ []) := by
  obtain ⟨t, ht, c⟩ := hr.exists_tables
  have himportable : Importable content := by
    by_contra hno
    cases (run_of_not_importable hi colored hno).symm.trans hrun
  obtain ⟨ls, hls⟩ := himportable.exists_readAs
  obtain ⟨db₁, hadd, ht₁⟩ := ht.addAll (importEntries ls)
  obtain ⟨houtput, hdb⟩ := Result.mk.inj ((run_of_readAs hi colored ht hls ht₁).symm.trans hrun)
  obtain rfl := Option.some.inj hdb
  have hkeys : ∀ key, db.HasKey key ↔ t.HasKey key := ht.hasKey_iff
  refine ⟨ls, _, hls, .added hr hadd, ht₁.size_eq, (Except.ok.inj houtput).symm, fun l hl => ?_⟩
  simp only [found_of_addAll_iff c hl ht₁, hkeys]
  refine and_congr_right fun _ => ?_
  constructor
  · rintro (hline | hkey)
    · exact .inr (.inr hline)
    · exact .inr (.inl hkey)
  · rintro (hne | hkey | hline)
    · exact .inl ⟨l, hl, rfl, hne⟩
    · exact .inr hkey
    · exact .inl hline

/-- Of two lines that are counted, the one with a document is found and the one without is not. -/
theorem found_imported_iff_widget :
    let _ : Regex.Limit := .unlimited
    let widget := "\x7b\"category\":\"type\",\"word\":\"Widget\",\"documents\":[\"a.js\"]\x7d"
    let gadget := "\x7b\"category\":\"type\",\"word\":\"Gadget\"\x7d"
    let content := unlines [widget, gadget]
    let rows : Tables :=
      { entries := [⟨1, "type", Utf8.encode "Widget".toList⟩], documents := [⟨1, "a.js", 0⟩] }
    let opened : Database := { version := Failure.expectedVersion, tables := some .empty }
    let filled : Database := { version := Failure.expectedVersion, tables := some rows }
    let look := fun path => if path = "index" then FileContent.database opened else .text content
    let i : Invocation :=
      { database := "index", settings := none, json := true, command := .load "records" }
    opened.Reachable ∧ Importing look i opened content ∧
      run look false i =
        { outcome := .ok (importReport true false 2 1), database := some filled } ∧
      Found filled ⟨.type, ⟨"Widget", ["a.js"]⟩⟩ ∧ ¬ Found filled ⟨.type, ⟨"Gadget", []⟩⟩ := by
  intro limit widget gadget content rows opened filled look i
  have hr : opened.Reachable := .opened rfl
  have hi : Importing look i opened content := ⟨⟨"records", rfl, rfl⟩, {}, rfl⟩
  have hwidget : Json.parse widget = some (.object [("category", .text "type"),
      ("word", .text "Widget"), ("documents", .array [.text "a.js"])]) := by
    unfold widget
    rfl
  have hgadget : Json.parse gadget = some (.object [("category", .text "type"),
      ("word", .text "Gadget")]) := by
    unfold gadget
    rfl
  let ls : List ImportLine := [⟨.type, ⟨"Widget", ["a.js"]⟩⟩, ⟨.type, ⟨"Gadget", []⟩⟩]
  have hread : ReadAs (lines content) ls := by
    rw [lines_unlines (by decide), ReadAs, List.filter_eq_self.2 (by decide), List.map_cons,
      List.map_singleton, readLine?, hwidget, readLine?, hgadget]
    rfl
  have ht : opened.HasTables .empty := rfl
  have ht' : filled.HasTables (Tables.empty.addAll (importEntries ls)) := rfl
  have hsize : (Tables.empty.addAll (importEntries ls)).size = 1 := rfl
  have hrun := run_of_readAs hi false ht hread ht'
  rw [hsize] at hrun
  refine ⟨hr, hi, hrun, ?_⟩
  obtain ⟨ls', -, hls, -, -, -, hlines⟩ := found_imported_iff hr hi hrun
  obtain rfl := hread.unique hls
  have hnokey : ∀ key, ¬ opened.HasKey key := fun key h => by
    obtain ⟨e, he, -⟩ := (ht.hasKey_iff key).1 h
    cases he
  constructor
  · refine (hlines _ List.mem_cons_self).2 ⟨fun _ h => absurd h (hnokey _), .inl ?_⟩
    exact List.cons_ne_nil _ _
  · intro hfound
    rcases ((hlines _ (List.mem_cons_of_mem _ List.mem_cons_self)).1 hfound).2 with
      hne | hkey | ⟨l, hl, hkey, hne⟩
    · exact hne rfl
    · exact hnokey _ hkey
    · simp only [ls, List.mem_cons, List.not_mem_nil, or_false] at hl
      rcases hl with rfl | rfl
      · exact absurd hkey (by decide)
      · exact hne rfl

/-- A line without documents is counted, and the index stays empty. -/
theorem undocumented_not_found :
    let _ : Regex.Limit := .unlimited
    let line := "\x7b\"category\":\"type\",\"word\":\"Widget\\u0000\"\x7d"
    let l : ImportLine := ⟨.type, ⟨"Widget\x00", []⟩⟩
    let opened : Database := { version := Failure.expectedVersion, tables := some .empty }
    opened.Reachable ∧ ReadAs (lines (unlines [line])) [l] ∧
      (∃ look i, Importing look i opened (unlines [line])) ∧
      (∀ look colored i, Importing look i opened (unlines [line]) →
        run look colored i =
          { outcome := .ok (importReport i.json colored 1 0), database := some opened }) ∧
      ¬ Found opened l := by
  intro limit line l opened
  have hr : opened.Reachable := .opened rfl
  have ht : opened.HasTables .empty := rfl
  have hparse : Json.parse line = some (.object [("category", .text "type"),
      ("word", .text "Widget\x00")]) := by
    unfold line
    rfl
  have hread : ReadAs (lines (unlines [line])) [l] := by
    rw [lines_unlines (by decide), ReadAs, List.filter_eq_self.2 (by decide), List.map_singleton,
      readLine?, hparse]
    rfl
  refine ⟨hr, hread, exists_importing hr _, fun look colored i hi => ?_, ?_⟩
  · have ht' : opened.HasTables (Tables.empty.addAll (importEntries [l])) := rfl
    have hsize : (Tables.empty.addAll (importEntries [l])).size = 0 := rfl
    have hrun := run_of_readAs hi colored ht hread ht'
    rwa [hsize] at hrun
  · rw [Found, ht.answer_eq, Tables.exists_answer_exactly_iff Tables.empty_consistent]
    rintro ⟨-, e, he, -⟩
    cases he

end CommandLine

end SymbolIndex
