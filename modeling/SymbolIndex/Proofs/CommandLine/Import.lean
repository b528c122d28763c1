import Mathlib.Data.Set.List
import SymbolIndex.CommandLine.Run
import SymbolIndex.Proofs.Store.Additions

/-!
# Imports

An import reads all lines of a file before it adds anything. If some line is neither blank nor a
record, the database stays as it is; otherwise the documents of all lines are added in order. So a
file may be cut into consecutive files between its lines, and a second import has no effect.
-/

namespace SymbolIndex.CommandLine

open Text

/-- Reads a line of an import file. -/
def readLine? (line : String) : Option ImportLine := (Json.parse line).bind ImportLine.ofJson?

/-- Whether all lines but blank ones hold a record. -/
def Importable (content : String) : Prop :=
  ∀ line ∈ lines content, isBlank line = false → ∃ l, readLine? line = some l

/-- Whether these are the records that lines hold, in their order; blank lines hold none. -/
def ReadAs (texts : List String) (ls : List ImportLine) : Prop :=
  (texts.filter (!isBlank ·)).map readLine? = ls.map some

variable {content : String} {ls ls' : List ImportLine} {texts texts' : List String}

theorem ReadAs.unique (h : ReadAs texts ls) (h' : ReadAs texts ls') : ls = ls' :=
  List.map_injective_iff.2 (Option.some_injective _) (h.symm.trans h')

/-- Records on lines that follow each other follow each other too. -/
theorem exists_of_readAs_append (h : ReadAs (texts ++ texts') ls) :
    ∃ l l', ls = l ++ l' ∧ ReadAs texts l ∧ ReadAs texts' l' := by
  rw [ReadAs, List.filter_append, List.map_append] at h
  obtain ⟨l, l', hls, hl, hl'⟩ := List.map_eq_append_iff.1 h.symm
  exact ⟨l, l', hls, hl.symm, hl'.symm⟩

/-- An import line, or the failure of an import. -/
private def readStep (line : String) : Except Failure ImportLine :=
  match readLine? line with
  | some l => .ok l
  | none => .error .serialization

private theorem parseImport_eq (content : String) :
    parseImport content = ((lines content).filter (!isBlank ·)).mapM readStep :=
  rfl

private theorem mapM_readStep (h : texts.map readLine? = ls.map some) :
    texts.mapM readStep = .ok ls := by
  induction texts generalizing ls with
  | nil =>
    rw [List.map_eq_nil_iff.1 h.symm]
    rfl
  | cons line texts ih =>
    cases ls with
    | nil => cases h
    | cons l ls =>
      obtain ⟨hline, hrest⟩ := List.cons.inj h
      have hstep : readStep line = .ok l := by simp only [readStep, hline]
      rw [List.mapM_cons, hstep, ih hrest]
      rfl

private theorem mapM_readStep_of_none (h : ∃ line ∈ texts, readLine? line = none) :
    texts.mapM readStep = .error .serialization := by
  induction texts with
  | nil => exact absurd h (by simp)
  | cons line texts ih =>
    rw [List.mapM_cons]
    cases hline : readLine? line with
    | none =>
      have hstep : readStep line = .error .serialization := by simp only [readStep, hline]
      rw [hstep]
      rfl
    | some l =>
      have hstep : readStep line = .ok l := by simp only [readStep, hline]
      have hrest : ∃ line ∈ texts, readLine? line = none := by
        obtain ⟨line', hmem, hnone⟩ := h
        rcases List.mem_cons.1 hmem with rfl | hmem
        · exact absurd (hline.symm.trans hnone) nofun
        · exact ⟨line', hmem, hnone⟩
      rw [hstep, ih hrest]
      rfl

theorem parseImport_of_readAs (h : ReadAs (lines content) ls) : parseImport content = .ok ls := by
  rw [parseImport_eq]
  exact mapM_readStep h

theorem parseImport_of_not_importable (h : ¬ Importable content) :
    parseImport content = .error .serialization := by
  rw [parseImport_eq]
  apply mapM_readStep_of_none
  simp only [Importable, not_forall, not_exists] at h
  obtain ⟨line, hline, hblank, hnone⟩ := h
  refine ⟨line, List.mem_filter.2 ⟨hline, by simpa using hblank⟩, ?_⟩
  exact Option.eq_none_iff_forall_ne_some.2 hnone

theorem Importable.exists_readAs (h : Importable content) : ∃ ls, ReadAs (lines content) ls := by
  have hrange : ((lines content).filter (!isBlank ·)).map readLine? ∈
      Set.range (List.map some) := by
    rw [Set.range_list_map]
    intro o ho
    obtain ⟨line, hline, rfl⟩ := List.mem_map.1 ho
    obtain ⟨hmem, hblank⟩ := List.mem_filter.1 hline
    obtain ⟨l, hl⟩ := h line hmem (by simpa using hblank)
    exact ⟨l, hl.symm⟩
  obtain ⟨ls, hls⟩ := hrange
  exact ⟨ls, hls.symm⟩

section Lines

variable {line cs : List Char} {c : Char}

theorem linesFrom_cons (hne : c ≠ '\n') (hcrlf : c = '\r' → cs.head? ≠ some '\n') :
    linesFrom line (c :: cs) = linesFrom (c :: line) cs := by
  rw [linesFrom]
  · rintro rest rfl rfl
    exact hcrlf rfl rfl
  · exact hne

/-- A line that is written with its end is the first one that is read. -/
theorem linesFrom_append_crlf (h : '\n' ∉ cs) (rest : List Char) :
    linesFrom line (cs ++ '\r' :: '\n' :: rest) =
      .ofList (line.reverse ++ cs) :: linesFrom [] rest := by
  induction cs generalizing line with
  | nil => rw [List.nil_append, linesFrom, List.append_nil]
  | cons c cs ih =>
    obtain ⟨hc, hcs⟩ := not_or.1 (mt List.mem_cons.2 h)
    rw [List.cons_append, linesFrom_cons (Ne.symm hc), ih hcs, List.reverse_cons, List.append_assoc,
      List.singleton_append]
    intro _ hhead
    cases cs with
    | nil => exact absurd (Option.some.inj hhead) (by decide)
    | cons c' cs =>
      exact hcs (Option.some.inj hhead ▸ List.mem_cons_self)

theorem newline_notMem_of_mem_linesFrom {text : String} (hline : '\n' ∉ line)
    (h : text ∈ linesFrom line cs) : '\n' ∉ text.toList := by
  fun_induction linesFrom line cs with
  | case1 line hempty => cases h
  | case2 line hne =>
    rw [List.mem_singleton.1 h]
    simpa using hline
  | case3 line cs ih =>
    rcases List.mem_cons.1 h with rfl | hrest
    · simpa using hline
    · exact ih List.not_mem_nil hrest
  | case4 line cs ih =>
    rcases List.mem_cons.1 h with rfl | hrest
    · simpa using hline
    · exact ih List.not_mem_nil hrest
  | case5 line c cs hcrlf hne ih =>
    refine ih ?_ h
    rw [List.mem_cons, not_or]
    exact ⟨Ne.symm hne, hline⟩

/-- No line holds the end of a line. -/
theorem newline_notMem_of_mem_lines {text : String} (h : text ∈ lines content) :
    '\n' ∉ text.toList :=
  newline_notMem_of_mem_linesFrom List.not_mem_nil h

/-- A text with the given lines. A line may end in a carriage return of its own, so another one
follows it. -/
def unlines (texts : List String) : String :=
  .ofList (texts.flatMap fun text => text.toList ++ ['\r', '\n'])

theorem lines_unlines (h : ∀ text ∈ texts, '\n' ∉ text.toList) : lines (unlines texts) = texts := by
  induction texts with
  | nil => rfl
  | cons text texts ih =>
    obtain ⟨hfirst, hrest⟩ := List.forall_mem_cons.1 h
    rw [lines, unlines, String.toList_ofList] at ih ⊢
    rw [List.flatMap_cons, List.append_assoc, List.cons_append, List.singleton_append,
      linesFrom_append_crlf hfirst, ih hrest, List.reverse_nil, List.nil_append,
      String.ofList_toList]

/-- However lines are grouped, there are texts with the groups as their lines. -/
theorem exists_pieces {groups : List (List String)} (h : groups.flatten = lines content) :
    ∃ pieces : List String, pieces.map lines = groups := by
  refine ⟨groups.map unlines, ?_⟩
  rw [List.map_map]
  refine (List.map_congr_left ?_).trans (List.map_id _)
  intro group hgroup
  refine lines_unlines ?_
  intro text htext
  exact newline_notMem_of_mem_lines (h ▸ List.mem_flatten_of_mem hgroup htext)

end Lines

section Run

variable {look : String → FileContent} {i : Invocation} {db db' : Database} {t : Tables}

/-- Whether a command imports a text into a database that it opens. -/
def Importing (look : String → FileContent) (i : Invocation) (db : Database)
    (content : String) : Prop :=
  (∃ path, i.command = .load path ∧ look path = .text content) ∧
    ∃ settings, prepare look i = .ok (settings, db)

/-- A database in use can be opened by a command to import any text. -/
theorem exists_importing (hr : db.Reachable) (content : String) :
    ∃ look i, Importing look i db content := by
  obtain ⟨t, ht, -⟩ := hr.exists_tables
  let look := fun path => if path = "index" then FileContent.database db else .text content
  let i : Invocation :=
    { database := "index", settings := none, json := false, command := .load "records" }
  refine ⟨look, i, ⟨"records", rfl, rfl⟩, {}, ?_⟩
  change (db.prepare >>= fun db => .ok (({} : Settings), db)) = _
  rw [ht.prepare]
  rfl

/-- Where a line cannot be read, the command fails and the database is what it was. -/
theorem run_of_not_importable [Regex.Limit] (hi : Importing look i db content) (colored : Bool)
    (h : ¬ Importable content) :
    run look colored i = { outcome := .error .serialization, database := some db } := by
  obtain ⟨⟨path, hcommand, hfile⟩, settings, hprepare⟩ := hi
  have hload : load db i.json colored path (look path) = .error .serialization := by
    rw [hfile, load]
    change (parseImport content >>= _) = _
    rw [parseImport_of_not_importable h]
    rfl
  simp only [run, hprepare, hcommand, hload]

/-- What an import prints: the number of the records on its lines and that of all entries. -/
def importReport (json colored : Bool) (records entries : Nat) : String :=
  if json then
    printJson (.object [("records", .number (toString records)),
      ("entries", .number (toString entries))])
  else
    let label := Style.green.apply colored "Imported"
    s!"{label}: {records} records ({entries} entries in index)\n"

/-- Where all lines can be read, the command adds their documents in order. -/
theorem run_of_readAs [Regex.Limit] (hi : Importing look i db content) (colored : Bool)
    (ht : db.HasTables t) (h : ReadAs (lines content) ls)
    (ht' : db'.HasTables (t.addAll (importEntries ls))) :
    run look colored i =
      { outcome := .ok (importReport i.json colored ls.length (t.addAll (importEntries ls)).size)
        database := some db' } := by
  obtain ⟨⟨path, hcommand, hfile⟩, settings, hprepare⟩ := hi
  have hload : load db i.json colored path (look path) =
      .ok (importReport i.json colored ls.length (t.addAll (importEntries ls)).size, db') := by
    obtain ⟨db₁, hadd, ht₁⟩ := ht.addAll (importEntries ls)
    have hsame : db₁ = db' := ht₁.trans ht'.symm
    rw [hfile, load]
    change (parseImport content >>= _) = _
    rw [parseImport_of_readAs h]
    change (db.addAll (importEntries ls) >>= _) = _
    rw [hadd, hsame]
    change (db'.size >>= _) = _
    rw [ht'.size_eq]
    rfl
  simp only [run, hprepare, hcommand, hload]

/-- Whether a text can be imported into a database, and every import of it succeeds and leads to
another database. -/
def ImportsTo [Regex.Limit] (db : Database) (content : String) (db' : Database) : Prop :=
  (∃ look i, Importing look i db content) ∧ ∀ look colored i, Importing look i db content →
    ∃ output, run look colored i = { outcome := .ok output, database := some db' }

/-- Whether imports of texts one after another lead from one database to another. -/
def ImportAll [Regex.Limit] (db : Database) : List String → Database → Prop
  | [], db' => db' = db
  | content :: contents, db' => ∃ next, ImportsTo db content next ∧ ImportAll next contents db'

theorem importEntries_append (ls ls' : List ImportLine) :
    importEntries (ls ++ ls') = importEntries ls ++ importEntries ls' :=
  List.flatMap_append

theorem importsTo_of_readAs [Regex.Limit] (hr : db.Reachable) (ht : db.HasTables t)
    (h : ReadAs (lines content) ls) (ht' : db'.HasTables (t.addAll (importEntries ls))) :
    ImportsTo db content db' :=
  ⟨exists_importing hr content, fun _ colored _ hi => ⟨_, run_of_readAs hi colored ht h ht'⟩⟩

/-- Texts that are imported one after another leave what their lines together leave. -/
theorem importAll_of_readAs [Regex.Limit] (hr : db.Reachable) (ht : db.HasTables t)
    {contents : List String} (h : ReadAs (contents.flatMap lines) ls)
    (ht' : db'.HasTables (t.addAll (importEntries ls))) :
    ImportAll db contents db' := by
  induction contents generalizing db t ls with
  | nil =>
    rw [List.map_eq_nil_iff.1 h.symm] at ht'
    exact ht'.trans ht.symm
  | cons content contents ih =>
    obtain ⟨l, l', rfl, hl, hl'⟩ := exists_of_readAs_append h
    obtain ⟨next, hadd, hnext⟩ := ht.addAll (importEntries l)
    rw [importEntries_append, Tables.addAll_append] at ht'
    exact ⟨next, importsTo_of_readAs hr ht hl hnext, ih (.added hr hadd) hnext hl' ht'⟩

/-- The documents of records, added one at a time. -/
def additions (ls : List ImportLine) : List Database.Step :=
  ls.flatMap fun l => l.record.documents.map fun document =>
    .addAll [(l.category, l.record.word, document)]

theorem additions_eq (ls : List ImportLine) :
    additions ls = (importEntries ls).map fun e => .addAll [e] := by
  simp only [additions, importEntries, List.map_flatMap, List.map_map]
  rfl

/-- An import takes all or nothing, over any database in use. If some line that is not blank holds
no record, it fails and the database stays. Otherwise it leaves what the documents of the lines
leave when they are added one at a time and in order. So does importing any texts with consecutive
groups of the lines, and a second import leaves the database as it is. -/
theorem import_all_or_nothing [Regex.Limit] (hr : db.Reachable) (content : String) :
    (¬ Importable content → (∃ look i, Importing look i db content) ∧
      ∀ look colored i, Importing look i db content →
        run look colored i = { outcome := .error .serialization, database := some db }) ∧
    (Importable content → ∃ ls db', ReadAs (lines content) ls ∧ db'.Reachable ∧
      db.run (additions ls) = .ok ([], db') ∧
      ImportsTo db content db' ∧ ImportsTo db' content db' ∧
      ∀ groups : List (List String), groups.flatten = lines content →
        (∃ contents : List String, contents.map lines = groups) ∧
          ∀ contents : List String, contents.map lines = groups → ImportAll db contents db') := by
  obtain ⟨t, ht, c⟩ := hr.exists_tables
  refine ⟨fun h => ⟨exists_importing hr content, ?_⟩, fun h => ?_⟩
  · intro look colored i hi
    exact run_of_not_importable hi colored h
  · obtain ⟨ls, hls⟩ := h.exists_readAs
    obtain ⟨db', hadd, ht'⟩ := ht.addAll (importEntries ls)
    obtain ⟨db₁, hrun, ht₁⟩ := ht.run_map_addAll (importEntries ls)
    have hr' : db'.Reachable := .added hr hadd
    -- The second import finds everything noted.
    have hagain : db'.HasTables ((t.addAll (importEntries ls)).addAll (importEntries ls)) := by
      rw [c.addAll_addAll]
      exact ht'
    refine ⟨ls, db', hls, hr', ?_, importsTo_of_readAs hr ht hls ht',
      importsTo_of_readAs hr' ht' hls hagain, ?_⟩
    · rw [additions_eq, hrun, ht₁.trans ht'.symm]
    · intro groups hgroups
      refine ⟨exists_pieces hgroups, ?_⟩
      rintro contents rfl
      rw [← List.flatMap_def] at hgroups
      exact importAll_of_readAs hr ht (hgroups ▸ hls) ht'

/-- A new index takes nothing from a file whose second line is cut off, and the word with both
documents from the first line alone. -/
theorem import_all_or_nothing_widget :
    let _ : Regex.Limit := .unlimited
    let line :=
      "\x7b\"category\":\"type\",\"word\":\"Widget\",\"documents\":[\"a.js\",\"b.js\"]\x7d"
    let rows : Tables :=
      { entries := [⟨1, "type", Utf8.encode "Widget".toList⟩]
        documents := [⟨1, "a.js", 0⟩, ⟨1, "b.js", 1⟩] }
    let opened : Database := { version := Failure.expectedVersion, tables := some .empty }
    let filled : Database := { version := Failure.expectedVersion, tables := some rows }
    opened.Reachable ∧
      (∀ look colored i, Importing look i opened (unlines [line, "\x7b"]) →
        run look colored i = { outcome := .error .serialization, database := some opened }) ∧
      ImportsTo opened (unlines [line]) filled ∧ ImportsTo filled (unlines [line]) filled := by
  intro limit line rows opened filled
  have hr : opened.Reachable := .opened rfl
  have hcut : ¬ Importable (unlines [line, "\x7b"]) := by
    intro h
    rw [Importable, lines_unlines (by decide)] at h
    obtain ⟨l, hl⟩ := h "\x7b" (List.mem_cons_of_mem _ List.mem_cons_self) (by decide)
    exact absurd hl nofun
  have hlines : lines (unlines [line]) = [line] := lines_unlines (by decide)
  have hparse : Json.parse line = some (.object [("category", .text "type"),
      ("word", .text "Widget"), ("documents", .array [.text "a.js", .text "b.js"])]) := by
    unfold line
    rfl
  have hread : readLine? line = some ⟨.type, ⟨"Widget", ["a.js", "b.js"]⟩⟩ := by
    rw [readLine?, hparse]
    rfl
  have hwhole : Importable (unlines [line]) := by
    intro text htext _
    rw [hlines, List.mem_singleton] at htext
    exact ⟨_, htext ▸ hread⟩
  refine ⟨hr, ((import_all_or_nothing hr _).1 hcut).2, ?_⟩
  obtain ⟨ls, db', hls, -, hrun, hto, hagain, -⟩ := (import_all_or_nothing hr _).2 hwhole
  have hblank : isBlank line = false := by decide
  rw [ReadAs, hlines, List.filter_singleton, hblank] at hls
  obtain rfl : ls = [⟨.type, ⟨"Widget", ["a.js", "b.js"]⟩⟩] :=
    List.map_injective_iff.2 (Option.some_injective _) (hls.symm.trans (congrArg ([·]) hread))
  obtain rfl : db' = filled := (Prod.mk.inj (Except.ok.inj hrun)).2.symm
  exact ⟨hto, hagain⟩

end Run

end SymbolIndex.CommandLine
