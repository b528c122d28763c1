import SymbolIndex.Proofs.Reader.Types
import SymbolIndex.Proofs.Record.Type
import SymbolIndex.Settings

/-!
# When a lookup by name stays with the name

A lookup by name compares words in lower case, the delimiter with them, while the name of a type
ends where the delimiter itself is. If the delimiter separates, the two agree, and every type that
is found has the name that was asked for. Each way in which a delimiter can fail to separate gives a
name and a word of another type that is found under it: the lowercase form of the delimiter may be
another text, or that of another character too, or the delimiter has a say in whether a sigma before
it ends a word.
-/

namespace SymbolIndex

open Text

/-- Whether a word starts with a name and a delimiter in lower case, and what stands before the
first delimiter in it is another name. -/
structure Leaks (d : Char) (name word : List Char) : Prop where
  not_blank : name.all isBlankChar = false
  bare : bareTypeName (.ofList name) = .ofList name
  free : d ∉ name
  starts : lowercaseFrom false (name ++ [d]) <+: lowercaseFrom false word
  other : ∃ first, (splitOn d word)[0]? = some first ∧ first ≠ [] ∧
    lowercaseFrom false first ≠ lowercaseFrom false name

namespace Leaks

variable {c d : Char} {name word : List Char}

/-- In a word without the delimiter the whole word is the name. -/
theorem other_of_notMem (hfree : d ∉ word) (hne : word ≠ [])
    (hother : lowercaseFrom false word ≠ lowercaseFrom false name) :
    ∃ first, (splitOn d word)[0]? = some first ∧ first ≠ [] ∧
      lowercaseFrom false first ≠ lowercaseFrom false name :=
  ⟨word, by rw [splitOn_of_notMem hfree]; rfl, hne, hother⟩

theorem starts_of_eq (h : lowercaseFrom false (name ++ [d]) = lowercaseFrom false word) :
    lowercaseFrom false (name ++ [d]) <+: lowercaseFrom false word :=
  h ▸ List.prefix_rfl

/-- Where a delimiter is mapped to another text, that text is not taken for a delimiter. -/
theorem of_lowercaseChar_ne (h : lowercaseChar d ≠ [d]) :
    Leaks d ['1'] ('1' :: lowercaseChar d) := by
  have hfree : d ≠ '1' := by
    rintro rfl
    exact h (by decide)
  have hdigit : Divides '1' := by constructor <;> decide
  have hlower : lowercaseFrom false (lowercaseChar d) = lowercaseChar d :=
    lowercaseFrom_eq_self (fun _ hc => lowercaseChar_of_mem hc) false
  refine ⟨by decide, by decide, by simpa using hfree, starts_of_eq ?_,
    other_of_notMem ?_ (by simp) ?_⟩
  · rw [List.singleton_append, hdigit.lowercaseFrom_cons, hdigit.lowercaseFrom_cons, hlower,
      lowercaseFrom_singleton]
  · rw [List.mem_cons, not_or]
    exact ⟨hfree, fun hmem => h (lowercaseChar_of_mem hmem)⟩
  · rw [hdigit.lowercaseFrom_cons, hdigit.lowercaseFrom_cons, hlower]
    simpa [lowercaseFrom] using lowercaseChar_ne_nil d

/-- Where another character is mapped to the delimiter, that one is not taken for a delimiter. -/
theorem exists_of_source (hc : lowercaseChar c = [d]) (hne : c ≠ d) :
    ∃ name word, Leaks d name word := by
  obtain ⟨q, hdigit, hqd, hblank, hbare⟩ : ∃ q, Divides q ∧ d ≠ q ∧
      [q].all isBlankChar = false ∧ bareTypeName (.ofList [q]) = .ofList [q] := by
    by_cases hd : d = '1'
    · exact ⟨'2', by constructor <;> decide, hd ▸ by decide, by decide, by decide⟩
    · exact ⟨'1', by constructor <;> decide, hd, by decide, by decide⟩
  have hd : lowercaseChar d = [d] := lowercaseChar_of_mem (hc ▸ List.mem_singleton_self d)
  refine ⟨[q], [q, c], hblank, hbare, by simpa using hqd, starts_of_eq ?_,
    other_of_notMem ?_ (by simp) ?_⟩
  · rw [List.singleton_append, hdigit.lowercaseFrom_cons, hdigit.lowercaseFrom_cons,
      lowercaseFrom_singleton, lowercaseFrom_singleton, hc, hd]
  · simpa using ⟨hqd, Ne.symm hne⟩
  · rw [hdigit.lowercaseFrom_cons, hdigit.lowercaseFrom_cons, lowercaseFrom_singleton, hc]
    exact nofun

/-- What comes after a sigma that follows a letter decides whether it is a final one. -/
private theorem lowercaseFrom_sigma {rest : List Char} (h : ∀ c ∈ rest, lowercaseChar c = [c]) :
    lowercaseFrom false ('a' :: 'Σ' :: rest) =
      'a' :: (if startsCased rest then 'σ' else 'ς') :: rest := by
  have hlower : lowercaseChar 'a' = ['a'] := by decide
  have hcased : isCased 'a' = true := by decide
  have hignorable : isCaseIgnorable 'a' = false := by decide
  simp only [lowercaseFrom, lowercaseFrom_eq_self h, hlower, hcased, hignorable]
  cases startsCased rest <;> rfl

/-- A case-ignorable delimiter after a sigma leaves it to the rest of the word whether the sigma is
a final one, and the name of the type is without that rest. -/
theorem of_ignorable (hd : lowercaseChar d = [d]) (hignorable : isCaseIgnorable d = true)
    (ha : d ≠ 'a') (hsigma : d ≠ 'σ') : Leaks d ['a', 'σ'] ['a', 'Σ', d, 'a'] := by
  have hcapital := ne_sigma_of_lowercaseChar_eq hd
  have hname : lowercaseFrom false ['a', 'σ', d] = ['a', 'σ', d] :=
    lowercaseFrom_eq_self (by simpa using ⟨by decide, by decide, hd⟩) false
  have hstarts : startsCased [d, 'a'] = true := by
    rw [startsCased, if_pos hignorable]
    decide
  have hword : lowercaseFrom false ['a', 'Σ', d, 'a'] = ['a', 'σ', d, 'a'] := by
    rw [lowercaseFrom_sigma (by simpa using ⟨hd, by decide⟩), hstarts]
    rfl
  have hsplit : splitOn d (['a', 'Σ'] ++ d :: ['a']) = ['a', 'Σ'] :: splitOn d ['a'] :=
    splitOn_append_cons (by simpa using ⟨ha, hcapital⟩) ['a']
  refine ⟨by decide, by decide, by simpa using ⟨ha, hsigma⟩, ?_, ['a', 'Σ'],
    congrArg (·[0]?) hsplit, by simp, by decide⟩
  rw [List.cons_append, List.singleton_append, hname, hword]
  exact ⟨['a'], rfl⟩

/-- A delimiter with a case keeps a sigma before it from being a final one, and at the end of a name
the sigma is one. -/
theorem of_cased (hd : lowercaseChar d = [d]) (hcased : isCased d = true)
    (hignorable : isCaseIgnorable d = false) (ha : d ≠ 'a') (hsigma : d ≠ 'σ') :
    Leaks d ['a', 'Σ'] ['a', 'σ', d] := by
  have hcapital := ne_sigma_of_lowercaseChar_eq hd
  have hstarts : startsCased [d] = true := by
    rw [startsCased, if_neg (by simp [hignorable]), hcased]
  have hname : lowercaseFrom false ['a', 'Σ', d] = ['a', 'σ', d] := by
    rw [lowercaseFrom_sigma (by simpa using hd), hstarts]
    rfl
  have hword : lowercaseFrom false ['a', 'σ', d] = ['a', 'σ', d] :=
    lowercaseFrom_eq_self (by simpa using ⟨by decide, by decide, hd⟩) false
  have hsplit : splitOn d (['a', 'σ'] ++ d :: []) = ['a', 'σ'] :: splitOn d [] :=
    splitOn_append_cons (by simpa using ⟨ha, hsigma⟩) []
  exact ⟨by decide, by decide, by simpa using ⟨ha, hcapital⟩, starts_of_eq (hname.trans hword.symm),
    ['a', 'σ'], congrArg (·[0]?) hsplit, by simp, by decide⟩

/-- The final sigma is made of a capital one at the end of a word. -/
theorem of_final_sigma : Leaks 'ς' ['a'] ['a', 'Σ'] where
  not_blank := by decide
  bare := by decide
  free := by decide
  starts := by decide
  other := other_of_notMem (by decide) (by decide) (by decide)

/-- The dot above is made of the dotted capital I. -/
theorem of_dot : Leaks '\u0307' ['i'] ['İ'] where
  not_blank := by decide
  bare := by decide
  free := by decide
  starts := by decide
  other := other_of_notMem (by decide) (by decide) (by decide)

/-- Where the delimiter is in the lowercase form of another character, some name finds another. -/
theorem exists_of_mem (hmem : d ∈ lowercaseChar c) (hne : c ≠ d) :
    ∃ name word, Leaks d name word := by
  by_cases hdotted : c = 'İ'
  · subst hdotted
    have hpair : d = 'i' ∨ d = '\u0307' := by
      simpa [lowercaseChar] using hmem
    rcases hpair with rfl | rfl
    · exact exists_of_source (show lowercaseChar 'I' = ['i'] by decide) (by decide)
    · exact ⟨_, _, of_dot⟩
  · rw [lowercaseChar, if_neg hdotted, List.mem_singleton] at hmem
    refine exists_of_source ?_ hne
    rw [lowercaseChar, if_neg hdotted, hmem]

/-- Under a delimiter that does not separate some name finds another one. -/
theorem exists_of_not_separates (h : ¬ Separates d) : ∃ name word, Leaks d name word := by
  by_cases hlower : lowercaseChar d = [d]
  case neg => exact ⟨_, _, of_lowercaseChar_ne hlower⟩
  by_cases hfinal : d = 'ς'
  case pos => exact ⟨_, _, hfinal ▸ of_final_sigma⟩
  by_cases hsource : ∀ c, d ∈ lowercaseChar c → c = d
  case neg =>
    simp only [not_forall] at hsource
    obtain ⟨c, hmem, hne⟩ := hsource
    exact exists_of_mem hmem hne
  -- What is left is its own lowercase form and no other character's: its case makes the difference.
  have ha : d ≠ 'a' := by
    rintro rfl
    exact absurd (hsource 'A' (by decide)) (by decide)
  have hsigma : d ≠ 'σ' := by
    rintro rfl
    exact absurd (hsource 'Σ' (by decide)) (by decide)
  cases hignorable : isCaseIgnorable d with
  | true => exact ⟨_, _, of_ignorable hlower hignorable ha hsigma⟩
  | false =>
    cases hcased : isCased d with
    | true => exact ⟨_, _, of_cased hlower hcased hignorable ha hsigma⟩
    | false =>
      have hdivides : Divides d :=
        ⟨hcased, hignorable, hlower, ne_sigma_of_lowercaseChar_eq hlower⟩
      exact absurd ⟨hdivides, hsource, hfinal⟩ h

end Leaks

namespace Reader

variable (r : Reader)

/-- Under a separating delimiter every type that is found has the name that was asked for. -/
theorem lowercase_name_of_mem_typesIn (hs : Separates r.delimiters.primary) {es : Entries}
    {name : String} (hfree : r.delimiters.primary ∉ (bareTypeName name).toList) :
    ∀ t ∈ r.typesIn es name, lowercase t.name = lowercase (bareTypeName name) := by
  intro t ht
  rw [typesIn] at ht
  split at ht
  · cases ht
  · obtain ⟨record, hrecord, htype⟩ := List.mem_filterMap.1 ht
    obtain ⟨before, rest, hcut, heq⟩ :=
      (Record.accepts_typeFilter_iff hs hfree).1 (List.mem_filter.1 hrecord).2
    obtain ⟨hword, hbefore⟩ := cut_eq_some_iff.1 hcut
    have hfirst : (splitOn r.delimiters.primary record.word.toList)[0]? = some before := by
      rw [hword, splitOn_append_cons hbefore]
      rfl
    rw [Record.name_of_toType? hfirst htype, lowercase, lowercase, String.toList_ofList, heq]

/-- Under a delimiter that leaks, the word is found under the name. -/
theorem exists_mem_typesIn_of_leaks {name word : List Char}
    (h : Leaks r.delimiters.primary name word) :
    ∃ t ∈ r.typesIn (Entries.ofHistory [.add .type (.ofList word) "a.js"]) (.ofList name),
      lowercase t.name ≠ lowercase (bareTypeName (.ofList name)) := by
  obtain ⟨first, hfirst, hne, hother⟩ := h.other
  have hblank : ¬ isBlank (.ofList name) = true := by
    rw [isBlank, String.toList_ofList, h.not_blank]
    exact Bool.false_ne_true
  have haccepts : (Query.typeFilter r.delimiters (.ofList name)).accepts (.ofList word) = true := by
    rw [Query.accepts_typeFilter_iff_prefix, h.bare, String.toList_ofList, String.toList_ofList]
    exact h.starts
  have hrecords : (Entries.ofHistory [.add .type (.ofList word) "a.js"]).records [.type] =
      [⟨.ofList word, ["a.js"]⟩] := rfl
  obtain ⟨t, htype, hname⟩ : ∃ t, Record.toType? r.delimiters ⟨.ofList word, ["a.js"]⟩ = some t ∧
      t.name = .ofList first := by
    refine Option.map_eq_some_iff.1 (Record.name_toType? ?_ hne)
    rw [String.toList_ofList]
    exact hfirst
  refine ⟨t, ?_, ?_⟩
  · rw [typesIn, if_neg hblank, hrecords]
    exact List.mem_filterMap.2
      ⟨_, List.mem_filter.2 ⟨List.mem_singleton_self _, haccepts⟩, htype⟩
  · rw [hname, h.bare, lowercase, lowercase, String.toList_ofList, String.toList_ofList, ne_eq,
      String.ofList_inj]
    exact hother

/-- A lookup by name finds types of that name alone, in every index and up to the case of letters,
exactly if the delimiter separates. -/
theorem typesNamed_isolated_iff [Regex.Limit] :
    (∀ (h : List Change) (name : String) (made : Nat), ¬ isBlank name →
      r.delimiters.primary ∉ (bareTypeName name).toList →
        ∃ found, ((r.typesNamed name false).run (MemoryStore.empty.run h).2.engine made).result =
            .ok found ∧
          ∀ t ∈ found, lowercase t.name = lowercase (bareTypeName name)) ↔
      Separates r.delimiters.primary := by
  constructor
  · intro hisolated
    by_contra hs
    obtain ⟨name, word, hleaks⟩ := Leaks.exists_of_not_separates hs
    obtain ⟨t, ht, hother⟩ := r.exists_mem_typesIn_of_leaks hleaks
    obtain ⟨found, hrun, hnames⟩ := hisolated [.add .type (.ofList word) "a.js"] (.ofList name) 0
      (by simp [isBlank, hleaks.not_blank]) (by simpa [hleaks.bare] using hleaks.free)
    rw [r.run_typesNamed (.memory _), Except.ok.injEq] at hrun
    exact hother (hnames t (hrun ▸ ht))
  · intro hs h name made _ hfree
    exact ⟨_, r.run_typesNamed (.memory h) name made, r.lowercase_name_of_mem_typesIn hs hfree⟩

/-- A letter is admitted as a delimiter, and under it a longer name is found. -/
theorem typesNamed_not_isolated_letter :
    let _ : Regex.Limit := .unlimited
    let settings : Settings := { delimiters := ⟨'x', ','⟩ }
    let h : List Change := [.add .type "FooXBarx" "w.js"]
    Settings.parse "[delimiters]\nprimary = \"x\"\n" = .ok settings ∧
      ¬ isBlank "Foo" ∧ 'x' ∉ (bareTypeName "Foo").toList ∧
      ((({ delimiters := settings.delimiters } : Reader).typesNamed "Foo" false).run
        (MemoryStore.empty.run h).2.engine 0).result =
          .ok [{ name := "FooXBar", documents := ["w.js"] }] ∧
      lowercase "FooXBar" ≠ lowercase (bareTypeName "Foo") := by
  intro limit
  refine ⟨rfl, by decide, by decide, ?_, by decide⟩
  rw [run_typesNamed _ (.memory _)]
  rfl

end Reader

end SymbolIndex
