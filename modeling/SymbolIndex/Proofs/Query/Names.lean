import SymbolIndex.Proofs.Regex.Matching
import SymbolIndex.Proofs.Regex.Reading
import SymbolIndex.Query.Filter
import SymbolIndex.Query.Symbols

/-!
# The pattern for names

Between the start and the end of a text, the pattern for some names matches these names and nothing
else: every character of a name stands for itself, a name that another one starts with is followed
by the end of the text, and the empty name is a branch like any other. Names are taken as they are,
so a generic array is not looked up as the bare type.
-/

namespace SymbolIndex

open Text Regex

namespace Query

variable {names : List String}

/-- Finds the words that are one of the names. -/
def oneOf (names : List String) : Query where
  pattern := "^" ++ namesPattern names ++ "$"
  mode := { regex := true }

/-- Matches the texts alone. -/
def textsRegex (texts : List (List Char)) : Regex :=
  seqs [look .textStart, alts (texts.map fun cs => seqs ((cs.map Char.toNat).map symbol)),
    look .textEnd]

/-- A parenthesis without a question mark after it opens a plain group. -/
theorem readToken_parenthesis {cs : List Char} (h : cs.head? ≠ some '?') :
    readToken {} ('(' :: cs) = some (.opening {} none, cs) := by
  show readOpening {} cs = _
  rw [readOpening.eq_def]
  split
  case h_8 => rfl
  all_goals exact absurd rfl h

/-- No text makes the group that it stands in look like a directive. -/
theorem head?_texts_ne (texts : List (List Char)) (rest : List Char) :
    (['|'].intercalate (texts.map escape) ++ ')' :: rest).head? ≠ some '?' := by
  have hescape : ∀ cs : List Char, (escape cs).head? ≠ some '?' := by
    intro cs
    cases cs with
    | nil => simp [escape]
    | cons c cs =>
      rw [escape, List.flatMap_cons]
      by_cases hmeta : isMeta c
      · simp [hmeta]
      · have hc : c ≠ '?' := by
          rintro rfl
          exact hmeta (by decide)
        simpa [hmeta] using hc
  have hafter : ∀ (cs : List Char) (c : Char) (rest : List Char), c ≠ '?' →
      (escape cs ++ c :: rest).head? ≠ some '?' := by
    intro cs c rest hc
    cases hcs : escape cs with
    | nil => simpa using hc
    | cons e es => simpa [hcs] using hescape cs
  cases texts with
  | nil => simp
  | cons cs texts =>
    cases texts with
    | nil => simpa using hafter cs ')' rest (by decide)
    | cons cs' texts =>
      simpa using hafter cs '|' (['|'].intercalate ((cs' :: texts).map escape) ++ ')' :: rest)
        (by decide)

/-- The pattern between its anchors is read as the expression that it stands for. -/
theorem read?_oneOf (hne : names ≠ []) :
    Regex.read? (oneOf names).pattern.toList = some (textsRegex (names.map String.toList)) := by
  have hpattern : (oneOf names).pattern.toList = '^' :: '(' ::
      (['|'].intercalate ((names.map String.toList).map escape) ++ ')' :: ['$']) := by
    simp [oneOf, namesPattern, alternatives, Function.comp_def]
  have htexts : names.map String.toList ≠ [] := by simpa using hne
  have hend : ∀ r : Reading, r.level.flags = {} →
      r.Takes ['$'] (r.push { regex := look .textEnd }) [] := by
    intro r hflags
    exact .token hflags rfl (Nat.lt_succ_self _) rfl
  rw [hpattern]
  exact read?_texts htexts (readToken_parenthesis (head?_texts_ne _ _)) (Nat.lt_succ_self _) hend
    (by decide)

/-- The expression matches the texts as a whole. -/
theorem matchesIn_textsRegex {texts : List (List Char)} {word : List Char} :
    (textsRegex texts).matchesIn (word.map Char.toNat) ↔ word ∈ texts := by
  have hinj : Function.Injective Char.toNat := fun _ _ => Char.toNat_inj.1
  rw [textsRegex, matchesIn_texts]
  simp only [matches_textEnd]
  constructor
  · rintro ⟨cs, hcs, hfront, j, hlength, -⟩
    have hwhole : cs.map Char.toNat = word.map Char.toNat :=
      hfront.eq_of_length (by simpa using hlength)
    exact List.map_injective_iff.2 hinj hwhole ▸ hcs
  · intro hword
    exact ⟨word, hword, List.prefix_rfl, word.length, by simp, by simp⟩

/-- A query for names finds exactly the words that are one of them, each name as it is spelled,
unless the engine refuses the pattern. -/
theorem oneOf_exact [Limit] (hne : names ≠ []) :
    (Limit.admits (oneOf names).pattern.toList →
      ∃ f, WordFilter.ofQuery (oneOf names) = .ok f ∧ ∀ word, f.accepts word ↔ word ∈ names) ∧
    (¬ Limit.admits (oneOf names).pattern.toList →
      WordFilter.ofQuery (oneOf names) =
        .error (.invalidPattern .regex (oneOf names).pattern)) := by
  refine ⟨fun hlimit => ?_, WordFilter.ofQuery_of_not_admits rfl⟩
  refine ⟨_, WordFilter.ofQuery_of_admits rfl (read?_oneOf hne) hlimit, ?_⟩
  intro word
  rw [WordFilter.accepts, matchesIn_textsRegex,
    List.mem_map_of_injective fun _ _ => String.toList_inj.1]

/-- Signs, a line break, an empty name, names that other ones start with, and a name given twice. -/
theorem oneOf_exact_signs :
    let _ : Limit := .unlimited
    ∃ f, WordFilter.ofQuery (oneOf ["a", "a.b", "", "(?", "Array<Number>", "a\n", "a"]) = .ok f ∧
      (["", "a", "a\n", "a.b", "(?", "Array<Number>", "axb", "ab", "a\n\n", "Array", "("].map
          f.accepts) =
        [true, true, true, true, true, true, false, false, false, false, false] := by
  intro limit
  obtain ⟨f, hfilter, haccepts⟩ :=
    (@oneOf_exact ["a", "a.b", "", "(?", "Array<Number>", "a\n", "a"] limit (by decide)).1 rfl
  refine ⟨f, hfilter, ?_⟩
  have haccepts' : f.accepts = fun word =>
      decide (word ∈ ["a", "a.b", "", "(?", "Array<Number>", "a\n", "a"]) := by
    funext word
    rw [Bool.eq_iff_iff, haccepts, decide_eq_true_iff]
  rw [haccepts']
  decide

end Query

end SymbolIndex
