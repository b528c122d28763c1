import SymbolIndex.Proofs.Store.Answers
import SymbolIndex.Proofs.Text.Lowercase

/-!
# Queries that ignore case

A query that ignores case compares lowercase forms. For whole words this finds all that a query with
regard to case finds. For the start of words it does so except at one place: a capital sigma that
ends the pattern like a word becomes the final sigma, and where the word goes on with a letter, its
own sigma does not. The lowercase form of a part of a text depends on the rest of the text through
this sigma alone.
-/

namespace SymbolIndex

namespace Text

variable {c : Char} {cs rest : List Char} {afterCased beforeCased : Bool}

/-- Whether a text ends a word in a capital sigma: a cased character stands before it, and nothing
but case-ignorable characters after it. -/
def EndsInSigma (afterCased : Bool) (cs : List Char) : Prop :=
  ∃ front ignored, cs = front ++ 'Σ' :: ignored ∧ endsCased afterCased front = true ∧
    ∀ c ∈ ignored, isCaseIgnorable c = true

/-- What follows a part makes no difference to the length of its lowercase form. -/
theorem length_lowercaseWithin (afterCased beforeCased : Bool) (cs : List Char) :
    (lowercaseWithin afterCased beforeCased cs).length =
      (lowercaseWithin afterCased false cs).length := by
  induction cs generalizing afterCased with
  | nil => rfl
  | cons c cs ih =>
    simp only [lowercaseWithin, List.length_append, ih]
    split <;> rfl

/-- Behind anything but case-ignorable characters it makes no difference what follows. -/
theorem startsCasedBefore_eq_iff :
    startsCasedBefore true cs = startsCasedBefore false cs ↔
      ¬ ∀ c ∈ cs, isCaseIgnorable c = true := by
  induction cs with
  | nil => simp [startsCasedBefore]
  | cons c cs ih =>
    by_cases h : isCaseIgnorable c <;> simp [startsCasedBefore, h, ih]

theorem endsInSigma_cons :
    EndsInSigma afterCased (c :: cs) ↔
      c = 'Σ' ∧ afterCased = true ∧ (∀ c ∈ cs, isCaseIgnorable c = true) ∨
        EndsInSigma (if isCaseIgnorable c then afterCased else isCased c) cs := by
  constructor
  · rintro ⟨front, ignored, heq, hfront, hignored⟩
    cases front with
    | nil =>
      obtain ⟨rfl, rfl⟩ := List.cons.inj heq
      exact .inl ⟨rfl, hfront, hignored⟩
    | cons c' front =>
      obtain ⟨rfl, rfl⟩ := List.cons.inj heq
      exact .inr ⟨front, ignored, rfl, hfront, hignored⟩
  · rintro (⟨rfl, hcased, hignored⟩ | ⟨front, ignored, rfl, hfront, hignored⟩)
    · exact ⟨[], cs, rfl, hcased, hignored⟩
    · exact ⟨c :: front, ignored, rfl, hfront, hignored⟩

/-- What follows a part shows in its lowercase form exactly if the part ends a word in a capital
sigma. -/
theorem lowercaseWithin_eq_iff :
    lowercaseWithin afterCased true cs = lowercaseWithin afterCased false cs ↔
      ¬ EndsInSigma afterCased cs := by
  induction cs generalizing afterCased with
  | nil =>
    refine iff_of_true rfl ?_
    rintro ⟨front, ignored, heq, -⟩
    simp at heq
  | cons c cs ih =>
    rw [endsInSigma_cons, not_or, ← ih, lowercaseWithin, lowercaseWithin]
    by_cases hsigma : c = 'Σ'
    · simp only [hsigma, if_true, List.cons_append, List.nil_append, List.cons.injEq, true_and]
      refine and_congr_left' ?_
      rw [not_and, ← startsCasedBefore_eq_iff]
      cases afterCased <;> cases startsCasedBefore true cs <;> cases startsCasedBefore false cs <;>
        decide
    · simp [hsigma]

/-- The lowercase form of a text starts with that of a part at its front, unless the part ends a
word in a capital sigma and the text goes on with the word. -/
theorem lowercaseFrom_prefix_iff (cs rest : List Char) :
    lowercaseFrom afterCased cs <+: lowercaseFrom afterCased (cs ++ rest) ↔
      ¬ (EndsInSigma afterCased cs ∧ startsCased rest = true) := by
  rw [lowercaseFrom_append, lowercaseFrom_eq afterCased cs, not_and, Bool.not_eq_true]
  constructor
  · rintro hprefix hsigma
    by_contra hcased
    rw [Bool.not_eq_false] at hcased
    rw [hcased] at hprefix
    have hsame := List.prefix_of_prefix_length_le hprefix (List.prefix_append _ _)
      (Nat.le_of_eq (length_lowercaseWithin _ _ _).symm)
    have heq := hsame.eq_of_length (length_lowercaseWithin _ _ _).symm
    exact lowercaseWithin_eq_iff.1 heq.symm hsigma
  · intro h
    cases hcased : startsCased rest with
    | false => exact List.prefix_append _ _
    | true =>
      rw [← lowercaseWithin_eq_iff.2 fun hsigma => absurd (h hsigma) (by simp [hcased])]
      exact List.prefix_append _ _

end Text

open Text

/-- Whether a query can be read and a word passes it. -/
def Query.Finds [Regex.Limit] (q : Query) (word : String) : Prop :=
  ∃ f, WordFilter.ofQuery q = .ok f ∧ f.accepts word = true

namespace Query

variable {pattern word : String}

theorem finds_exact [Regex.Limit] {caseSensitive : Bool} :
    Finds ⟨pattern, { caseSensitive }⟩ word ↔
      WordFilter.fold caseSensitive word = WordFilter.fold caseSensitive pattern := by
  simp [Finds, WordFilter.ofQuery, WordFilter.accepts]

theorem finds_start [Regex.Limit] {caseSensitive : Bool} :
    Finds ⟨pattern, { start := true, caseSensitive }⟩ word ↔
      (WordFilter.fold caseSensitive pattern).toList <+:
        (WordFilter.fold caseSensitive word).toList := by
  simp [Finds, WordFilter.ofQuery, WordFilter.accepts]

/-- A word found with regard to case is found without as well where a query asks for the whole word.
Where it asks for the start, the words found with regard to case are those that go on behind the
pattern, and such a word is lost without if the pattern ends a word in a capital sigma and the next
character that counts has a case. -/
theorem finds_ignoring_case_iff [Regex.Limit] (pattern word : String) :
    (Finds ⟨pattern, { caseSensitive := true }⟩ word → Finds ⟨pattern, {}⟩ word) ∧
      (Finds ⟨pattern, { start := true, caseSensitive := true }⟩ word ↔
        ∃ rest, word = pattern ++ rest) ∧
      ∀ rest, Finds ⟨pattern, { start := true }⟩ (pattern ++ rest) ↔
        ¬ (EndsInSigma false pattern.toList ∧ startsCased rest.toList = true) := by
  refine ⟨fun h => ?_, ?_, fun rest => ?_⟩
  · have heq : word = pattern := finds_exact.1 h
    exact finds_exact.2 (congrArg (WordFilter.fold false) heq)
  · rw [finds_start]
    constructor
    · rintro ⟨rest, heq⟩
      refine ⟨String.ofList rest, String.toList_inj.1 ?_⟩
      rw [String.toList_append, String.toList_ofList]
      exact heq.symm
    · rintro ⟨rest, rfl⟩
      exact ⟨rest.toList, String.toList_append.symm⟩
  · rw [finds_start, ← lowercaseFrom_prefix_iff, ← String.toList_append]
    simp [WordFilter.fold, lowercase]

/-- Letters that agree in every respect are lost once case does not count. -/
theorem finds_start_sigma_only_with_case :
    let _ : Regex.Limit := .unlimited
    Finds ⟨"aΣ", { start := true, caseSensitive := true }⟩ "aΣa" ∧
      ¬ Finds ⟨"aΣ", { start := true }⟩ "aΣa" := by
  intro limit
  rw [finds_start, finds_start]
  constructor
  · decide
  · simp only [WordFilter.fold, lowercase, Bool.false_eq_true, if_false, String.toList_ofList]
    decide

end Query

end SymbolIndex
