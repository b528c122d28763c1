import SymbolIndex.Proofs.Regex.Matching
import SymbolIndex.Proofs.Regex.Reading
import SymbolIndex.Query.Filter
import SymbolIndex.Query.Symbols

/-!
# The query for the members of types

The pattern for the members of types stands for `ownersRegex`: the start of the word, one of the
names, and the delimiter. A word matches exactly when it starts with one of the names and the
delimiter right after it, which no other name can share as long as names are free of delimiters.
-/

namespace SymbolIndex

open Text Regex

namespace Query

variable {delimiter : Char} {owners : List (List Char)} {word : List Char}

/-- Matches words that start with one of the owners and the delimiter after it. -/
def ownersRegex (delimiter : Char) (owners : List (List Char)) : Regex :=
  seqs [look .textStart, alts (owners.map fun cs => seqs ((cs.map Char.toNat).map symbol)),
    symbol delimiter.toNat]

/-- The owners as a pattern spells them. -/
def bareNames (owners : List String) : List (List Char) :=
  owners.map fun owner => (bareTypeName owner).toList

theorem pattern_membersOf (d : Delimiters) (owners : List String) :
    (membersOf d owners).pattern.toList = '^' :: '(' :: '?' :: ':' ::
      (['|'].intercalate ((bareNames owners).map escape) ++ ')' :: codePointEscape d.primary) := by
  have halternatives : alternatives (owners.map bareTypeName) =
      ['|'].intercalate ((bareNames owners).map escape) := by
    rw [alternatives, bareNames, List.map_map, List.map_map]
    rfl
  rw [← halternatives]
  exact String.toList_ofList

private theorem length_le_length_intercalate {sep cs : List Char} {l : List (List Char)}
    (h : cs ∈ l) : cs.length ≤ (sep.intercalate l).length := by
  induction l with
  | nil => cases h
  | cons a l ih =>
    cases l with
    | nil => exact Nat.le_of_eq (by rw [List.mem_singleton.1 h, List.intercalate_singleton])
    | cons b l =>
      rw [List.intercalate_cons_cons, List.length_append, List.length_append]
      rcases List.mem_cons.1 h with rfl | hmem
      · omega
      · have hle := ih hmem
        omega

/-- The pattern spells all of the names, so it is no shorter than any of them. -/
theorem length_le_length_pattern (d : Delimiters) {owners : List String} {name : List Char}
    (h : name ∈ bareNames owners) : name.length ≤ (membersOf d owners).pattern.toList.length := by
  have hescape : ∀ cs : List Char, cs.length ≤ (escape cs).length := by
    intro cs
    induction cs with
    | nil => exact Nat.zero_le _
    | cons c cs ih =>
      rw [escape, List.flatMap_cons, List.length_append, List.length_cons, Nat.add_comm]
      refine Nat.add_le_add ?_ ih
      split <;> simp
  have hname := hescape name
  have hle : (escape name).length ≤ (['|'].intercalate ((bareNames owners).map escape)).length :=
    length_le_length_intercalate (List.mem_map_of_mem h)
  rw [pattern_membersOf]
  simp only [List.length_cons, List.length_append]
  omega

/-- The pattern is read as the expression that it stands for. -/
theorem read?_membersOf (d : Delimiters) {owners : List String} (hne : owners ≠ []) :
    Regex.read? (membersOf d owners).pattern.toList =
      some (ownersRegex d.primary (bareNames owners)) := by
  have hnames : bareNames owners ≠ [] := by simpa [bareNames] using hne
  have hdelimiter : ∀ r : Reading, r.level.flags = {} →
      r.Takes (codePointEscape d.primary) (r.push (.ofChar d.primary)) [] := by
    intro r hflags
    simpa using Reading.Takes.codePoint hflags d.primary []
  rw [pattern_membersOf]
  refine read?_texts hnames rfl ?_ hdelimiter (show 0 < maxHeight by decide)
  simp only [List.length_cons]
  omega

/-- The front of a text is found again among its symbols. -/
private theorem append_singleton_prefix_iff {cs : List Char} {c : Char} :
    cs ++ [c] <+: word ↔
      cs.map Char.toNat <+: word.map Char.toNat ∧
        (word.map Char.toNat)[cs.length]? = some c.toNat := by
  have hinj : Function.Injective Char.toNat := fun _ _ => Char.toNat_inj.1
  constructor
  · rintro ⟨rest, rfl⟩
    simp
  · rintro ⟨hfront, hget⟩
    obtain ⟨as, ⟨rest, rfl⟩, heq⟩ := List.prefix_map_iff.1 hfront
    obtain rfl := List.map_injective_iff.2 hinj heq
    cases rest with
    | nil => simp at hget
    | cons d rest =>
      have hd : d.toNat = c.toNat := by simpa using hget
      exact ⟨rest, by rw [hinj hd, List.append_assoc]; rfl⟩

theorem matchesIn_ownersRegex :
    (ownersRegex delimiter owners).matchesIn (word.map Char.toNat) ↔
      ∃ owner ∈ owners, owner ++ [delimiter] <+: word := by
  simp only [append_singleton_prefix_iff]
  rw [ownersRegex, matchesIn_texts]
  refine exists_congr fun owner => and_congr_right fun _ => and_congr_right fun _ => ?_
  simp only [matches_symbol, exists_and_left, exists_eq, and_true]

/-- Where names are free of delimiters, a word matches when it is cut after one of them. -/
theorem matchesIn_ownersRegex_iff_cut (hfree : ∀ owner ∈ owners, delimiter ∉ owner) :
    (ownersRegex delimiter owners).matchesIn (word.map Char.toNat) ↔
      ∃ owner ∈ owners, ∃ rest, cut delimiter word = some (owner, rest) := by
  rw [matchesIn_ownersRegex]
  exact exists_congr fun owner => and_congr_right fun hmem =>
    append_singleton_prefix_iff_cut (hfree owner hmem)

end Query

end SymbolIndex
