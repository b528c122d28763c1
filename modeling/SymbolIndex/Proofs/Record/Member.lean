import SymbolIndex.Record.Decode

/-!
# The owner and the name of a member

A member's word is its owner, a delimiter and its name, and then nothing or a delimiter and the
rest. A record describes a member only if its word has such a form with a name, and the member has
that owner and that name.
-/

namespace SymbolIndex.Record

open Text

variable {d : Delimiters} {category : Category} {r : Record} {m : MemberSymbol}
variable {word owner name rest : List Char}

theorem memberParts_short (howner : d.primary ∉ owner) (hname : d.primary ∉ name) :
    memberParts d (owner ++ d.primary :: name) = (owner, name, []) := by
  rw [memberParts, cut_append_cons howner]
  simp only [cut_eq_none_iff.2 hname]

theorem memberParts_long (howner : d.primary ∉ owner) (hname : d.primary ∉ name)
    (rest : List Char) :
    memberParts d (owner ++ d.primary :: (name ++ d.primary :: rest)) = (owner, name, rest) := by
  rw [memberParts, cut_append_cons howner]
  simp only [cut_append_cons hname]

/-- The two forms of a word with a name. -/
theorem word_of_memberParts (h : memberParts d word = (owner, name, rest)) (hne : name ≠ []) :
    d.primary ∉ owner ∧ d.primary ∉ name ∧
      (word = owner ++ d.primary :: name ∨
        word = owner ++ d.primary :: (name ++ d.primary :: rest)) := by
  rw [memberParts] at h
  cases hcut : cut d.primary word with
  | none =>
    rw [hcut] at h
    cases h
    exact absurd rfl hne
  | some p =>
    obtain ⟨first, after⟩ := p
    obtain ⟨hword, hfirst⟩ := cut_eq_some_iff.1 hcut
    simp only [hcut] at h
    cases hcut' : cut d.primary after with
    | none =>
      simp only [hcut', Prod.mk.injEq] at h
      obtain ⟨rfl, rfl, -⟩ := h
      exact ⟨hfirst, cut_eq_none_iff.1 hcut', Or.inl hword⟩
    | some q =>
      obtain ⟨second, last⟩ := q
      obtain ⟨hafter, hsecond⟩ := cut_eq_some_iff.1 hcut'
      simp only [hcut', Prod.mk.injEq] at h
      obtain ⟨rfl, rfl, rfl⟩ := h
      exact ⟨hfirst, hsecond, Or.inr (hafter ▸ hword)⟩

/-- A member has the owner and the name that its record's word starts with. -/
theorem memberParts_of_toMember? (h : r.toMember? d category = some m) :
    ∃ rest, memberParts d r.word.toList = (m.owner.toList, m.name.toList, rest) ∧
      m.name.toList ≠ [] := by
  rw [toMember?] at h
  rcases hparts : memberParts d r.word.toList with ⟨owner, name, rest⟩
  simp only [hparts] at h
  by_cases hempty : name.isEmpty
  · simp [hempty] at h
  · rw [if_neg hempty] at h
    obtain ⟨⟨description, details⟩, -, rfl⟩ := Option.map_eq_some_iff.1 h
    refine ⟨rest, by simp, ?_⟩
    simpa using hempty

/-- The word of a member is cut after the owner. -/
theorem cut_of_toMember? (h : r.toMember? d category = some m) :
    ∃ rest, cut d.primary r.word.toList = some (m.owner.toList, rest) := by
  obtain ⟨rest, hparts, hne⟩ := memberParts_of_toMember? h
  obtain ⟨howner, -, hword | hword⟩ := word_of_memberParts hparts hne
  · exact ⟨_, hword ▸ cut_append_cons howner _⟩
  · exact ⟨_, hword ▸ cut_append_cons howner _⟩

/-- A record whose word ends with the name describes a member of each of the three kinds. -/
theorem exists_member_of_short (hcategory : category ∈ [.property, .function, .event])
    (howner : d.primary ∉ owner) (hname : d.primary ∉ name) (hne : name ≠ [])
    (hword : r.word.toList = owner ++ d.primary :: name) :
    ∃ m, r.toMember? d category = some m ∧ m.owner.toList = owner ∧ m.name.toList = name := by
  have hparts := memberParts_short howner hname
  have hsome : (r.toMember? d category).isSome := by
    rw [toMember?, hword]
    simp only [hparts]
    rw [if_neg (by simpa using hne), Option.isSome_map]
    simp only [List.mem_cons, List.not_mem_nil, or_false] at hcategory
    rcases hcategory with rfl | rfl | rfl <;> rfl
  obtain ⟨m, hm⟩ := Option.isSome_iff_exists.1 hsome
  obtain ⟨rest, hparts', -⟩ := memberParts_of_toMember? hm
  rw [hword, hparts] at hparts'
  cases hparts'
  exact ⟨m, hm, rfl, rfl⟩

end SymbolIndex.Record
