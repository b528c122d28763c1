import SymbolIndex.Proofs.Text.Digits
import SymbolIndex.Regex.Reader

/-!
# Patterns of names are read as what they say

An escaped text is read as its characters, one after another, whatever characters they are. Escaped
texts between bars are read as a choice between them, and the escape of a code point as its
character. Reading is followed from one state to the next, where every token takes at least one
character, so that the bound on the number of tokens is no obstacle.
-/

namespace SymbolIndex.Regex

open Text

namespace Part

variable {ps : List Part} {bound : Nat}

theorem greatestHeight_le (h : ∀ p ∈ ps, p.height ≤ bound) : greatestHeight ps ≤ bound := by
  have hfold : ∀ n ≤ bound, (ps.map (·.height)).foldl max n ≤ bound := by
    induction ps with
    | nil => exact fun n hn => hn
    | cons p ps ih =>
      intro n hn
      exact ih (fun q hq => h q (List.mem_cons_of_mem p hq)) (max n p.height)
        (Nat.max_le.2 ⟨hn, h p List.mem_cons_self⟩)
  exact hfold 0 (Nat.zero_le bound)

/-- Parts one after another, however many there are. -/
theorem join_regex (ps : List Part) : (join ps).regex = seqs (ps.map (·.regex)) := by
  match ps with
  | [] => rfl
  | [p] => rfl
  | p :: q :: ps => rfl

theorem join_height (h : ∀ p ∈ ps, p.height ≤ bound) : (join ps).height ≤ bound + 1 := by
  match ps with
  | [] => exact Nat.zero_le _
  | [p] => exact Nat.le_succ_of_le (h p List.mem_cons_self)
  | p :: q :: ps => exact Nat.succ_le_succ (greatestHeight_le h)

/-- The choice between parts, however many there are. -/
theorem choice_regex (ps : List Part) : (choice ps).regex = alts (ps.map (·.regex)) := by
  match ps with
  | [] => rfl
  | [p] => rfl
  | p :: q :: ps => rfl

theorem choice_height (h : ∀ p ∈ ps, p.height ≤ bound) : (choice ps).height ≤ bound + 1 := by
  match ps with
  | [] => exact Nat.succ_le_succ (Nat.zero_le _)
  | [p] => exact Nat.le_succ_of_le (h p List.mem_cons_self)
  | p :: q :: ps => exact Nat.succ_le_succ (greatestHeight_le h)

/-- A character that stands for itself. -/
def ofChar (c : Char) : Part := { regex := symbol c.toNat }

/-- The characters of a text. -/
def ofText (cs : List Char) : Part := join (cs.map ofChar)

/-- The choice between texts, in a group. -/
def ofTexts (texts : List (List Char)) : Part where
  regex := (choice (texts.map ofText)).regex
  height := (choice (texts.map ofText)).height + 1

theorem ofText_regex (cs : List Char) :
    (ofText cs).regex = seqs ((cs.map Char.toNat).map symbol) := by
  rw [ofText, join_regex, List.map_map, List.map_map]
  rfl

theorem ofTexts_regex (texts : List (List Char)) :
    (ofTexts texts).regex = alts (texts.map fun cs => seqs ((cs.map Char.toNat).map symbol)) := by
  rw [ofTexts, choice_regex, List.map_map]
  exact congrArg alts (List.map_congr_left fun cs _ => ofText_regex cs)

theorem ofTexts_height (texts : List (List Char)) : (ofTexts texts).height ≤ 3 := by
  have hchars : ∀ cs : List Char, ∀ p ∈ cs.map ofChar, p.height ≤ 0 := by
    intro cs p hp
    obtain ⟨c, -, rfl⟩ := List.mem_map.1 hp
    exact Nat.le_refl 0
  have htexts : ∀ p ∈ texts.map ofText, p.height ≤ 1 := by
    intro p hp
    obtain ⟨cs, -, rfl⟩ := List.mem_map.1 hp
    exact join_height (hchars cs)
  exact Nat.succ_le_succ (choice_height htexts)

end Part

/-- The character of an escape is not mistaken for a sign, and no other character is one. -/
theorem readToken_escape (c : Char) (rest : List Char) :
    readToken {} (escape [c] ++ rest) = some (.atom (symbol c.toNat) 0, rest) := by
  by_cases hmeta : isMeta c
  · have hescape : escape [c] = ['\\', c] := by simp [escape, hmeta]
    rw [hescape]
    simp only [isMeta, List.contains_iff_mem, List.mem_cons, List.not_mem_nil, or_false] at hmeta
    rcases hmeta with rfl | rfl | rfl | rfl | rfl | rfl | rfl | rfl | rfl | rfl | rfl | rfl | rfl |
      rfl | rfl | rfl | rfl | rfl <;> rfl
  · have hescape : escape [c] = [c] := by simp [escape, hmeta]
    rw [hescape, List.singleton_append, readToken.eq_def]
    split
    · rename_i h
      cases h
    · rename_i h
      cases h
      split
      all_goals first
        | exact absurd (by decide) hmeta
        | rfl

/-- The escape of a code point stands for its character. -/
theorem readToken_codePointEscape (c : Char) (rest : List Char) :
    readToken {} (codePointEscape c ++ rest) = some (.atom (symbol c.toNat) 0, rest) := by
  have hbraced : ∀ ds : List Char, (∀ d ∈ ds, d ≠ '\x7d') →
      Flags.takeBraced {} false (ds ++ '\x7d' :: rest) = some (ds, rest) := by
    intro ds hds
    induction ds with
    | nil => rfl
    | cons d ds ih =>
      have hd : d ≠ '\x7d' := hds d List.mem_cons_self
      rw [List.cons_append, Flags.takeBraced, if_neg hd,
        ih fun d' hd' => hds d' (List.mem_cons_of_mem d hd')]
      rfl
  have hdigits : ∀ d ∈ upperHexDigits c.toNat, d ≠ '\x7d' := by
    intro d hd
    obtain ⟨n, hn, rfl⟩ := exists_of_mem_upperHexDigits hd
    have hnone : ∀ n < 16, (Nat.digitChar n).toUpper ≠ '\x7d' := by decide
    exact hnone n hn
  have hscalar : scalar? c.toNat = some c := by
    have hvalid : c.toNat.isValidChar := c.valid
    rw [scalar?, if_pos hvalid, Char.ofNat_toNat]
  have hcode : readCodePoint {} 2 ('\x7b' :: (upperHexDigits c.toNat ++ '\x7d' :: rest)) =
      some (c, rest) := by
    change (Flags.takeBraced {} false (upperHexDigits c.toNat ++ '\x7d' :: rest) >>= _) = _
    rw [hbraced _ hdigits]
    change (do return (← scalar? (← valueInBase? 16 (upperHexDigits c.toNat)), rest)) = _
    rw [valueInBase?_upperHexDigits]
    change (scalar? c.toNat >>= _) = _
    rw [hscalar]
    rfl
  have hpattern : codePointEscape c ++ rest =
      '\\' :: 'x' :: '\x7b' :: (upperHexDigits c.toNat ++ '\x7d' :: rest) := by
    simp [codePointEscape]
  rw [hpattern]
  change ((readCodePoint {} 2 _).map _).map _ = _
  rw [hcode]
  rfl

namespace Reading

variable {r r' r'' : Reading} {cs rest : List Char}

/-- Reading goes from one state to another while it takes the front of a pattern. -/
def Takes (r : Reading) (cs : List Char) (r' : Reading) (rest : List Char) : Prop :=
  ∃ n, n + rest.length ≤ cs.length ∧
    ∀ fuel, takeAll? (fuel + n) r cs = takeAll? fuel r' rest

namespace Takes

theorem refl (r : Reading) (cs : List Char) : Takes r cs r cs :=
  ⟨0, by simp, fun _ => rfl⟩

theorem trans {middle : List Char} (h : Takes r cs r' middle) (h' : Takes r' middle r'' rest) :
    Takes r cs r'' rest := by
  obtain ⟨n, hn, hfuel⟩ := h
  obtain ⟨m, hm, hfuel'⟩ := h'
  refine ⟨m + n, by omega, ?_⟩
  intro fuel
  rw [← Nat.add_assoc, hfuel, hfuel']

/-- One token, in a pattern whose blanks count. -/
theorem token {t : Token} (hflags : r.level.flags = {}) (ht : readToken {} cs = some (t, rest))
    (hlength : rest.length < cs.length) (htake : r.take? t = some r') : Takes r cs r' rest := by
  refine ⟨1, by omega, ?_⟩
  intro fuel
  cases cs with
  | nil => exact absurd hlength (Nat.not_lt_zero _)
  | cons c cs =>
    rw [takeAll?, hflags]
    change (readToken {} (c :: cs) >>= fun p => r.take? p.1 >>= fun r' => takeAll? fuel r' p.2) = _
    rw [ht]
    change (r.take? t >>= _) = _
    rw [htake]
    rfl

/-- A pattern that is taken to its end has been read. -/
theorem takeAll?_eq (h : Takes r cs r' []) : takeAll? (cs.length + 1) r cs = some r' := by
  obtain ⟨n, hn, hfuel⟩ := h
  rw [List.length_nil, Nat.add_zero] at hn
  obtain ⟨m, hm⟩ : ∃ m, cs.length + 1 = m + 1 + n := ⟨cs.length - n, by omega⟩
  rw [hm, hfuel, takeAll?]
  have hskip : r'.level.flags.skip [] = [] := by
    rw [Flags.skip]
    split <;> rfl
  rw [hskip]

/-- A character that is escaped stands for itself. -/
theorem char (hflags : r.level.flags = {}) (c : Char) (rest : List Char) :
    Takes r (escape [c] ++ rest) (r.push (.ofChar c)) rest := by
  refine token hflags (readToken_escape c rest) ?_ rfl
  have hpos : 0 < (escape [c]).length := by
    simp only [escape, List.flatMap_cons, List.flatMap_nil, List.append_nil]
    split <;> exact Nat.succ_pos _
  rw [List.length_append]
  omega

theorem codePoint (hflags : r.level.flags = {}) (c : Char) (rest : List Char) :
    Takes r (codePointEscape c ++ rest) (r.push (.ofChar c)) rest := by
  refine token hflags (readToken_codePointEscape c rest) ?_ rfl
  rw [List.length_append, codePointEscape]
  simp only [List.cons_append, List.nil_append, List.length_cons]
  omega

/-- An escaped text is read character by character. -/
theorem text (hflags : r.level.flags = {}) (cs rest : List Char) :
    Takes r (escape cs ++ rest) ((cs.map Part.ofChar).foldl push r) rest := by
  induction cs generalizing r with
  | nil => exact refl r rest
  | cons c cs ih =>
    have hsplit : escape (c :: cs) ++ rest = escape [c] ++ (escape cs ++ rest) := by
      simp [escape]
    rw [hsplit]
    exact (char hflags c _).trans (ih hflags)

end Takes

/-- What adding parts to a group changes. -/
theorem foldl_push (ps : List Part) (r : Reading) :
    ps.foldl push r =
      { r with level := { r.level with parts := ps.reverse ++ r.level.parts } } := by
  induction ps generalizing r with
  | nil => rfl
  | cons p ps ih =>
    rw [List.foldl_cons, ih]
    simp [push, Level.push]

/-- Escaped texts between bars are the branches of the group that they stand in. -/
theorem Takes.texts (hflags : r.level.flags = {}) (hparts : r.level.parts = [])
    (texts : List (List Char)) (hne : texts ≠ []) (rest : List Char) :
    ∃ l : Level, Takes r (['|'].intercalate (texts.map escape) ++ rest) { r with level := l } rest ∧
      l.flags = {} ∧
      l.endBranch.branches = (texts.map Part.ofText).reverse ++ r.level.branches := by
  induction texts generalizing r with
  | nil => exact absurd rfl hne
  | cons cs texts ih =>
    have htext := fun rest => Takes.text hflags cs rest
    rw [foldl_push, hparts, List.append_nil] at htext
    cases texts with
    | nil =>
      refine ⟨{ r.level with parts := (cs.map Part.ofChar).reverse }, ?_, hflags, ?_⟩
      · simpa [List.intercalate] using htext rest
      · simp [Level.endBranch, Part.ofText]
    | cons cs' texts =>
      have hsplit : ['|'].intercalate ((cs :: cs' :: texts).map escape) ++ rest =
          escape cs ++ '|' :: (['|'].intercalate ((cs' :: texts).map escape) ++ rest) := by
        simp [List.intercalate]
      let ended : Reading := { r with level :=
        { r.level with branches := Part.ofText cs :: r.level.branches, parts := [] } }
      have hbar : Takes { r with level :=
            { r.level with parts := (cs.map Part.ofChar).reverse } }
          ('|' :: (['|'].intercalate ((cs' :: texts).map escape) ++ rest)) ended
          (['|'].intercalate ((cs' :: texts).map escape) ++ rest) := by
        refine Takes.token hflags rfl (Nat.lt_succ_self _) ?_
        simp [take?, Level.endBranch, ended, Part.ofText]
      obtain ⟨l, hl, hlflags, hbranches⟩ := ih (r := ended) hflags rfl (List.cons_ne_nil _ _)
      refine ⟨l, hsplit ▸ ((htext _).trans (hbar.trans hl)), hlflags, ?_⟩
      rw [hbranches]
      simp [ended]

/-- Texts between bars in a group stand for the choice between them. -/
theorem Takes.group {middle : List Char} (hflags : r.level.flags = {}) (texts : List (List Char))
    (hne : texts ≠ []) (hopen : readToken {} cs = some (.opening {} none, middle))
    (hlength : middle.length < cs.length)
    (hmiddle : middle = ['|'].intercalate (texts.map escape) ++ ')' :: rest) :
    Takes r cs (r.push (.ofTexts texts)) rest := by
  subst hmiddle
  have hopened : Takes r cs { level := { flags := {} }, outer := r.level :: r.outer
                              names := r.names } _ :=
    Takes.token hflags hopen hlength rfl
  obtain ⟨l, hl, hlflags, hbranches⟩ := Takes.texts (r := { level := { flags := {} }
                                                            outer := r.level :: r.outer
                                                            names := r.names })
    rfl rfl texts hne (')' :: rest)
  refine hopened.trans (hl.trans (Takes.token hlflags rfl (Nat.lt_succ_self _) ?_))
  rw [take?]
  simp only [Level.content, hbranches, List.append_nil, List.reverse_reverse]
  rfl

/-- The state before the first token. -/
def start : Reading := { level := { flags := {} } }

end Reading

/-- A pattern that is read as a row of parts stands for these parts one after another. -/
theorem read?_of_takes {cs : List Char} {ps : List Part}
    (h : Reading.Takes .start cs (ps.foldl Reading.push .start) [])
    (hheight : ∀ p ∈ ps, p.height < maxHeight) : read? cs = some (seqs (ps.map (·.regex))) := by
  have hcontent : (ps.foldl Reading.push .start).level.content = Part.join ps := by
    rw [Reading.foldl_push]
    simp [Level.content, Level.endBranch, Reading.start, Part.choice]
  have houter : (ps.foldl Reading.push .start).outer = [] := by
    rw [Reading.foldl_push]
    rfl
  have hbelow : ∀ p ∈ ps, p.height ≤ maxHeight - 1 :=
    fun p hp => Nat.le_sub_one_of_lt (hheight p hp)
  have hle : (Part.join ps).height ≤ maxHeight := Part.join_height hbelow
  have hread : Reading.takeAll? (cs.length + 1) { level := { flags := {} } } cs =
      some (ps.foldl Reading.push .start) := h.takeAll?_eq
  rw [read?, hread, ← Part.join_regex]
  simp [houter, hcontent, hle]

/-- A pattern of the start of the text, a group of texts and one more part is read as the three. -/
theorem read?_texts {texts : List (List Char)} (hne : texts ≠ []) {group rest : List Char}
    {last : Part} (hopen : readToken {} group =
      some (.opening {} none, ['|'].intercalate (texts.map escape) ++ ')' :: rest))
    (hlength : (['|'].intercalate (texts.map escape) ++ ')' :: rest).length < group.length)
    (hlast : ∀ r : Reading, r.level.flags = {} → r.Takes rest (r.push last) [])
    (hheight : last.height < maxHeight) :
    read? ('^' :: group) = some (seqs [look .textStart,
      alts (texts.map fun cs => seqs ((cs.map Char.toNat).map symbol)), last.regex]) := by
  let parts : List Part := [{ regex := look .textStart }, .ofTexts texts, last]
  have htakes : Reading.Takes .start ('^' :: group) (parts.foldl Reading.push .start) [] := by
    let anchored := Reading.start.push { regex := look .textStart }
    have hanchor : Reading.Takes .start ('^' :: group) anchored group :=
      .token rfl rfl (Nat.lt_succ_self _) rfl
    have hgroup : anchored.Takes group (anchored.push (.ofTexts texts)) rest :=
      .group rfl texts hne hopen hlength rfl
    exact hanchor.trans (hgroup.trans (hlast _ rfl))
  have hheights : ∀ p ∈ parts, p.height < maxHeight := by
    have htexts : (Part.ofTexts texts).height < maxHeight :=
      Nat.lt_of_le_of_lt (Part.ofTexts_height texts) (by decide)
    exact List.forall_mem_cons.2 ⟨by decide, List.forall_mem_cons.2 ⟨htexts,
      List.forall_mem_singleton.2 hheight⟩⟩
  rw [read?_of_takes htakes hheights, List.map_cons, List.map_cons, Part.ofTexts_regex]
  rfl

end SymbolIndex.Regex
