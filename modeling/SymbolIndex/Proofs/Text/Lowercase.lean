import SymbolIndex.Text.Lowercase
import SymbolIndex.Text.Split

/-!
# The lowercase form of a text with delimiters

Whether a sigma ends a word depends on the characters around it, so the lowercase form of a text is
not that of its parts put together: `lowercaseWithin` is that of a part, given what stands around
it. A character that has no case and is not case-ignorable divides the text all the same, since
nothing on one side of it shows on the other. The null character is one of these, and no other
character has it in its lowercase form, so cutting a text there and mapping it to lower case can be
done in either order.
-/

namespace SymbolIndex.Text

variable {c d : Char} {cs rest : List Char}

/-- Whether the last character that is not case-ignorable has a case; `afterCased` tells it of what
stands before. -/
def endsCased (afterCased : Bool) : List Char → Bool
  | [] => afterCased
  | c :: cs => endsCased (if isCaseIgnorable c then afterCased else isCased c) cs

/-- Whether the next character that is not case-ignorable has a case; `beforeCased` tells it of what
follows. -/
def startsCasedBefore (beforeCased : Bool) : List Char → Bool
  | [] => beforeCased
  | c :: cs => if isCaseIgnorable c then startsCasedBefore beforeCased cs else isCased c

/-- The lowercase form of a part of a text, by what stands before it and what follows. -/
def lowercaseWithin (afterCased beforeCased : Bool) : List Char → List Char
  | [] => []
  | c :: cs =>
    let mapped :=
      if c = 'Σ' then [if afterCased && !startsCasedBefore beforeCased cs then 'ς' else 'σ']
      else lowercaseChar c
    let afterCased := if isCaseIgnorable c then afterCased else isCased c
    mapped ++ lowercaseWithin afterCased beforeCased cs

theorem startsCased_append (cs rest : List Char) :
    startsCased (cs ++ rest) = startsCasedBefore (startsCased rest) cs := by
  induction cs with
  | nil => rfl
  | cons c cs ih => rw [List.cons_append, startsCased, startsCasedBefore, ih]

/-- The lowercase form of a text, in two parts. -/
theorem lowercaseFrom_append (afterCased : Bool) (cs rest : List Char) :
    lowercaseFrom afterCased (cs ++ rest) =
      lowercaseWithin afterCased (startsCased rest) cs ++
        lowercaseFrom (endsCased afterCased cs) rest := by
  induction cs generalizing afterCased with
  | nil => rfl
  | cons c cs ih =>
    simp only [List.cons_append, lowercaseFrom, lowercaseWithin, endsCased, startsCased_append, ih,
      List.append_assoc]

theorem lowercaseFrom_eq (afterCased : Bool) (cs : List Char) :
    lowercaseFrom afterCased cs = lowercaseWithin afterCased false cs := by
  simpa [lowercaseFrom, startsCased] using lowercaseFrom_append afterCased cs []

/-- Whether a character divides a text into two that are mapped to lower case on their own. -/
structure Divides (d : Char) : Prop where
  not_cased : isCased d = false
  not_ignorable : isCaseIgnorable d = false
  lowercase_eq : lowercaseChar d = [d]
  ne_sigma : d ≠ 'Σ'

theorem divides_null : Divides '\x00' := by
  constructor <;> decide

namespace Divides

theorem startsCased_cons (hd : Divides d) (rest : List Char) : startsCased (d :: rest) = false := by
  simp [startsCased, hd.not_ignorable, hd.not_cased]

theorem lowercaseFrom_cons (hd : Divides d) (afterCased : Bool) (rest : List Char) :
    lowercaseFrom afterCased (d :: rest) = d :: lowercaseFrom false rest := by
  simp [lowercaseFrom, hd.ne_sigma, hd.lowercase_eq, hd.not_ignorable, hd.not_cased]

/-- The two sides of a dividing character are mapped to lower case on their own. -/
theorem lowercaseFrom_append (hd : Divides d) (afterCased : Bool) (cs rest : List Char) :
    lowercaseFrom afterCased (cs ++ d :: rest) =
      lowercaseFrom afterCased cs ++ d :: lowercaseFrom false rest := by
  rw [Text.lowercaseFrom_append, hd.startsCased_cons, hd.lowercaseFrom_cons, ← lowercaseFrom_eq]

end Divides

/-- A sigma by itself ends no word. -/
theorem lowercaseFrom_singleton (c : Char) : lowercaseFrom false [c] = lowercaseChar c := by
  rw [lowercaseFrom, lowercaseFrom, List.append_nil]
  split
  · rename_i hsigma
    rw [hsigma]
    decide
  · rfl

/-- Every run of the table maps to characters, and not to the null character. -/
private theorem image_bounds : ∀ r ∈ lowercaseRuns, 0 < r.image ∧
    (r.image + (r.last - r.first) < 0xD800 ∨
      0xDFFF < r.image ∧ r.image + (r.last - r.first) < 0x110000) := by
  decide +kernel

private theorem isValidChar_of_apply {r : CaseRun} {code image : Nat} (hr : r ∈ lowercaseRuns)
    (h : r.apply code = some image) : 0 < image ∧ image.isValidChar := by
  obtain ⟨hpos, hbounds⟩ := image_bounds r hr
  simp only [CaseRun.apply] at h
  split at h
  · rename_i hrange
    cases h
    refine ⟨by omega, ?_⟩
    rw [Nat.isValidChar]
    omega
  · cases h

/-- The code points of characters tell these apart from the null character. -/
private theorem ofNat_ne_null {code : Nat} (hpos : 0 < code) (hvalid : code.isValidChar) :
    Char.ofNat code ≠ '\x00' := by
  intro h
  rw [Char.ofNat, dif_pos hvalid] at h
  have hcode : code = 0 := congrArg Char.toNat h
  exact Nat.ne_of_gt hpos hcode

/-- Only the null character has itself in its lowercase form. -/
theorem null_mem_lowercaseChar : '\x00' ∈ lowercaseChar c ↔ c = '\x00' := by
  constructor
  · intro h
    rw [lowercaseChar] at h
    split at h
    · simp at h
    · rw [List.mem_singleton, lowercaseCode] at h
      cases hfound : lowercaseRuns.findSome? (·.apply c.toNat) with
      | none =>
        rw [hfound, Option.getD_none, Char.ofNat_toNat] at h
        exact h.symm
      | some image =>
        obtain ⟨r, hr, happly⟩ := List.exists_of_findSome?_eq_some hfound
        obtain ⟨hpos, hvalid⟩ := isValidChar_of_apply hr happly
        rw [hfound, Option.getD_some] at h
        exact absurd h.symm (ofNat_ne_null hpos hvalid)
  · rintro rfl
    decide

/-- Whether one run of the table maps no character that another one maps to. Runs that overlap take
every second character, and not the same ones. -/
private def spares (r s : CaseRun) : Bool :=
  Nat.blt s.last r.image || Nat.blt (r.image + (r.last - r.first)) s.first ||
    ((r.step == 2 || r.first == r.last) && s.step == 2 && (r.image + s.first) % 2 == 1)

private theorem all_spares : (lowercaseRuns.all fun r => lowercaseRuns.all (spares r)) = true := by
  decide +kernel

private theorem spares_of_mem {r s : CaseRun} (hr : r ∈ lowercaseRuns) (hs : s ∈ lowercaseRuns) :
    spares r s :=
  List.all_eq_true.1 (List.all_eq_true.1 all_spares r hr) s hs

private theorem apply_eq_none {r s : CaseRun} {code image : Nat} (h : spares r s)
    (happly : r.apply code = some image) : s.apply image = none := by
  simp only [CaseRun.apply, Option.ite_none_right_eq_some, Option.some.injEq] at happly
  simp only [spares, Bool.or_eq_true, Bool.and_eq_true, beq_iff_eq, Nat.blt_eq] at h
  simp only [CaseRun.apply, ite_eq_right_iff, reduceCtorEq, imp_false]
  obtain ⟨⟨hfirst, hlast, hstep⟩, rfl⟩ := happly
  rintro ⟨hfirst', hlast', hstep'⟩
  rcases h with (h | h) | ⟨⟨h | h, hs⟩, hodd⟩
  · omega
  · omega
  · rw [h] at hstep
    rw [hs] at hstep'
    omega
  · rw [hs] at hstep'
    omega

/-- No character becomes the dotted capital I, and none becomes what is no character. -/
private theorem image_ne_dotted : ∀ r ∈ lowercaseRuns,
    r.image + (r.last - r.first) < 0x130 ∨ 0x130 < r.image := by
  decide +kernel

/-- What stands in the lowercase form of a character is its own lowercase form. -/
theorem lowercaseChar_of_mem (h : d ∈ lowercaseChar c) : lowercaseChar d = [d] := by
  rw [lowercaseChar] at h
  split at h
  · rw [List.mem_cons, List.mem_singleton] at h
    rcases h with rfl | rfl <;> decide
  · rename_i hne
    rw [List.mem_singleton, lowercaseCode] at h
    cases hfound : lowercaseRuns.findSome? (·.apply c.toNat) with
    | none =>
      rw [hfound, Option.getD_none, Char.ofNat_toNat] at h
      rw [h, lowercaseChar, if_neg hne, lowercaseCode, hfound, Option.getD_none, Char.ofNat_toNat]
    | some image =>
      obtain ⟨r, hr, happly⟩ := List.exists_of_findSome?_eq_some hfound
      obtain ⟨-, hvalid⟩ := isValidChar_of_apply hr happly
      rw [hfound, Option.getD_some] at h
      have hcode : d.toNat = image := by
        rw [h, Char.ofNat, dif_pos hvalid]
        rfl
      have hnone : lowercaseRuns.findSome? (·.apply d.toNat) = none := by
        rw [hcode, List.findSome?_eq_none_iff]
        exact fun s hs => apply_eq_none (spares_of_mem hr hs) happly
      have hdotted : d ≠ 'İ' := by
        rintro rfl
        have hbounds := image_ne_dotted r hr
        simp only [CaseRun.apply, Option.ite_none_right_eq_some, Option.some.injEq] at happly
        have himage : image = 0x130 := hcode.symm
        omega
      rw [lowercaseChar, if_neg hdotted, lowercaseCode, hnone, Option.getD_none, Char.ofNat_toNat]

theorem ne_sigma_of_lowercaseChar_eq (h : lowercaseChar c = [c]) : c ≠ 'Σ' := by
  rintro rfl
  exact absurd h (by decide)

/-- A text of characters that are their own lowercase forms is its own lowercase form. -/
theorem lowercaseFrom_eq_self (h : ∀ c ∈ cs, lowercaseChar c = [c]) (afterCased : Bool) :
    lowercaseFrom afterCased cs = cs := by
  induction cs generalizing afterCased with
  | nil => rfl
  | cons c cs ih =>
    obtain ⟨hc, hcs⟩ := List.forall_mem_cons.1 h
    rw [lowercaseFrom, if_neg (ne_sigma_of_lowercaseChar_eq hc), hc, ih hcs]
    rfl

/-- Whether a character divides texts and is in the lowercase form of those texts only that it is in
themselves. -/
structure Separates (d : Char) : Prop extends Divides d where
  eq_of_mem : ∀ c, d ∈ lowercaseChar c → c = d
  ne_final_sigma : d ≠ 'ς'

theorem separates_null : Separates '\x00' where
  toDivides := divides_null
  eq_of_mem _ := null_mem_lowercaseChar.1
  ne_final_sigma := by decide

namespace Separates

/-- Mapping to lower case neither makes nor loses a separating character. -/
theorem mem_lowercaseFrom (hd : Separates d) {afterCased : Bool} :
    d ∈ lowercaseFrom afterCased cs ↔ d ∈ cs := by
  induction cs generalizing afterCased with
  | nil => simp [lowercaseFrom]
  | cons c cs ih =>
    rw [lowercaseFrom, List.mem_append, ih, List.mem_cons]
    refine or_congr_left ?_
    split
    · rename_i hsigma
      have hne : d ≠ 'σ' := by
        rintro rfl
        exact hd.ne_sigma (hd.eq_of_mem 'Σ' (by decide)).symm
      rw [hsigma, iff_false_right hd.ne_sigma, List.mem_singleton]
      split
      · exact hd.ne_final_sigma
      · exact hne
    · constructor
      · exact fun h => (hd.eq_of_mem c h).symm
      · rintro rfl
        rw [hd.lowercase_eq]
        exact List.mem_singleton_self d

/-- A text is cut at a separating character before or after it is mapped to lower case. -/
theorem cut_lowercaseFrom (hd : Separates d) (afterCased : Bool) (cs : List Char) :
    cut d (lowercaseFrom afterCased cs) = (cut d cs).map fun s =>
      (lowercaseFrom afterCased s.1, lowercaseFrom false s.2) := by
  cases hcut : cut d cs with
  | none =>
    rw [Option.map_none, cut_eq_none_iff, hd.mem_lowercaseFrom]
    exact cut_eq_none_iff.1 hcut
  | some s =>
    obtain ⟨rfl, hfree⟩ := cut_eq_some_iff.1 hcut
    rw [hd.lowercaseFrom_append, Option.map_some]
    exact cut_append_cons (mt hd.mem_lowercaseFrom.1 hfree) _

end Separates

theorem lowercaseChar_ne_nil (c : Char) : lowercaseChar c ≠ [] := by
  rw [lowercaseChar]
  split <;> exact List.cons_ne_nil _ _

/-- No character is lost by mapping to lower case. -/
theorem lowercaseFrom_eq_nil_iff {afterCased : Bool} :
    lowercaseFrom afterCased cs = [] ↔ cs = [] := by
  cases cs with
  | nil => simp [lowercaseFrom]
  | cons c cs =>
    rw [lowercaseFrom]
    split <;> simp [lowercaseChar_ne_nil]

end SymbolIndex.Text
