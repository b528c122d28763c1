/-!
# Sorted lists of texts

Lists of texts in the order of their code points, which is the order of their UTF-8 bytes, without
repeats.
-/

namespace SymbolIndex.Text

/-- Puts a text in its place in a sorted list, unless it is there. -/
def insertSorted (s : String) : List String → List String
  | [] => [s]
  | t :: ts => if s < t then s :: t :: ts else if s = t then t :: ts else t :: insertSorted s ts

def sorted (ss : List String) : List String := ss.foldr insertSorted []

theorem mem_insertSorted {s t : String} {ts : List String} :
    t ∈ insertSorted s ts ↔ t = s ∨ t ∈ ts := by
  induction ts with
  | nil => simp [insertSorted]
  | cons u us ih =>
    rw [insertSorted]
    split
    · simp
    · split
      · rename_i h
        subst h
        simp
      · rw [List.mem_cons, ih, List.mem_cons]
        exact or_left_comm

@[simp] theorem mem_sorted {t : String} {ss : List String} : t ∈ sorted ss ↔ t ∈ ss := by
  induction ss with
  | nil => simp [sorted]
  | cons s ss ih =>
    show t ∈ insertSorted s (sorted ss) ↔ _
    rw [mem_insertSorted, ih, List.mem_cons]

end SymbolIndex.Text
