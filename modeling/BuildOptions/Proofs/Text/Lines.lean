import Mathlib.Data.List.Basic

/-! The lines of a text, each without the newline that ends it.  A text that is written line by line
is read back into the same lines. -/

namespace BuildOptions.Text

/-- The lines of a list of characters; the last one need not end with a newline. -/
def splitLines : List Char → List (List Char)
  | [] => []
  | '\n' :: rest => [] :: splitLines rest
  | c :: rest =>
    match splitLines rest with
    | [] => [[c]]
    | line :: later => (c :: line) :: later

/-- The lines of a text. -/
def lines (s : String) : List String := (splitLines s.toList).map String.ofList

theorem splitLines_append {line : List Char} (h : '\n' ∉ line) (rest : List Char) :
    splitLines (line ++ '\n' :: rest) = line :: splitLines rest := by
  induction line with
  | nil => rfl
  | cons c line ih =>
    rw [List.mem_cons, not_or] at h
    obtain ⟨hChar, hLine⟩ := h
    have hStep : splitLines (c :: (line ++ '\n' :: rest)) =
        match splitLines (line ++ '\n' :: rest) with
        | [] => [[c]]
        | first :: later => (c :: first) :: later := by
      rw [splitLines]
      exact fun hc => hChar hc.symm
    rw [List.cons_append, hStep, ih hLine]

theorem lines_append {line : String} (h : '\n' ∉ line.toList) (rest : String) :
    lines (line ++ "\n" ++ rest) = line :: lines rest := by
  have hText : (line ++ "\n" ++ rest).toList = line.toList ++ '\n' :: rest.toList := by simp
  rw [lines, hText, splitLines_append h, List.map_cons, String.ofList_toList, lines]

theorem lines_join {written : List String} (h : ∀ line ∈ written, '\n' ∉ line.toList) :
    lines (String.join (written.map (· ++ "\n"))) = written := by
  induction written with
  | nil => rfl
  | cons line rest ih =>
    obtain ⟨hLine, hRest⟩ := List.forall_mem_cons.mp h
    rw [List.map_cons, String.join_cons, lines_append hLine, ih hRest]

end BuildOptions.Text
