/-! Columns of text.  A column's width counts characters; a text that is wider than its column is
kept whole. -/

namespace BuildOptions.Text

/-- The text, followed by as many spaces as the column has left. -/
def padEnd (width : Nat) (s : String) : String :=
  s ++ String.ofList (List.replicate (width - s.length) ' ')

/-- The text, preceded by as many spaces as the column has left. -/
def padStart (width : Nat) (s : String) : String :=
  String.ofList (List.replicate (width - s.length) ' ') ++ s

theorem length_padEnd (width : Nat) (s : String) :
    (padEnd width s).length = max width s.length := by
  simp [padEnd]
  omega

theorem length_padStart (width : Nat) (s : String) :
    (padStart width s).length = max width s.length := by
  simp [padStart]
  omega

end BuildOptions.Text
