import Mathlib.Tactic

/-!
# The lines of a text

A text is read into lines: each ends at a line feed, with a carriage return in
front of it taken away, and what follows the last line feed is a line of its
own if there is anything.  A text which was written line by line is read back,
and a text which was cut has all lines before the cut and at most one more.
-/

namespace TextLines

/-- A carriage return at the end is taken away. -/
def stripReturn (line : List Char) : List Char :=
  if line.getLast? = some '\r' then line.dropLast else line

/-- `begun` is the line which has begun. -/
def linesFrom (begun : List Char) : List Char → List (List Char)
  | [] => if begun = [] then [] else [begun]
  | c :: rest =>
      if c = '\n' then stripReturn begun :: linesFrom [] rest
      else linesFrom (begun ++ [c]) rest

def lines (text : List Char) : List (List Char) :=
  linesFrom [] text

theorem linesFrom_append
    {piece : List Char} (hpiece : '\n' ∉ piece) (begun rest : List Char) :
    linesFrom begun (piece ++ rest) = linesFrom (begun ++ piece) rest := by
  induction piece generalizing begun with
  | nil => rw [List.nil_append, List.append_nil]
  | cons c piece ih =>
      rw [List.mem_cons, not_or] at hpiece
      rw [List.cons_append, linesFrom, if_neg (Ne.symm hpiece.1),
        ih hpiece.2, List.append_assoc, List.singleton_append]

theorem lines_unended {line : List Char} (hline : '\n' ∉ line) :
    lines line = if line = [] then [] else [line] := by
  have happend := linesFrom_append hline [] []
  rw [List.append_nil, List.nil_append] at happend
  rw [lines, happend]
  rfl

theorem lines_cons
    {line : List Char} (hline : '\n' ∉ line) (rest : List Char) :
    lines (line ++ '\n' :: rest) = stripReturn line :: lines rest := by
  rw [lines, linesFrom_append hline, List.nil_append, linesFrom, if_pos rfl]
  rfl

theorem stripReturn_of_getLast_ne
    {line : List Char} (hline : line.getLast? ≠ some '\r') :
    stripReturn line = line :=
  if_neg hline

theorem stripReturn_append_return (line : List Char) :
    stripReturn (line ++ ['\r']) = line := by
  simp [stripReturn]

section Written

variable {Line : Type*} (written : Line → List Char)

/-- The text of some lines, one after another. -/
def textOf (content : List Line) : List Char :=
  content.flatMap written

/-- The lines which a text has in full. -/
structure CutAt (content : List Line) (cut : List Char) (full : ℕ)
    (rest : List Char) : Prop where
  le_length : full ≤ content.length
  cut_eq : cut = textOf written (content.take full) ++ rest
  rest_lt : ∀ line, content[full]? = some line →
    rest <+: written line ∧ rest ≠ written line
  rest_nil : content[full]? = none → rest = []

variable {written}

/-- However a text is cut, it has some lines in full and the front of the next
one. -/
theorem exists_cutAt
    (content : List Line) {cut : List Char}
    (hcut : cut <+: textOf written content) :
    ∃ full rest, CutAt written content cut full rest := by
  induction content generalizing cut with
  | nil =>
      have hnil : cut = [] := List.prefix_nil.mp hcut
      exact ⟨0, [], le_rfl, by simpa [textOf] using hnil, by simp, by simp⟩
  | cons line later ih =>
      rw [textOf, List.flatMap_cons] at hcut
      by_cases hwhole : written line <+: cut
      · rcases hwhole with ⟨behind, rfl⟩
        rw [List.prefix_append_right_inj] at hcut
        rcases ih hcut with ⟨full, rest, hle, heq, hlt, hnil⟩
        use full + 1, rest
        constructor
        · rw [List.length_cons]
          omega
        · rw [List.take_succ_cons, textOf, List.flatMap_cons,
            List.append_assoc, heq]
          rfl
        · simpa using hlt
        · simpa using hnil
      · use 0, cut
        have hfront : cut <+: written line := by
          rcases List.prefix_or_prefix_of_prefix hcut
            (List.prefix_append _ _) with hfront | hother
          · exact hfront
          · exact absurd hother hwhole
        constructor
        · exact Nat.zero_le _
        · rfl
        · intro other hother
          rw [List.getElem?_cons_zero, Option.some.injEq] at hother
          subst hother
          constructor
          · exact hfront
          · rintro rfl
            exact hwhole (List.prefix_refl _)
        · intro hnone
          simp at hnone

end Written

end TextLines
