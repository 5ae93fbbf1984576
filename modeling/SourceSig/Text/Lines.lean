import SourceSig.Text.Blank

/-!
# Lines and parts

Cutting a text at a character. `splitOn` drops the separators and `lines` keeps them, so that the
lines of a text put together again are the text (`flatten_lines`).
-/

namespace SourceSig.Text

/-- The parts of a text between the occurrences of a character; one more than occurrences. -/
def splitOn (sep : Char) : List Char → List (List Char)
  | [] => [[]]
  | c :: cs =>
    if c = sep then [] :: splitOn sep cs
    else
      match splitOn sep cs with
      | [] => [[c]]
      | part :: rest => (c :: part) :: rest

/-- The parts of a list, each with the element that ends it; only the last may go without one. -/
def linesBy {α : Type} (isEnd : α → Bool) : List α → List (List α)
  | [] => []
  | c :: cs =>
    if isEnd c then [c] :: linesBy isEnd cs
    else
      match linesBy isEnd cs with
      | [] => [[c]]
      | line :: rest => (c :: line) :: rest

theorem flatten_linesBy {α : Type} (isEnd : α → Bool) (s : List α) :
    (linesBy isEnd s).flatten = s := by
  induction s with
  | nil => rfl
  | cons c cs ih =>
    rw [linesBy]
    split
    · simp [ih]
    · split
      · next h => rw [h] at ih; simp at ih; simp [← ih]
      · next h => rw [h] at ih; simp at ih; simp [ih]

/-- The lines of a text, each with the line feed that ends it. -/
def lines (s : List Char) : List (List Char) :=
  linesBy (· = '\n') s

theorem flatten_lines (s : List Char) : (lines s).flatten = s :=
  flatten_linesBy _ s

theorem splitOn_ne_nil (sep : Char) (s : List Char) : splitOn sep s ≠ [] := by
  cases s with
  | nil => simp [splitOn]
  | cons c cs =>
    rw [splitOn]
    split
    · simp
    · split <;> simp

/-- Whether `part` occurs in the text. -/
def occursIn (part : List Char) (s : List Char) : Bool :=
  part.isPrefixOf s ||
    match s with
    | [] => false
    | _ :: cs => occursIn part cs

end SourceSig.Text
