/-!
# Patterns

A pattern describes whole texts: a star any run of characters, a question mark one character, and
brackets one character of some.
-/

namespace SourceSig.Shell

/-- A part of a pattern. -/
inductive Glob where
  | exactly (c : Char)
  | anyChar
  | anyRun
  | oneOf (negated : Bool) (ranges : List (Char × Char))
deriving DecidableEq, Repr

namespace Glob

/-- The ranges between brackets; a single character is a range of its own. -/
def ranges : List Char → List (Char × Char)
  | a :: '-' :: b :: rest => (a, b) :: ranges rest
  | a :: rest => (a, a) :: ranges rest
  | [] => []

/-- What a bracket opens: the characters before the bracket that closes it, which is not the first
of them, and how many characters were looked at. -/
def bracket? (s : List (Char × Bool)) : Option (Glob × Nat) :=
  let (negated, body) := match s with
    | ('!', false) :: rest => (true, rest)
    | _ => (false, s)
  let inside := body.take 1 ++ (body.drop 1).takeWhile (· ≠ (']', false))
  if inside.length < body.length then
    some (oneOf negated (ranges (inside.map (·.1))), s.length - body.length + inside.length + 1)
  else none

/-- The pattern that marked characters denote. -/
def ofMarked : List (Char × Bool) → List Glob
  | [] => []
  | (c, quoted) :: rest =>
    if quoted then exactly c :: ofMarked rest
    else if c = '*' then anyRun :: ofMarked rest
    else if c = '?' then anyChar :: ofMarked rest
    else
      match if c = '[' then bracket? rest else none with
      | some (g, n) => g :: ofMarked (rest.drop n)
      | none => exactly c :: ofMarked rest
termination_by s => s.length
decreasing_by all_goals simp only [List.length_cons, List.length_drop]; omega

/-- Whether a part of a pattern that stands for one character takes the given one. -/
def takes (c : Char) : Glob → Bool
  | exactly d => c = d
  | anyChar => true
  | anyRun => false
  | oneOf negated ranges => ranges.any (fun (a, b) => a ≤ c && c ≤ b) != negated

/-- Whether a pattern describes a text. -/
def accepts : List Glob → List Char → Bool
  | [], s => s.isEmpty
  | anyRun :: gs, [] => accepts gs []
  | anyRun :: gs, c :: cs => accepts gs (c :: cs) || accepts (anyRun :: gs) cs
  | _ :: _, [] => false
  | g :: gs, c :: cs => g.takes c && accepts gs cs
termination_by gs s => gs.length + s.length

end Glob

end SourceSig.Shell
