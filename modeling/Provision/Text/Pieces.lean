set_option autoImplicit false

namespace Provision.Text

/-- There is one piece more than there are occurrences; pieces may be empty. -/
def pieces (sep : Char) : List Char → List (List Char)
  | [] => [[]]
  | c :: cs =>
    if c = sep then [] :: pieces sep cs
    else
      match pieces sep cs with
      | [] => [[c]]
      | p :: ps => (c :: p) :: ps

def splitOnce? (sep : Char) : List Char → Option (List Char × List Char)
  | [] => none
  | c :: cs =>
    if c = sep then some ([], cs)
    else (splitOnce? sep cs).map fun (before, after) => (c :: before, after)

theorem splitOnce?_append {sep : Char} {before : List Char} (h : sep ∉ before)
    (after : List Char) : splitOnce? sep (before ++ sep :: after) = some (before, after) := by
  induction before with
  | nil => simp [splitOnce?]
  | cons c cs ih =>
    rw [List.mem_cons, not_or] at h
    simp [splitOnce?, Ne.symm h.1, ih h.2]

end Provision.Text
