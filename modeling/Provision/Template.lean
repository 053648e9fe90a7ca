import Provision.Failure
import Provision.Text.Blank

/-!
Templates. A placeholder stands between two opening and two closing braces and names a key after a
point, with blanks around it or not. Values are copied as they are.
-/

set_option autoImplicit false

namespace Provision.Template

inductive Error where
  | unterminated
  | noPoint (key : List Char)
  | noValue (key : List Char)
deriving DecidableEq

def Error.message : Error → String
  | .unterminated => "unterminated \x7b\x7b placeholder in template"
  | .noPoint key =>
    "placeholder \x7b\x7b " ++ String.ofList key ++ " \x7d\x7d must start with '.'"
  | .noValue key => "no value for placeholder ." ++ String.ofList key

def splitAtPair (c : Char) : List Char → Option (List Char × List Char)
  | [] => none
  | [_] => none
  | a :: b :: cs =>
    if a = c ∧ b = c then some ([], cs)
    else (splitAtPair c (b :: cs)).map fun (before, after) => (a :: before, after)

/-- The value of what stands between the braces; the first entry of a key counts. -/
def valueOf (vars : List (String × String)) (inner : List Char) : Except Error (List Char) :=
  match Text.trim inner with
  | '.' :: key =>
    match vars.lookup (String.ofList key) with
    | some v => .ok v.toList
    | none => .error (.noValue key)
  | key => .error (.noPoint key)

theorem splitAtPair_length {c : Char} {cs before after : List Char}
    (h : splitAtPair c cs = some (before, after)) : after.length < cs.length := by
  induction cs generalizing before with
  | nil => simp [splitAtPair] at h
  | cons a cs ih =>
    cases cs with
    | nil => simp [splitAtPair] at h
    | cons b cs =>
      simp only [splitAtPair] at h
      split at h
      · cases h; simp only [List.length_cons]; omega
      · obtain ⟨⟨x, y⟩, hs, he⟩ := Option.map_eq_some_iff.mp h
        cases he
        have := ih hs
        simp only [List.length_cons] at this ⊢
        omega

def fill (vars : List (String × String)) (cs : List Char) : Except Error (List Char) :=
  match _h : splitAtPair '{' cs with
  | none => .ok cs
  | some (before, after) =>
    match _h' : splitAtPair '}' after with
    | none => .error .unterminated
    | some (inner, rest) =>
      match valueOf vars inner with
      | .error e => .error e
      | .ok v =>
        match fill vars rest with
        | .error e => .error e
        | .ok tail => .ok (before ++ v ++ tail)
termination_by cs.length
decreasing_by exact Nat.lt_trans (splitAtPair_length _h') (splitAtPair_length _h)

def render (template : String) (vars : List (String × String)) : Except Failure String :=
  match fill vars template.toList with
  | .ok cs => .ok (String.ofList cs)
  | .error e => .error (.workspace e.message)

end Provision.Template
