import Provision.Json.Basic
import Provision.Text.Hexadecimal

/-!
Tokens of a JSON text. A text that has a value in no case (a raw control character, a bad escape, a
leading zero) is refused here or by the token sequence; numbers and strings that are well formed but
have no value come out as `none`.
-/

set_option autoImplicit false

namespace Provision.Json

inductive Token where
  | openArray
  | closeArray
  | openObject
  | closeObject
  | colon
  | comma
  | null
  | bool (b : Bool)
  | num (n : Option Number)
  | str (s : Option String)
deriving DecidableEq

namespace Token

inductive Piece where
  | char (c : Char)
  | code (n : Nat)
deriving DecidableEq

def hex4? (a b c d : Char) : Option Nat := do
  let w ← Text.hexDigit? a
  let x ← Text.hexDigit? b
  let y ← Text.hexDigit? c
  let z ← Text.hexDigit? d
  some (((w * 16 + x) * 16 + y) * 16 + z)

def shortEscape? : Char → Option Char
  | '"' => some '"'
  | '\\' => some '\\'
  | '/' => some '/'
  | 'b' => some '\x08'
  | 'f' => some '\x0c'
  | 'n' => some '\n'
  | 'r' => some '\r'
  | 't' => some '\t'
  | _ => none

def pieces? : List Char → Option (List Piece × List Char)
  | [] => none
  | '"' :: cs => some ([], cs)
  | '\\' :: 'u' :: a :: b :: c :: d :: cs => do
    let n ← hex4? a b c d
    let (ps, rest) ← pieces? cs
    some (.code n :: ps, rest)
  | '\\' :: e :: cs => do
    let c ← shortEscape? e
    let (ps, rest) ← pieces? cs
    some (.char c :: ps, rest)
  | c :: cs =>
    if c.toNat < 0x20 then none
    else do
      let (ps, rest) ← pieces? cs
      some (.char c :: ps, rest)

def isHigh (n : Nat) : Bool := 0xD800 ≤ n && n < 0xDC00

def isLow (n : Nat) : Bool := 0xDC00 ≤ n && n < 0xE000

/-- The text of the pieces. A high surrogate and the low one after it are one character; alone,
neither has a value. -/
def text? : List Piece → Option (List Char)
  | [] => some []
  | .char c :: ps => (text? ps).map (c :: ·)
  | .code h :: .code l :: ps =>
    if isHigh h && isLow l then
      (text? ps).map (Char.ofNat (0x10000 + (h - 0xD800) * 0x400 + (l - 0xDC00)) :: ·)
    else if isHigh h || isLow h then none
    else (text? (.code l :: ps)).map (Char.ofNat h :: ·)
  | .code n :: ps =>
    if isHigh n || isLow n then none else (text? ps).map (Char.ofNat n :: ·)

def digits (cs : List Char) : List Nat :=
  (cs.takeWhile Char.isDigit).map fun c => c.toNat - '0'.toNat

def afterDigits (cs : List Char) : List Char := cs.dropWhile Char.isDigit

/-- The digits of an integer part: a zero stands alone. -/
def whole? : List Char → Option (List Nat × List Char)
  | '0' :: cs => some ([0], cs)
  | cs => if (digits cs).isEmpty then none else some (digits cs, afterDigits cs)

def fraction? : List Char → Option (List Nat × List Char)
  | '.' :: cs => if (digits cs).isEmpty then none else some (digits cs, afterDigits cs)
  | cs => some ([], cs)

def exponentSign : List Char → Bool × List Char
  | '-' :: cs => (true, cs)
  | '+' :: cs => (false, cs)
  | cs => (false, cs)

def exponent? : List Char → Option (Option Int × List Char)
  | c :: cs =>
    if c = 'e' ∨ c = 'E' then
      let (negative, ds) := exponentSign cs
      if (digits ds).isEmpty then none
      else
        let n : Nat := (digits ds).foldl (fun n d => 10 * n + d) 0
        some (some (if negative then -(n : Int) else n), afterDigits ds)
    else some (none, c :: cs)
  | [] => some (none, [])

def literal? (negative : Bool) (cs : List Char) : Option (Literal × List Char) := do
  let (whole, r) ← whole? cs
  let (fraction, r) ← fraction? r
  let (exponent, r) ← exponent? r
  some (⟨negative, whole, fraction, exponent⟩, r)

def isSpace (c : Char) : Bool := c == ' ' || c == '\n' || c == '\t' || c == '\r'

def next? : List Char → Option (Token × List Char)
  | '[' :: cs => some (.openArray, cs)
  | ']' :: cs => some (.closeArray, cs)
  | '{' :: cs => some (.openObject, cs)
  | '}' :: cs => some (.closeObject, cs)
  | ':' :: cs => some (.colon, cs)
  | ',' :: cs => some (.comma, cs)
  | 'n' :: 'u' :: 'l' :: 'l' :: cs => some (.null, cs)
  | 't' :: 'r' :: 'u' :: 'e' :: cs => some (.bool true, cs)
  | 'f' :: 'a' :: 'l' :: 's' :: 'e' :: cs => some (.bool false, cs)
  | '"' :: cs => (pieces? cs).map fun (ps, r) => (.str ((text? ps).map String.ofList), r)
  | '-' :: cs => (literal? true cs).map fun (l, r) => (.num l.number?, r)
  | cs => (literal? false cs).map fun (l, r) => (.num l.number?, r)

/-- All tokens of a text. Each step takes a character, so the length of the text bounds the steps.
-/
def scan : Nat → List Char → Option (List Token)
  | _, [] => some []
  | 0, _ :: _ => none
  | fuel + 1, c :: cs =>
    if isSpace c then scan fuel cs
    else do
      let (t, rest) ← next? (c :: cs)
      let ts ← scan fuel rest
      some (t :: ts)

end Token

def tokens? (cs : List Char) : Option (List Token) := Token.scan cs.length cs

end Provision.Json
