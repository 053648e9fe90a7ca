import Provision.Json.Basic

set_option autoImplicit false

namespace Provision.Json

def hexChar (n : Nat) : Char := Nat.digitChar (n % 16)

/-- A character inside a string: quotes, backslashes and control characters are escaped. -/
def escape (c : Char) : List Char :=
  if c = '"' then ['\\', '"']
  else if c = '\\' then ['\\', '\\']
  else if c = '\n' then ['\\', 'n']
  else if c = '\r' then ['\\', 'r']
  else if c = '\t' then ['\\', 't']
  else if c = '\x08' then ['\\', 'b']
  else if c = '\x0c' then ['\\', 'f']
  else if c.toNat < 0x20 then ['\\', 'u', '0', '0', hexChar (c.toNat / 16), hexChar c.toNat]
  else [c]

def quoted (s : String) : List Char := '"' :: s.toList.flatMap escape ++ ['"']

mutual
def wire : Json → List Char
  | .null => "null".toList
  | .bool true => "true".toList
  | .bool false => "false".toList
  | .num n => n.text
  | .str s => quoted s
  | .arr xs => '[' :: wireItems xs ++ [']']
  | .obj ms => '{' :: wireMembers ms ++ ['}']
def wireItems : List Json → List Char
  | [] => []
  | [x] => wire x
  | x :: y :: xs => wire x ++ ',' :: wireItems (y :: xs)
def wireMembers : List (String × Json) → List Char
  | [] => []
  | [(k, x)] => quoted k ++ ':' :: wire x
  | (k, x) :: m :: ms => quoted k ++ ':' :: wire x ++ ',' :: wireMembers (m :: ms)
end

def newline (depth : Nat) : List Char := '\n' :: List.replicate (2 * depth) ' '

mutual
def layout (depth : Nat) : Json → List Char
  | .arr [] => ['[', ']']
  | .arr (x :: xs) => '[' :: layoutItems (depth + 1) (x :: xs) ++ newline depth ++ [']']
  | .obj [] => ['{', '}']
  | .obj (m :: ms) => '{' :: layoutMembers (depth + 1) (m :: ms) ++ newline depth ++ ['}']
  | .null => "null".toList
  | .bool true => "true".toList
  | .bool false => "false".toList
  | .num n => n.text
  | .str s => quoted s
def layoutItems (depth : Nat) : List Json → List Char
  | [] => []
  | [x] => newline depth ++ layout depth x
  | x :: y :: xs => newline depth ++ layout depth x ++ ',' :: layoutItems depth (y :: xs)
def layoutMembers (depth : Nat) : List (String × Json) → List Char
  | [] => []
  | [(k, x)] => newline depth ++ quoted k ++ ':' :: ' ' :: layout depth x
  | (k, x) :: m :: ms =>
    newline depth ++ quoted k ++ ':' :: ' ' :: layout depth x ++ ',' ::
      layoutMembers depth (m :: ms)
end

def compact (j : Json) : String := String.ofList (wire j)

def pretty (j : Json) : String := String.ofList (layout 0 j)

end Provision.Json
