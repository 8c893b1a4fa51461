import CartCriteria.Binary64.Shortest
import CartCriteria.Json.Basic

/-! The text of JSON values: compact on one line, or pretty with an indent of two. Members are
written in their stored order. -/
namespace CartCriteria.Json

/-- Binary64 numbers are positional from `1e-5` up to `1e16`, whole ones end in `.0`, and an even
digit wins a tie. -/
def numberLayout : NumberLayout := ⟨-5, 15, ".0", "0.0", "-0.0", .even⟩

def numberText : JsonNumber → String
  | .integer n _ => toString n
  | .binary x => numberLayout.render x

/-- A character inside a string: quotes, backslashes and control characters are escaped. -/
def escapeChar (c : Char) : List Char :=
  if c = '"' then ['\\', '"']
  else if c = '\\' then ['\\', '\\']
  else if c = '\x08' then ['\\', 'b']
  else if c = '\x0c' then ['\\', 'f']
  else if c = '\n' then ['\\', 'n']
  else if c = '\r' then ['\\', 'r']
  else if c = '\t' then ['\\', 't']
  else if c.toNat < 0x20 then
    ['\\', 'u', '0', '0', Nat.digitChar (c.toNat / 16), Nat.digitChar (c.toNat % 16)]
  else [c]

def stringChars (s : String) : List Char :=
  '"' :: (s.toList.flatMap escapeChar ++ ['"'])

mutual

def compactChars : Json → List Char
  | null => "null".toList
  | bool b => (if b then "true" else "false").toList
  | number n => (numberText n).toList
  | string s => stringChars s
  | array [] => ['[', ']']
  | array (v :: rest) => '[' :: (compactChars v ++ compactItems rest)
  | object [] => ['{', '}']
  | object ((k, v) :: rest) =>
    '{' :: (stringChars k ++ ':' :: (compactChars v ++ compactMembers rest))

def compactItems : List Json → List Char
  | [] => [']']
  | v :: rest => ',' :: (compactChars v ++ compactItems rest)

def compactMembers : List (String × Json) → List Char
  | [] => ['}']
  | (k, v) :: rest => ',' :: (stringChars k ++ ':' :: (compactChars v ++ compactMembers rest))

end

def newLine (depth : Nat) : List Char :=
  '\n' :: List.replicate (2 * depth) ' '

mutual

/-- The pretty text of a value whose first line is already indented to `depth`. -/
def prettyChars (depth : Nat) : Json → List Char
  | null => "null".toList
  | bool b => (if b then "true" else "false").toList
  | number n => (numberText n).toList
  | string s => stringChars s
  | array [] => ['[', ']']
  | array (v :: rest) =>
    '[' :: (newLine (depth + 1) ++ (prettyChars (depth + 1) v ++ prettyItems depth rest))
  | object [] => ['{', '}']
  | object ((k, v) :: rest) =>
    '{' :: (newLine (depth + 1) ++ (stringChars k ++ ':' :: ' ' ::
      (prettyChars (depth + 1) v ++ prettyMembers depth rest)))

def prettyItems (depth : Nat) : List Json → List Char
  | [] => newLine depth ++ [']']
  | v :: rest =>
    ',' :: (newLine (depth + 1) ++ (prettyChars (depth + 1) v ++ prettyItems depth rest))

def prettyMembers (depth : Nat) : List (String × Json) → List Char
  | [] => newLine depth ++ ['}']
  | (k, v) :: rest =>
    ',' :: (newLine (depth + 1) ++ (stringChars k ++ ':' :: ' ' ::
      (prettyChars (depth + 1) v ++ prettyMembers depth rest)))

end

def compact (v : Json) : String :=
  String.ofList v.compactChars

def pretty (v : Json) : String :=
  String.ofList (v.prettyChars 0)

end CartCriteria.Json
