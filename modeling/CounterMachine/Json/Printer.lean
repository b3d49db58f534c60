import CounterMachine.Json.Basic

/-!
# JSON text

Values are written without any white space or with each element and member on
a line of its own. Strings escape the quote, the backslash and the control
characters and nothing else.
-/

namespace CounterMachine

inductive JsonLayout where
  | compact
  | indented
deriving DecidableEq

namespace JsonLayout

def gap : JsonLayout → Nat → List Char
  | compact, _ => []
  | indented, level => '\n' :: List.replicate (2 * level) ' '

def colon : JsonLayout → List Char
  | compact => [':']
  | indented => [':', ' ']

end JsonLayout

namespace Json

def escapeChar (c : Char) : List Char :=
  match c with
  | '"' => ['\\', '"']
  | '\\' => ['\\', '\\']
  | '\x08' => ['\\', 'b']
  | '\x0c' => ['\\', 'f']
  | '\n' => ['\\', 'n']
  | '\r' => ['\\', 'r']
  | '\t' => ['\\', 't']
  | c =>
    if c.toNat < 0x20 then
      ['\\', 'u', '0', '0', Nat.digitChar (c.toNat / 16), Nat.digitChar (c.toNat % 16)]
    else [c]

/-- A string literal. One without a text is written as the first surrogate. -/
def stringChars : Option String → List Char
  | some s => '"' :: s.toList.flatMap escapeChar ++ ['"']
  | none => ['"', '\\', 'u', 'd', '8', '0', '0', '"']

def numberChars : JsonNumber → List Char
  | .natural n => Nat.toDigits 10 n
  | .decimal negative digits exponent =>
    (if negative then ['-'] else []) ++ Nat.toDigits 10 digits ++
      match exponent with
      | .ofNat e => ['e', '+'] ++ Nat.toDigits 10 e
      | .negSucc e => ['e', '-'] ++ Nat.toDigits 10 (e + 1)

mutual

/-- A value as JSON text on a level of nesting. -/
def chars (layout : JsonLayout) (level : Nat) : Json → List Char
  | null => ['n', 'u', 'l', 'l']
  | bool true => ['t', 'r', 'u', 'e']
  | bool false => ['f', 'a', 'l', 's', 'e']
  | number n => numberChars n
  | string s => stringChars s
  | array [] => ['[', ']']
  | array (x :: xs) =>
    '[' :: layout.gap (level + 1) ++ chars layout (level + 1) x ++ elementsChars layout level xs
  | object [] => ['\x7b', '\x7d']
  | object ((key, x) :: ms) =>
    '\x7b' :: layout.gap (level + 1) ++ stringChars key ++ layout.colon
      ++ chars layout (level + 1) x ++ membersChars layout level ms

def elementsChars (layout : JsonLayout) (level : Nat) : List Json → List Char
  | [] => layout.gap level ++ [']']
  | x :: xs =>
    ',' :: layout.gap (level + 1) ++ chars layout (level + 1) x ++ elementsChars layout level xs

def membersChars (layout : JsonLayout) (level : Nat) : List (Option String × Json) → List Char
  | [] => layout.gap level ++ ['\x7d']
  | (key, x) :: ms =>
    ',' :: layout.gap (level + 1) ++ stringChars key ++ layout.colon
      ++ chars layout (level + 1) x ++ membersChars layout level ms

end

def text (layout : JsonLayout) (j : Json) : String :=
  String.ofList (chars layout 0 j)

end Json

end CounterMachine
