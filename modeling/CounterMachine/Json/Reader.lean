import CounterMachine.Json.Basic
import CounterMachine.Text.Decimal

/-!
# Reading JSON

A text is read by the JSON grammar, from its first character to its last. The
grammar alone decides: what has no value of its own is kept as such, and it is
left to the reader of the value to refuse it.
-/

namespace CounterMachine

namespace Json

open Text

def isSpace (c : Char) : Bool :=
  c == ' ' || c == '\n' || c == '\r' || c == '\t'

def skipSpace (cs : List Char) : List Char :=
  cs.dropWhile isSpace

/-! ## Strings -/

def hexDigit? (c : Char) : Option Nat :=
  if c.isDigit then some (c.toNat - 48)
  else if 'a' ≤ c ∧ c ≤ 'f' then some (c.toNat - 87)
  else if 'A' ≤ c ∧ c ≤ 'F' then some (c.toNat - 55)
  else none

def hexUnit? (a b c d : Char) : Option Nat := do
  let a ← hexDigit? a
  let b ← hexDigit? b
  let c ← hexDigit? c
  let d ← hexDigit? d
  return ((a * 16 + b) * 16 + c) * 16 + d

def escape? (c : Char) : Option Nat :=
  match c with
  | '"' => some 0x22
  | '\\' => some 0x5C
  | '/' => some 0x2F
  | 'b' => some 0x08
  | 'f' => some 0x0C
  | 'n' => some 0x0A
  | 'r' => some 0x0D
  | 't' => some 0x09
  | _ => none

/-- The codes that a string stands for, up to its closing quote, and the text
behind it. `done` holds the codes already read, the last one first. -/
def readCodes (done : List Nat) : List Char → Option (List Nat × List Char)
  | [] => none
  | '"' :: cs => some (done.reverse, cs)
  | '\\' :: 'u' :: a :: b :: c :: d :: cs =>
    match hexUnit? a b c d with
    | some code => readCodes (code :: done) cs
    | none => none
  | '\\' :: e :: cs =>
    match escape? e with
    | some code => readCodes (code :: done) cs
    | none => none
  | c :: cs => if c.toNat < 0x20 then none else readCodes (c.toNat :: done) cs

def isHighSurrogate (code : Nat) : Bool := 0xD800 ≤ code && code < 0xDC00

def isLowSurrogate (code : Nat) : Bool := 0xDC00 ≤ code && code < 0xE000

/-- The characters that some codes stand for, if no half of a surrogate pair
stands alone. -/
def assemble? : List Nat → Option (List Char)
  | [] => some []
  | [code] =>
    if isHighSurrogate code || isLowSurrogate code then none else some [Char.ofNat code]
  | code :: next :: codes =>
    if isHighSurrogate code && isLowSurrogate next then
      (assemble? codes).map
        (Char.ofNat (0x10000 + (code - 0xD800) * 0x400 + (next - 0xDC00)) :: ·)
    else if isHighSurrogate code || isLowSurrogate code then none
    else (assemble? (next :: codes)).map (Char.ofNat code :: ·)

def readString (cs : List Char) : Option (Option String × List Char) :=
  (readCodes [] cs).map fun (codes, rest) => ((assemble? codes).map String.ofList, rest)

/-! ## Numbers -/

def readDigits (cs : List Char) : Option (List Char × List Char) :=
  let digits := cs.takeWhile Char.isDigit
  if digits = [] then none else some (digits, cs.dropWhile Char.isDigit)

def readInteger (cs : List Char) : Option (List Char × List Char) :=
  match cs with
  | '0' :: rest => some (['0'], rest)
  | cs => readDigits cs

def readFraction (cs : List Char) : Option (List Char × List Char) :=
  match cs with
  | '.' :: rest => readDigits rest
  | cs => some ([], cs)

def readExponent (cs : List Char) : Option (Option Int × List Char) :=
  match cs with
  | e :: rest =>
    if e = 'e' ∨ e = 'E' then
      match rest with
      | '-' :: rest => (readDigits rest).map fun (ds, rest) => (some (-(numeral ds : Int)), rest)
      | '+' :: rest => (readDigits rest).map fun (ds, rest) => (some (numeral ds : Int), rest)
      | rest => (readDigits rest).map fun (ds, rest) => (some (numeral ds : Int), rest)
    else some (none, cs)
  | [] => some (none, [])

def readUnsigned (negative : Bool) (cs : List Char) : Option (JsonNumber × List Char) :=
  match readInteger cs with
  | none => none
  | some (digits, cs) =>
    match readFraction cs with
    | none => none
    | some (fraction, cs) =>
      match readExponent cs with
      | none => none
      | some (exponent, cs) =>
        if negative = false ∧ fraction = [] ∧ exponent = none then
          some (.natural (numeral digits), cs)
        else
          some (.decimal negative (numeral (digits ++ fraction))
            (exponent.getD 0 - fraction.length), cs)

def readNumber (cs : List Char) : Option (JsonNumber × List Char) :=
  match cs with
  | '-' :: rest => readUnsigned true rest
  | cs => readUnsigned false cs

/-! ## Values -/

mutual

/-- The value at the beginning of a text, and the text behind it. Each call on
the way takes one of `fuel`; the length of the text is enough. -/
def readValue : Nat → List Char → Option (Json × List Char)
  | 0, _ => none
  | fuel + 1, cs =>
    match skipSpace cs with
    | 'n' :: 'u' :: 'l' :: 'l' :: rest => some (null, rest)
    | 't' :: 'r' :: 'u' :: 'e' :: rest => some (bool true, rest)
    | 'f' :: 'a' :: 'l' :: 's' :: 'e' :: rest => some (bool false, rest)
    | '"' :: rest => (readString rest).map fun (s, rest) => (string s, rest)
    | '[' :: rest =>
      match skipSpace rest with
      | ']' :: rest => some (array [], rest)
      | rest => readElements fuel [] rest
    | '\x7b' :: rest =>
      match skipSpace rest with
      | '\x7d' :: rest => some (object [], rest)
      | rest => readMembers fuel [] rest
    | rest => (readNumber rest).map fun (n, rest) => (number n, rest)

def readElements : Nat → List Json → List Char → Option (Json × List Char)
  | 0, _, _ => none
  | fuel + 1, done, cs =>
    match readValue fuel cs with
    | none => none
    | some (x, rest) =>
      match skipSpace rest with
      | ',' :: rest => readElements fuel (x :: done) rest
      | ']' :: rest => some (array (x :: done).reverse, rest)
      | _ => none

def readMembers : Nat → List (Option String × Json) → List Char → Option (Json × List Char)
  | 0, _, _ => none
  | fuel + 1, done, cs =>
    match skipSpace cs with
    | '"' :: rest =>
      match readString rest with
      | none => none
      | some (key, rest) =>
        match skipSpace rest with
        | ':' :: rest =>
          match readValue fuel rest with
          | none => none
          | some (x, rest) =>
            match skipSpace rest with
            | ',' :: rest => readMembers fuel ((key, x) :: done) rest
            | '\x7d' :: rest => some (object ((key, x) :: done).reverse, rest)
            | _ => none
        | _ => none
    | _ => none

end

def read? (s : String) : Option Json :=
  match readValue (s.toList.length + 1) s.toList with
  | some (j, rest) => if skipSpace rest = [] then some j else none
  | none => none

end Json

end CounterMachine
