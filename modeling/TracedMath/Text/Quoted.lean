import TracedMath.Text.Extender
import TracedMath.Text.Unprintable

namespace TracedMath.Text

/-- Characters that would not show by themselves are given by their code point. -/
def needsCode (c : Char) : Bool := extender.contains c || unprintable.contains c

/-- The characters with an escape of their own, and the letter that stands for each. -/
def letters : List (Char × Char) :=
  [('"', '"'), ('\\', '\\'), ('\n', 'n'), ('\r', 'r'), ('\t', 't'), ('\x00', '0')]

def letterOf? (c : Char) : Option Char := letters.lookup c

def charOf? (letter : Char) : Option Char :=
  (letters.find? fun p => p.2 == letter).map (·.1)

def escape (c : Char) : List Char :=
  match letterOf? c with
  | some letter => ['\\', letter]
  | none =>
    if needsCode c then ['\\', 'u', '\x7b'] ++ Nat.toDigits 16 c.toNat ++ ['\x7d'] else [c]

def quotedChars (s : List Char) : List Char := '"' :: s.flatMap escape ++ ['"']

def quoted (s : String) : String := String.ofList (quotedChars s.toList)

/-- Lower-case digits only. -/
def hexValue? (c : Char) : Option Nat :=
  if '0' ≤ c ∧ c ≤ '9' then some (c.toNat - '0'.toNat)
  else if 'a' ≤ c ∧ c ≤ 'f' then some (c.toNat - 'a'.toNat + 10)
  else none

/-- How far into an escape a reader is. -/
inductive Escape where
  | outside
  | begun
  | code
  | digits (value : Nat)

def charOfCode? (n : Nat) : Option Char := if n.isValidChar then some (Char.ofNat n) else none

def unescape? : Escape → List Char → Option (List Char)
  | .outside, [] => some []
  | _, [] => none
  | .outside, c :: rest =>
    if c = '"' then none
    else if c = '\\' then unescape? .begun rest
    else (c :: ·) <$> unescape? .outside rest
  | .begun, c :: rest =>
    if c = 'u' then unescape? .code rest
    else do
      let d ← charOf? c
      (d :: ·) <$> unescape? .outside rest
  | .code, c :: rest => if c = '\x7b' then unescape? (.digits 0) rest else none
  | .digits n, c :: rest =>
    if c = '\x7d' then do
      let d ← charOfCode? n
      (d :: ·) <$> unescape? .outside rest
    else do
      let v ← hexValue? c
      unescape? (.digits (16 * n + v)) rest

/-- The marks at both ends are not part of the text. -/
def unquote? (s : List Char) : Option (List Char) :=
  match s with
  | '"' :: rest =>
    if rest.getLast? = some '"' then unescape? .outside rest.dropLast else none
  | _ => none

end TracedMath.Text
