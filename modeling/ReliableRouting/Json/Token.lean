/-!
# JSON tokens

The tokens of a JSON text, found by an automaton that reads one character at a time. A
maximal run of letters has to be one of the three words, a maximal run of the characters of
numbers a number. Within a text an escape stands for a character or, for the halves of a
pair, for a surrogate; what the units of a text denote is decided once it has ended.
-/

namespace ReliableRouting.Json

/-- A token. The content of a text is absent if a surrogate in it has no partner. -/
inductive Token
  | openBrace
  | closeBrace
  | openBracket
  | closeBracket
  | comma
  | colon
  | null
  | bool (b : Bool)
  | number (literal : String)
  | text (content : Option String)
deriving Repr, DecidableEq

/-! ### Numbers -/

/-- The characters numbers are made of. -/
def isNumberChar (c : Char) : Bool :=
  c.isDigit || c == '-' || c == '+' || c == '.' || c == 'e' || c == 'E'

/-- Digits without a leading zero, and what follows them. -/
def wholePart? : List Char → Option (List Char)
  | '0' :: cs => some cs
  | c :: cs => if c.isDigit then some (cs.dropWhile Char.isDigit) else none
  | [] => none

/-- At least one digit, and what follows the digits. -/
def digits? : List Char → Option (List Char)
  | c :: cs => if c.isDigit then some (cs.dropWhile Char.isDigit) else none
  | [] => none

/-- What follows a point and digits, or the text itself where no point stands. -/
def fractionPart? : List Char → Option (List Char)
  | '.' :: cs => digits? cs
  | cs => some cs

/-- The text is empty or an exponent. -/
def isExponentPart : List Char → Bool
  | [] => true
  | mark :: cs =>
    let unsigned := match cs with
      | '+' :: ds => ds
      | '-' :: ds => ds
      | ds => ds
    (mark == 'e' || mark == 'E') && digits? unsigned == some []

/-- The characters form a number. -/
def isNumber (cs : List Char) : Bool :=
  let unsigned := match cs with
    | '-' :: ds => ds
    | ds => ds
  match wholePart? unsigned with
  | none => false
  | some rest =>
    match fractionPart? rest with
    | none => false
    | some rest => isExponentPart rest

/-! ### Texts -/

/-- A character of a text, or a surrogate that an escape has written. -/
inductive TextUnit
  | char (c : Char)
  | surrogate (n : Nat)

/-- The unit an escape of four hexadecimal digits stands for. -/
def TextUnit.ofCode (n : Nat) : TextUnit :=
  if 0xD800 ≤ n ∧ n < 0xE000 then .surrogate n else .char (Char.ofNat n)

/-- The text that units denote: a high surrogate goes with the low one right after it, and
no other surrogate has a meaning. -/
def TextUnit.decode? : List TextUnit → Option (List Char)
  | [] => some []
  | .char c :: rest => (decode? rest).map (c :: ·)
  | .surrogate high :: .surrogate low :: rest =>
    if high < 0xDC00 ∧ 0xDC00 ≤ low then
      (decode? rest).map (Char.ofNat (0x10000 + (high - 0xD800) * 0x400 + (low - 0xDC00)) :: ·)
    else
      none
  | .surrogate _ :: _ => none

/-- The character a one-letter escape stands for. -/
def escaped? : Char → Option Char
  | '\"' => some '\"'
  | '\\' => some '\\'
  | '/' => some '/'
  | 'b' => some '\x08'
  | 'f' => some '\x0c'
  | 'n' => some '\n'
  | 'r' => some '\r'
  | 't' => some '\t'
  | _ => none

/-- The value of a hexadecimal digit. -/
def hexValue? (c : Char) : Option Nat :=
  let n := c.toNat
  if c.isDigit then some (n - 48)
  else if 'a' ≤ c ∧ c ≤ 'f' then some (n - 87)
  else if 'A' ≤ c ∧ c ≤ 'F' then some (n - 55)
  else none

/-! ### The automaton -/

/-- Where the reading of tokens stands. Characters and units read so far come latest
first. -/
inductive Mode
  | between
  | word (letters : List Char)
  | number (chars : List Char)
  | text (units : List TextUnit)
  | escape (units : List TextUnit)
  | code (units : List TextUnit) (missing value : Nat)

/-- The tokens read so far, latest first, and the mode. -/
structure Scan where
  tokens : List Token
  mode : Mode

/-- The token a run of letters is. -/
def wordToken? (letters : List Char) : Option Token :=
  if letters = ['n', 'u', 'l', 'l'] then some .null
  else if letters = ['t', 'r', 'u', 'e'] then some (.bool true)
  else if letters = ['f', 'a', 'l', 's', 'e'] then some (.bool false)
  else none

/-- Ends a run of letters or of the characters of numbers. -/
def Scan.endRun? (s : Scan) : Option Scan :=
  match s.mode with
  | .word letters => (wordToken? letters.reverse).map fun t => ⟨t :: s.tokens, .between⟩
  | .number chars =>
    if isNumber chars.reverse then
      some ⟨.number (String.ofList chars.reverse) :: s.tokens, .between⟩
    else
      none
  | _ => some s

/-- Reads a character between tokens. -/
def Scan.start? (s : Scan) (c : Char) : Option Scan :=
  if c = ' ' ∨ c = '\t' ∨ c = '\n' ∨ c = '\r' then some s
  else if c = '\x7b' then some { s with tokens := .openBrace :: s.tokens }
  else if c = '\x7d' then some { s with tokens := .closeBrace :: s.tokens }
  else if c = '[' then some { s with tokens := .openBracket :: s.tokens }
  else if c = ']' then some { s with tokens := .closeBracket :: s.tokens }
  else if c = ',' then some { s with tokens := .comma :: s.tokens }
  else if c = ':' then some { s with tokens := .colon :: s.tokens }
  else if c = '\"' then some { s with mode := .text [] }
  else if c.isLower then some { s with mode := .word [c] }
  else if isNumberChar c then some { s with mode := .number [c] }
  else none

/-- Reads one more character. -/
def Scan.step? (s : Scan) (c : Char) : Option Scan :=
  match s.mode with
  | .between => s.start? c
  | .word letters =>
    if c.isLower then some { s with mode := .word (c :: letters) }
    else s.endRun?.bind (·.start? c)
  | .number chars =>
    if isNumberChar c then some { s with mode := .number (c :: chars) }
    else s.endRun?.bind (·.start? c)
  | .text units =>
    if c = '\"' then
      some ⟨.text ((TextUnit.decode? units.reverse).map String.ofList) :: s.tokens, .between⟩
    else if c = '\\' then
      some { s with mode := .escape units }
    else if c.toNat < 0x20 then
      none
    else
      some { s with mode := .text (.char c :: units) }
  | .escape units =>
    if c = 'u' then
      some { s with mode := .code units 4 0 }
    else
      (escaped? c).map fun e => { s with mode := .text (.char e :: units) }
  | .code units missing value =>
    (hexValue? c).map fun d =>
      let value := 16 * value + d
      if missing ≤ 1 then { s with mode := .text (TextUnit.ofCode value :: units) }
      else { s with mode := .code units (missing - 1) value }

/-- The tokens of a text, unless some part of it belongs to no token. -/
def tokens? (cs : List Char) : Option (List Token) :=
  ((cs.foldlM Scan.step? ⟨[], .between⟩).bind Scan.endRun?).bind fun s =>
    match s.mode with
    | .between => some s.tokens.reverse
    | _ => none

end ReliableRouting.Json
