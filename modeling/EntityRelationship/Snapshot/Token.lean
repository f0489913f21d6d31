import EntityRelationship.Snapshot.Number

/-!
# The tokens of a snapshot

A snapshot is a text of objects, arrays and plain values. Its tokens are the brackets and
separators and the plain values. If the text breaks off or goes wrong, the last token is a broken
one; it says what is wrong with it, which may differ for a value that is read and one that is
passed over unread.

The tokens are made by an automaton that takes one character at a time.
-/

namespace EntityRelationship.Snapshot

/-! ## Tokens -/

/-- What is wrong with a text that is no snapshot. -/
inductive Flaw where
  /-- The text ends too early. -/
  | cutOff
  /-- Something stands where it may not stand. -/
  | malformed
  deriving DecidableEq

/-- A token. -/
inductive Token where
  | openObject
  | closeObject
  | openArray
  | closeArray
  | comma
  | colon
  | null
  | bool (b : Bool)
  | number (n : Number)
  | text (s : String)
  /-- A text with a flaw. It has the first flaw when it is read, and the second, if any, when it
  is passed over. -/
  | brokenText (read : Flaw) (passed : Option Flaw)
  /-- Anything else with a flaw. -/
  | broken (read : Flaw) (passed : Option Flaw)
  deriving DecidableEq

/-! ## Texts -/

/-- The part of a quoted text that has been taken in. -/
structure QuotedPart where
  /-- The characters, the last first. -/
  chars : List Char
  /-- A high surrogate that waits for its low one. -/
  high : Option Nat
  /-- Whether a surrogate stood alone. Such a text can be passed over but not read. -/
  spoiled : Bool
  deriving DecidableEq

namespace QuotedPart

/-- Nothing taken in. -/
def empty : QuotedPart := ⟨[], none, false⟩

/-- Takes in a character. A high surrogate before it stands alone. -/
def push (p : QuotedPart) (c : Char) : QuotedPart :=
  ⟨c :: p.chars, none, p.spoiled || p.high.isSome⟩

/-- Takes in a 16-bit unit, which is a character, or the first or second half of one. -/
def pushUnit (p : QuotedPart) (n : Nat) : QuotedPart :=
  if 0xDC00 ≤ n ∧ n ≤ 0xDFFF then
    match p.high with
    | some h =>
      ⟨Char.ofNat (0x10000 + (h - 0xD800) * 0x400 + (n - 0xDC00)) :: p.chars, none, p.spoiled⟩
    | none => { p with spoiled := true }
  else if 0xD800 ≤ n ∧ n ≤ 0xDBFF then
    ⟨p.chars, some n, p.spoiled || p.high.isSome⟩
  else p.push (Char.ofNat n)

/-- The token of a text that is complete. -/
def close (p : QuotedPart) : Token :=
  if p.spoiled || p.high.isSome then .brokenText .malformed none
  else .text (String.ofList p.chars.reverse)

/-- The token of a text that stops with a flaw. -/
def stop (p : QuotedPart) (flaw : Flaw) : Token :=
  .brokenText (if p.spoiled then .malformed else flaw) (some flaw)

end QuotedPart

/-- How the character after a backslash is read, unless it is a `u`. -/
def unescape? : Char → Option Char
  | '"' => some '"'
  | '\\' => some '\\'
  | '/' => some '/'
  | 'b' => some '\x08'
  | 'f' => some '\x0C'
  | 'n' => some '\n'
  | 'r' => some '\r'
  | 't' => some '\t'
  | _ => none

/-- The value of a hexadecimal digit. -/
def hexValue? (c : Char) : Option Nat :=
  if '0' ≤ c ∧ c ≤ '9' then some (c.toNat - '0'.toNat)
  else if 'a' ≤ c ∧ c ≤ 'f' then some (c.toNat - 'a'.toNat + 10)
  else if 'A' ≤ c ∧ c ≤ 'F' then some (c.toNat - 'A'.toNat + 10)
  else none

/-- The value of four hexadecimal digits. -/
def hexUnit? : List Char → Option Nat
  | [a, b, c, d] => do
    let a ← hexValue? a
    let b ← hexValue? b
    let c ← hexValue? c
    let d ← hexValue? d
    return ((a * 16 + b) * 16 + c) * 16 + d
  | _ => none

/-- The place within a quoted text. -/
inductive QuotedPlace where
  /-- Among the characters. -/
  | plain
  /-- Behind a backslash. -/
  | escape
  /-- Behind a backslash and a `u`, with the characters that were taken since. -/
  | unit (taken : List Char)
  deriving DecidableEq

/-! ## Numbers -/

/-- The place within a number. -/
inductive NumberPlace where
  | minus
  | zero
  | whole
  | point
  | fraction
  | mark
  | markSign
  | exponent
  deriving DecidableEq

namespace NumberPlace

/-- Whether a number may end at a place. -/
def isFinal : NumberPlace → Bool
  | zero | whole | fraction | exponent => true
  | minus | point | mark | markSign => false

/-- The place behind a further character, or `none` if a number cannot go on so. -/
def next? (p : NumberPlace) (c : Char) : Option NumberPlace :=
  match p with
  | minus => if c = '0' then some zero else if c.isDigit then some whole else none
  | zero => if c = '.' then some point else if c = 'e' ∨ c = 'E' then some mark else none
  | whole =>
    if c.isDigit then some whole
    else if c = '.' then some point
    else if c = 'e' ∨ c = 'E' then some mark
    else none
  | point => if c.isDigit then some fraction else none
  | fraction =>
    if c.isDigit then some fraction else if c = 'e' ∨ c = 'E' then some mark else none
  | mark =>
    if c.isDigit then some exponent else if c = '+' ∨ c = '-' then some markSign else none
  | markSign => if c.isDigit then some exponent else none
  | exponent => if c.isDigit then some exponent else none

end NumberPlace

/-- The token of a complete number, given its characters from the last to the first. -/
def numberToken (taken : List Char) : Token :=
  match Number.ofText? taken.reverse with
  | some n => .number n
  | none => .broken .malformed none

/-! ## The automaton -/

/-- The state between two characters. -/
inductive ScanState where
  /-- Between two tokens. -/
  | ready
  /-- Within a word, with the letters that are still to come and the token that the word is. -/
  | word (rest : List Char) (token : Token)
  /-- Within a quoted text. -/
  | quoted (part : QuotedPart) (place : QuotedPlace)
  /-- Within a number, with its characters from the last to the first. -/
  | number (taken : List Char) (place : NumberPlace)
  /-- Behind a broken token, where nothing counts any more. -/
  | halted
  deriving DecidableEq

/-- The token of a place where no token can begin. -/
def unexpected : Token := .broken .malformed (some .malformed)

/-- The step from between two tokens. -/
def stepReady (c : Char) : List Token × ScanState :=
  match c with
  | ' ' | '\t' | '\n' | '\r' => ([], .ready)
  | '{' => ([.openObject], .ready)
  | '}' => ([.closeObject], .ready)
  | '[' => ([.openArray], .ready)
  | ']' => ([.closeArray], .ready)
  | ',' => ([.comma], .ready)
  | ':' => ([.colon], .ready)
  | '"' => ([], .quoted .empty .plain)
  | 'n' => ([], .word ['u', 'l', 'l'] .null)
  | 't' => ([], .word ['r', 'u', 'e'] (.bool true))
  | 'f' => ([], .word ['a', 'l', 's', 'e'] (.bool false))
  | '-' => ([], .number ['-'] .minus)
  | '0' => ([], .number ['0'] .zero)
  | c => if c.isDigit then ([], .number [c] .whole) else ([unexpected], .halted)

/-- The step from within a quoted text. -/
def stepQuoted (p : QuotedPart) (place : QuotedPlace) (c : Char) : List Token × ScanState :=
  match place with
  | .plain =>
    if c = '"' then ([p.close], .ready)
    else if c = '\\' then ([], .quoted p .escape)
    else if c.toNat < 0x20 then ([p.stop .malformed], .halted)
    else ([], .quoted (p.push c) .plain)
  | .escape =>
    if c = 'u' then ([], .quoted p (.unit []))
    else
      match unescape? c with
      | some c => ([], .quoted (p.push c) .plain)
      | none => ([p.stop .malformed], .halted)
  | .unit taken =>
    let taken := taken ++ [c]
    if (String.ofList taken).utf8ByteSize < 4 then ([], .quoted p (.unit taken))
    else
      match hexUnit? taken with
      | some n => ([], .quoted (p.pushUnit n) .plain)
      | none => ([p.stop .malformed], .halted)

/-- The step from within a number. The character behind a number belongs to the next token. -/
def stepNumber (taken : List Char) (place : NumberPlace) (c : Char) : List Token × ScanState :=
  match place.next? c with
  | some place => ([], .number (c :: taken) place)
  | none =>
    if place.isFinal && !(place == .zero && c.isDigit) then
      let (tokens, state) := stepReady c
      (numberToken taken :: tokens, state)
    else ([unexpected], .halted)

/-- The tokens that a character completes, and the state behind it. -/
def step (state : ScanState) (c : Char) : List Token × ScanState :=
  match state with
  | .ready => stepReady c
  | .word [] token => ([token], .ready)
  | .word [l] token => if c = l then ([token], .ready) else ([unexpected], .halted)
  | .word (l :: rest) token => if c = l then ([], .word rest token) else ([unexpected], .halted)
  | .quoted part place => stepQuoted part place c
  | .number taken place => stepNumber taken place c
  | .halted => ([], .halted)

/-- The tokens that the end of the text completes. -/
def finish : ScanState → List Token
  | .ready => []
  | .word _ _ => [.broken .cutOff (some .cutOff)]
  | .quoted part _ => [part.stop .cutOff]
  | .number taken place =>
    [if place.isFinal then numberToken taken else .broken .cutOff (some .malformed)]
  | .halted => []

/-- The tokens of the rest of a text. -/
def scan (state : ScanState) : List Char → List Token
  | [] => finish state
  | c :: cs => (step state c).1 ++ scan (step state c).2 cs

/-- The tokens of a text. -/
def tokens (text : String) : List Token :=
  scan .ready text.toList

end EntityRelationship.Snapshot
