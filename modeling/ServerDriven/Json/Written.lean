/-
Module: ServerDriven.Json.Written
Purpose: JSON text read into a tree of what is written, and the values such trees denote.
Main exports:
  Token, Token.scan?, Written, Written.ofText?, Written.value?, Json.ofText?
-/
import ServerDriven.Json.Basic

namespace ServerDriven

/-!
A text can be well formed and still not denote a value: a number may be too large, a string may
hold half of a surrogate pair, the nesting may be too deep.  `Written` is the tree of a well
formed text, in which such parts are marked and repeated members are still apart.
-/

/-! ### Numbers -/

namespace Number

/-- The number denoted by a sign, the digits before and after the point, and an exponent.
`none` if it is too large. -/
def ofDecimal? (negative : Bool) (digits : Nat) (exponent : Int) : Option Number :=
  match Binary64.ofDecimal negative digits exponent with
  | .finite x => some (.float x)
  | _ => none

/-- The number denoted by digits alone.  The negative zero and integers outside the range are
floating-point numbers. -/
def ofDigits? (negative : Bool) (digits : Nat) : Option Number :=
  let n : Int := if negative then -digits else digits
  if h : -9_223_372_036_854_775_808 ≤ n ∧ n < 18_446_744_073_709_551_616 ∧
      ¬(negative ∧ digits = 0) then
    some (.integer n h.1 h.2.1)
  else ofDecimal? negative digits 0

/-- The value of decimal digits. -/
def digitsValue (cs : List Char) : Nat := cs.foldl (fun n c => 10 * n + (c.toNat - 48)) 0

/-- Read an exponent: `e`, an optional sign, digits. -/
def exponentOf? : List Char → Option Int
  | [] => some 0
  | e :: rest =>
    if e = 'e' ∨ e = 'E' then
      let (negative, digits) := match rest with
        | '-' :: ds => (true, ds)
        | '+' :: ds => (false, ds)
        | ds => (false, ds)
      if digits.isEmpty ∨ !digits.all Char.isDigit then none
      else if negative then some (-digitsValue digits) else some (digitsValue digits)
    else none

/-- Read a number: an optional minus, digits without a leading zero, optionally a point with
digits after it, optionally an exponent.  The outer `none` means that this is no number, the inner
one that the number is too large. -/
def ofLiteral? (cs : List Char) : Option (Option Number) :=
  let (negative, cs) := match cs with
    | '-' :: rest => (true, rest)
    | cs => (false, cs)
  let whole := cs.takeWhile Char.isDigit
  let rest := cs.dropWhile Char.isDigit
  if whole.isEmpty ∨ (whole.head? = some '0' ∧ whole.length ≠ 1) then none
  else match rest with
    | [] => some (ofDigits? negative (digitsValue whole))
    | '.' :: rest =>
      let fraction := rest.takeWhile Char.isDigit
      if fraction.isEmpty then none
      else do
        let exponent ← exponentOf? (rest.dropWhile Char.isDigit)
        some (ofDecimal? negative (digitsValue (whole ++ fraction)) (exponent - fraction.length))
    | rest => do
      let exponent ← exponentOf? rest
      some (ofDecimal? negative (digitsValue whole) exponent)

end Number

/-! ### Strings -/

/-- A piece of a string: a character, or a 16-bit unit written as an escape. -/
inductive Glyph where
  | char (c : Char)
  | unit (u : Nat)
deriving Repr, DecidableEq

/-- The characters of a string.  Escaped units of a surrogate pair make one character; half a pair
denotes none. -/
def Glyph.characters? : List Glyph → Option (List Char)
  | [] => some []
  | .char c :: rest => (characters? rest).map (c :: ·)
  | .unit u :: rest =>
    if 0xd800 ≤ u ∧ u < 0xdc00 then
      match rest with
      | .unit v :: rest =>
        if 0xdc00 ≤ v ∧ v < 0xe000 then
          (characters? rest).map (Char.ofNat (0x10000 + (u - 0xd800) * 0x400 + (v - 0xdc00)) :: ·)
        else none
      | _ => none
    else if 0xdc00 ≤ u ∧ u < 0xe000 then none
    else (characters? rest).map (Char.ofNat u :: ·)

/-! ### Tokens -/

/-- The tokens of JSON text.  A string or number that denotes nothing holds `none`. -/
inductive Token where
  | arrayStart
  | arrayEnd
  | objectStart
  | objectEnd
  | comma
  | colon
  | null
  | bool (b : Bool)
  | number (n : Option Number)
  | string (s : Option String)
deriving Repr, DecidableEq

namespace Token

/-- What the scanner is in the middle of; what has been read is kept in reverse. -/
inductive Mode where
  | between
  | word (letters : List Char)
  | quoted (glyphs : List Glyph)
  | escape (glyphs : List Glyph)
  | unit (glyphs : List Glyph) (missing value : Nat)

def isWordChar (c : Char) : Bool := c.isAlphanum || c == '-' || c == '+' || c == '.'

/-- A word is one of the three names or a number. -/
def ofWord? (letters : List Char) : Option Token :=
  match String.ofList letters with
  | "null" => some .null
  | "true" => some (.bool true)
  | "false" => some (.bool false)
  | _ => (Number.ofLiteral? letters).map .number

def punctuation? (c : Char) : Option Token :=
  if c = '[' then some .arrayStart
  else if c = ']' then some .arrayEnd
  else if c = '\x7b' then some .objectStart
  else if c = '\x7d' then some .objectEnd
  else if c = ',' then some .comma
  else if c = ':' then some .colon
  else none

/-- The character after a backslash, where it stands for one character. -/
def escape? (c : Char) : Option Char :=
  if c = '"' ∨ c = '\\' ∨ c = '/' then some c
  else if c = 'b' then some '\x08'
  else if c = 'f' then some '\x0c'
  else if c = 'n' then some '\n'
  else if c = 'r' then some '\r'
  else if c = 't' then some '\t'
  else none

def hexDigit? (c : Char) : Option Nat :=
  if '0' ≤ c ∧ c ≤ '9' then some (c.toNat - 48)
  else if 'a' ≤ c ∧ c ≤ 'f' then some (c.toNat - 87)
  else if 'A' ≤ c ∧ c ≤ 'F' then some (c.toNat - 55)
  else none

/-- Read a character between two tokens. -/
def start? (c : Char) : Option (List Token × Mode) :=
  if c = ' ' ∨ c = '\t' ∨ c = '\n' ∨ c = '\r' then some ([], .between)
  else if c = '"' then some ([], .quoted [])
  else if isWordChar c then some ([], .word [c])
  else (punctuation? c).map fun t => ([t], .between)

/-- Read one character: the tokens that it completes, and what comes next. -/
def step? : Mode → Char → Option (List Token × Mode)
  | .between, c => start? c
  | .word letters, c =>
    if isWordChar c then some ([], .word (c :: letters))
    else do
      let word ← ofWord? letters.reverse
      let (tokens, mode) ← start? c
      some (word :: tokens, mode)
  | .quoted glyphs, c =>
    if c = '"' then
      some ([.string ((Glyph.characters? glyphs.reverse).map String.ofList)], .between)
    else if c = '\\' then some ([], .escape glyphs)
    else if c.toNat < 0x20 then none
    else some ([], .quoted (.char c :: glyphs))
  | .escape glyphs, c =>
    if c = 'u' then some ([], .unit glyphs 4 0)
    else (escape? c).map fun d => ([], .quoted (.char d :: glyphs))
  | .unit glyphs missing value, c => do
    let digit ← hexDigit? c
    let value := 16 * value + digit
    if missing ≤ 1 then some ([], .quoted (.unit value :: glyphs))
    else some ([], .unit glyphs (missing - 1) value)

/-- Read the rest of a text; the tokens found so far are kept in reverse. -/
def scanFrom? : Mode → List Token → List Char → Option (List Token)
  | .between, found, [] => some found.reverse
  | .word letters, found, [] => (ofWord? letters.reverse).map fun t => (t :: found).reverse
  | _, _, [] => none
  | mode, found, c :: rest =>
    match step? mode c with
    | some (tokens, next) => scanFrom? next (tokens.reverse ++ found) rest
    | none => none

/-- The tokens of a text. -/
def scan? (cs : List Char) : Option (List Token) := scanFrom? .between [] cs

end Token

/-! ### Trees -/

/-- What is written in a well formed text. -/
inductive Written where
  | null
  | bool (b : Bool)
  | number (n : Option Number)
  | string (s : Option String)
  | array (items : List Written)
  | object (members : List (Option String × Written))
deriving Repr, Inhabited

namespace Written

/-- An array or object that is still open, with what it holds so far in reverse. -/
inductive Frame where
  | array (items : List Written)
  | object (members : List (Option String × Written)) (key : Option String)

/-- What the grammar allows next. -/
inductive Expect where
  | value
  | valueOrEnd
  | key (members : List (Option String × Written))
  | keyOrEnd
  | colon (members : List (Option String × Written)) (key : Option String)
  | separator
  | nothing (root : Written)

/-- Put a complete value where it belongs. -/
def place (v : Written) : List Frame → List Frame × Expect
  | [] => ([], .nothing v)
  | .array items :: frames => (.array (v :: items) :: frames, .separator)
  | .object members key :: frames => (.object ((key, v) :: members) none :: frames, .separator)

/-- A token at the place of a value. -/
def startValue? (frames : List Frame) : Token → Option (List Frame × Expect)
  | .null => some (place .null frames)
  | .bool b => some (place (.bool b) frames)
  | .number n => some (place (.number n) frames)
  | .string s => some (place (.string s) frames)
  | .arrayStart => some (.array [] :: frames, .valueOrEnd)
  | .objectStart => some (frames, .keyOrEnd)
  | _ => none

/-- Read one token. -/
def step? (frames : List Frame) : Expect → Token → Option (List Frame × Expect)
  | .value, t => startValue? frames t
  | .valueOrEnd, .arrayEnd =>
    match frames with
    | .array items :: frames => some (place (.array items.reverse) frames)
    | _ => none
  | .valueOrEnd, t => startValue? frames t
  | .keyOrEnd, .objectEnd => some (place (.object []) frames)
  | .keyOrEnd, .string key => some (frames, .colon [] key)
  | .key members, .string key => some (frames, .colon members key)
  | .colon members key, .colon => some (.object members key :: frames, .value)
  | .separator, .comma =>
    match frames with
    | .array _ :: _ => some (frames, .value)
    | .object members _ :: frames => some (frames, .key members)
    | [] => none
  | .separator, .arrayEnd =>
    match frames with
    | .array items :: frames => some (place (.array items.reverse) frames)
    | _ => none
  | .separator, .objectEnd =>
    match frames with
    | .object members _ :: frames => some (place (.object members.reverse) frames)
    | _ => none
  | _, _ => none

/-- The tree of a list of tokens. -/
def build? : List Frame → Expect → List Token → Option Written
  | _, .nothing root, [] => some root
  | _, _, [] => none
  | frames, expect, t :: rest =>
    match step? frames expect t with
    | some (frames, expect) => build? frames expect rest
    | none => none

/-- The tree of a text, if the text is well formed. -/
def ofText? (text : String) : Option Written :=
  (Token.scan? text.toList).bind (build? [] .value)

mutual

/-- The value denoted by a tree with at most `depth` nested arrays and objects.  A repeated member
keeps its first place and its last value. -/
def value? (depth : Nat) : Written → Option Json
  | .null => some .null
  | .bool b => some (.bool b)
  | .number n => n.map .number
  | .string s => s.map .string
  | .array items => if depth = 0 then none else (items? (depth - 1) items).map .array
  | .object members =>
    if depth = 0 then none
    else (members? (depth - 1) members).map fun members => .object (Entries.ofList members)

def items? (depth : Nat) : List Written → Option (List Json)
  | [] => some []
  | item :: rest =>
    match value? depth item, items? depth rest with
    | some v, some vs => some (v :: vs)
    | _, _ => none

def members? (depth : Nat) : List (Option String × Written) → Option (List (String × Json))
  | [] => some []
  | (key, value) :: rest =>
    match key, value? depth value, members? depth rest with
    | some key, some v, some vs => some ((key, v) :: vs)
    | _, _, _ => none

end

/-- The deepest nesting of arrays and objects that is accepted. -/
def depthLimit : Nat := 127

/-- Whether the tree denotes a value. -/
def isAcceptable (w : Written) : Bool := (w.value? depthLimit).isSome

end Written

/-- Read a value from a text. -/
def Json.ofText? (text : String) : Option Json :=
  (Written.ofText? text).bind (Written.value? Written.depthLimit)

end ServerDriven
