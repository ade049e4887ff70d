/-
Module: ServerDriven.Url.Punycode
Purpose: Labels of domains in ASCII letters, digits and hyphens.
Main exports:
  Punycode.encode, Punycode.decode?, Punycode.label
-/

namespace ServerDriven.Punycode

/-!
A label with characters outside ASCII is written as its ASCII characters, a hyphen, and a list of
numbers: for each other character, in increasing order of the characters and of their places, how
many pairs of a character and a place lie between it and the one before.  A number is written with
digits to the base 36 in which the last digit is known by being below a threshold; the thresholds
follow the size of the numbers so far (the bias).
-/

/-- The digit for a value below 36. -/
def digit (value : Nat) : Char := Char.ofNat (if value < 26 then 97 + value else 22 + value)

/-- The least digit value at a place that does not end the number; at least 1 and at most 26. -/
def threshold (place bias : Nat) : Nat := min 26 (max 1 (place - bias))

theorem threshold_pos (place bias : Nat) : 1 ≤ threshold place bias := by
  unfold threshold
  omega

/-- The digits of a number from a place on. -/
def digits (bias place number : Nat) : List Char :=
  let least := threshold place bias
  if number < least then [digit number]
  else
    digit (least + (number - least) % (36 - least)) ::
      digits bias (place + 36) ((number - least) / (36 - least))
termination_by number
decreasing_by
  have := threshold_pos place bias
  exact Nat.lt_of_le_of_lt (Nat.div_le_self _ _) (by omega)

/-- Divide by 35 until the number is at most 455; count 36 for each division. -/
def scale (number place : Nat) : Nat × Nat :=
  if 455 < number then scale (number / 35) (place + 36) else (number, place)
termination_by number
decreasing_by omega

/-- The bias after a number, when so many characters have been written. -/
def adapt (number written : Nat) (isFirst : Bool) : Nat :=
  let damped := if isFirst then number / 700 else number / 2
  let (small, place) := scale (damped + damped / written) 0
  place + 36 * small / (small + 38)

/-- How far the writing has come: the digits so far, the pairs passed over since the last number,
the bias, and how many characters have been written. -/
structure Progress where
  out : List Char
  passed : Nat
  bias : Nat
  written : Nat
deriving Repr, Inhabited

/-- Look at one place of the label while writing the places of a character. -/
def atPlace (code basic : Nat) (p : Progress) (c : Char) : Progress :=
  if c.toNat < code then { p with passed := p.passed + 1 }
  else if c.toNat = code then
    { out := p.out ++ digits p.bias 36 p.passed
      passed := 0
      bias := adapt p.passed (p.written + 1) (p.written == basic)
      written := p.written + 1 }
  else p

/-- Write the places of the characters with the given codes, in their order; `next` is the code
after the last one that was written. -/
def atCodes (label : List Char) (basic : Nat) : List Nat → Nat → Progress → Progress
  | [], _, p => p
  | code :: rest, next, p =>
    let start := { p with passed := p.passed + (code - next) * (p.written + 1) }
    let done := label.foldl (atPlace code basic) start
    atCodes label basic rest (code + 1) { done with passed := done.passed + 1 }

def isAscii (c : Char) : Bool := c.toNat < 0x80

/-! ### Encoding -/

/-- The codes of the characters outside ASCII, each once, in increasing order. -/
def codes (label : List Char) : List Nat :=
  ((label.filter (!isAscii ·)).map Char.toNat).mergeSort.eraseDups

/-- What stands for a label after its marker. -/
def encode (label : List Char) : List Char :=
  let basic := label.filter isAscii
  let start : Progress := ⟨[], 0, 72, basic.length⟩
  basic ++ (if basic.isEmpty then [] else ['-']) ++
    (atCodes label basic.length (codes label) 128 start).out

/-- A label in ASCII: as it is, or marked and encoded. -/
def label (label : List Char) : List Char :=
  if label.all isAscii then label else ['x', 'n', '-', '-'] ++ encode label

/-! ### Decoding -/

/-- The value of a digit, a letter in either case. -/
def digitValue? (c : Char) : Option Nat :=
  let n := c.toLower.toNat
  if c.isDigit then some (n - 22)
  else if 97 ≤ n ∧ n < 123 then some (n - 97)
  else none

/-- Numbers and the weights of their digits are below this. -/
def limit : Nat := 1 <<< 32

/-- Add a number, read from a place on, to a sum, and go on with the rest of the text. -/
def addNumber? (bias : Nat) : List Char → Nat → Nat → Nat → Option (Nat × List Char)
  | [], _, _, _ => none
  | c :: rest, place, weight, sum =>
    match digitValue? c with
    | none => none
    | some value =>
      let least := threshold place bias
      if limit ≤ sum + value * weight then none
      else if value < least then some (sum + value * weight, rest)
      else if limit ≤ weight * (36 - least) then none
      else addNumber? bias rest (place + 36) (weight * (36 - least)) (sum + value * weight)

theorem addNumber?_length {bias : Nat} {cs : List Char} {place weight sum : Nat}
    {result : Nat × List Char} (h : addNumber? bias cs place weight sum = some result) :
    result.2.length < cs.length := by
  induction cs generalizing place weight sum with
  | nil => simp [addNumber?] at h
  | cons c rest ih =>
    have step : result.2 = rest ∨ result.2.length < rest.length := by
      unfold addNumber? at h
      split at h
      · simp at h
      · dsimp only at h
        split at h
        · simp at h
        · split at h
          · exact .inl (by rw [← Option.some.inj h])
          · split at h
            · simp at h
            · exact .inr (ih h)
    rcases step with same | shorter
    · simp [same]
    · exact Nat.lt_succ_of_lt shorter

/-- Put the characters that are listed in a text into their places among those that are there.  The
pairs of a code and a place up to the last one are passed over. -/
def insertAll? (bias code place : Nat) (out : List Char) : List Char → Option (List Char)
  | [] => some out
  | c :: rest =>
    match _h : addNumber? bias (c :: rest) 36 1 place with
    | none => none
    | some (sum, rest') =>
      let places := out.length + 1
      let code' := code + sum / places
      let place' := sum % places
      if code'.isValidChar then
        insertAll? (adapt (sum - place) places (place == 0)) code' (place' + 1)
          (out.take place' ++ Char.ofNat code' :: out.drop place') rest'
      else none
termination_by cs => cs.length
decreasing_by exact addNumber?_length _h

/-- The ASCII characters before the last hyphen, and the numbers after it.  A hyphen at the
beginning parts nothing. -/
def splitNumbers (cs : List Char) : List Char × List Char :=
  match cs.reverse.span (· != '-') with
  | (after, '-' :: before@(_ :: _)) => (before.reverse, after.reverse)
  | _ => ([], cs)

/-- The label that a text stands for after its marker. -/
def decode? (cs : List Char) : Option (List Char) :=
  let (basic, numbers) := splitNumbers cs
  if basic.all isAscii then insertAll? 72 128 0 basic numbers else none

end ServerDriven.Punycode
