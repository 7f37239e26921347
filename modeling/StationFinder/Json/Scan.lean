import StationFinder.Json.Fault
import StationFinder.Text.Utf8

/-!
# Json/Scan — the leaves of a JSON text: words, strings and numbers

What is read from a text comes as a `Scan`, with the rest of the text and a proof that the rest is
shorter; so every loop over a text ends.  Numbers are read as the sum of a significand of at most 64
bits and a power of ten: integer digits that no longer fit are dropped and counted as zeros, decimal
digits that no longer fit are dropped.
-/

namespace StationFinder.Json

/-- A value read from the front of a text, and the rest. -/
structure Scan (α : Type) (s : List Char) where
  value : α
  rest : List Char
  shorter : rest.length < s.length

/-- The same scan with its value changed. -/
def Scan.map {α β : Type} {s : List Char} (f : α → β) (a : Scan α s) : Scan β s :=
  ⟨f a.value, a.rest, a.shorter⟩

/-- The same scan, seen from a longer text. -/
def Scan.within {α : Type} {s t : List Char} (a : Scan α s) (h : s.length ≤ t.length) : Scan α t :=
  ⟨a.value, a.rest, Nat.lt_of_lt_of_le a.shorter h⟩

/-- A text from which nothing was read is not longer. -/
theorem notLonger_self (s : List Char) : s.length ≤ s.length := Nat.le_refl _

/-- Reads a value from the front of a text. -/
abbrev Reader (α : Type) := (s : List Char) → Except Stop (Scan α s)

/-- Whether a character is a blank of JSON: space, tab and the two line ends. -/
def isSpace (c : Char) : Bool := c = ' ' || c = '\t' || c = '\n' || c = '\r'

/-- The first character that is not a blank, if there is one. -/
def next? : (s : List Char) → Option (Scan Char s)
  | [] => none
  | c :: s =>
    if isSpace c then (next? s).map fun a => a.within (Nat.le_succ _)
    else some ⟨c, s, Nat.lt_succ_self _⟩

/-- Reads the letters that are left of a word whose first letter is known. -/
def word : List Char → Reader Unit
  | [], [] => .error (.atEnd .endInValue)
  | _ :: _, [] => .error (.atEnd .endInValue)
  | [], c :: s => .error (.upon .badWord (c :: s))
  | [w], c :: s =>
    if c = w then .ok ⟨(), s, Nat.lt_succ_self _⟩ else .error (.upon .badWord (c :: s))
  | w :: v :: ws, c :: s =>
    if c = w then (word (v :: ws) s).map fun a => a.within (Nat.le_succ _)
    else .error (.upon .badWord (c :: s))

/-! ## Strings -/

/-- The number that four hexadecimal digits stand for. -/
def hexFour? (a b c d : Char) : Option Nat := do
  let a ← Text.Numeral.hexDigit? a
  let b ← Text.Numeral.hexDigit? b
  let c ← Text.Numeral.hexDigit? c
  let d ← Text.Numeral.hexDigit? d
  return ((a * 16 + b) * 16 + c) * 16 + d

/-- The problem where four hexadecimal digits are missing: four bytes that are others, or the end of
the text. -/
def notHexFour (s : List Char) : Stop :=
  if 4 ≤ Text.Utf8.byteLength s then .placed .badEscape (Text.Utf8.byteLength s - 4)
  else .atEnd .endInString

/-- Reads four hexadecimal digits. -/
def hexFour : Reader Nat
  | a :: b :: c :: d :: s =>
    match hexFour? a b c d with
    | some n => .ok ⟨n, s, by simp only [List.length_cons]; omega⟩
    | none => .error (notHexFour (a :: b :: c :: d :: s))
  | s => .error (notHexFour s)

/-- Whether a code unit is the first half of a pair of surrogates. -/
def isFirstHalf (n : Nat) : Bool := 0xD800 ≤ n && n ≤ 0xDBFF

/-- Whether a code unit is the second half of a pair of surrogates. -/
def isSecondHalf (n : Nat) : Bool := 0xDC00 ≤ n && n ≤ 0xDFFF

/-- Reads the character that one escape of a code unit stands for, or two of them. -/
def unicodeEscape : Reader Char := fun s => do
  let first ← hexFour s
  if isSecondHalf first.value then throw (.before .lonePair first.rest)
  if ¬ isFirstHalf first.value then return first.map Char.ofNat
  match h : first.rest with
  | [] => throw (.atEnd .endInString)
  | ['\\'] => throw (.atEnd .endInString)
  | '\\' :: 'u' :: t =>
    let second ← hexFour t
    if ¬ isSecondHalf second.value then throw (.before .lonePair second.rest)
    let code := 0x10000 + (first.value - 0xD800) * 0x400 + (second.value - 0xDC00)
    return ⟨Char.ofNat code, second.rest, by
      have := second.shorter; have := first.shorter
      simp only [h, List.length_cons] at *; omega⟩
  | '\\' :: t => throw (.upon .halfPair t)
  | t => throw (.upon .halfPair t)

/-- The character that a letter stands for behind a backslash. -/
def unescape? : Char → Option Char
  | '"' => some '"'
  | '\\' => some '\\'
  | '/' => some '/'
  | 'b' => some '\x08'
  | 'f' => some '\x0c'
  | 'n' => some '\n'
  | 'r' => some '\r'
  | 't' => some '\t'
  | _ => none

/-- Reads the character that an escape stands for, after its backslash. -/
def escaped : Reader Char
  | [] => .error (.atEnd .endInString)
  | c :: s =>
    if c = 'u' then (unicodeEscape s).map fun a => a.within (Nat.le_succ _)
    else match unescape? c with
      | some d => .ok ⟨d, s, Nat.lt_succ_self _⟩
      | none => .error (.upon .badEscape (c :: s))

/-- Reads the characters of a string and its closing quote. -/
def characters : Reader (List Char)
  | [] => .error (.atEnd .endInString)
  | c :: s =>
    if c = '"' then .ok ⟨[], s, Nat.lt_succ_self _⟩
    else if c = '\\' then do
      let d ← escaped s
      let cs ← characters d.rest
      return ⟨d.value :: cs.value, cs.rest, by
        have := d.shorter; have := cs.shorter; simp only [List.length_cons]; omega⟩
    else if c.toNat < 0x20 then .error (.upon .controlCharacter (c :: s))
    else do
      let cs ← characters s
      return (cs.map (c :: ·)).within (Nat.le_succ _)
termination_by s => s.length
decreasing_by
  · have := d.shorter; simp only [List.length_cons]; omega
  · simp only [List.length_cons]; omega

/-- Reads a string after its opening quote. -/
def stringTail : Reader String := fun s => do
  let cs ← characters s
  return cs.map String.ofList

/-- Passes over an escape, whatever character it stands for. -/
def skipEscape : Reader Unit
  | [] => .error (.atEnd .endInString)
  | c :: s =>
    if c = 'u' then (hexFour s).map fun a => (a.map fun _ => ()).within (Nat.le_succ _)
    else if (unescape? c).isSome then .ok ⟨(), s, Nat.lt_succ_self _⟩
    else .error (.upon .badEscape (c :: s))

/-- Passes over a string after its opening quote.  Here a control character is a problem before it
is read. -/
def skipString : Reader Unit
  | [] => .error (.atEnd .endInString)
  | c :: s =>
    if c = '"' then .ok ⟨(), s, Nat.lt_succ_self _⟩
    else if c = '\\' then do
      let d ← skipEscape s
      let a ← skipString d.rest
      return ⟨(), a.rest, by
        have := d.shorter; have := a.shorter; simp only [List.length_cons]; omega⟩
    else if c.toNat < 0x20 then .error (.before .controlCharacter (c :: s))
    else (skipString s).map fun a => a.within (Nat.le_succ _)
termination_by s => s.length
decreasing_by
  · have := d.shorter; simp only [List.length_cons]; omega
  · simp only [List.length_cons]; omega

/-! ## Numbers -/

/-- The greatest significand. -/
def maxSignificand : Nat := Nat.pow 2 64 - 1

/-- Appends digits to a significand as long as it stays in its range; also how many were left
over. -/
def appendDigits (m : Nat) : List Char → Nat × Nat
  | [] => (m, 0)
  | c :: cs =>
    let m' := 10 * m + (c.toNat - '0'.toNat)
    if m' ≤ maxSignificand then appendDigits m' cs else (m, cs.length + 1)

/-- A power of ten as the nearest double. -/
def powerOfTen (k : Nat) : Float := Float.ofScientific 1 false k

/-- Divides by `10^k` in steps of at most `10^308`. -/
def divideByTens (x : Float) (k : Nat) : Float :=
  if k ≤ 308 then x / powerOfTen k
  else if x == 0 then x
  else divideByTens (x / powerOfTen 308) (k - 308)
termination_by k

/-- The double of a significand and a power of ten: the significand is rounded to a double first,
the product is rounded again. -/
def double? (m : Nat) (exponent : Int) : Option Float :=
  let x := Float.ofNat m
  if exponent < 0 then some (divideByTens x exponent.natAbs)
  else if m = 0 then some x
  else if 308 < exponent then none
  else
    let y := x * powerOfTen exponent.toNat
    if y.isInf then none else some y

/-- A significand and a power of ten as a number, with the text behind it. -/
def scaledNumber (negative : Bool) (m : Nat) (exponent : Int) (rest : List Char) :
    Except Stop Number :=
  match double? m exponent with
  | some x => .ok (.double (if negative then -x else x))
  | none => .error (.before .numberTooLarge rest)

/-- An integer as a number: whole where it has 64 bits; a minus sign before zero makes a double. -/
def wholeNumber (negative : Bool) (m : Nat) : Number :=
  if ¬ negative then .whole m
  else if m = 0 ∨ Nat.pow 2 63 < m then .double (-Float.ofNat m)
  else .whole (-m)

/-- The digits at the front of a text. -/
def digitsOf (s : List Char) : List Char := s.takeWhile Text.Numeral.isDigit

/-- What follows the digits at the front of a text. -/
def afterDigits (s : List Char) : List Char := s.dropWhile Text.Numeral.isDigit

theorem length_afterDigits (s : List Char) : (afterDigits s).length ≤ s.length :=
  (List.dropWhile_suffix _).length_le

/-- A reading of something that may be empty. -/
structure Part (α : Type) (s : List Char) where
  value : α
  rest : List Char
  notLonger : rest.length ≤ s.length

/-- The greatest exponent. -/
def maxExponent : Nat := Nat.pow 2 31 - 1

/-- What is left behind the digit with which an exponent becomes too great, if one does; a number is
known of the digits before. -/
def beyondExponent? (k : Nat) : List Char → Option (List Char)
  | [] => none
  | c :: s => (Text.Numeral.digit? c).bind fun d =>
    if maxExponent < 10 * k + d then some s else beyondExponent? (10 * k + d) s

/-- Reads an exponent after its letter.  If the number is not `zero`, its exponent is not read to
the end when it becomes too great. -/
def exponent (zero : Bool) (s : List Char) : Except Stop (Part Int s) :=
  let unsigned := match s with
    | '+' :: t | '-' :: t => t
    | _ => s
  let negative := s.head? = some '-'
  if unsigned = [] then .error (.atEnd .endInValue)
  else if digitsOf unsigned = [] then .error (.upon .badNumber unsigned)
  else match (beyondExponent? 0 unsigned).filter fun _ => !negative && !zero with
    | some rest => .error (.before .numberTooLarge rest)
    | none =>
      let k := (Text.Numeral.value? (digitsOf unsigned)).getD 0
      .ok ⟨if negative then -k else k, afterDigits unsigned, by
        refine Nat.le_trans (length_afterDigits _) ?_
        simp only [unsigned]; split <;> simp⟩

/-- Reads the exponent, if there is one, of a significand that is known. -/
def afterSignificand (negative : Bool) (m : Nat) (scale : Int) (s : List Char) :
    Except Stop (Part Number s) :=
  match s with
  | [] => (scaledNumber negative m scale []).map fun n => ⟨n, [], Nat.le_refl _⟩
  | c :: t =>
    if c = 'e' ∨ c = 'E' then do
      let e ← exponent (m = 0) t
      let n ← scaledNumber negative m (scale + e.value) e.rest
      return ⟨n, e.rest, Nat.le_succ_of_le e.notLonger⟩
    else (scaledNumber negative m scale (c :: t)).map fun n => ⟨n, c :: t, Nat.le_refl _⟩

/-- Reads what follows the integer digits of a number. -/
def afterInteger (negative : Bool) (m dropped : Nat) (s : List Char) :
    Except Stop (Part Number s) :=
  match s with
  | '.' :: t =>
    if t = [] then .error (.atEnd .endInValue)
    else if digitsOf t = [] then .error (.upon .badNumber t)
    else do
      let (m', left) := appendDigits m (digitsOf t)
      let places := (digitsOf t).length - left
      let n ← afterSignificand negative m' ((dropped : Int) - places) (afterDigits t)
      return ⟨n.value, n.rest, by
        have := n.notLonger; have := length_afterDigits t; simp only [List.length_cons]; omega⟩
  | s =>
    if dropped = 0 ∧ s.head? ≠ some 'e' ∧ s.head? ≠ some 'E' then
      .ok ⟨wholeNumber negative m, s, Nat.le_refl _⟩
    else afterSignificand negative m dropped s

/-- Reads a number after its sign. -/
def unsignedNumber (negative : Bool) : Reader Number
  | [] => .error (.atEnd .endInValue)
  | c :: s =>
    if ¬ Text.Numeral.isDigit c then .error (.upon .badNumber (c :: s))
    else if c = '0' ∧ digitsOf s ≠ [] then .error (.upon .badNumber s)
    else do
      let (m, dropped) := appendDigits 0 (c :: digitsOf s)
      let n ← afterInteger negative m dropped (afterDigits s)
      return ⟨n.value, n.rest, by
        have := n.notLonger; have := length_afterDigits s; simp only [List.length_cons]; omega⟩

/-- Passes over an exponent after its letter. -/
def skipExponent (s : List Char) : Except Stop (Part Unit s) :=
  let unsigned := match s with
    | '+' :: t | '-' :: t => t
    | _ => s
  if digitsOf unsigned = [] then .error (.upon .badNumber unsigned)
  else .ok ⟨(), afterDigits unsigned, by
    refine Nat.le_trans (length_afterDigits _) ?_
    simp only [unsigned]; split <;> simp⟩

/-- Passes over the exponent of a number, if there is one. -/
def skipAfterDigits (s : List Char) : Except Stop (Part Unit s) :=
  match s with
  | [] => .ok ⟨(), [], Nat.le_refl _⟩
  | c :: t =>
    if c = 'e' ∨ c = 'E' then
      (skipExponent t).map fun a => ⟨(), a.rest, Nat.le_succ_of_le a.notLonger⟩
    else .ok ⟨(), c :: t, Nat.le_refl _⟩

/-- Passes over a number after its sign, however great it is. -/
def skipUnsigned : Reader Unit
  | [] => .error (.atEnd .badNumber)
  | c :: s =>
    if ¬ Text.Numeral.isDigit c then .error (.upon .badNumber (c :: s))
    else if c = '0' ∧ digitsOf s ≠ [] then .error (.upon .badNumber s)
    else match h : afterDigits s with
      | '.' :: t =>
        if digitsOf t = [] then .error (.upon .badNumber t)
        else (skipAfterDigits (afterDigits t)).map fun a => ⟨(), a.rest, by
          have := a.notLonger; have := length_afterDigits t; have := length_afterDigits s
          simp only [h, List.length_cons] at *; omega⟩
      | t => (skipAfterDigits t).map fun a => ⟨(), a.rest, by
          have := a.notLonger; have := length_afterDigits s
          simp only [h, List.length_cons] at *; omega⟩

end StationFinder.Json
