import StationFinder.Json.Reader

/-!
# Json/Skip — values that no one asks for

What stands under a key that no one asks for is passed over.  Its syntax is checked, but its
numbers may be as great and its arrays and objects nested as deep as they like, so `skip` keeps a
list of the arrays and objects that are open.
-/

namespace StationFinder.Json

/-- An array or object that is open. -/
inductive Opened where
  | list
  | object
deriving DecidableEq

/-- The bracket that closes it. -/
def Opened.closing : Opened → Char
  | .list => ']'
  | .object => '\x7d'

/-- The problem when the text ends within it. -/
def Opened.cutShort : Opened → Problem
  | .list => .endInList
  | .object => .endInObject

/-- The problem when neither a comma nor the closing bracket follows a value within it. -/
def Opened.noComma : Opened → Problem
  | .list => .noCommaInList
  | .object => .noCommaInObject

/-- Passes over a key and its colon. -/
def skipKey : Reader Unit := fun s =>
  match next? s with
  | none => .error (.atEnd .endInObject)
  | some a =>
    if a.value = '"' then do
      let key ← skipString a.rest
      let mark ← colon key.rest
      return ⟨(), mark.rest, Nat.lt_trans mark.shorter (Nat.lt_trans key.shorter a.shorter)⟩
    else .error (.upon .keyNotString (a.value :: a.rest))

/-- Passes over the brackets that close behind a value, up to the next value within what is still
open; nothing is left open when the whole value is read. -/
def closeBrackets : (opened : List Opened) → (s : List Char) → Except Stop (Part (List Opened) s)
  | [], s => .ok ⟨[], s, Nat.le_refl _⟩
  | o :: opened, s =>
    match next? s with
    | none => .error (.atEnd o.cutShort)
    | some a =>
      if a.value = ',' then
        match o with
        | .list => .ok ⟨o :: opened, a.rest, Nat.le_of_lt a.shorter⟩
        | .object => do
          let b ← skipKey a.rest
          return ⟨o :: opened, b.rest, by have := a.shorter; have := b.shorter; omega⟩
      else if a.value = o.closing then do
        let b ← closeBrackets opened a.rest
        return ⟨b.value, b.rest, Nat.le_trans b.notLonger (Nat.le_of_lt a.shorter)⟩
      else .error (.upon o.noComma (a.value :: a.rest))

/-- Passes over a scalar whose first character is known. -/
def skipScalar (c : Char) : (s : List Char) → Except Stop (Part Unit s) := fun s =>
  let part (a : Except Stop (Scan Unit s)) : Except Stop (Part Unit s) :=
    a.map fun a => ⟨(), a.rest, Nat.le_of_lt a.shorter⟩
  match c with
  | 'n' => part (word ['u', 'l', 'l'] s)
  | 't' => part (word ['r', 'u', 'e'] s)
  | 'f' => part (word ['a', 'l', 's', 'e'] s)
  | '-' => part (skipUnsigned s)
  | '"' => part (skipString s)
  | _ =>
    if Text.Numeral.isDigit c then
      (skipUnsigned (c :: s)).map fun a => ⟨(), a.rest, Nat.le_of_lt_succ a.shorter⟩
    else .error (.upon .noValue (c :: s))

/-- Passes over one step of a value within what is open: a scalar, an empty array or object, or an
opening bracket up to the first value in it. -/
def skipStep (opened : List Opened) (s : List Char) : Except Stop (Scan (List Opened) s) :=
  match next? s with
  | none => .error (.atEnd .endInValue)
  | some a =>
    let settle (opened : List Opened) (t : List Char) (h : t.length < s.length) := do
      let b ← closeBrackets opened t
      return ⟨b.value, b.rest, Nat.lt_of_le_of_lt b.notLonger h⟩
    let enter (o : Opened) :=
      match next? a.rest with
      | none => .error (.atEnd o.cutShort)
      | some b =>
        if b.value = o.closing then settle opened b.rest (Nat.lt_trans b.shorter a.shorter)
        else match o with
          | .list => .ok ⟨o :: opened, a.rest, a.shorter⟩
          | .object => do
            let key ← skipKey a.rest
            return ⟨o :: opened, key.rest, Nat.lt_trans key.shorter a.shorter⟩
    if a.value = '[' then enter .list
    else if a.value = '\x7b' then enter .object
    else do
      let b ← skipScalar a.value a.rest
      settle opened b.rest (Nat.lt_of_le_of_lt b.notLonger a.shorter)

/-- Passes over a value and what closes around it, until nothing is open. -/
def skipWithin (opened : List Opened) (s : List Char) : Except Stop (Scan Unit s) := do
  let a ← skipStep opened s
  if a.value = [] then return a.map fun _ => ()
  else
    let b ← skipWithin a.value a.rest
    return b.within (Nat.le_of_lt a.shorter)
termination_by s.length
decreasing_by have := a.shorter; omega

/-- Passes over a value. -/
def skip : Reader Unit := skipWithin []

end StationFinder.Json
