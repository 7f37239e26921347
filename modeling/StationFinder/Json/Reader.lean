import StationFinder.Json.Scan

/-!
# Json/Reader — values read from a text as the type that is wanted

A `Decoder` reads one value of its type and stops at the first problem, be it of syntax or of data.
It is told how many more arrays and objects may be opened around what it reads; `readAny`, which
reads any value, recurses on that number.
-/

namespace StationFinder.Json

/-- How many arrays and objects may be open at once. -/
def maxDepth : Nat := 127

/-- Reads a value around which the given number of arrays and objects may still be opened. -/
abbrev Decoder (α : Type) := Nat → Reader α

/-- Where the next item of an array or the next member of an object begins, unless the end is
there. -/
inductive Turn (s : List Char) where
  | close (rest : List Char) (shorter : rest.length < s.length)
  | more (rest : List Char) (notLonger : rest.length ≤ s.length)

/-! ## Scalars -/

/-- Says what stands at the front of a text in place of what is wanted.  A scalar is read for that,
so a problem in it comes first. -/
def wrongShape (wanted : String) (s : List Char) : Stop :=
  let found (f : Found) := Stop.before (.wrongShape f wanted)
  let after {α : Type} {t : List Char} (a : Except Stop (Scan α t)) (f : α → Found) : Stop :=
    match a with
    | .error e => e
    | .ok a => found (f a.value) a.rest
  match s with
  | 'n' :: t => after (word ['u', 'l', 'l'] t) fun _ => .null
  | 't' :: t => after (word ['r', 'u', 'e'] t) fun _ => .bool true
  | 'f' :: t => after (word ['a', 'l', 's', 'e'] t) fun _ => .bool false
  | '-' :: t => after (unsignedNumber true t) .number
  | '"' :: t => after (stringTail t) .string
  | '[' :: t => found .sequence ('[' :: t)
  | '\x7b' :: t => found .map ('\x7b' :: t)
  | c :: t =>
    if Text.Numeral.isDigit c then after (unsignedNumber false (c :: t)) .number
    else .upon .noValue (c :: t)
  | [] => .atEnd .endInValue

/-- Reads a string. -/
def readString : Reader String := fun s =>
  match next? s with
  | none => .error (.atEnd .endInValue)
  | some a =>
    if a.value = '"' then (stringTail a.rest).map fun b => b.within (Nat.le_of_lt a.shorter)
    else .error (wrongShape "a string" (a.value :: a.rest))

/-- Reads a string, or `null`. -/
def readString? : Reader (Option String) := fun s =>
  match next? s with
  | some a =>
    if a.value = 'n' then
      (word ['u', 'l', 'l'] a.rest).map fun b =>
        (b.map fun _ => none).within (Nat.le_of_lt a.shorter)
    else (readString s).map (·.map some)
  | none => .error (.atEnd .endInValue)

/-! ## Arrays -/

/-- Looks for the next item of an array; `first` when none was read yet. -/
def itemTurn (first : Bool) (s : List Char) : Except Stop (Turn s) :=
  match next? s with
  | none => .error (.atEnd .endInList)
  | some a =>
    if a.value = ']' then .ok (.close a.rest a.shorter)
    else if first then .ok (.more s (notLonger_self s))
    else if a.value = ',' then
      match next? a.rest with
      | none => .error (.atEnd .endInValue)
      | some b =>
        if b.value = ']' then .error (.upon .trailingComma (b.value :: b.rest))
        else .ok (.more a.rest (Nat.le_of_lt a.shorter))
    else .error (.upon .noCommaInList (a.value :: a.rest))

/-- Reads the items of an array and its closing bracket. -/
def items {α : Type} (item : Reader α) (first : Bool) (s : List Char) :
    Except Stop (Scan (List α) s) := do
  match ← itemTurn first s with
  | .close rest h => return ⟨[], rest, h⟩
  | .more t h =>
    let a ← item t
    let as ← items item false a.rest
    return ⟨a.value :: as.value, as.rest, by have := a.shorter; have := as.shorter; omega⟩
termination_by s.length
decreasing_by have := a.shorter; omega

/-- Reads what closes an array of which no more items are wanted. -/
def endOfItems : Reader Unit := fun s =>
  match next? s with
  | none => .error (.atEnd .endInList)
  | some a =>
    if a.value = ']' then .ok (a.map fun _ => ())
    else if a.value = ',' then
      match next? a.rest with
      | some b =>
        let problem := if b.value = ']' then Problem.trailingComma else .trailingText
        .error (.upon problem (b.value :: b.rest))
      | none => .error (.atEnd .trailingText)
    else .error (.upon .trailingText (a.value :: a.rest))

/-- Gives a refused value the place where the array around it is left. -/
def Stop.inItems : Stop → Stop
  | placed problem left => placed problem left
  | pending problem rest =>
    match next? rest with
    | none => atEnd problem
    | some a =>
      if a.value = ']' then before problem a.rest
      else if a.value = ',' then
        match next? a.rest with
        | none => atEnd problem
        | some b => before problem (b.value :: b.rest)
      else before problem (a.value :: a.rest)

/-! ## Objects -/

/-- Looks for the next member of an object, past the quote of its key; `first` when none was read
yet. -/
def memberTurn (first : Bool) (s : List Char) : Except Stop (Turn s) :=
  match next? s with
  | none => .error (.atEnd .endInObject)
  | some a =>
    if a.value = '\x7d' then .ok (.close a.rest a.shorter)
    else if first then
      if a.value = '"' then .ok (.more a.rest (Nat.le_of_lt a.shorter))
      else .error (.upon .keyNotString (a.value :: a.rest))
    else if a.value = ',' then
      match next? a.rest with
      | none => .error (.atEnd .endInValue)
      | some b =>
        if b.value = '"' then
          .ok (.more b.rest (by have := a.shorter; have := b.shorter; omega))
        else
          let problem := if b.value = '\x7d' then Problem.trailingComma else .keyNotString
          .error (.upon problem (b.value :: b.rest))
    else .error (.upon .noCommaInObject (a.value :: a.rest))

/-- Reads the colon behind a key. -/
def colon : Reader Unit := fun s =>
  match next? s with
  | none => .error (.atEnd .endInObject)
  | some a =>
    if a.value = ':' then .ok (a.map fun _ => ())
    else .error (.upon .noColon (a.value :: a.rest))

/-- Gives a refused value or key the place where the object around it is left. -/
def Stop.inMembers : Stop → Stop
  | placed problem left => placed problem left
  | pending problem rest =>
    match next? rest with
    | none => atEnd problem
    | some a =>
      if a.value = '\x7d' then before problem a.rest else before problem (a.value :: a.rest)

/-- Reads the members of an object and its closing bracket.  What is known so far decides how the
value behind a key is read, or that the key is refused. -/
def members {σ : Type} (field : σ → String → Except Problem (Reader σ)) (first : Bool) (known : σ)
    (s : List Char) : Except Stop (Scan σ s) := do
  match ← memberTurn first s with
  | .close rest h => return ⟨known, rest, h⟩
  | .more t h =>
    let key ← stringTail t
    let value ← (field known key.value).mapError (.pending · key.rest)
    let mark ← colon key.rest
    let a ← value mark.rest
    let b ← members field false a.value a.rest
    return ⟨b.value, b.rest, by
      have := key.shorter; have := mark.shorter; have := a.shorter; have := b.shorter; omega⟩
termination_by s.length
decreasing_by have := key.shorter; have := mark.shorter; have := a.shorter; omega

/-! ## Any value, and arrays of values of one kind -/

/-- Keeps every member of an object, the latest in front. -/
def keepMember (value : Reader Json) (known : List (String × Json)) (key : String) :
    Except Problem (Reader (List (String × Json))) :=
  .ok fun s => (value s).map (·.map fun v => (key, v) :: known)

/-- Reads any value. -/
def readAny : Decoder Json
  | depth, s =>
    match next? s with
    | none => .error (.atEnd .endInValue)
    | some a =>
      let tooDeep := Stop.upon .tooDeep (a.value :: a.rest)
      let rest {α : Type} (b : Except Stop (Scan α a.rest)) (f : α → Json) :
          Except Stop (Scan Json s) :=
        b.map fun b => (b.map f).within (Nat.le_of_lt a.shorter)
      match a.value with
      | 'n' => rest (word ['u', 'l', 'l'] a.rest) fun _ => .null
      | 't' => rest (word ['r', 'u', 'e'] a.rest) fun _ => .bool true
      | 'f' => rest (word ['a', 'l', 's', 'e'] a.rest) fun _ => .bool false
      | '-' => rest (unsignedNumber true a.rest) .number
      | '"' => rest (stringTail a.rest) .string
      | '[' =>
        match depth with
        | 0 => .error tooDeep
        | depth + 1 => rest (items (readAny depth) true a.rest) .array
      | '\x7b' =>
        match depth with
        | 0 => .error tooDeep
        | depth + 1 =>
          rest (members (keepMember (readAny depth)) true [] a.rest) fun ms => .object ms.reverse
      | c =>
        if Text.Numeral.isDigit c then
          (unsignedNumber false (c :: a.rest)).map fun b =>
            ⟨.number b.value, b.rest, by
              have := b.shorter; have := a.shorter; simp only [List.length_cons] at *; omega⟩
        else .error (.upon .noValue (c :: a.rest))

/-- Reads the members of an object, in the order of the text. -/
def readMembers : Decoder (List (String × Json)) := fun depth s =>
  match next? s with
  | none => .error (.atEnd .endInValue)
  | some a =>
    if a.value = '\x7b' then
      match depth with
      | 0 => .error (.upon .tooDeep (a.value :: a.rest))
      | depth + 1 =>
        (members (keepMember (readAny depth)) true [] a.rest).map fun b =>
          (b.map List.reverse).within (Nat.le_of_lt a.shorter)
    else .error (wrongShape "a map" (a.value :: a.rest))

/-- Reads an array of values of one kind. -/
def readList {α : Type} (item : Decoder α) : Decoder (List α) := fun depth s =>
  match next? s with
  | none => .error (.atEnd .endInValue)
  | some a =>
    if a.value = '[' then
      match depth with
      | 0 => .error (.upon .tooDeep (a.value :: a.rest))
      | depth + 1 =>
        ((items (item depth) true a.rest).mapError Stop.inItems).map fun b =>
          b.within (Nat.le_of_lt a.shorter)
    else .error (wrongShape "a sequence" (a.value :: a.rest))

/-- Reads a whole text. -/
def readWhole {α : Type} (decoder : Decoder α) (s : List Char) : Except Stop α := do
  let a ← decoder maxDepth s
  match next? a.rest with
  | none => return a.value
  | some b => throw (.upon .trailingText (b.value :: b.rest))

/-- The value that a whole text stands for. -/
def decode {α : Type} (decoder : Decoder α) (text : String) : Except Fault α :=
  (readWhole decoder text.toList).mapError (·.fault text.toList)

end StationFinder.Json
