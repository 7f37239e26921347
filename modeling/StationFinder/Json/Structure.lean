import StationFinder.Json.Skip

/-!
# Json/Structure — values with named fields

A structure is read from an object, where the fields come in any order and other members are passed
over, or from an array of its fields in their order.
-/

namespace StationFinder.Json

/-- A field of a structure that is being read. -/
structure Field (σ : Type) where
  name : String
  /-- Whether what is known already has the field. -/
  known : σ → Bool
  /-- Reads the value of the field into what is known. -/
  read : σ → Decoder σ
  /-- Whether an array that ends before the field leaves it at its default. -/
  optional : Bool

/-- Reads the fields of a structure from the items of an array. -/
def fieldsInOrder {σ : Type} (wanted : String) (depth : Nat) :
    (fields : List (Field σ)) → (index : Nat) → (known : σ) → (s : List Char) →
      Except Stop (Scan σ s)
  | [], _, known, s => (endOfItems s).map (·.map fun _ => known)
  | f :: fields, index, known, s => do
    match ← itemTurn (index = 0) s with
    | .close rest _ =>
      if f.optional then fieldsInOrder wanted depth fields index known s
      else throw (.before (.tooShort index wanted) rest)
    | .more t h =>
      let a ← f.read known depth t
      let b ← fieldsInOrder wanted depth fields (index + 1) a.value a.rest
      return ⟨b.value, b.rest, by have := a.shorter; have := b.shorter; omega⟩

/-- How to read the value behind a key of a structure: of a field it has at most once, and of any
other key not at all. -/
def fieldNamed {σ : Type} (fields : List (Field σ)) (depth : Nat) (known : σ) (key : String) :
    Except Problem (Reader σ) :=
  match fields.find? (·.name = key) with
  | none => .ok fun s => (skip s).map (·.map fun _ => known)
  | some f => if f.known known then .error (.repeatedField key) else .ok (f.read known depth)

/-- A structure: its name, its fields in order, and what is made of them. -/
structure Shape (σ α : Type) where
  name : String
  fields : List (Field σ)
  /-- What is known before any field is read. -/
  blank : σ
  /-- The structure, or the first field that it lacks. -/
  finish : σ → Except Problem α

/-- Reads a structure, from an object or from an array of its fields. -/
def Shape.decoder {σ α : Type} (shape : Shape σ α) : Decoder α := fun depth s =>
  match next? s with
  | none => .error (.atEnd .endInValue)
  | some a =>
    let wanted := "struct " ++ shape.name
    let tooDeep := Stop.upon .tooDeep (a.value :: a.rest)
    let close (b : Scan σ a.rest) : Except Stop (Scan α s) := do
      let v ← (shape.finish b.value).mapError (.before · b.rest)
      return ⟨v, b.rest, Nat.lt_trans b.shorter a.shorter⟩
    if a.value = '[' then
      match depth with
      | 0 => .error tooDeep
      | depth + 1 =>
        let count := String.ofList (Text.Numeral.write shape.fields.length)
        let described := wanted ++ " with " ++ count ++ " elements"
        (fieldsInOrder described depth shape.fields 0 shape.blank a.rest).mapError Stop.inItems
          >>= close
    else if a.value = '\x7b' then
      match depth with
      | 0 => .error tooDeep
      | depth + 1 =>
        (members (fieldNamed shape.fields depth) true shape.blank a.rest).mapError Stop.inMembers
          >>= close
    else .error (wrongShape wanted (a.value :: a.rest))

/-- A field that is kept in one place of what is known. -/
def Field.place {σ α : Type} (name : String) (get : σ → Option α) (set : σ → α → σ)
    (value : Decoder α) (optional : Bool) : Field σ where
  name := name
  known known := (get known).isSome
  read known depth s := (value depth s).map (·.map (set known))
  optional := optional

/-- The value of a field that has to be there. -/
def required {α : Type} (name : String) : Option α → Except Problem α
  | some a => .ok a
  | none => .error (.missingField name)

/-- A structure of two fields that both have to be there. -/
def pairOf {α β γ : Type} (name first second : String) (readFirst : Decoder α)
    (readSecond : Decoder β) (make : α → β → γ) : Shape (Option α × Option β) γ where
  name := name
  fields :=
    [.place first (·.1) (fun known a => (some a, known.2)) readFirst false,
      .place second (·.2) (fun known b => (known.1, some b)) readSecond false]
  blank := (none, none)
  finish known := do return make (← required first known.1) (← required second known.2)

end StationFinder.Json
