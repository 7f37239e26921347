import StationFinder.Page.Index
import StationFinder.Proofs.Page.Reading

/-!
# Proofs/Page/Controls — the forms of a page

A browser finds the forms of a page by their tags: a form has an action and a method, and among its
controls are lists to choose from and boxes to tick.  An `Html.Outline` holds what has been found up
to some place, and every part of a page leads from one outline to another (`Html.Reads`).  Most
parts are *quiet* and leave it as it is (`Html.Quiet.reads`).  A thing that a list offers becomes
one more of the list's choices, whatever its texts are (`Html.reads_choice`).
-/

namespace StationFinder

namespace Html

/-- A control of a form. -/
inductive Control where
  /-- A list to choose one thing from. -/
  | select (name : String) (choices : List Choice)
  /-- A box to tick. -/
  | checkbox (name : String) (ticked : Bool)
deriving DecidableEq, Repr

/-- A form of a page. -/
structure Form where
  action : String
  method : String
  controls : List Control
deriving DecidableEq, Repr

/-- The value of an attribute, and no text without one. -/
def valueOf (words : List Word) (name : String) : String :=
  String.ofList (((words.find? (·.name = name.toList)).bind Word.value).getD [])

/-- Whether a tag has an attribute. -/
def hasWord (words : List Word) (name : String) : Bool := words.any (·.name = name.toList)

/-- What has been found on a page: the forms that have ended, and what has begun. -/
structure Outline where
  forms : List Form
  form : Option Form
  select : Option (String × List Choice)
  choice : Option Choice
deriving DecidableEq, Repr

namespace Outline

/-- A page before it is read. -/
def blank : Outline := ⟨[], none, none, none⟩

/-- A form has one control more. -/
def add (outline : Outline) (control : Control) : Outline :=
  let more (form : Form) : Form := { form with controls := form.controls ++ [control] }
  { outline with form := outline.form.map more }

/-- A character, which belongs to what is offered if it stands there. -/
def takeChar (outline : Outline) (c : Char) : Outline :=
  let longer (choice : Choice) : Choice :=
    { choice with label := String.ofList (choice.label.toList ++ [c]) }
  { outline with choice := outline.choice.map longer }

/-- The tags that count, and what becomes of each. -/
def takers : List (String × (Outline → List Word → Outline)) :=
  [("form", fun outline words =>
      { outline with form := some ⟨valueOf words "action", valueOf words "method", []⟩ }),
    ("/form", fun outline _ =>
      { outline with forms := outline.forms ++ outline.form.toList, form := none }),
    ("select", fun outline words =>
      { outline with select := some (valueOf words "name", []) }),
    ("/select", fun outline _ =>
      let control := outline.select.map fun select => Control.select select.1 select.2
      { control.elim outline outline.add with select := none }),
    ("option", fun outline words =>
      { outline with
        choice := some ⟨valueOf words "value", "", hasWord words "selected"⟩ }),
    ("/option", fun outline _ =>
      let longer (select : String × List Choice) := (select.1, select.2 ++ outline.choice.toList)
      { outline with select := outline.select.map longer, choice := none }),
    ("input", fun outline words =>
      if valueOf words "type" = "checkbox" then
        outline.add (.checkbox (valueOf words "name") (hasWord words "checked"))
      else outline)]

/-- What becomes of a tag that counts. -/
def taker? (word : Word) : Option (Outline → List Word → Outline) :=
  (takers.find? (·.1.toList = word.name)).map (·.2)

/-- Takes what comes next on a page. -/
def take (outline : Outline) : Token → Outline
  | .char c => outline.takeChar c
  | .tag [] => outline
  | .tag (word :: words) =>
    match taker? word with
    | some taker => taker outline words
    | none => outline

end Outline

/-- The forms of a page. -/
def forms (html : String) : List Form := ((tokens html).foldl Outline.take .blank).forms

/-! ## Reading a page part by part -/

theorem toList_eq {s : String} {cs : List Char} (h : s = String.ofList cs) : s.toList = cs := by
  rw [h, String.toList_ofList]

theorem toList_append_eq {a b : String} {s t : List Char} (ha : a.toList = s) (hb : b.toList = t) :
    (a ++ b).toList = s ++ t := by
  rw [String.toList_append, ha, hb]

theorem write_markup_eq {s : String} {cs ds : List Char} {p : Markup} (hs : s.toList = cs)
    (hp : Markup.write p = ds) : Markup.write (.markup s :: p) = cs ++ ds := by
  rw [Markup.write_cons, Piece.write, hs, hp]

/-- A part of a page leads from one outline to another. -/
def Reads (part : Markup) (before after : Outline) : Prop :=
  ∃ ts, scan .text part.write = (ts, .text) ∧ ts.foldl Outline.take before = after

namespace Reads

variable {p q : Markup} {before mid after : Outline}

theorem append (hp : Reads p before mid) (hq : Reads q mid after) :
    Reads (p ++ q) before after := by
  obtain ⟨ts, hscan, rfl⟩ := hp
  obtain ⟨us, hscan', rfl⟩ := hq
  exact ⟨ts ++ us, Markup.write_append p q ▸ scan_append hscan hscan', List.foldl_append⟩

/-- How a part of a page is read can be told from its characters. -/
theorem of_write {cs : List Char} (hwrite : p.write = cs) (hplace : (scan .text cs).2 = .text)
    (hfold : (scan .text cs).1.foldl Outline.take before = after) : Reads p before after :=
  ⟨_, Prod.ext rfl (hwrite ▸ hplace), hwrite ▸ hfold⟩

theorem literal {cs : List Char} {s : String} (hs : s = String.ofList cs)
    (hplace : (scan .text (cs ++ [])).2 = .text)
    (hfold : (scan .text (cs ++ [])).1.foldl Outline.take before = after) :
    Reads [.markup s] before after :=
  of_write (write_markup_eq (toList_eq hs) Markup.write_nil) hplace hfold

end Reads

/-- What tells nothing of forms: all characters, and all tags but those that count. -/
def Token.isQuiet : Token → Bool
  | .char _ => true
  | .tag [] => true
  | .tag (word :: _) => (Outline.takers.find? (·.1.toList = word.name)).isNone

/-- A part of a page tells nothing of forms. -/
def Quiet (part : Markup) : Prop :=
  (scan .text part.write).2 = .text ∧ ∀ token ∈ (scan .text part.write).1, token.isQuiet = true

namespace Quiet

variable {p q : Markup} {outline : Outline}

theorem append (hp : Quiet p) (hq : Quiet q) : Quiet (p ++ q) := by
  have hscan : scan .text p.write = ((scan .text p.write).1, .text) := Prod.ext rfl hp.1
  have hscan' : scan .text q.write = ((scan .text q.write).1, .text) := Prod.ext rfl hq.1
  rw [Quiet, Markup.write_append, scan_append hscan hscan']
  exact ⟨rfl, fun token hmem => (List.mem_append.mp hmem).elim (hp.2 token) (hq.2 token)⟩

theorem cons {piece : Piece} (hpiece : Quiet [piece]) (hp : Quiet p) : Quiet (piece :: p) :=
  hpiece.append hp

/-- Whether a part of a page is quiet can be told from its characters. -/
theorem of_write {cs : List Char} (hwrite : p.write = cs) (hplace : (scan .text cs).2 = .text)
    (hquiet : (scan .text cs).1.all Token.isQuiet = true) : Quiet p := by
  rw [Quiet, hwrite]
  exact ⟨hplace, List.all_eq_true.mp hquiet⟩

theorem literal {cs : List Char} {s : String} (hs : s = String.ofList cs)
    (hplace : (scan .text (cs ++ [])).2 = .text)
    (hquiet : (scan .text (cs ++ [])).1.all Token.isQuiet = true) : Quiet [.markup s] :=
  of_write (write_markup_eq (toList_eq hs) Markup.write_nil) hplace hquiet

theorem markup_append {a b : String} (ha : Quiet [.markup a]) (hb : Quiet [.markup b]) :
    Quiet [.markup (a ++ b)] := by
  have hwrite : Markup.write [.markup (a ++ b)] = Markup.write ([.markup a] ++ [.markup b]) := by
    simp only [Markup.write_append, Markup.write_cons, Markup.write_nil, Piece.write,
      String.toList_append, List.append_nil]
  rw [Quiet, hwrite]
  exact ha.append hb

theorem text (s : String) : Quiet [.text s] := by
  have hwrite : Markup.write [.text s] = s.toList.flatMap escapeMarkup := List.append_nil _
  rw [Quiet, hwrite, scan_text]
  exact ⟨rfl, List.forall_mem_map.mpr fun _ _ => rfl⟩

theorem flatMap {α : Type} {part : α → Markup} (hpart : ∀ a, Quiet (part a)) (as : List α) :
    Quiet (as.flatMap part) := by
  induction as with
  | nil => exact ⟨rfl, by simp [Markup.write, scan]⟩
  | cons a as ih => exact (hpart a).append ih

theorem take_eq {token : Token} (hquiet : token.isQuiet = true) (hchoice : outline.choice = none) :
    outline.take token = outline := by
  obtain ⟨forms, form, select, choice⟩ := outline
  obtain rfl := hchoice
  match token with
  | .char c => rfl
  | .tag [] => rfl
  | .tag (word :: words) =>
    have hnone : Outline.taker? word = none := by
      rw [Outline.taker?, Option.isNone_iff_eq_none.mp hquiet]
      rfl
    rw [Outline.take, hnone]

/-- **A quiet part of a page leaves the outline as it is**, unless it is what a list offers. -/
theorem reads (h : Quiet p) (hchoice : outline.choice = none) : Reads p outline outline := by
  obtain ⟨hplace, hquiet⟩ := h
  refine .of_write rfl hplace ?_
  generalize (scan .text p.write).1 = ts at hquiet
  induction ts with
  | nil => rfl
  | cons token ts ih =>
    obtain ⟨htoken, hts⟩ := List.forall_mem_cons.mp hquiet
    rw [List.foldl_cons, take_eq htoken hchoice, ih hts]

end Quiet

/-! ## What a list offers -/

section Choices

variable {forms : List Form} {form : Option Form} {select : Option (String × List Choice)}

/-- The characters of what is offered are taken one after the other. -/
theorem foldl_char (value label : String) (selected : Bool) (s : List Char) :
    (s.map Token.char).foldl Outline.take ⟨forms, form, select, some ⟨value, label, selected⟩⟩
      = ⟨forms, form, select, some ⟨value, String.ofList (label.toList ++ s), selected⟩⟩ := by
  induction s generalizing label with
  | nil => rw [List.append_nil, String.ofList_toList]; rfl
  | cons c s ih =>
    have hrest := ih (String.ofList (label.toList ++ [c]))
    rw [String.toList_ofList, List.append_assoc, List.singleton_append] at hrest
    exact hrest

/-- The word that marks what is selected. -/
def selectedWord (selected : Bool) : List Word := ended (if selected then "selected".toList else [])

/-- What a browser reads where something is offered. -/
theorem scan_choice (choice : Choice) : scan .text choice.markup.write
    = ("\n        ".toList.map .char
        ++ (.tag (⟨"option".toList, none⟩ :: ⟨"value".toList, some choice.value.toList⟩
            :: selectedWord choice.selected)
          :: (choice.label.toList.map .char
            ++ (.tag [⟨"/option".toList, none⟩] :: "\n        ".toList.map .char))), .text) := by
  obtain ⟨value, label, selected⟩ := choice
  have hopen : scan .text "\n        <option value=\"".toList = ("\n        ".toList.map .char,
      .value [⟨"option".toList, none⟩] "value".toList []) := rfl
  have hclose : scan .text "</option>\n        ".toList
      = (.tag [⟨"/option".toList, none⟩] :: "\n        ".toList.map .char, .text) := rfl
  have hend : scan (.value [⟨"option".toList, none⟩] "value".toList value.toList)
      ("\"".toList ++ ((if selected then " selected" else "").toList ++ ">".toList))
        = ([.tag (⟨"option".toList, none⟩ :: ⟨"value".toList, some value.toList⟩
          :: selectedWord selected)], .text) := by
    cases selected <;> rfl
  have hwrite : Markup.write (Choice.mk value label selected).markup
      = "\n        <option value=\"".toList ++ (value.toList.flatMap escapeMarkup
        ++ (("\"".toList ++ ((if selected then " selected" else "").toList ++ ">".toList))
          ++ (label.toList.flatMap escapeMarkup ++ "</option>\n        ".toList))) := by
    simp only [Choice.markup, Markup.write, List.flatMap_cons, List.flatMap_nil, Piece.write,
      List.append_nil, List.append_assoc]
  rw [hwrite, scan_append hopen (scan_append (scan_value _ _ [] value.toList)
    (scan_append hend (scan_append (scan_text label.toList) hclose)))]
  rfl

/-- **What is offered is read as it was meant.** -/
theorem reads_choice (choice : Choice) (name : String) (choices : List Choice) :
    Reads choice.markup ⟨forms, form, some (name, choices), none⟩
      ⟨forms, form, some (name, choices ++ [choice]), none⟩ := by
  refine ⟨_, scan_choice choice, ?_⟩
  obtain ⟨value, label, selected⟩ := choice
  have htag : Outline.take ⟨forms, form, some (name, choices), none⟩
      (.tag (⟨"option".toList, none⟩ :: ⟨"value".toList, some value.toList⟩
        :: selectedWord selected))
      = ⟨forms, form, some (name, choices), some ⟨String.ofList value.toList, "", selected⟩⟩ := by
    cases selected <;> rfl
  have hspaces (outline : Outline) (houtline : outline.choice = none) :
      ("\n        ".toList.map Token.char).foldl Outline.take outline = outline := by
    obtain ⟨forms, form, select, choice⟩ := outline
    obtain rfl := houtline
    rfl
  have hlabel : String.ofList ("".toList ++ label.toList) = label := String.ofList_toList
  have hclose : Outline.take
      ⟨forms, form, some (name, choices), some ⟨value, label, selected⟩⟩
      (.tag [⟨"/option".toList, none⟩])
      = ⟨forms, form, some (name, choices ++ [⟨value, label, selected⟩]), none⟩ := rfl
  rw [List.foldl_append, hspaces _ rfl, List.foldl_cons, htag, String.ofList_toList,
    List.foldl_append, foldl_char, hlabel, List.foldl_cons, hclose, hspaces _ rfl]

theorem reads_choices (offered : List Choice) (name : String) (choices : List Choice) :
    Reads (offered.flatMap Choice.markup) ⟨forms, form, some (name, choices), none⟩
      ⟨forms, form, some (name, choices ++ offered), none⟩ := by
  induction offered generalizing choices with
  | nil =>
    rw [List.append_nil]
    exact ⟨[], rfl, rfl⟩
  | cons choice offered ih =>
    rw [List.append_cons]
    exact (reads_choice choice name choices).append (ih _)

end Choices

end Html

end StationFinder
