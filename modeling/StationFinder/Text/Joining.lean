import StationFinder.Text.Compose
import StationFinder.Text.Fold

/-!
# Text/Joining — letters that join, and the characters that tell them to

Two invisible characters say whether their neighbours are joined.  They may stand in a name where
they make a difference: behind a mark that takes away the vowel of a letter, and, if they are to
keep letters apart, between two letters that would join.
-/

namespace StationFinder.Text

/-- The letters that a letter joins. -/
inductive Joining where
  | next
  | previous
  | both
  /-- None: the letters around it are joined across it. -/
  | across
deriving DecidableEq, Repr

namespace Joining

/-- The letters that join others, nonspacing marks apart. -/
def ranges : List (Nat × Nat × Joining) :=
  [(0x620, 0x620, .both), (0x622, 0x625, .previous), (0x626, 0x626, .both),
   (0x627, 0x627, .previous), (0x628, 0x628, .both), (0x629, 0x629, .previous),
   (0x62A, 0x62E, .both), (0x62F, 0x632, .previous), (0x633, 0x63F, .both), (0x641, 0x647, .both),
   (0x648, 0x648, .previous), (0x649, 0x64A, .both), (0x66E, 0x66F, .both),
   (0x671, 0x673, .previous), (0x679, 0x687, .both), (0x688, 0x699, .previous),
   (0x69A, 0x6BF, .both), (0x6C0, 0x6C0, .previous), (0x6C1, 0x6C2, .both),
   (0x6C3, 0x6CB, .previous), (0x6CC, 0x6CC, .both), (0x6CD, 0x6CD, .previous),
   (0x6CE, 0x6CE, .both), (0x6CF, 0x6CF, .previous), (0x6D0, 0x6D1, .both),
   (0x6D2, 0x6D3, .previous), (0x6D5, 0x6D5, .previous), (0x6EE, 0x6EF, .previous),
   (0x6FA, 0x6FC, .both), (0x6FF, 0x6FF, .both), (0x710, 0x710, .previous), (0x712, 0x714, .both),
   (0x715, 0x719, .previous), (0x71A, 0x71D, .both), (0x71E, 0x71E, .previous),
   (0x71F, 0x727, .both), (0x728, 0x728, .previous), (0x729, 0x729, .both),
   (0x72A, 0x72A, .previous), (0x72B, 0x72B, .both), (0x72C, 0x72C, .previous),
   (0x72D, 0x72E, .both), (0x72F, 0x74D, .previous), (0x74E, 0x758, .both),
   (0x759, 0x75B, .previous), (0x75C, 0x76A, .both), (0x76B, 0x76C, .previous),
   (0x76D, 0x770, .both), (0x771, 0x771, .previous), (0x772, 0x772, .both),
   (0x773, 0x774, .previous), (0x775, 0x777, .both), (0x778, 0x779, .previous),
   (0x77A, 0x77F, .both), (0x7CA, 0x7EA, .both), (0x840, 0x840, .previous), (0x841, 0x845, .both),
   (0x846, 0x847, .previous), (0x848, 0x848, .both), (0x849, 0x849, .previous),
   (0x84A, 0x853, .both), (0x854, 0x854, .previous), (0x855, 0x855, .both),
   (0x856, 0x858, .previous), (0x860, 0x860, .both), (0x862, 0x865, .both),
   (0x867, 0x867, .previous), (0x868, 0x868, .both), (0x869, 0x882, .previous),
   (0x886, 0x886, .both), (0x889, 0x88D, .both), (0x88E, 0x88E, .previous), (0x88F, 0x8A9, .both),
   (0x8AA, 0x8AC, .previous), (0x8AE, 0x8AE, .previous), (0x8AF, 0x8B0, .both),
   (0x8B1, 0x8B2, .previous), (0x8B3, 0x8B8, .both), (0x8B9, 0x8B9, .previous),
   (0x8BA, 0x8C8, .both), (0x1807, 0x1807, .both), (0x1820, 0x1878, .both),
   (0x1887, 0x18AA, .both), (0xA840, 0xA871, .both), (0xA872, 0xA872, .next),
   (0x10AC0, 0x10AC4, .both), (0x10AC5, 0x10AC5, .previous), (0x10AC7, 0x10AC7, .previous),
   (0x10AC9, 0x10ACA, .previous), (0x10ACD, 0x10ACD, .next), (0x10ACE, 0x10AD2, .previous),
   (0x10AD3, 0x10AD6, .both), (0x10AD7, 0x10AD7, .next), (0x10AD8, 0x10ADC, .both),
   (0x10ADD, 0x10ADD, .previous), (0x10ADE, 0x10AE0, .both), (0x10AE1, 0x10AE1, .previous),
   (0x10AE4, 0x10AE4, .previous), (0x10AEB, 0x10AEE, .both), (0x10AEF, 0x10AEF, .previous),
   (0x10B80, 0x10B80, .both), (0x10B81, 0x10B81, .previous), (0x10B82, 0x10B82, .both),
   (0x10B83, 0x10B85, .previous), (0x10B86, 0x10B88, .both), (0x10B89, 0x10B89, .previous),
   (0x10B8A, 0x10B8B, .both), (0x10B8C, 0x10B8C, .previous), (0x10B8D, 0x10B8D, .both),
   (0x10B8E, 0x10B8F, .previous), (0x10B90, 0x10B90, .both), (0x10B91, 0x10B91, .previous),
   (0x10BA9, 0x10BAC, .previous), (0x10BAD, 0x10BAE, .both), (0x10D00, 0x10D00, .next),
   (0x10D01, 0x10D21, .both), (0x10D22, 0x10D22, .previous), (0x10D23, 0x10D23, .both),
   (0x10EC2, 0x10EC2, .previous), (0x10EC3, 0x10EC4, .both), (0x10EC6, 0x10EC7, .both),
   (0x10ED9, 0x10EEE, .next), (0x10F30, 0x10F32, .both), (0x10F33, 0x10F33, .previous),
   (0x10F34, 0x10F44, .both), (0x10F51, 0x10F53, .both), (0x10F54, 0x10F54, .previous),
   (0x10F70, 0x10F73, .both), (0x10F74, 0x10F75, .previous), (0x10F76, 0x10F81, .both),
   (0x10FB0, 0x10FB0, .both), (0x10FB2, 0x10FB3, .both), (0x10FB4, 0x10FB6, .previous),
   (0x10FB8, 0x10FB8, .both), (0x10FB9, 0x10FBA, .previous), (0x10FBB, 0x10FBC, .both),
   (0x10FBD, 0x10FBD, .previous), (0x10FBE, 0x10FBF, .both), (0x10FC1, 0x10FC1, .both),
   (0x10FC2, 0x10FC3, .previous), (0x10FC4, 0x10FC4, .both), (0x10FC9, 0x10FC9, .previous),
   (0x10FCA, 0x10FCA, .both), (0x10FCB, 0x10FCB, .next), (0x1E922, 0x1E943, .both)]

/-- How a character joins others, if it does. -/
def of? (c : Char) : Option Joining :=
  if isNonspacing c || c.toNat = 0x1E94B then some across else rangeValue? ranges c.toNat

/-- The class of the marks that take away a vowel. -/
def vowelKiller : Nat := 9

/-- How the first character joins that others are not joined across. -/
def first? (s : List Char) : Option Joining :=
  ((s.dropWhile fun c => of? c = some across).head?).bind of?

/-- Whether the joiners in a text make a difference, where `before` stands in front of it, from the
last character to the first. -/
def isFit (before : List Char) : List Char → Bool
  | [] => true
  | c :: rest =>
    let follows := (before.head?).any fun b => Compose.markClass b.toNat = vowelKiller
    let parts := (first? before = some next || first? before = some both)
      && (first? rest = some previous || first? rest = some both)
    (if c = joiner then follows else if c = nonJoiner then follows || parts else true)
      && isFit (c :: before) rest

end Joining

end StationFinder.Text
