/-
Names of domains beyond ASCII. A name is brought into one form: characters stand for others, letters
and marks are composed, and labels in Punycode are decoded. Then each label is looked at: what it may
hold, where marks and joiners stand, and in which direction it runs.
-/
import Taskboard.Http.Domain.Mapping
import Taskboard.Text.Bidi
import Taskboard.Text.Composition
import Taskboard.Text.Joining
import Taskboard.Text.Mark
import Taskboard.Text.Punycode

namespace Taskboard.Http.Domain

open Text (isMark combiningClass Joining joining BidiClass bidiClass)

/-! ## Labels -/

/-- The characters that no domain may hold. -/
def isForbidden (c : Char) : Bool :=
  c.toNat ≤ 0x20 || c.toNat = 0x7f || "%#/:<>?@[\\]^|".toList.contains c

/-- Whether a character is one of ASCII. -/
def isAscii (c : Char) : Bool :=
  c.toNat < 0x80

/-- The longest Punycode that is read. -/
def longestCode : Nat := 2000

/-- The longest label beyond ASCII. -/
def longestLabel : Nat := 1000

/-- The text that a label in Punycode stands for, which must be in its final form already; any other
label stands for itself. -/
def decode? (label : List Char) : Option (List Char) :=
  match label with
  | 'x' :: 'n' :: '-' :: '-' :: code =>
    if code.all isAscii && code.getLast?.any (· ≠ '-') && code.length ≤ longestCode then do
      let text ← Text.Punycode.decode? code
      if text.all (fun c => meaning? c == some [c]) && Text.compose text == text then some text
      else none
    else none
  | label => some label

/-! ## Joiners -/

/-- The joiner that asks two letters not to join. -/
def nonJoiner : Char := Char.ofNat 0x200c

/-- The joiner that asks two letters to join. -/
def joiner : Char := Char.ofNat 0x200d

/-- Whether the first character of a text that does not let others join across it joins on a side. -/
def joins (side : Joining) (cs : List Char) : Bool :=
  match cs.dropWhile fun c => joining c = .transparent with
  | c :: _ => joining c = side || joining c = .dual
  | [] => false

/-- Whether the joiners of a text are where they can be seen: behind a sign that takes away a vowel, and
one that keeps letters from joining also between letters that would. The text in front is given from
its end. -/
def hasFitJoiners (front : List Char) : List Char → Bool
  | [] => true
  | c :: rest =>
    let isFit := !(c = nonJoiner || c = joiner) || front.head?.any (combiningClass · = 9) ||
      (c = nonJoiner && joins .left front && joins .right rest)
    isFit && hasFitJoiners (c :: front) rest

/-- Whether a label can stand in a name: it begins with no mark, holds no forbidden character and no
joiner that does not fit, and is not too long. -/
def isLabel (label : List Char) : Bool :=
  !label.any isForbidden && !label.head?.any isMark && hasFitJoiners [] label &&
    (label.all isAscii || label.length ≤ longestLabel)

/-! ## Direction -/

/-- Whether a class is of those that run from right to left. -/
def isBackward (c : BidiClass) : Bool :=
  c = .rightToLeft || c = .arabicLetter

/-- The classes that may stand in labels of either direction. -/
def isCommon (c : BidiClass) : Bool :=
  [.europeanNumber, .numberSign, .numberSeparator, .numberTerminator, .neutral, .boundary,
    .nonspacing].contains c

/-- Whether a label runs in one direction, that of its first character: no letter of it runs the other
way, it ends in a letter or digit, marks behind it apart, and one that runs from right to left has no
digits of two kinds. -/
def isOneWay (label : List Char) : Bool :=
  match label.map bidiClass with
  | [] => true
  | first :: rest =>
    let rest := (rest.reverse.dropWhile (· = .nonspacing)).reverse
    if first = .leftToRight then
      rest.all (fun c => c = .leftToRight || isCommon c) &&
        rest.getLast?.all fun c => c = .leftToRight || c = .europeanNumber
    else
      isBackward first &&
        rest.all (fun c => isBackward c || c = .arabicNumber || isCommon c) &&
        rest.getLast?.all (fun c => isBackward c || c = .arabicNumber || c = .europeanNumber) &&
        !(rest.contains .arabicNumber && rest.contains .europeanNumber)

/-- Whether a text holds a character that runs from right to left. -/
def hasBackward (cs : List Char) : Bool :=
  cs.any fun c => isBackward (bidiClass c) || bidiClass c = .arabicNumber

/-! ## Names -/

/-- The labels of a name in its final form; none if the text is no name. As soon as one label has a
character that runs from right to left, all run in one direction each. -/
def labels? (cs : List Char) : Option (List (List Char)) := do
  let text := Text.compose (← cs.mapM meaning?).flatten
  let labels ← (text.splitOn '.').mapM decode?
  if labels.all isLabel && (!labels.any hasBackward || labels.all isOneWay) then some labels else none

/-- A name in its final form, with dots between its labels. -/
def ofText? (cs : List Char) : Option (List Char) :=
  (labels? cs).map fun labels => ['.'].intercalate labels

end Taskboard.Http.Domain
