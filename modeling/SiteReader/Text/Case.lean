import SiteReader.Text.Class
import SiteReader.Text.Table.CaseShift

/-!
# Letter case

Lower and upper case of texts in every script, and the relation "the same letter but for its case" that marks
such as `@js:` are read with.
-/

namespace SiteReader.Text

/-! ### Single letters -/

/-- The lower-case counterpart of a letter. -/
def lowerChar (c : Char) : Char :=
  let n := c.toNat
  if n < 128 then if 65 ≤ n && n ≤ 90 then Char.ofNat (n + 32) else c
  else if n == 0x130 then 'i'
  else Char.ofNat (shiftCase lowerShifts n)

/-- The upper-case form of a letter, which may take several letters. -/
def upperChar (c : Char) : List Char :=
  let n := c.toNat
  if n < 128 then if 97 ≤ n && n ≤ 122 then [Char.ofNat (n - 32)] else [c]
  else match upperExpansions.lookup n with
    | some form => form.map Char.ofNat
    | none => [Char.ofNat (shiftCase upperShifts n)]

/-- Groups of lower-case letters that share an upper-case form. -/
def caseClasses : List (List Nat) := [
  [0x69, 0x131], [0x73, 0x17F], [0xB5, 0x3BC], [0x345, 0x3B9, 0x1FBE], [0x390, 0x1FD3], [0x3B0, 0x1FE3],
  [0x3B2, 0x3D0], [0x3B5, 0x3F5], [0x3B8, 0x3D1], [0x3BA, 0x3F0], [0x3C0, 0x3D6], [0x3C1, 0x3F1],
  [0x3C2, 0x3C3], [0x3C6, 0x3D5], [0x432, 0x1C80], [0x434, 0x1C81], [0x43E, 0x1C82], [0x441, 0x1C83],
  [0x442, 0x1C84, 0x1C85], [0x44A, 0x1C86], [0x463, 0x1C87], [0x1C88, 0xA64B], [0x1E61, 0x1E9B],
  [0xFB05, 0xFB06]]

/-- The lower-case letters that share an upper-case form with the given one, itself first. -/
def lowerClass (n : Nat) : List Nat :=
  match caseClasses.find? (·.contains n) with
  | some group => n :: group.filter (· != n)
  | none => [n]

/-- Whether two letters are the same but for their case. -/
def sameLetter (c d : Char) : Bool :=
  (lowerClass (lowerChar c).toNat).contains (lowerChar d).toNat

/-- One and the same letter for all that are the same but for their case. -/
def foldChar (c : Char) : Char :=
  let n := (lowerChar c).toNat
  Char.ofNat ((lowerClass n).foldl min n)

/-- All letters that are the same as `c` but for their case. -/
def caseVariants (c : Char) : List Char :=
  (lowerClass (lowerChar c).toNat).flatMap fun n =>
    (n :: ((if n == 0x69 then [0x130] else []) ++
      (if n < 128 && 97 ≤ n && n ≤ 122 then [n - 32] else []) ++ shiftSources lowerShifts n)).map Char.ofNat

/-! ### Texts -/

/-- Skips the marks that do not affect whether a word goes on, and tells whether a letter with case follows. -/
def letterFollows : List Char → Bool
  | [] => false
  | c :: r => if caseIgnorableRanges.has c.toNat then letterFollows r else casedRanges.has c.toNat

/-- Lower case of a text of which `before` precedes, nearest character first.  A capital sigma at the end of a word
becomes a final sigma, and a dotted capital i keeps its dot as a mark. -/
def lowerAfter : List Char → List Char → List Char
  | _, [] => []
  | before, c :: r =>
    let here :=
      if c.toNat == 0x3A3 then
        if letterFollows before && !letterFollows r then [Char.ofNat 0x3C2] else [Char.ofNat 0x3C3]
      else if c.toNat == 0x130 then ['i', Char.ofNat 0x307]
      else [lowerChar c]
    here ++ lowerAfter (c :: before) r

/-- Lower case of a text. -/
def lower (cs : List Char) : List Char :=
  lowerAfter [] cs

/-- Upper case of a text. -/
def upper (cs : List Char) : List Char :=
  cs.flatMap upperChar

/-- The text without `head` at its start, letter case aside, if it starts so. -/
def dropHeadAnyCase? : List Char → List Char → Option (List Char)
  | [], cs => some cs
  | _ :: _, [] => none
  | h :: hs, c :: cs => if sameLetter h c then dropHeadAnyCase? hs cs else none

/-- The text before and after the first occurrence of `mark`, letter case aside. -/
def cutAnyCase? (mark : List Char) : List Char → Option (List Char × List Char)
  | [] => none
  | c :: r =>
    match dropHeadAnyCase? mark (c :: r) with
    | some after => some ([], after)
    | none => (cutAnyCase? mark r).map fun (before, after) => (c :: before, after)

end SiteReader.Text

namespace SiteReader

/-- The string in lower case. -/
def lowered (s : String) : String :=
  String.ofList (Text.lower s.toList)

/-- The string in upper case. -/
def uppered (s : String) : String :=
  String.ofList (Text.upper s.toList)

end SiteReader
