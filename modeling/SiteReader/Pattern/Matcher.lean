import SiteReader.Pattern.Basic

/-!
# Matching patterns

Matching tries alternatives in order and goes back when the rest of the pattern fails: each part of a pattern is matched
together with what has to follow it.  The first match found, from the leftmost place on, is the result.
-/

namespace SiteReader.Pattern

/-- A place in a text, with the characters before it, the nearest first, their number, the characters after it, and what
the groups have matched so far. -/
structure Cursor where
  before : List Char
  position : Nat
  after : List Char
  groups : List (Nat × List Char)

namespace Cursor

/-- The text that a group has matched. -/
def group? (cursor : Cursor) (index : Nat) : Option (List Char) :=
  cursor.groups.lookup index

/-- Sets what a group has matched. -/
def capture (cursor : Cursor) (index : Nat) (text : List Char) : Cursor :=
  { cursor with groups := (index, text) :: cursor.groups.filter (·.1 != index) }

/-- Moves over some characters. -/
def forward (cursor : Cursor) (count : Nat) : Cursor :=
  { cursor with
    before := (cursor.after.take count).reverse ++ cursor.before
    position := cursor.position + count
    after := cursor.after.drop count }

/-- Moves back over some characters. -/
def backward (cursor : Cursor) (count : Nat) : Cursor :=
  { cursor with
    before := cursor.before.drop count
    position := cursor.position - count
    after := (cursor.before.take count).reverse ++ cursor.after }

/-- The text from an earlier place up to this one. -/
def textSince (cursor start : Cursor) : List Char :=
  start.after.take (cursor.position - start.position)

end Cursor

/-- What has to follow a part of a pattern. -/
abbrev Follow := Cursor → Option Cursor

/-- A way to match a part of a pattern together with what follows it. -/
abbrev Step := Cursor → Follow → Option Cursor

/-- Whether as many characters as `text` has come next and are the same, letter case aside if asked for. -/
def sameText (anyCase : Bool) (text after : List Char) : Bool :=
  let next := after.take text.length
  if anyCase then next.map Text.lowerChar == text.map Text.lowerChar else next == text

/-- Whether one more repetition is allowed. -/
def isBelow (done : Nat) (most? : Option Nat) : Bool :=
  most?.all fun most => done < most

/-- Repeats a step, of which `done` repetitions have been made.  A repetition beyond the least number that begins where
the last one began is not tried.  The fuel bounds the repetitions that are still to come. -/
def repeatStep (step : Step) (least : Nat) (most? : Option Nat) (isLazy : Bool) :
    Nat → Nat → Option Nat → Cursor → Follow → Option Cursor
  | 0, _, _, cursor, follow => follow cursor
  | fuel + 1, done, last?, cursor, follow =>
    if done < least then
      step cursor fun next => repeatStep step least most? isLazy fuel (done + 1) last? next follow
    else
      let here := cursor.position
      let mayGoOn := isBelow done most? && last? != some here
      let again (_ : Unit) : Option Cursor :=
        if mayGoOn then
          step cursor fun next => repeatStep step least most? isLazy fuel (done + 1) (some here) next follow
        else none
      if isLazy then
        match follow cursor with
        | some result => some result
        | none => again ()
      else
        match again () with
        | some result => some result
        | none => follow cursor

/-- Repeats a step as often as possible, each time for good. -/
def repeatForGood (step : Step) (least : Nat) (most? : Option Nat) : Nat → Nat → Cursor → Option Cursor
  | 0, _, cursor => some cursor
  | fuel + 1, done, cursor =>
    if isBelow done most? then
      match step cursor some with
      | some next =>
        if least ≤ done && next.position = cursor.position then some next
        else repeatForGood step least most? fuel (done + 1) next
      | none => if done < least then none else some cursor
    else some cursor

/-- Matches a pattern together with what follows it. -/
def step : Pattern → Step
  | .empty, cursor, follow => follow cursor
  | .one test, cursor, follow =>
    match cursor.after with
    | c :: _ => if test.passes c then follow (cursor.forward 1) else none
    | [] => none
  | .place here, cursor, follow => if here.holds cursor.before cursor.after then follow cursor else none
  | .seq p q, cursor, follow => step p cursor fun next => step q next follow
  | .alt p q, cursor, follow =>
    match step p cursor follow with
    | some result => some result
    | none => step q cursor follow
  | .group index p, cursor, follow =>
    step p cursor fun next => follow (next.capture index (next.textSince cursor))
  | .back index anyCase, cursor, follow =>
    match cursor.group? index with
    | some text => if sameText anyCase text cursor.after then follow (cursor.forward text.length) else none
    | none => none
  | .many least most? greed p, cursor, follow =>
    let fuel := least + cursor.after.length + 2
    match greed with
    | .greedy => repeatStep (step p) least most? false fuel 0 none cursor follow
    | .lazy => repeatStep (step p) least most? true fuel 0 none cursor follow
    | .possessive =>
      match repeatForGood (step p) least most? fuel 0 cursor with
      | some next => follow next
      | none => none
  | .ahead wanted p, cursor, follow =>
    match step p cursor some, wanted with
    | some next, true => follow { cursor with groups := next.groups }
    | none, false => follow cursor
    | _, _ => none
  | .behind wanted width p, cursor, follow =>
    let found? := if cursor.position < width then none else step p (cursor.backward width) some
    match found?, wanted with
    | some next, true => follow { cursor with groups := next.groups }
    | none, false => follow cursor
    | _, _ => none
  | .atomic p, cursor, follow =>
    match step p cursor some with
    | some next => follow next
    | none => none
  | .given index yes no, cursor, follow =>
    match cursor.group? index with
    | some _ => step yes cursor follow
    | none => step no cursor follow

/-- A match: the text of the whole pattern and of its groups. -/
structure Found where
  text : List Char
  groups : List (Nat × List Char)

/-- The first match at the given place or after it. -/
def searchFrom (pattern : Pattern) (before : List Char) (position : Nat) : List Char → Option Found
  | [] => attempt []
  | c :: r =>
    match attempt (c :: r) with
    | some found => some found
    | none => searchFrom pattern (c :: before) (position + 1) r
where
  /-- A match at this place. -/
  attempt (after : List Char) : Option Found :=
    let start : Cursor := ⟨before, position, after, []⟩
    (pattern.step start some).map fun stop => ⟨stop.textSince start, stop.groups⟩

/-- The first match in a text. -/
def search (pattern : Pattern) (cs : List Char) : Option Found :=
  searchFrom pattern [] 0 cs

/-- Whether a pattern occurs in a string. -/
def occursIn (pattern : Pattern) (s : String) : Bool :=
  (pattern.search s.toList).isSome

end SiteReader.Pattern
