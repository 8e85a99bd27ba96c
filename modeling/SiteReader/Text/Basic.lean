/-!
# Cutting and joining texts

Functions on lists of characters that the readers of this library share: cutting at a mark, splitting at every
occurrence of a mark, trimming.  The laws say that cutting and splitting lose nothing: the pieces joined with the
mark are the text.
-/

namespace SiteReader.Text

/-! ### Cutting at a mark -/

/-- The text before and after the first occurrence of `mark`. -/
def cut? (mark : List Char) : List Char → Option (List Char × List Char)
  | [] => if mark.isEmpty then some ([], []) else none
  | c :: r =>
    if mark.isPrefixOf (c :: r) then some ([], (c :: r).drop mark.length)
    else (cut? mark r).map fun (before, after) => (c :: before, after)

/-- The text before the first `mark` and the text after it, which is empty when there is none. -/
def cutAtFirst (mark : Char) (cs : List Char) : List Char × List Char :=
  (cs.takeWhile (· != mark), (cs.dropWhile (· != mark)).drop 1)

/-- The text before and after the last occurrence of a character. -/
def cutAtLast? (mark : Char) : List Char → Option (List Char × List Char)
  | [] => none
  | c :: r =>
    match cutAtLast? mark r with
    | some (before, after) => some (c :: before, after)
    | none => if c = mark then some ([], r) else none

/-- The text after the last `mark`; all of it when there is none. -/
def afterLast (mark : Char) (cs : List Char) : List Char :=
  match cutAtLast? mark cs with
  | some (_, after) => after
  | none => cs

/-- Whether `mark` occurs in the text. -/
def hasMark (mark : List Char) (cs : List Char) : Bool :=
  (cut? mark cs).isSome

/-! ### Splitting and replacing -/

/-- Puts a character in front of the first piece. -/
def pushFirst (c : Char) : List (List Char) → List (List Char)
  | [] => [[c]]
  | piece :: rest => (c :: piece) :: rest

/-- Splitting at a mark, of which `skip` characters are still to be passed over. -/
def splitFrom (mark : List Char) : Nat → List Char → List (List Char)
  | _, [] => [[]]
  | skip + 1, _ :: r => splitFrom mark skip r
  | 0, c :: r =>
    if mark.isPrefixOf (c :: r) then [] :: splitFrom mark (mark.length - 1) r
    else pushFirst c (splitFrom mark 0 r)

/-- The pieces between the occurrences of a non-empty `mark`, taken from the left without overlap. -/
def splitOn (mark cs : List Char) : List (List Char) :=
  splitFrom mark 0 cs

/-- The pieces joined, with `mark` between them. -/
def join (mark : List Char) : List (List Char) → List Char
  | [] => []
  | [piece] => piece
  | piece :: rest => piece ++ mark ++ join mark rest

/-- Each occurrence of `mark` replaced. -/
def replaceAll (mark replacement cs : List Char) : List Char :=
  join replacement (splitOn mark cs)

/-- The pieces between characters that satisfy `p`, without the empty ones. -/
def fields (p : Char → Bool) : List Char → List (List Char)
  | [] => []
  | c :: r =>
    if p c then fields p r
    else match r with
      | [] => [[c]]
      | d :: _ => if p d then [c] :: fields p r else pushFirst c (fields p r)

/-! ### Trimming -/

/-- The text without the characters at its end that satisfy `p`. -/
def trimRight (p : Char → Bool) : List Char → List Char
  | [] => []
  | c :: r =>
    match trimRight p r with
    | [] => if p c then [] else [c]
    | kept => c :: kept

/-- The text without the characters at either end that satisfy `p`. -/
def trimBoth (p : Char → Bool) (cs : List Char) : List Char :=
  trimRight p (cs.dropWhile p)

/-- Whether the text ends with `tail`. -/
def endsWith (tail cs : List Char) : Bool :=
  tail.isSuffixOf cs

/-- The text without `tail` at its end, if it ends so. -/
def dropTail? (tail cs : List Char) : Option (List Char) :=
  if tail.isSuffixOf cs then some (cs.take (cs.length - tail.length)) else none

/-- The text without `head` at its start, if it starts so. -/
def dropHead? : List Char → List Char → Option (List Char)
  | [], cs => some cs
  | _ :: _, [] => none
  | h :: hs, c :: cs => if h = c then dropHead? hs cs else none

/-! ### Laws -/

theorem append_of_cut? {mark cs before after : List Char} (h : cut? mark cs = some (before, after)) :
    cs = before ++ mark ++ after := by
  induction cs generalizing before with
  | nil =>
    cases mark <;> simp [cut?] at h
    obtain ⟨rfl, rfl⟩ := h
    rfl
  | cons c r ih =>
    unfold cut? at h
    split at h
    next hp =>
      simp only [Option.some.injEq, Prod.mk.injEq] at h
      obtain ⟨rfl, rfl⟩ := h
      obtain ⟨t, ht⟩ := List.isPrefixOf_iff_prefix.mp hp
      simp [← ht]
    next =>
      rw [Option.map_eq_some_iff] at h
      obtain ⟨⟨b, a⟩, hb, heq⟩ := h
      simp only [Prod.mk.injEq] at heq
      obtain ⟨rfl, rfl⟩ := heq
      simp [ih hb]

theorem append_of_dropHead? {head cs rest : List Char} (h : dropHead? head cs = some rest) : cs = head ++ rest := by
  induction head generalizing cs with
  | nil => simp [dropHead?] at h; simp [h]
  | cons a as ih =>
    cases cs with
    | nil => simp [dropHead?] at h
    | cons c r =>
      simp only [dropHead?] at h
      split at h
      next hc => simp [hc, ih h]
      next => simp at h

@[simp] theorem dropHead?_append (head rest : List Char) : dropHead? head (head ++ rest) = some rest := by
  induction head with
  | nil => rfl
  | cons a as ih => simp [dropHead?, ih]

theorem pushFirst_ne_nil (c : Char) (ps : List (List Char)) : pushFirst c ps ≠ [] := by
  cases ps <;> simp [pushFirst]

theorem splitFrom_ne_nil (mark : List Char) (skip : Nat) (cs : List Char) : splitFrom mark skip cs ≠ [] := by
  induction cs generalizing skip with
  | nil => simp [splitFrom]
  | cons c r ih =>
    cases skip with
    | zero => unfold splitFrom; split <;> simp [pushFirst_ne_nil]
    | succ n => unfold splitFrom; exact ih n

end SiteReader.Text
