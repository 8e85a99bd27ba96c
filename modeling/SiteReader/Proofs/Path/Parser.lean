import Mathlib.Data.List.Basic
import SiteReader.Failure
import SiteReader.Proofs.Path.Grammar

/-!
# The reader of paths accepts exactly the grammar

A segment of the grammar is read back if a segment or the end of the path follows it (`readSegment_append`), and what is read
as a segment is one (`SegmentText.of_readSegment`).  Hence a text is read as a path if and only if it is one; an endless index
after segments is an error of its own, and every other text is malformed (`parse_exact`).  A path has one reading only
(`PathText.unique`).
-/

namespace SiteReader.Path

open Text (Blanks)

/-! ### Segments -/

/-- What may follow a segment: nothing, or the start of another one. -/
def Follows (rest : List Char) : Prop :=
  ∀ c, rest.head? = some c → c = '.' ∨ c = '['

theorem Follows.not_nameChar {rest : List Char} (h : Follows rest) : ∀ c, rest.head? = some c → isNameChar c = false := by
  intro c hc
  rcases h c hc with rfl | rfl <;> decide

theorem SegmentText.head {segment : Segment} {cs : List Char} (h : SegmentText segment cs) :
    ∃ c rest, cs = c :: rest ∧ (c = '.' ∨ c = '[') := by
  cases h with
  | field | star | search | filter => exact ⟨'.', _, rfl, .inl rfl⟩
  | quotedField | item | bracketStar => exact ⟨'[', _, rfl, .inr rfl⟩

/-- A single character is no segment. -/
theorem SegmentText.two_le_length {segment : Segment} {cs : List Char} (h : SegmentText segment cs) : 2 ≤ cs.length := by
  cases h with
  | field hn | search hn =>
    obtain ⟨c, rest, rfl, -⟩ := hn.head
    simp
  | star | bracketStar => decide
  | quotedField =>
    simp
    omega
  | item | filter => simp

theorem Segments.follows {segments : List Segment} {cs : List Char} (h : Segments segments cs) : Follows cs := by
  cases h with
  | nil =>
    intro c hc
    cases hc
  | cons h =>
    obtain ⟨c, rest, rfl, hc⟩ := h.head
    intro d hd
    obtain rfl := Option.some.inj hd
    exact hc

/-- Brackets around anything but a star are looked into for an index. -/
theorem readBracket_eq {c : Char} (hc : c ≠ '*') (source : String) (rest : List Char) :
    readBracket source ('[' :: c :: rest) = match index? ('[' :: c :: rest) with
      | some (digits, rest) => match Numeral.bounded? digits with
        | some position => .ok (.item position, rest)
        | none => .error .endlessIndex
      | none => match bracketName? ('[' :: c :: rest) with
        | some (name, rest) => .ok (.field (String.ofList name), rest)
        | none => .error (.badBracket source) := by
  have hstar : Text.dropHead? ['[', '*', ']'] ('[' :: c :: rest) = none := by simp [Text.dropHead?, Ne.symm hc]
  unfold readBracket
  split
  next heq =>
    rw [hstar] at heq
    cases heq
  next => rfl

theorem readBracket_index {digits : List Char} (hd : Run Text.isDecimal digits) (source : String) (rest : List Char) :
    readBracket source ('[' :: (digits ++ ']' :: rest)) = match Numeral.bounded? digits with
      | some position => .ok (.item position, rest)
      | none => .error .endlessIndex := by
  have hindex := index?_append hd rest
  obtain ⟨c, more, rfl, hc⟩ := hd.head
  have hstar : c ≠ '*' := by
    rintro rfl
    exact absurd hc (by decide)
  rw [List.cons_append] at hindex ⊢
  simp only [readBracket_eq hstar, hindex]

theorem readBracket_name {before name text after : List Char} (hb : Blanks before) (hn : Quoted name text)
    (ha : Blanks after) (source : String) (rest : List Char) :
    readBracket source ('[' :: (before ++ (text ++ (after ++ ']' :: rest)))) =
      .ok (.field (String.ofList name), rest) := by
  have hname := bracketName?_append hb hn ha rest
  -- a blank or a quote comes first, which is neither a star nor a digit
  obtain ⟨c, more, hcons, hstar, hdigit⟩ :
      ∃ c more, before ++ (text ++ (after ++ ']' :: rest)) = c :: more ∧ c ≠ '*' ∧ Text.isDecimal c = false := by
    cases before with
    | nil =>
      cases hn with
      | quoted hq =>
        refine ⟨_, _, rfl, ?_⟩
        rcases hq with rfl | rfl <;> decide
    | cons c more =>
      have hc := hb c List.mem_cons_self
      refine ⟨c, _, rfl, ?_, Text.isDecimal_of_isBlank hc⟩
      rintro rfl
      exact absurd hc (by decide)
  rw [hcons] at hname ⊢
  have hindex : index? ('[' :: c :: more) = none := by
    refine index?_eq_none fun d hd => ?_
    obtain rfl := Option.some.inj hd
    exact hdigit
  simp only [readBracket_eq hstar, hindex, hname]

theorem readSegment_dotted {c : Char} (hc : c ≠ '.') (source : String) (rest : List Char) :
    readSegment source ('.' :: c :: rest) = readDotted source (c :: rest) := by
  unfold readSegment
  split
  next heq => exact absurd (List.cons.inj (List.cons.inj heq).2).1 hc
  next heq => rw [(List.cons.inj heq).2]
  next heq => exact absurd (List.cons.inj heq).1 (by decide)
  next hpoint _ heq => exact absurd (List.cons.inj heq).1.symm hpoint
  next heq => cases heq

theorem readDotted_eq {c : Char} (hc : c ≠ '*') (source : String) (rest : List Char) :
    readDotted source (c :: rest) = match run? isNameChar (c :: rest) with
      | some (name, rest) => .ok (.field (String.ofList name), rest)
      | none => .error (.noName source) := by
  unfold readDotted
  split
  next heq => exact absurd (List.cons.inj heq).1 hc
  next => rfl

theorem readSegment_append {segment : Segment} {cs rest : List Char} (h : SegmentText segment cs) (hr : Follows rest)
    (source : String) : readSegment source (cs ++ rest) = .ok (segment, rest) := by
  cases h with
  | @field name hn hs =>
    have hrun := run?_append hn hr.not_nameChar
    obtain ⟨c, more, rfl, hc⟩ := hn.head
    have hpoint : c ≠ '.' := by
      rintro rfl
      exact absurd hc (by decide)
    have hstar : c ≠ '*' := by simpa using hs
    rw [List.cons_append, List.cons_append, readSegment_dotted hpoint, readDotted_eq hstar, ← List.cons_append, hrun]
  | @quotedField before name text after hb hn ha =>
    have hshape : '[' :: (before ++ (text ++ (after ++ [']']))) ++ rest =
        '[' :: (before ++ (text ++ (after ++ ']' :: rest))) := by simp
    rw [hshape]
    exact readBracket_name hb hn ha source rest
  | @item digits hd hlen =>
    have hread := readBracket_index hd source rest
    rw [Numeral.bounded?, if_pos hlen] at hread
    have hshape : '[' :: (digits ++ [']']) ++ rest = '[' :: (digits ++ ']' :: rest) := by simp
    rw [hshape]
    exact hread
  | star => rfl
  | bracketStar => rfl
  | @search name hn =>
    have hrun := run?_append hn hr.not_nameChar
    obtain ⟨c, more, rfl, hc⟩ := hn.head
    have hfilter : filter? (c :: more ++ rest) = none := by
      have hopen : Text.dropHead? ['[', '?', '('] (c :: (more ++ rest)) = none := by
        have hne : '[' ≠ c := by
          rintro rfl
          exact absurd hc (by decide)
        simp [Text.dropHead?, hne]
      simp only [filter?, List.cons_append, hopen, Option.bind_eq_bind, Option.bind_none]
    show readSearch source (c :: more ++ rest) = _
    rw [readSearch, hfilter]
    simp only [hrun]
  | @filter name value? cs h =>
    show readSearch source (cs ++ rest) = _
    rw [readSearch, filter?_append h]

theorem SegmentText.of_readSegment {source : String} {cs rest : List Char} {segment : Segment}
    (h : readSegment source cs = .ok (segment, rest)) : ∃ text, SegmentText segment text ∧ cs = text ++ rest := by
  unfold readSegment at h
  split at h
  next r =>
    unfold readSearch at h
    split at h
    next name value? tail hfilter =>
      obtain ⟨rfl, rfl⟩ := Prod.mk.inj (Except.ok.inj h)
      obtain ⟨text, ht, rfl⟩ := FilterText.of_filter? hfilter
      exact ⟨_, .filter ht, rfl⟩
    next =>
      split at h
      next name tail hrun =>
        obtain ⟨rfl, rfl⟩ := Prod.mk.inj (Except.ok.inj h)
        obtain ⟨hn, rfl⟩ := Run.of_run? hrun
        exact ⟨_, .search hn, rfl⟩
      next => cases h
  next r hpoint =>
    unfold readDotted at h
    split at h
    next tail =>
      obtain ⟨rfl, rfl⟩ := Prod.mk.inj (Except.ok.inj h)
      exact ⟨_, .star, rfl⟩
    next hstar =>
      split at h
      next name tail hrun =>
        obtain ⟨rfl, rfl⟩ := Prod.mk.inj (Except.ok.inj h)
        obtain ⟨hn, rfl⟩ := Run.of_run? hrun
        refine ⟨_, .field hn fun hs => ?_, rfl⟩
        obtain ⟨c, more, rfl, -⟩ := hn.head
        obtain rfl := Option.some.inj hs
        exact hstar _ rfl
      next => cases h
  next r =>
    unfold readBracket at h
    split at h
    next tail hstar =>
      obtain ⟨rfl, rfl⟩ := Prod.mk.inj (Except.ok.inj h)
      rw [Text.append_of_dropHead? hstar]
      exact ⟨_, .bracketStar, rfl⟩
    next =>
      split at h
      next digits tail hindex =>
        obtain ⟨hd, heq⟩ := Run.of_index? hindex
        unfold Numeral.bounded? at h
        split at h
        next position hbounded =>
          obtain ⟨rfl, rfl⟩ := Prod.mk.inj (Except.ok.inj h)
          split at hbounded
          next hlen =>
            obtain rfl := Option.some.inj hbounded
            exact ⟨_, .item hd hlen, by rw [heq]; simp⟩
          next => cases hbounded
        next => cases h
      next =>
        split at h
        next name tail hname =>
          obtain ⟨rfl, rfl⟩ := Prod.mk.inj (Except.ok.inj h)
          obtain ⟨before, text, after, hb, hn, ha, heq⟩ := Quoted.of_bracketName? hname
          exact ⟨_, .quotedField hb hn ha, by rw [heq]; simp⟩
        next => cases h
  next => cases h
  next => cases h

/-- Too many digits are found in an index only. -/
theorem endless_of_readSegment {source : String} {cs : List Char} (h : readSegment source cs = .error .endlessIndex) :
    ∃ digits after, Run Text.isDecimal digits ∧ Numeral.digitLimit < digits.length ∧
      cs = '[' :: (digits ++ ']' :: after) := by
  unfold readSegment at h
  split at h
  next =>
    unfold readSearch at h
    split at h
    next => cases h
    next => split at h <;> cases h
  next =>
    unfold readDotted at h
    split at h
    next => cases h
    next => split at h <;> cases h
  next r =>
    unfold readBracket at h
    split at h
    next => cases h
    next =>
      split at h
      next digits tail hindex =>
        obtain ⟨hd, heq⟩ := Run.of_index? hindex
        unfold Numeral.bounded? at h
        split at h
        next => cases h
        next hbounded =>
          split at hbounded
          next => cases hbounded
          next hlen => exact ⟨digits, tail, hd, by omega, heq⟩
      next => split at h <;> cases h
  next => cases h
  next => cases h

/-! ### Runs of segments -/

theorem readSegments_cons {source : String} {fuel : Nat} {cs : List Char} (hne : cs ≠ []) :
    readSegments source (fuel + 1) cs = (do
      let (segment, rest) ← readSegment source cs
      return segment :: (← readSegments source fuel rest)) := by
  obtain ⟨c, r, rfl⟩ := List.exists_cons_of_ne_nil hne
  rfl

/-- Segments are read off the start of a text, and then the rest of it. -/
theorem readSegments_append {segments : List Segment} {cs rest : List Char} (h : Segments segments cs)
    (hr : Follows rest) (source : String) {fuel : Nat} (hf : (cs ++ rest).length ≤ fuel) :
    ∃ left, rest.length ≤ left ∧
      readSegments source fuel (cs ++ rest) = (readSegments source left rest).map (segments ++ ·) := by
  induction h generalizing fuel with
  | nil =>
    refine ⟨fuel, hf, ?_⟩
    rw [List.nil_append]
    cases readSegments source fuel rest <;> rfl
  | @cons segment segments first others h hs ih =>
    have hfollows : Follows (others ++ rest) := by
      cases others with
      | nil => exact hr
      | cons c _ => exact hs.follows
    obtain ⟨c, tail, rfl, -⟩ := h.head
    obtain _ | fuel := fuel
    · simp at hf
    have hlen : (others ++ rest).length ≤ fuel := by
      simp at hf ⊢
      omega
    obtain ⟨left, hleft, heq⟩ := ih hlen
    refine ⟨left, hleft, ?_⟩
    rw [List.append_assoc, readSegments_cons (by simp), readSegment_append h hfollows]
    simp only [bind, Except.bind, heq]
    cases readSegments source left rest <;> rfl

theorem readSegments_eq {segments : List Segment} {cs : List Char} (h : Segments segments cs) (source : String)
    {fuel : Nat} (hf : cs.length ≤ fuel) : readSegments source fuel cs = .ok segments := by
  have hend : Follows [] := by
    intro c hc
    cases hc
  obtain ⟨left, -, heq⟩ := readSegments_append h hend source (by simpa using hf)
  have hnil : readSegments source left [] = .ok [] := by cases left <;> rfl
  rw [List.append_nil, hnil] at heq
  simpa [Except.map] using heq

theorem Segments.of_readSegments {source : String} {fuel : Nat} {cs : List Char} {segments : List Segment}
    (h : readSegments source fuel cs = .ok segments) : Segments segments cs := by
  induction fuel generalizing cs segments with
  | zero =>
    cases cs with
    | nil =>
      obtain rfl := Except.ok.inj h
      exact .nil
    | cons => cases h
  | succ fuel ih =>
    cases cs with
    | nil =>
      obtain rfl := Except.ok.inj h
      exact .nil
    | cons c r =>
      rw [readSegments_cons (by simp)] at h
      cases hs : readSegment source (c :: r) with
      | error defect =>
        rw [hs] at h
        cases h
      | ok found =>
        obtain ⟨segment, rest⟩ := found
        obtain ⟨text, ht, heq⟩ := SegmentText.of_readSegment hs
        cases hrest : readSegments source fuel rest with
        | error defect =>
          simp only [hs, hrest, bind, Except.bind] at h
          cases h
        | ok others =>
          simp only [hs, hrest, bind, Except.bind, pure, Except.pure] at h
          obtain rfl := Except.ok.inj h
          rw [heq]
          exact .cons ht (ih hrest)

theorem endless_of_readSegments {source : String} {fuel : Nat} {cs : List Char}
    (h : readSegments source fuel cs = .error .endlessIndex) :
    ∃ segments before digits after, Segments segments before ∧ (∀ c ∈ digits, Text.isDecimal c = true) ∧
      Numeral.digitLimit < digits.length ∧ cs = before ++ '[' :: (digits ++ ']' :: after) := by
  induction fuel generalizing cs with
  | zero => cases cs <;> cases h
  | succ fuel ih =>
    cases cs with
    | nil => cases h
    | cons c r =>
      rw [readSegments_cons (by simp)] at h
      cases hs : readSegment source (c :: r) with
      | error defect =>
        rw [hs] at h
        obtain rfl : defect = .endlessIndex := Except.error.inj h
        obtain ⟨digits, after, hd, hlen, heq⟩ := endless_of_readSegment hs
        exact ⟨[], [], digits, after, .nil, hd.2, hlen, heq⟩
      | ok found =>
        obtain ⟨segment, rest⟩ := found
        obtain ⟨text, ht, heq⟩ := SegmentText.of_readSegment hs
        cases hrest : readSegments source fuel rest with
        | error defect =>
          simp only [hs, hrest, bind, Except.bind] at h
          obtain rfl : defect = .endlessIndex := Except.error.inj h
          obtain ⟨segments, before, digits, after, hb, hd, hlen, rfl⟩ := ih hrest
          exact ⟨segment :: segments, text ++ before, digits, after, .cons ht hb, hd, hlen, by rw [heq]; simp⟩
        | ok others =>
          simp only [hs, hrest, bind, Except.bind, pure, Except.pure] at h
          cases h

/-! ### Paths -/

theorem parse_document {text : String} (h : Text.trim text.toList = "$.".toList) :
    parse text = .ok ⟨trimmed text, []⟩ := by
  unfold parse
  rw [h]
  rfl

theorem parse_segments {text : String} {rest : List Char} (h : Text.trim text.toList = '$' :: rest)
    (hp : rest ≠ ['.']) :
    parse text = (readSegments (trimmed text) rest.length rest).map fun segments => ⟨trimmed text, segments⟩ := by
  unfold parse
  rw [h]
  simp only [if_neg hp]
  cases readSegments (trimmed text) rest.length rest <;> rfl

theorem parse_noRoot {text : String} (h : ∀ rest, Text.trim text.toList ≠ '$' :: rest) :
    parse text = .error (.noRoot text) := by
  unfold parse
  split
  next heq => exact absurd heq (h _)
  next => rfl

/-- The point after the root is no segment, so that `$.` is a path for its own sake. -/
theorem Segments.ne_point {segments : List Segment} {cs : List Char} (h : Segments segments cs) : cs ≠ ['.'] := by
  intro hcs
  cases h with
  | nil => cases hcs
  | cons hs =>
    have hlen := congrArg List.length hcs
    have := hs.two_le_length
    simp at hlen
    omega

theorem parse_of_pathText {text : String} {segments : List Segment} (h : PathText segments (Text.trim text.toList)) :
    parse text = .ok ⟨trimmed text, segments⟩ := by
  generalize hcs : Text.trim text.toList = cs at h
  cases h with
  | document => exact parse_document hcs
  | @segments _ rest h =>
    rw [parse_segments hcs h.ne_point, readSegments_eq h (trimmed text) (Nat.le_refl rest.length)]
    rfl

theorem PathText.of_parse {text : String} {path : Path} (h : parse text = .ok path) :
    path.source = trimmed text ∧ PathText path.segments (Text.trim text.toList) := by
  by_cases hroot : ∃ rest, Text.trim text.toList = '$' :: rest
  · obtain ⟨rest, hcs⟩ := hroot
    by_cases hp : rest = ['.']
    · rw [hp] at hcs
      rw [parse_document hcs] at h
      obtain rfl := Except.ok.inj h
      rw [hcs]
      exact ⟨rfl, .document⟩
    · rw [parse_segments hcs hp] at h
      cases hs : readSegments (trimmed text) rest.length rest with
      | error defect =>
        rw [hs] at h
        cases h
      | ok segments =>
        rw [hs] at h
        obtain rfl := Except.ok.inj h
        rw [hcs]
        exact ⟨rfl, .segments (Segments.of_readSegments hs)⟩
  · rw [parse_noRoot fun rest hcs => hroot ⟨rest, hcs⟩] at h
    cases h

theorem EndlessIndex.of_parse {text : String} (h : parse text = .error .endlessIndex) :
    EndlessIndex (Text.trim text.toList) := by
  by_cases hroot : ∃ rest, Text.trim text.toList = '$' :: rest
  · obtain ⟨rest, hcs⟩ := hroot
    by_cases hp : rest = ['.']
    · rw [hp] at hcs
      rw [parse_document hcs] at h
      cases h
    · rw [parse_segments hcs hp] at h
      cases hs : readSegments (trimmed text) rest.length rest with
      | error defect =>
        rw [hs] at h
        obtain rfl : defect = .endlessIndex := Except.error.inj h
        obtain ⟨segments, before, digits, after, hb, hd, hlen, rfl⟩ := endless_of_readSegments hs
        exact ⟨segments, before, digits, after, hb, hd, hlen, hcs⟩
      | ok segments =>
        rw [hs] at h
        cases h
  · rw [parse_noRoot fun rest hcs => hroot ⟨rest, hcs⟩] at h
    cases h

theorem parse_of_endlessIndex {text : String} (h : EndlessIndex (Text.trim text.toList)) :
    parse text = .error .endlessIndex := by
  obtain ⟨segments, before, digits, after, hb, hd, hlen, hcs⟩ := h
  have hrun : Run Text.isDecimal digits := ⟨by rintro rfl; simp at hlen, hd⟩
  have hfollows : Follows ('[' :: (digits ++ ']' :: after)) := by
    intro c hc
    exact .inr (Option.some.inj hc).symm
  have hpoint : before ++ '[' :: (digits ++ ']' :: after) ≠ ['.'] := by
    intro heq
    have := congrArg List.length heq
    simp at this
    omega
  obtain ⟨left, hleft, heq⟩ := readSegments_append hb hfollows (trimmed text) (Nat.le_refl _)
  obtain _ | left := left
  · simp at hleft
  have hread : readSegment (trimmed text) ('[' :: (digits ++ ']' :: after)) = .error .endlessIndex := by
    have hindex := readBracket_index hrun (trimmed text) after
    rw [Numeral.bounded?, if_neg (by omega)] at hindex
    exact hindex
  rw [parse_segments hcs hpoint, heq, readSegments_cons (by simp), hread]
  rfl

theorem SegmentText.last {segment : Segment} {cs : List Char} (h : SegmentText segment cs) :
    ∀ c, cs.getLast? = some c → Text.isBlank c = false := by
  have hname : ∀ {name : List Char}, Run isNameChar name → ∀ front c, (front ++ name).getLast? = some c →
      Text.isBlank c = false := by
    intro name hn front c hc
    rw [List.getLast?_append_of_ne_nil front hn.1] at hc
    have hchar := hn.2 c (List.mem_of_getLast? hc)
    simp only [isNameChar, Bool.not_eq_true', Bool.or_eq_false_iff] at hchar
    exact hchar.2
  have hclose : ∀ front c, (front ++ [']']).getLast? = some c → Text.isBlank c = false := by
    intro front c hc
    rw [List.getLast?_concat] at hc
    exact Option.some.inj hc ▸ (by decide : Text.isBlank ']' = false)
  intro c hc
  cases h with
  | field hn => exact hname hn ['.'] c hc
  | search hn => exact hname hn "..".toList c hc
  | star => exact Option.some.inj hc ▸ (by decide : Text.isBlank '*' = false)
  | bracketStar => exact hclose "[*".toList c hc
  | @quotedField before _ cs after =>
    refine hclose ('[' :: (before ++ (cs ++ after))) c ?_
    rw [← hc]
    simp
  | @item digits => exact hclose ('[' :: digits) c hc
  | @filter name _ _ h =>
    cases h with
    | @present before _ after =>
      refine hclose ("..[?(".toList ++ (before ++ ("@.".toList ++ (name ++ (after ++ [')']))))) c ?_
      rw [← hc]
      simp
    | @compared before _ gap equals space value text after =>
      refine hclose ("..[?(".toList ++ (before ++ ("@.".toList ++
        (name ++ (gap ++ (equals ++ (space ++ (text ++ (after ++ [')']))))))))) c ?_
      rw [← hc]
      simp

theorem Segments.last {segments : List Segment} {cs : List Char} (h : Segments segments cs) :
    ∀ c, cs.getLast? = some c → Text.isBlank c = false := by
  induction h with
  | nil =>
    intro c hc
    cases hc
  | @cons segment segments first rest h hr ih =>
    intro c hc
    by_cases hrest : rest = []
    · rw [hrest, List.append_nil] at hc
      exact h.last c hc
    · rw [List.getLast?_append_of_ne_nil first hrest] at hc
      exact ih c hc

/-- A path neither starts nor ends with a blank. -/
theorem PathText.edged {segments : List Segment} {cs : List Char} (h : PathText segments cs) : Text.Edged cs := by
  cases h with
  | document =>
    refine ⟨by decide, fun c hc => ?_, fun c hc => ?_⟩
    · exact Option.some.inj hc ▸ (by decide : Text.isBlank '$' = false)
    · exact Option.some.inj hc ▸ (by decide : Text.isBlank '.' = false)
  | @segments _ rest h =>
    refine ⟨List.cons_ne_nil _ _, fun c hc => ?_, fun c hc => ?_⟩
    · exact Option.some.inj hc ▸ (by decide : Text.isBlank '$' = false)
    · by_cases hrest : rest = []
      · rw [hrest] at hc
        exact Option.some.inj hc ▸ (by decide : Text.isBlank '$' = false)
      · rw [← List.singleton_append, List.getLast?_append_of_ne_nil _ hrest] at hc
        exact h.last c hc

/-- A path has one reading only. -/
theorem PathText.unique {segments others : List Segment} {cs : List Char} (h : PathText segments cs)
    (ho : PathText others cs) : segments = others := by
  have htrim : Text.trim (String.ofList cs).toList = cs := by rw [String.toList_ofList, Text.trim_of_edges h.edged]
  rw [← htrim] at h ho
  have heq := (parse_of_pathText h).symm.trans (parse_of_pathText ho)
  injection heq with heq
  injection heq

end SiteReader.Path
