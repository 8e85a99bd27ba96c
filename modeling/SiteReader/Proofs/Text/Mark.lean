import Mathlib.Data.List.Infix
import SiteReader.Proofs.Text.Trim
import SiteReader.Text.Case

/-!
# Marks of several characters

A text has a mark if the mark is a part of it (`hasMark_iff`); a text that was put together of others, with characters
between them that the mark has not, has the mark if one of the others has it (`infix_of_infix_intercalate`).  Split at the
mark that they were joined with, joined texts come back (`splitOn_intercalate`), and blanks around them only become blanks
around pieces (`map_trim_splitOn_trim`).  The pieces of a text have no mark (`not_isInfix_of_mem_splitOn`) and are the text
when they are joined with it (`join_splitOn`).
-/

namespace SiteReader.Text

variable {mark cs : List Char}

/-! ### Marks as parts -/

theorem isSome_cut?_iff : (cut? mark cs).isSome = true ↔ mark <:+: cs := by
  constructor
  · intro h
    obtain ⟨⟨before, after⟩, hcut⟩ := Option.isSome_iff_exists.mp h
    exact ⟨before, after, (append_of_cut? hcut).symm⟩
  · intro h
    induction cs with
    | nil =>
      obtain rfl := List.infix_nil.mp h
      rfl
    | cons c rest ih =>
      unfold cut?
      split
      next => rfl
      next hp =>
        rw [Option.isSome_map]
        refine ih ((List.infix_cons_iff.mp h).resolve_left ?_)
        rwa [List.isPrefixOf_iff_prefix] at hp

theorem hasMark_iff : hasMark mark cs = true ↔ mark <:+: cs :=
  isSome_cut?_iff

theorem cut?_eq_none_iff : cut? mark cs = none ↔ ¬ mark <:+: cs := by
  rw [← isSome_cut?_iff, Option.not_isSome_iff_eq_none]

theorem prefix_of_prefix_append_cons {c : Char} (hc : c ∉ mark) {before after : List Char}
    (h : mark <+: before ++ c :: after) : mark <+: before := by
  induction before generalizing mark with
  | nil =>
    cases mark with
    | nil => exact List.nil_prefix
    | cons d rest =>
      obtain rfl := (List.cons_prefix_cons.mp h).1
      exact absurd List.mem_cons_self hc
  | cons d before ih =>
    cases mark with
    | nil => exact List.nil_prefix
    | cons e rest =>
      obtain ⟨rfl, hrest⟩ := List.cons_prefix_cons.mp h
      exact List.cons_prefix_cons.mpr ⟨rfl, ih (List.not_mem_of_not_mem_cons hc) hrest⟩

/-- A mark does not reach over a character that it has not. -/
theorem infix_of_infix_append_cons {c : Char} (hc : c ∉ mark) {before after : List Char}
    (h : mark <:+: before ++ c :: after) : mark <:+: before ∨ mark <:+: after := by
  rcases List.infix_append_iff.mp h with h | h | ⟨front, back, rfl, hfront, hback⟩
  · exact .inl h
  · rcases List.infix_cons_iff.mp h with h | h
    · have hnil : mark <+: [] := prefix_of_prefix_append_cons hc h
      exact .inl (hnil.isInfix.trans List.nil_infix)
    · exact .inr h
  · cases back with
    | nil =>
      rw [List.append_nil]
      exact .inl hfront.isInfix
    | cons d rest =>
      obtain rfl := (List.cons_prefix_cons.mp hback).1
      exact absurd (List.mem_append_right front List.mem_cons_self) hc

/-- A mark of two equal characters starts nowhere in a text without it, unless it starts at the last character. -/
theorem not_prefix_append {m : Char} {cs tail : List Char} (hne : cs ≠ []) (h : ¬ [m, m] <:+: cs)
    (hseam : cs.getLast? = some m → tail.head? ≠ some m) : ¬ [m, m] <+: cs ++ tail := by
  intro hp
  obtain ⟨c, r, rfl⟩ := List.exists_cons_of_ne_nil hne
  obtain ⟨rfl, hsecond⟩ := List.cons_prefix_cons.mp hp
  cases r with
  | nil =>
    obtain ⟨rest, rfl⟩ := hsecond
    exact hseam rfl rfl
  | cons d r =>
    obtain ⟨rfl, -⟩ := List.cons_prefix_cons.mp hsecond
    exact h ⟨[], r, rfl⟩

theorem dropHead?_eq_none {head cs : List Char} (h : ¬ head <+: cs) : dropHead? head cs = none :=
  Option.eq_none_iff_forall_ne_some.mpr fun rest hrest => h ⟨rest, (append_of_dropHead? hrest).symm⟩

/-- The first occurrence of a mark whose first character it has only once. -/
theorem cut?_append_of_not_isInfix {m : Char} {rest before : List Char} (hm : m ∉ rest) (h : ¬ (m :: rest) <:+: before)
    (after : List Char) : cut? (m :: rest) (before ++ (m :: rest ++ after)) = some (before, after) := by
  induction before with
  | nil => simp [cut?]
  | cons c before ih =>
    have hno : ¬ (m :: rest) <+: c :: (before ++ (m :: rest ++ after)) := by
      intro hp
      obtain ⟨rfl, hrest⟩ := List.cons_prefix_cons.mp hp
      have hbefore : rest <+: before := prefix_of_prefix_append_cons hm hrest
      exact h (List.cons_prefix_cons.mpr ⟨rfl, hbefore⟩).isInfix
    rw [List.infix_cons_iff, not_or] at h
    rw [List.cons_append, cut?, if_neg (by rwa [List.isPrefixOf_iff_prefix]), ih h.2]
    rfl

/-- A mark of two equal characters is found where it was put, behind a text without it that does not end like it. -/
theorem cut?_append_double {m : Char} {before : List Char} (h : ¬ [m, m] <:+: before) (hl : before.getLast? ≠ some m)
    (after : List Char) : cut? [m, m] (before ++ (m :: m :: after)) = some (before, after) := by
  induction before with
  | nil => simp [cut?]
  | cons c before ih =>
    have hno : ¬ [m, m] <+: c :: before ++ (m :: m :: after) :=
      not_prefix_append (List.cons_ne_nil _ _) h fun hlast => absurd hlast hl
    have hrest : before.getLast? ≠ some m := by
      cases before with
      | nil => simp
      | cons d before => simpa using hl
    rw [List.infix_cons_iff, not_or] at h
    rw [List.cons_append] at hno ⊢
    rw [cut?, if_neg (by rwa [List.isPrefixOf_iff_prefix]), ih h.2 hrest]
    rfl

theorem not_isPrefixOf_cons {m c : Char} (h : m ≠ c) (rest cs : List Char) : ¬ (m :: rest).isPrefixOf (c :: cs) = true := by
  rw [List.isPrefixOf_iff_prefix, List.cons_prefix_cons]
  exact fun hp => h hp.1

/-- A text that a mark cannot start in goes before whatever the mark is found after. -/
theorem cut?_append_left {m : Char} {rest front : List Char} (h : m ∉ front) (cs : List Char) :
    cut? (m :: rest) (front ++ cs) = (cut? (m :: rest) cs).map fun found => (front ++ found.1, found.2) := by
  induction front with
  | nil => simp
  | cons c front ih =>
    have hc : m ≠ c := List.ne_of_not_mem_cons h
    have hfront : m ∉ front := List.not_mem_of_not_mem_cons h
    rw [List.cons_append, cut?, if_neg (not_isPrefixOf_cons hc rest _), ih hfront, Option.map_map]
    rfl

/-! ### Joined texts -/

theorem infix_of_infix_intercalate {m : Char} (hm : m ∉ mark) (hne : mark ≠ []) {texts : List (List Char)}
    (h : mark <:+: [m, m].intercalate texts) : ∃ text ∈ texts, mark <:+: text := by
  induction texts with
  | nil => exact absurd (List.infix_nil.mp (by simpa using h)) hne
  | cons text rest ih =>
    cases rest with
    | nil => exact ⟨text, List.mem_cons_self, by simpa using h⟩
    | cons next rest =>
      rw [List.intercalate_cons_cons, List.append_assoc] at h
      rcases infix_of_infix_append_cons hm h with h | h
      · exact ⟨text, List.mem_cons_self, h⟩
      · rcases infix_of_infix_append_cons hm (show mark <:+: [] ++ m :: _ from h) with h | h
        · exact absurd (List.infix_nil.mp h) hne
        · obtain ⟨found, hmem, hfound⟩ := ih h
          exact ⟨found, List.mem_cons_of_mem _ hmem, hfound⟩

theorem isInfix_intercalate (mark : List Char) {texts : List (List Char)} {text : List Char} (h : text ∈ texts) :
    text <:+: mark.intercalate texts := by
  induction texts with
  | nil => cases h
  | cons first others ih =>
    cases others with
    | nil =>
      obtain rfl := List.mem_singleton.mp h
      rw [List.intercalate_singleton]
    | cons next others =>
      rw [List.intercalate_cons_cons]
      rcases List.mem_cons.mp h with rfl | h
      · exact ⟨[], _, (List.append_assoc ..).symm⟩
      · exact (ih h).trans (List.suffix_append _ _).isInfix

theorem mem_of_mem_intercalate {c : Char} {texts : List (List Char)} (h : c ∈ mark.intercalate texts) :
    c ∈ mark ∨ ∃ text ∈ texts, c ∈ text := by
  induction texts with
  | nil => simp at h
  | cons first others ih =>
    cases others with
    | nil => exact .inr ⟨first, List.mem_cons_self, by simpa using h⟩
    | cons next others =>
      rw [List.intercalate_cons_cons, List.mem_append, List.mem_append] at h
      rcases h with (h | h) | h
      · exact .inr ⟨first, List.mem_cons_self, h⟩
      · exact .inl h
      · exact (ih h).imp_right fun ⟨text, ht, hc⟩ => ⟨text, List.mem_cons_of_mem _ ht, hc⟩

theorem getLast?_intercalate_ne {m c : Char} (hm : m ≠ c) {texts : List (List Char)}
    (h : ∀ text ∈ texts, text.getLast? ≠ some c) :
    ([m, m].intercalate texts).getLast? ≠ some c := by
  induction texts with
  | nil => simp
  | cons text others ih =>
    obtain ⟨htext, hothers⟩ := List.forall_mem_cons.mp h
    cases others with
    | nil => rwa [List.intercalate_singleton]
    | cons next others =>
      rw [List.intercalate_cons_cons, List.append_assoc]
      refine getLast?_append_ne (by simp) ?_
      by_cases hnil : [m, m].intercalate (next :: others) = []
      · simp [hnil, hm]
      · exact getLast?_append_ne hnil (ih hothers)

/-! ### Splitting at a mark -/

theorem splitOn_of_not_isInfix (h : ¬ mark <:+: cs) : splitOn mark cs = [cs] := by
  unfold splitOn
  induction cs with
  | nil => rfl
  | cons c rest ih =>
    rw [List.infix_cons_iff, not_or, ← List.isPrefixOf_iff_prefix] at h
    rw [splitFrom, if_neg h.1, ih h.2]
    rfl

theorem splitFrom_length (mark skipped cs : List Char) :
    splitFrom mark skipped.length (skipped ++ cs) = splitFrom mark 0 cs := by
  induction skipped with
  | nil => rfl
  | cons c rest ih => exact ih

/-- A text that a mark cannot start in goes to the first piece. -/
theorem splitOn_append_left (m : Char) (rest cs : List Char) :
    ∃ first others, ∀ front, m ∉ front → splitOn (m :: rest) (front ++ cs) = (front ++ first) :: others := by
  unfold splitOn
  obtain ⟨first, others, hsplit⟩ := List.exists_cons_of_ne_nil (splitFrom_ne_nil (m :: rest) 0 cs)
  refine ⟨first, others, fun front h => ?_⟩
  induction front with
  | nil => exact hsplit
  | cons c front ih =>
    have hc : m ≠ c := List.ne_of_not_mem_cons h
    have hfront : m ∉ front := List.not_mem_of_not_mem_cons h
    rw [List.cons_append, splitFrom, if_neg (not_isPrefixOf_cons hc rest _), ih hfront]
    rfl

theorem splitOn_append_mark {m : Char} {rest before : List Char} (h : m ∉ before) (after : List Char) :
    splitOn (m :: rest) (before ++ (m :: rest ++ after)) = before :: splitOn (m :: rest) after := by
  have hmark : splitOn (m :: rest) ([] ++ (m :: rest ++ after)) = [] :: splitOn (m :: rest) after := by
    have hp : (m :: rest).isPrefixOf (m :: (rest ++ after)) = true :=
      List.isPrefixOf_iff_prefix.mpr ⟨after, rfl⟩
    unfold splitOn
    rw [List.nil_append, List.cons_append, splitFrom, if_pos hp]
    exact congrArg _ (splitFrom_length (m :: rest) rest after)
  obtain ⟨first, others, hsplit⟩ := splitOn_append_left m rest (m :: rest ++ after)
  rw [hsplit [] List.not_mem_nil] at hmark
  obtain ⟨rfl, rfl⟩ := List.cons.inj hmark
  rw [hsplit before h, List.append_nil]

theorem splitOn_intercalate {m : Char} {rest : List Char} {texts : List (List Char)} (hne : texts ≠ [])
    (h : ∀ text ∈ texts, m ∉ text) : splitOn (m :: rest) ((m :: rest).intercalate texts) = texts := by
  induction texts with
  | nil => exact absurd rfl hne
  | cons text others ih =>
    cases others with
    | nil =>
      rw [List.intercalate_singleton]
      refine splitOn_of_not_isInfix fun hp => h text List.mem_cons_self ?_
      exact hp.subset List.mem_cons_self
    | cons next others =>
      rw [List.intercalate_cons_cons, List.append_assoc, splitOn_append_mark (h text List.mem_cons_self),
        ih (List.cons_ne_nil _ _) fun text ht => h text (List.mem_cons_of_mem _ ht)]

/-! ### Pieces between marks -/

theorem join_pushFirst (c : Char) {pieces : List (List Char)} (hne : pieces ≠ []) :
    join mark (pushFirst c pieces) = c :: join mark pieces := by
  obtain ⟨first, others, rfl⟩ := List.exists_cons_of_ne_nil hne
  cases others <;> rfl

theorem join_cons (piece : List Char) {pieces : List (List Char)} (hne : pieces ≠ []) :
    join mark (piece :: pieces) = piece ++ mark ++ join mark pieces := by
  obtain ⟨first, others, rfl⟩ := List.exists_cons_of_ne_nil hne
  rfl

theorem join_splitFrom (hne : mark ≠ []) (skip : Nat) (cs : List Char) :
    join mark (splitFrom mark skip cs) = cs.drop skip := by
  induction cs generalizing skip with
  | nil => simp [splitFrom, join]
  | cons c rest ih =>
    cases skip with
    | succ skip => exact ih skip
    | zero =>
      rw [splitFrom]
      split
      next hp =>
        obtain ⟨tail, htail⟩ := List.isPrefixOf_iff_prefix.mp hp
        obtain ⟨m, others, rfl⟩ := List.exists_cons_of_ne_nil hne
        obtain ⟨rfl, rfl⟩ := List.cons.inj htail
        rw [join_cons [] (splitFrom_ne_nil _ _ _), ih]
        simp
      next => rw [join_pushFirst c (splitFrom_ne_nil _ _ _), ih, List.drop_zero, List.drop_zero]

/-- The pieces joined with the mark are the text. -/
theorem join_splitOn (hne : mark ≠ []) (cs : List Char) : join mark (splitOn mark cs) = cs :=
  join_splitFrom hne 0 cs

/-- No piece has the mark, and the first one is how the text begins. -/
theorem splitFrom_spec (hne : mark ≠ []) (skip : Nat) (cs : List Char) : ∃ first others,
    splitFrom mark skip cs = first :: others ∧ first <+: cs.drop skip ∧ ∀ piece ∈ first :: others, ¬ mark <:+: piece := by
  have hnil : ¬ mark <:+: [] := fun h => hne (List.infix_nil.mp h)
  induction cs generalizing skip with
  | nil => exact ⟨[], [], rfl, List.nil_prefix, List.forall_mem_singleton.mpr hnil⟩
  | cons c rest ih =>
    cases skip with
    | succ skip => exact ih skip
    | zero =>
      rw [splitFrom]
      split
      next =>
        obtain ⟨first, others, heq, -, hall⟩ := ih (mark.length - 1)
        rw [heq]
        exact ⟨[], _, rfl, List.nil_prefix, List.forall_mem_cons.mpr ⟨hnil, hall⟩⟩
      next hp =>
        obtain ⟨first, others, heq, hprefix, hall⟩ := ih 0
        rw [heq]
        rw [List.forall_mem_cons] at hall
        have hfirst : c :: first <+: c :: rest := List.cons_prefix_cons.mpr ⟨rfl, hprefix⟩
        refine ⟨c :: first, others, rfl, hfirst, List.forall_mem_cons.mpr ⟨fun h => ?_, hall.2⟩⟩
        rcases List.infix_cons_iff.mp h with h | h
        · exact hp (List.isPrefixOf_iff_prefix.mpr (h.trans hfirst))
        · exact hall.1 h

theorem not_isInfix_of_mem_splitOn (hne : mark ≠ []) (cs : List Char) : ∀ piece ∈ splitOn mark cs, ¬ mark <:+: piece := by
  obtain ⟨first, others, heq, -, hall⟩ := splitFrom_spec hne 0 cs
  rw [splitOn, heq]
  exact hall

/-- A text with a mark is made of more than one piece. -/
theorem exists_pieces_of_isInfix {pieces : List (List Char)} (hne : mark ≠ []) (h : mark <:+: join mark pieces)
    (hpieces : ∀ piece ∈ pieces, ¬ mark <:+: piece) : ∃ first next others, pieces = first :: next :: others := by
  rcases pieces with _ | ⟨first, _ | ⟨next, others⟩⟩
  · exact absurd (List.infix_nil.mp h) hne
  · exact absurd h (hpieces first List.mem_cons_self)
  · exact ⟨first, next, others, rfl⟩

theorem length_join (mark first : List Char) (others : List (List Char)) :
    (join mark (first :: others)).length = (first :: others).flatten.length + others.length * mark.length := by
  induction others generalizing first with
  | nil => simp [join]
  | cons next others ih =>
    rw [join_cons first (List.cons_ne_nil _ _), List.length_append, List.length_append, ih, List.flatten_cons (l := first),
      List.length_append, List.length_cons, Nat.succ_mul]
    omega

/-- What is put between pieces can be told from the result, if there are two pieces at least. -/
theorem join_injective {first next : List Char} {others : List (List Char)} {text other : List Char}
    (h : join text (first :: next :: others) = join other (first :: next :: others)) : text = other := by
  have hlength : text.length = other.length := by
    have hjoined := congrArg List.length h
    rw [length_join, length_join, Nat.add_left_cancel_iff, List.length_cons] at hjoined
    exact Nat.eq_of_mul_eq_mul_left (Nat.succ_pos _) hjoined
  have hne : next :: others ≠ [] := List.cons_ne_nil _ _
  rw [join_cons first hne, join_cons first hne, List.append_assoc, List.append_assoc] at h
  exact (List.append_inj (List.append_cancel_left h) hlength).1

theorem length_lt_of_mem_pushFirst {c : Char} {pieces : List (List Char)} {n : Nat} (hn : 0 < n)
    (h : ∀ piece ∈ pieces, piece.length < n) : ∀ piece ∈ pushFirst c pieces, piece.length < n + 1 := by
  intro piece hp
  cases pieces with
  | nil =>
    obtain rfl := List.mem_singleton.mp hp
    exact Nat.succ_lt_succ hn
  | cons first others =>
    rcases List.mem_cons.mp hp with rfl | hp
    · exact Nat.succ_lt_succ (h first List.mem_cons_self)
    · exact Nat.lt_succ_of_lt (h piece (List.mem_cons_of_mem _ hp))

theorem length_lt_of_mem_splitFrom (mark : List Char) (skip : Nat) (cs : List Char) :
    ∀ piece ∈ splitFrom mark skip cs, piece.length < cs.length + 1 := by
  induction cs generalizing skip with
  | nil => simp [splitFrom]
  | cons c rest ih =>
    have hrest (skip : Nat) : ∀ piece ∈ splitFrom mark skip rest, piece.length < rest.length + 1 + 1 :=
      fun piece hp => Nat.lt_succ_of_lt (ih skip piece hp)
    cases skip with
    | succ skip => exact hrest skip
    | zero =>
      rw [splitFrom]
      split
      next => exact List.forall_mem_cons.mpr ⟨Nat.succ_pos _, hrest _⟩
      next => exact length_lt_of_mem_pushFirst (Nat.succ_pos _) (ih 0)

/-- Where there is a mark, no piece is the whole text. -/
theorem length_lt_of_mem_splitOn (hne : mark ≠ []) (h : mark <:+: cs) :
    ∀ piece ∈ splitOn mark cs, piece.length < cs.length := by
  unfold splitOn
  induction cs with
  | nil => exact absurd (List.infix_nil.mp h) hne
  | cons c rest ih =>
    rw [splitFrom]
    split
    next => exact List.forall_mem_cons.mpr ⟨Nat.succ_pos _, length_lt_of_mem_splitFrom mark _ rest⟩
    next hp =>
      rw [List.isPrefixOf_iff_prefix] at hp
      have hrest := (List.infix_cons_iff.mp h).resolve_left hp
      have hpos : 0 < rest.length := by
        refine List.length_pos_iff.mpr fun hnil => hne (List.infix_nil.mp ?_)
        rwa [hnil] at hrest
      exact length_lt_of_mem_pushFirst hpos (ih hrest)

/-! ### Blanks around texts that are split -/

theorem map_trim_pushFirst {c : Char} (hc : isBlank c = true) {pieces : List (List Char)} (hne : pieces ≠ []) :
    (pushFirst c pieces).map trim = pieces.map trim := by
  obtain ⟨piece, rest, rfl⟩ := List.exists_cons_of_ne_nil hne
  rw [pushFirst, List.map_cons, List.map_cons]
  exact congrArg (· :: rest.map trim) (trim_append_left (List.forall_mem_singleton.mpr hc) piece)

theorem map_trim_splitOn_append_left (hne : mark ≠ []) (hm : ∀ c ∈ mark, isBlank c = false) {blanks : List Char}
    (h : Blanks blanks) (cs : List Char) : (splitOn mark (blanks ++ cs)).map trim = (splitOn mark cs).map trim := by
  unfold splitOn
  induction blanks with
  | nil => rfl
  | cons c blanks ih =>
    have hc := h c List.mem_cons_self
    have hp : ¬ mark.isPrefixOf (c :: (blanks ++ cs)) = true := by
      rw [List.isPrefixOf_iff_prefix]
      obtain ⟨m, rest, rfl⟩ := List.exists_cons_of_ne_nil hne
      rw [List.cons_prefix_cons]
      rintro ⟨rfl, -⟩
      cases (hm m List.mem_cons_self).symm.trans hc
    rw [List.cons_append, splitFrom, if_neg hp, map_trim_pushFirst hc (splitFrom_ne_nil _ _ _),
      ih fun d hd => h d (List.mem_cons_of_mem _ hd)]

theorem map_trimEnd_pushFirst (c : Char) {pieces others : List (List Char)} (h : pieces.map trimEnd = others.map trimEnd) :
    (pushFirst c pieces).map trimEnd = (pushFirst c others).map trimEnd := by
  cases pieces with
  | nil =>
    obtain rfl : others = [] := List.map_eq_nil_iff.mp h.symm
    rfl
  | cons piece pieces =>
    cases others with
    | nil => cases h
    | cons other others =>
      obtain ⟨hfirst, hrest⟩ := List.cons.inj h
      have htrim : trimEnd (c :: piece) = trimEnd (c :: other) := by
        unfold trimEnd at hfirst ⊢
        rw [trimRight, trimRight, hfirst]
      rw [pushFirst, pushFirst, List.map_cons, List.map_cons, htrim, hrest]

theorem map_trimEnd_splitFrom_concat {b : Char} (hb : isBlank b = true) (hm : b ∉ mark) (hne : mark ≠ []) (skip : Nat)
    (cs : List Char) : (splitFrom mark skip (cs ++ [b])).map trimEnd = (splitFrom mark skip cs).map trimEnd := by
  -- the mark cannot end with the blank, so that it is found at the same places
  have hp (text : List Char) : mark.isPrefixOf (text ++ [b]) = mark.isPrefixOf text := by
    rw [Bool.eq_iff_iff, List.isPrefixOf_iff_prefix, List.isPrefixOf_iff_prefix]
    exact ⟨prefix_of_prefix_append_cons hm, fun h => h.trans (List.prefix_append text [b])⟩
  induction cs generalizing skip with
  | nil =>
    cases skip with
    | zero =>
      have hnil : mark.isPrefixOf [] = false := by
        obtain ⟨m, rest, rfl⟩ := List.exists_cons_of_ne_nil hne
        rfl
      have hend : trimEnd [b] = [] := trimRight_of_all (List.forall_mem_singleton.mpr hb)
      have hno := hp []
      rw [List.nil_append, hnil] at hno
      simp [splitFrom, hno, pushFirst, hend, show trimEnd [] = [] from rfl]
    | succ skip => cases skip <;> rfl
  | cons c rest ih =>
    cases skip with
    | succ skip => exact ih skip
    | zero =>
      have hno := hp (c :: rest)
      rw [List.cons_append] at hno
      rw [List.cons_append, splitFrom, splitFrom, hno]
      split
      next => rw [List.map_cons, List.map_cons, ih]
      next => exact map_trimEnd_pushFirst c (ih 0)

theorem map_trim_splitOn_append_right (hne : mark ≠ []) (hm : ∀ c ∈ mark, isBlank c = false) {blanks : List Char}
    (h : Blanks blanks) (cs : List Char) : (splitOn mark (cs ++ blanks)).map trim = (splitOn mark cs).map trim := by
  have hend : (splitOn mark (cs ++ blanks)).map trimEnd = (splitOn mark cs).map trimEnd := by
    unfold splitOn
    induction blanks generalizing cs with
    | nil => rw [List.append_nil]
    | cons b blanks ih =>
      have hb := h b List.mem_cons_self
      have hmem : b ∉ mark := fun hmem => by cases (hm b hmem).symm.trans hb
      rw [List.append_cons, ih (fun d hd => h d (List.mem_cons_of_mem _ hd)),
        map_trimEnd_splitFrom_concat hb hmem hne]
  have htrim := congrArg (List.map trim) hend
  simpa only [List.map_map, Function.comp_def, trim_trimEnd] using htrim

/-- Blanks around a text are blanks around its pieces. -/
theorem map_trim_splitOn_trim (hne : mark ≠ []) (hm : ∀ c ∈ mark, isBlank c = false) (cs : List Char) :
    (splitOn mark (trim cs)).map trim = (splitOn mark cs).map trim := by
  obtain ⟨before, after, hb, ha, hcs⟩ := eq_append_trim cs
  rw [← map_trim_splitOn_append_right hne hm ha, ← map_trim_splitOn_append_left hne hm hb, ← hcs]

/-! ### Marks in any letter case -/

/-- A character that is none of the letters of a mark, in any case. -/
def Foreign (mark : List Char) (c : Char) : Prop :=
  ∀ a ∈ mark, sameLetter a c = false

instance (mark : List Char) (c : Char) : Decidable (Foreign mark c) :=
  decidable_of_iff ((mark.all fun a => !sameLetter a c) = true) (by simp [Foreign])

theorem isSome_dropHeadAnyCase?_append {head cs tail : List Char} (h : ∀ c, tail.head? = some c → Foreign head c) :
    (dropHeadAnyCase? head (cs ++ tail)).isSome = (dropHeadAnyCase? head cs).isSome := by
  induction head generalizing cs with
  | nil => rfl
  | cons a head ih =>
    cases cs with
    | nil =>
      cases tail with
      | nil => rfl
      | cons c tail =>
        have hc : sameLetter a c = false := h c rfl a List.mem_cons_self
        simp [dropHeadAnyCase?, hc]
    | cons d cs =>
      rw [List.cons_append, dropHeadAnyCase?, dropHeadAnyCase?]
      split
      next => exact ih fun c hc b hb => h c hc b (List.mem_cons_of_mem _ hb)
      next => rfl

theorem dropHeadAnyCase?_append {head cs rest : List Char} (h : dropHeadAnyCase? head cs = some rest) (tail : List Char) :
    dropHeadAnyCase? head (cs ++ tail) = some (rest ++ tail) := by
  induction head generalizing cs with
  | nil =>
    obtain rfl : cs = rest := Option.some.inj h
    rfl
  | cons a head ih =>
    cases cs with
    | nil => cases h
    | cons c cs =>
      rw [dropHeadAnyCase?] at h
      rw [List.cons_append, dropHeadAnyCase?]
      split at h
      next hs =>
        rw [if_pos hs]
        exact ih h
      next => cases h

theorem cutAnyCase?_cons_eq_none {c : Char} {rest : List Char} :
    cutAnyCase? mark (c :: rest) = none ↔ dropHeadAnyCase? mark (c :: rest) = none ∧ cutAnyCase? mark rest = none := by
  rw [cutAnyCase?]
  cases dropHeadAnyCase? mark (c :: rest) with
  | some after => exact iff_of_false nofun (fun h => nomatch h.1)
  | none => simp

/-- A text without the first letter of a mark does not have the mark. -/
theorem cutAnyCase?_of_forall {a : Char} {cs : List Char} (h : ∀ c ∈ cs, sameLetter a c = false) (rest : List Char) :
    cutAnyCase? (a :: rest) cs = none := by
  induction cs with
  | nil => rfl
  | cons c cs ih =>
    obtain ⟨hc, hcs⟩ := List.forall_mem_cons.mp h
    exact cutAnyCase?_cons_eq_none.mpr ⟨if_neg (Bool.eq_false_iff.mp hc), ih hcs⟩

theorem cutAnyCase?_append_left {a : Char} {rest front : List Char} (h : ∀ c ∈ front, sameLetter a c = false)
    (cs : List Char) : cutAnyCase? (a :: rest) (front ++ cs) =
      (cutAnyCase? (a :: rest) cs).map fun found => (front ++ found.1, found.2) := by
  induction front with
  | nil => simp
  | cons c front ih =>
    obtain ⟨hc, hfront⟩ := List.forall_mem_cons.mp h
    have hno : dropHeadAnyCase? (a :: rest) (c :: (front ++ cs)) = none := if_neg (Bool.eq_false_iff.mp hc)
    rw [List.cons_append, cutAnyCase?, hno, ih hfront, Option.map_map]
    rfl

/-- A mark does not reach over a character that is none of its letters. -/
theorem cutAnyCase?_append_cons {c : Char} (hne : mark ≠ []) (hc : Foreign mark c)
    {before after : List Char} (hb : cutAnyCase? mark before = none) (ha : cutAnyCase? mark after = none) :
    cutAnyCase? mark (before ++ c :: after) = none := by
  have hover (front : List Char) : (dropHeadAnyCase? mark (front ++ c :: after)).isSome = (dropHeadAnyCase? mark front).isSome := by
    refine isSome_dropHeadAnyCase?_append fun d hd => ?_
    obtain rfl := Option.some.inj hd
    exact hc
  induction before with
  | nil =>
    refine cutAnyCase?_cons_eq_none.mpr ⟨?_, ha⟩
    obtain ⟨a, rest, rfl⟩ := List.exists_cons_of_ne_nil hne
    exact Option.not_isSome_iff_eq_none.mp (Bool.eq_false_iff.mp (hover []))
  | cons d before ih =>
    obtain ⟨hd, hrest⟩ := cutAnyCase?_cons_eq_none.mp hb
    refine cutAnyCase?_cons_eq_none.mpr ⟨?_, ih hrest⟩
    have := hover (d :: before)
    rw [hd] at this
    exact Option.not_isSome_iff_eq_none.mp (Bool.eq_false_iff.mp this)

theorem cutAnyCase?_of_append {before after : List Char} (h : cutAnyCase? mark (before ++ (cs ++ after)) = none) :
    cutAnyCase? mark cs = none := by
  induction before with
  | nil =>
    induction cs with
    | nil => rfl
    | cons c cs ih =>
      obtain ⟨hc, hrest⟩ := cutAnyCase?_cons_eq_none.mp h
      refine cutAnyCase?_cons_eq_none.mpr ⟨?_, ih hrest⟩
      cases hd : dropHeadAnyCase? mark (c :: cs) with
      | none => rfl
      | some rest => cases hc.symm.trans (dropHeadAnyCase?_append hd after)
  | cons c before ih => exact ih (cutAnyCase?_cons_eq_none.mp h).2

theorem cutAnyCase?_intercalate {m : Char} (hne : mark ≠ []) (hm : Foreign mark m) {texts : List (List Char)}
    (h : ∀ text ∈ texts, cutAnyCase? mark text = none) :
    cutAnyCase? mark ([m, m].intercalate texts) = none := by
  induction texts with
  | nil => rfl
  | cons text rest ih =>
    cases rest with
    | nil =>
      rw [List.intercalate_singleton]
      exact h text List.mem_cons_self
    | cons next rest =>
      rw [List.intercalate_cons_cons, List.append_assoc]
      have hrest := ih fun text ht => h text (List.mem_cons_of_mem _ ht)
      have hnext := cutAnyCase?_append_cons hne hm (show cutAnyCase? mark [] = none from rfl) hrest
      exact cutAnyCase?_append_cons hne hm (h text List.mem_cons_self) hnext

end SiteReader.Text
