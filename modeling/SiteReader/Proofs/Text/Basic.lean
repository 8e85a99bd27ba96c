import SiteReader.Text.Basic

/-!
# Cutting texts that were put together

A text that was put together from parts without a mark, and marks between them, is cut into the same parts: at the first
mark (`cutAtFirst_append`), at the last one (`afterLast_append`), at all of them (`splitOn_append`).  Words with a blank between
them are told apart (`fields_intercalate`).  From its UTF-8 form a text is read back (`fromUTF8?_toUTF8`).
-/

namespace SiteReader

theorem fromUTF8?_toUTF8 (text : String) : String.fromUTF8? text.toUTF8 = some text :=
  dif_pos (show text.toUTF8.IsValidUTF8 from text.isValidUTF8)

namespace Text

theorem forall_mem {P : Char → Prop} [DecidablePred P] {cs : List Char} (h : cs.all (decide <| P ·) = true) :
    ∀ c ∈ cs, P c :=
  fun c hc => of_decide_eq_true (List.all_eq_true.mp h c hc)

theorem ne_of_not_mem {mark : Char} {cs : List Char} (h : mark ∉ cs) : ∀ c ∈ cs, (c != mark) = true := by
  intro c hc
  refine bne_iff_ne.mpr ?_
  rintro rfl
  exact h hc

/-! ### Taking as long as something holds -/

theorem takeWhile_append_of_stop {p : Char → Bool} {before after : List Char} (h : ∀ c ∈ before, p c = true)
    (hs : ∀ c, after.head? = some c → p c = false) : (before ++ after).takeWhile p = before := by
  rw [List.takeWhile_append_of_pos h]
  cases after with
  | nil => simp
  | cons c rest => simp [hs c rfl]

theorem dropWhile_append_of_stop {p : Char → Bool} {before after : List Char} (h : ∀ c ∈ before, p c = true)
    (hs : ∀ c, after.head? = some c → p c = false) : (before ++ after).dropWhile p = after := by
  rw [List.dropWhile_append_of_pos h]
  cases after with
  | nil => rfl
  | cons c rest => simp [hs c rfl]

/-- Where a scan stops within a text, it stops in the same place whatever follows the text. -/
theorem scan_append {p : Char → Bool} {cs : List Char} (h : cs.dropWhile p ≠ []) (tail : List Char) :
    (cs ++ tail).takeWhile p = cs.takeWhile p ∧ (cs ++ tail).dropWhile p = cs.dropWhile p ++ tail := by
  induction cs with
  | nil => exact absurd rfl h
  | cons c rest ih =>
    by_cases hc : p c = true
    · rw [List.dropWhile_cons_of_pos hc] at h
      obtain ⟨htake, hdrop⟩ := ih h
      rw [List.cons_append, List.takeWhile_cons_of_pos hc, List.takeWhile_cons_of_pos hc, List.dropWhile_cons_of_pos hc,
        List.dropWhile_cons_of_pos hc, htake, hdrop]
      exact ⟨rfl, rfl⟩
    · rw [List.cons_append, List.takeWhile_cons_of_neg hc, List.takeWhile_cons_of_neg hc, List.dropWhile_cons_of_neg hc,
        List.dropWhile_cons_of_neg hc]
      exact ⟨rfl, rfl⟩

theorem takeWhile_of_all {p : Char → Bool} {cs : List Char} (h : ∀ c ∈ cs, p c = true) : cs.takeWhile p = cs := by
  have := @takeWhile_append_of_stop p cs [] h (by simp)
  rwa [List.append_nil] at this

theorem dropWhile_of_all {p : Char → Bool} {cs : List Char} (h : ∀ c ∈ cs, p c = true) : cs.dropWhile p = [] := by
  have := @dropWhile_append_of_stop p cs [] h (by simp)
  rwa [List.append_nil] at this

/-! ### One mark -/

theorem cutAtFirst_append {mark : Char} {before : List Char} (h : mark ∉ before) (after : List Char) :
    cutAtFirst mark (before ++ mark :: after) = (before, after) := by
  have hs : ∀ c, (mark :: after).head? = some c → (c != mark) = false := by
    intro c hc
    obtain rfl := Option.some.inj hc
    simp
  rw [cutAtFirst, takeWhile_append_of_stop (ne_of_not_mem h) hs, dropWhile_append_of_stop (ne_of_not_mem h) hs]
  rfl

theorem cutAtFirst_of_not_mem {mark : Char} {cs : List Char} (h : mark ∉ cs) : cutAtFirst mark cs = (cs, []) := by
  rw [cutAtFirst, takeWhile_of_all (ne_of_not_mem h), dropWhile_of_all (ne_of_not_mem h)]
  rfl

theorem cutAtFirst_subset (mark : Char) (cs : List Char) :
    (cutAtFirst mark cs).1 ⊆ cs ∧ (cutAtFirst mark cs).2 ⊆ cs := by
  constructor
  · exact (List.takeWhile_sublist _).subset
  · intro c hc
    exact (List.dropWhile_sublist _).subset (List.mem_of_mem_drop hc)

theorem cutAtLast?_of_not_mem {mark : Char} {cs : List Char} (h : mark ∉ cs) : cutAtLast? mark cs = none := by
  induction cs with
  | nil => rfl
  | cons c rest ih =>
    rw [List.mem_cons, not_or] at h
    rw [cutAtLast?, ih h.2]
    exact if_neg fun he => h.1 he.symm

theorem cutAtLast?_append {mark : Char} (before : List Char) {after : List Char} (h : mark ∉ after) :
    cutAtLast? mark (before ++ mark :: after) = some (before, after) := by
  induction before with
  | nil =>
    rw [List.nil_append, cutAtLast?, cutAtLast?_of_not_mem h]
    exact if_pos rfl
  | cons c rest ih => rw [List.cons_append, cutAtLast?, ih]

theorem afterLast_append {mark : Char} (before : List Char) {after : List Char} (h : mark ∉ after) :
    afterLast mark (before ++ mark :: after) = after := by
  rw [afterLast, cutAtLast?_append before h]

theorem afterLast_of_not_mem {mark : Char} {cs : List Char} (h : mark ∉ cs) : afterLast mark cs = cs := by
  rw [afterLast, cutAtLast?_of_not_mem h]

theorem exists_last {mark : Char} {cs : List Char} (h : mark ∈ cs) :
    ∃ before after, cs = before ++ mark :: after ∧ mark ∉ after := by
  induction cs with
  | nil => cases h
  | cons c rest ih =>
    by_cases hr : mark ∈ rest
    · obtain ⟨before, after, rfl, ha⟩ := ih hr
      exact ⟨c :: before, after, rfl, ha⟩
    · obtain rfl := (List.mem_cons.mp h).resolve_right hr
      exact ⟨[], rest, rfl, hr⟩

/-! ### Every mark -/

private theorem splitFrom_cons {mark c : Char} (rest : List Char) :
    splitFrom [mark] 0 (c :: rest) =
      if c = mark then [] :: splitFrom [mark] 0 rest else pushFirst c (splitFrom [mark] 0 rest) := by
  rw [splitFrom]
  by_cases h : c = mark
  · simp [h]
  · have hb : (mark == c) = false := beq_eq_false_iff_ne.mpr (Ne.symm h)
    simp [h, hb, List.isPrefixOf]

theorem splitOn_of_not_mem {mark : Char} {cs : List Char} (h : mark ∉ cs) : splitOn [mark] cs = [cs] := by
  unfold splitOn
  induction cs with
  | nil => rfl
  | cons c rest ih =>
    rw [List.mem_cons, not_or] at h
    rw [splitFrom_cons, if_neg (Ne.symm h.1), ih h.2]
    rfl

theorem splitOn_append (mark : Char) (before after : List Char) :
    splitOn [mark] (before ++ mark :: after) = splitOn [mark] before ++ splitOn [mark] after := by
  unfold splitOn
  induction before with
  | nil => rw [List.nil_append, splitFrom_cons, if_pos rfl, splitFrom, List.singleton_append]
  | cons c rest ih =>
    rw [List.cons_append, splitFrom_cons, splitFrom_cons, ih]
    by_cases h : c = mark
    · rw [if_pos h, if_pos h, List.cons_append]
    · rw [if_neg h, if_neg h]
      obtain ⟨piece, pieces, hp⟩ := List.exists_cons_of_ne_nil (splitFrom_ne_nil [mark] 0 rest)
      rw [hp]
      rfl

theorem splitOn_append_of_not_mem {mark : Char} {before : List Char} (h : mark ∉ before) (after : List Char) :
    splitOn [mark] (before ++ mark :: after) = before :: splitOn [mark] after := by
  rw [splitOn_append, splitOn_of_not_mem h, List.singleton_append]

/-! ### Words -/

theorem fields_append {p : Char → Bool} {word rest : List Char} (hne : word ≠ []) (h : ∀ c ∈ word, p c = false)
    (hs : ∀ c, rest.head? = some c → p c = true) : fields p (word ++ rest) = word :: fields p rest := by
  induction word with
  | nil => exact absurd rfl hne
  | cons c word ih =>
    obtain ⟨hc, hword⟩ := List.forall_mem_cons.mp h
    cases word with
    | nil =>
      rw [List.singleton_append, fields.eq_def]
      simp only [hc, Bool.false_eq_true, if_false]
      cases rest with
      | nil => rfl
      | cons d rest => exact if_pos (hs d rfl)
    | cons d word =>
      have hd : p d = false := hword d List.mem_cons_self
      have hrest := ih (List.cons_ne_nil d word) hword
      rw [List.cons_append] at hrest
      rw [List.cons_append, List.cons_append, fields.eq_def]
      simp only [hc, hd, Bool.false_eq_true, if_false, hrest]
      rfl

/-- Words joined by single blanks are read back. -/
theorem fields_intercalate {p : Char → Bool} {b : Char} (hb : p b = true) {words : List (List Char)}
    (h : ∀ word ∈ words, word ≠ [] ∧ ∀ c ∈ word, p c = false) : fields p ([b].intercalate words) = words := by
  induction words with
  | nil => rfl
  | cons word others ih =>
    obtain ⟨⟨hne, hword⟩, hothers⟩ := List.forall_mem_cons.mp h
    cases others with
    | nil =>
      have hlast : fields p (word ++ []) = word :: fields p [] := fields_append hne hword nofun
      rw [List.append_nil] at hlast
      rw [List.intercalate_singleton, hlast]
      rfl
    | cons next others =>
      rw [List.intercalate_cons_cons, List.append_assoc, fields_append hne hword (by simp [hb]), List.singleton_append,
        fields.eq_def]
      simp only [hb, if_true, ih hothers]

/-! ### The end of a text -/

theorem getLast?_append_ne {before after : List Char} {c : Char} (hne : after ≠ []) (h : after.getLast? ≠ some c) :
    (before ++ after).getLast? ≠ some c := by
  rw [List.getLast?_append, List.getLast?_eq_some_getLast hne] at *
  exact h

theorem append_of_dropTail? {tail cs body : List Char} (h : dropTail? tail cs = some body) : cs = body ++ tail := by
  unfold dropTail? at h
  split at h
  next hs =>
    obtain ⟨front, rfl⟩ := List.isSuffixOf_iff_suffix.mp hs
    obtain rfl := Option.some.inj h
    simp
  next => cases h

theorem dropTail?_append (cs tail : List Char) : dropTail? tail (cs ++ tail) = some cs := by
  have h : tail.isSuffixOf (cs ++ tail) = true := List.isSuffixOf_iff_suffix.mpr (List.suffix_append cs tail)
  unfold dropTail?
  rw [if_pos h, List.length_append, Nat.add_sub_cancel, List.take_left]

theorem dropTail?_eq_none {tail cs : List Char} (h : ¬ tail <:+ cs) : dropTail? tail cs = none :=
  if_neg (by rwa [List.isSuffixOf_iff_suffix])

/-- The end of a text does not reach over a character that it does not have. -/
theorem dropTail?_append_cons {tail : List Char} {c : Char} (hc : c ∉ tail) (front cs : List Char) :
    dropTail? tail (front ++ c :: cs) = (dropTail? tail cs).map (front ++ c :: ·) := by
  by_cases hs : tail <:+ cs
  · obtain ⟨body, rfl⟩ := hs
    rw [dropTail?_append, ← List.cons_append, ← List.append_assoc]
    exact dropTail?_append _ _
  · rw [dropTail?_eq_none hs]
    refine dropTail?_eq_none fun hall => ?_
    rcases List.suffix_or_suffix_of_suffix hall (List.suffix_append front (c :: cs)) with h | h
    · rcases List.suffix_cons_iff.mp h with rfl | h
      · exact hc List.mem_cons_self
      · exact hs h
    · exact hc (h.subset List.mem_cons_self)

theorem trimRight_of_all {p : Char → Bool} {cs : List Char} (h : ∀ c ∈ cs, p c = true) : trimRight p cs = [] := by
  induction cs with
  | nil => rfl
  | cons c rest ih =>
    rw [trimRight, ih fun d hd => h d (List.mem_cons_of_mem _ hd)]
    exact if_pos (h c List.mem_cons_self)

theorem eq_trimRight_append (p : Char → Bool) (cs : List Char) :
    ∃ after, (∀ c ∈ after, p c = true) ∧ cs = trimRight p cs ++ after := by
  induction cs with
  | nil => exact ⟨[], List.forall_mem_nil _, rfl⟩
  | cons c rest ih =>
    obtain ⟨after, ha, hrest⟩ := ih
    rw [trimRight]
    split
    next hnil =>
      rw [hnil] at hrest
      split
      next hc => exact ⟨c :: rest, List.forall_mem_cons.mpr ⟨hc, hrest ▸ ha⟩, rfl⟩
      next => exact ⟨rest, hrest ▸ ha, rfl⟩
    next => exact ⟨after, ha, by rw [List.cons_append, ← hrest]⟩

theorem trimRight_append_of_all {p : Char → Bool} {after : List Char} (h : ∀ c ∈ after, p c = true) (cs : List Char) :
    trimRight p (cs ++ after) = trimRight p cs := by
  induction cs with
  | nil => exact trimRight_of_all h
  | cons c rest ih => rw [List.cons_append, trimRight, trimRight, ih]

theorem trimRight_append_cons {p : Char → Bool} (before : List Char) {c : Char} (h : p c = false) (after : List Char) :
    trimRight p (before ++ c :: after) = before ++ c :: trimRight p after := by
  induction before with
  | nil =>
    rw [List.nil_append, trimRight]
    cases trimRight p after with
    | nil => simp [h]
    | cons d kept => rfl
  | cons d rest ih =>
    rw [List.cons_append, trimRight, ih]
    cases rest <;> rfl

/-- What is trimmed off the end of a text whose last character stays is all that satisfies the test. -/
theorem trimRight_append {p : Char → Bool} {before after : List Char} (hb : ∀ c, before.getLast? = some c → p c = false)
    (ha : ∀ c ∈ after, p c = true) : trimRight p (before ++ after) = before := by
  rcases List.eq_nil_or_concat before with rfl | ⟨front, last, rfl⟩
  · exact trimRight_of_all ha
  · have hl : p last = false := hb last (by simp)
    rw [List.concat_eq_append, List.append_assoc, List.singleton_append, trimRight_append_cons front hl,
      trimRight_of_all ha]

/-- Trimming takes characters away only. -/
theorem trimRight_subset (p : Char → Bool) (cs : List Char) : trimRight p cs ⊆ cs := by
  obtain ⟨after, -, hcs⟩ := eq_trimRight_append p cs
  intro c hc
  rw [hcs]
  exact List.mem_append_left after hc

@[simp] theorem trimRight_trimRight (p : Char → Bool) (cs : List Char) : trimRight p (trimRight p cs) = trimRight p cs := by
  obtain ⟨after, hafter, hcs⟩ := eq_trimRight_append p cs
  have happend := trimRight_append_of_all hafter (trimRight p cs)
  rw [← hcs] at happend
  exact happend.symm

theorem trimRight_of_last {p : Char → Bool} {cs : List Char} (h : ∀ c, cs.getLast? = some c → p c = false) :
    trimRight p cs = cs := by
  have := trimRight_append h (List.forall_mem_nil _)
  rwa [List.append_nil] at this

end Text

end SiteReader
