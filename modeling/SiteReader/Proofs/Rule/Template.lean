import SiteReader.Proofs.Document.Fault

/-!
# Templates put together from texts and rules

A template that was put together from literal texts and rules in double braces is taken apart into the same texts and rules
(`pieces_written`): no braces open in a literal text or where it meets the next rule, and none close inside a rule
(`body?_append`).  Rendering it puts the text of each rule in its place, whatever these texts hold, and fails of the first
rule that fails (`render_written`).
-/

namespace SiteReader.Template

open Double (overflowBound)

/-! ### Templates and their texts -/

/-- A literal text, and a rule in double braces after it. -/
structure Slot where
  before : String
  rule : String

/-- The template of literal texts and rules. -/
def written : List Slot → String → String
  | [], last => last
  | slot :: rest, last => slot.before ++ "\x7b\x7b" ++ slot.rule ++ "\x7d\x7d" ++ written rest last

/-- The literal texts with a text in the place of each rule. -/
def filled : List Slot → List String → String → String
  | slot :: rest, text :: texts, last => slot.before ++ text ++ filled rest texts last
  | _, _, last => last

/-- A text on one line that braces are closed after, and not before. -/
structure IsBody (cs : List Char) : Prop where
  visible : ¬ Text.Blanks cs
  oneLine : '\n' ∉ cs
  noBraces : ¬ ['}', '}'] <:+: cs
  last : cs.getLast? ≠ some '}'

/-- Braces open after the literal text, and not before. -/
structure Slot.Plain (slot : Slot) : Prop where
  noBraces : ¬ ['{', '{'] <:+: slot.before.toList
  last : slot.before.toList.getLast? ≠ some '{'
  body : IsBody slot.rule.toList

instance (cs : List Char) : Decidable (IsBody cs) :=
  decidable_of_iff (¬ Text.Blanks cs ∧ '\n' ∉ cs ∧ ¬ ['}', '}'] <:+: cs ∧ cs.getLast? ≠ some '}')
    ⟨fun ⟨hv, ho, hb, hl⟩ => ⟨hv, ho, hb, hl⟩, fun h => ⟨h.visible, h.oneLine, h.noBraces, h.last⟩⟩

instance (slot : Slot) : Decidable slot.Plain :=
  decidable_of_iff
    (¬ ['{', '{'] <:+: slot.before.toList ∧ slot.before.toList.getLast? ≠ some '{' ∧ IsBody slot.rule.toList)
    ⟨fun ⟨hb, hl, hr⟩ => ⟨hb, hl, hr⟩, fun h => ⟨h.noBraces, h.last, h.body⟩⟩

/-- The text of a rule: of the value that it resolves to, once it has been read. -/
def IsTextOf (root : Tree) (rule text : String) : Prop :=
  ∃ reading resolution, (∀ notes, (outcome (Rule.parse rule true) notes).1 = .ok reading) ∧
    reading.resolve root = .ok resolution ∧ resolution.value.asField = text

/-! ### The end of a rule -/

theorem IsBody.of_append {front cs : List Char} (h : IsBody (front ++ cs)) (hv : ¬ Text.Blanks cs) : IsBody cs where
  visible := hv
  oneLine hmem := h.oneLine (List.mem_append_right _ hmem)
  noBraces hpart := h.noBraces (hpart.trans (List.suffix_append _ _).isInfix)
  last hlast := h.last (by rw [List.getLast?_append, hlast]; rfl)

theorem IsBody.trimStart {cs : List Char} (h : IsBody cs) : IsBody (Text.trimStart cs) := by
  obtain ⟨blanks, hb, hcs⟩ := Text.eq_append_trimStart cs
  have hvisible : ¬ Text.Blanks (Text.trimStart cs) := by
    intro hall
    have := hb.append hall
    rw [← hcs] at this
    exact h.visible this
  rw [hcs] at h
  exact h.of_append hvisible

theorem IsBody.ne_nil {cs : List Char} (h : IsBody cs) : cs ≠ [] := by
  rintro rfl
  exact h.visible (List.forall_mem_nil _)

theorem trimStart_append_of_isBody {cs : List Char} (h : IsBody cs) (tail : List Char) :
    Text.trimStart (cs ++ tail) = Text.trimStart cs ++ tail := by
  have hne := h.trimStart.ne_nil
  unfold Text.trimStart at hne ⊢
  rw [List.dropWhile_append, if_neg (by rwa [List.isEmpty_iff])]

/-- No braces close before a text that is left of a rule. -/
theorem close?_eq_none {cs : List Char} (h : IsBody cs) (tail : List Char) : close? (cs ++ tail) = none := by
  have hrest := h.trimStart
  rw [close?, trimStart_append_of_isBody h]
  exact Text.dropHead?_eq_none (Text.not_prefix_append hrest.ne_nil hrest.noBraces fun hlast => absurd hlast hrest.last)

theorem isBlank_brace (rest : List Char) : ∀ c, ('}' :: rest).head? = some c → Text.isBlank c = false := by
  intro c hc
  obtain rfl := Option.some.inj hc
  decide

theorem close?_blanks {blanks : List Char} (h : Text.Blanks blanks) (rest : List Char) :
    close? (blanks ++ '}' :: '}' :: rest) = some rest := by
  rw [close?, Text.trimStart_append h (isBlank_brace _)]
  rfl

/-- The body of a placeholder is the whole rule, but for the blanks at its end. -/
theorem body?_append {cs : List Char} (h : IsBody cs) (rest : List Char) :
    body? (cs ++ '}' :: '}' :: rest) = some (Text.trimEnd cs, rest) := by
  induction cs with
  | nil => exact absurd rfl h.ne_nil
  | cons c r ih =>
    have hc : c ≠ '\n' := fun hc => h.oneLine (hc ▸ List.mem_cons_self)
    rw [List.cons_append, body?, if_neg hc]
    -- the braces close here if only blanks are left of the rule, and not before
    by_cases hr : Text.Blanks r
    · have hvisible : Text.isBlank c = false :=
        Bool.eq_false_iff.mpr fun hblank => h.visible (List.forall_mem_cons.mpr ⟨hblank, hr⟩)
      rw [close?_blanks hr, Text.trimEnd_cons_of_blanks hvisible hr]
    · have hrest : IsBody r := @IsBody.of_append [c] r h hr
      rw [close?_eq_none hrest, ih hrest, Text.trimEnd_cons hr]
      rfl

theorem bodyAfter?_of_drop {cs : List Char} {n : Nat} {found : List Char × List Char}
    (h : body? (cs.drop n) = some found) : bodyAfter? cs n = some found := by
  cases n with
  | zero => exact h
  | succ n => rw [bodyAfter?, h, Option.some_or]

theorem placeholder?_append {rule : List Char} (h : IsBody rule) (rest : List Char) :
    placeholder? ('{' :: '{' :: (rule ++ '}' :: '}' :: rest)) = some (Text.trim rule, rest) := by
  let inner := rule ++ '}' :: '}' :: rest
  have hstart : inner.drop (inner.takeWhile Text.isBlank).length = Text.trimStart rule ++ '}' :: '}' :: rest := by
    have hdrop : (inner.takeWhile Text.isBlank ++ Text.trimStart inner).drop (inner.takeWhile Text.isBlank).length =
        Text.trimStart inner := List.drop_left
    rwa [Text.trimStart, List.takeWhile_append_dropWhile, ← Text.trimStart, trimStart_append_of_isBody h] at hdrop
  have hbody := body?_append h.trimStart rest
  rw [← hstart] at hbody
  exact bodyAfter?_of_drop hbody

/-! ### Literal texts -/

theorem placeholder?_eq_none {cs : List Char} (h : ¬ ['{', '{'] <+: cs) : placeholder? cs = none := by
  rw [placeholder?, Text.dropHead?_eq_none h]
  rfl

theorem pieces_literals {before rest : List Char} (h : ¬ ['{', '{'] <:+: before)
    (hseam : before.getLast? = some '{' → rest.head? ≠ some '{') {fuel : Nat} (hf : before.length ≤ fuel) :
    pieces fuel (before ++ rest) = before.map .literal ++ pieces (fuel - before.length) rest := by
  induction before generalizing fuel with
  | nil => rfl
  | cons c before ih =>
    obtain ⟨fuel, rfl⟩ : ∃ k, fuel = k + 1 := Nat.exists_eq_add_one.mpr (Nat.lt_of_lt_of_le (Nat.succ_pos _) hf)
    have hno := placeholder?_eq_none (Text.not_prefix_append (List.cons_ne_nil _ _) h hseam)
    have hrest : before.getLast? = some '{' → rest.head? ≠ some '{' := by
      intro hlast
      exact hseam (by rw [List.getLast?_cons, hlast]; rfl)
    rw [List.cons_append] at hno ⊢
    rw [pieces, hno]
    dsimp only
    rw [ih (fun hpart => h (List.infix_cons hpart)) hrest (Nat.le_of_succ_le_succ hf), List.length_cons,
      Nat.add_sub_add_right]
    rfl

/-! ### Whole templates -/

/-- The pieces that a template was put together from. -/
def piecesOf : List Slot → String → List Piece
  | [], last => last.toList.map .literal
  | slot :: rest, last => slot.before.toList.map .literal ++ .rule (trimmed slot.rule) :: piecesOf rest last

variable {slots : List Slot} {last : String}

theorem toList_written_cons (slot : Slot) (rest : List Slot) (last : String) :
    (written (slot :: rest) last).toList =
      slot.before.toList ++ '{' :: '{' :: (slot.rule.toList ++ '}' :: '}' :: (written rest last).toList) := by
  simp [written]

theorem pieces_written (h : ∀ slot ∈ slots, slot.Plain) (hlast : ¬ ['{', '{'] <:+: last.toList) {fuel : Nat}
    (hf : (written slots last).toList.length ≤ fuel) : pieces fuel (written slots last).toList = piecesOf slots last := by
  induction slots generalizing fuel with
  | nil =>
    have hpieces := @pieces_literals last.toList [] hlast (by simp) fuel hf
    rwa [List.append_nil, pieces, List.append_nil] at hpieces
  | cons slot rest ih =>
    obtain ⟨hslot, hrest⟩ := List.forall_mem_cons.mp h
    rw [toList_written_cons] at hf ⊢
    simp only [List.length_append, List.length_cons] at hf
    -- one step more is needed for the placeholder than for the characters before it
    obtain ⟨k, hk⟩ : ∃ k, fuel - slot.before.toList.length = k + 1 :=
      Nat.exists_eq_add_one.mpr (by omega)
    rw [pieces_literals hslot.noBraces (fun hlast => absurd hlast hslot.last) (by omega), hk, pieces,
      placeholder?_append hslot.body]
    dsimp only
    rw [ih hrest (by omega)]
    rfl

/-! ### The texts of rules -/

variable {root : Tree} {rule text : String}

/-- Blanks around a rule make no difference. -/
theorem fill_trimmed (root : Tree) (rule : String) : fill root (trimmed rule) = fill root rule := by
  have hdrop : Rule.dropMarker "@json:".toList (trimmed rule).toList = Rule.dropMarker "@json:".toList rule.toList := by
    simp only [Rule.dropMarker, trimmed, String.toList_ofList, Text.trim_trim]
  unfold fill Rule.parse
  rw [hdrop]

theorem breaks_trimmed_iff {fault : Fault} :
    Rule.Breaks root true (trimmed rule) fault ↔ Rule.Breaks root true rule fault := by
  calc Rule.Breaks root true (trimmed rule) fault
    _ ↔ (outcome (fill root (trimmed rule)) Notes.empty).1 = .error fault := outcome_fill_eq_error_iff.symm
    _ ↔ (outcome (fill root rule) Notes.empty).1 = .error fault := by rw [fill_trimmed]
    _ ↔ Rule.Breaks root true rule fault := outcome_fill_eq_error_iff

theorem IsTextOf.outcome_fill (h : IsTextOf root rule text) (notes : Notes) :
    (outcome (fill root rule) notes).1 = .ok text := by
  obtain ⟨reading, resolution, hread, hresolve, rfl⟩ := h
  rw [fill, outcome_bind_of_ok (hread notes), hresolve]
  rfl

/-- A rule has a text unless it breaks. -/
theorem exists_isTextOf_iff : (∃ text, IsTextOf root rule text) ↔ ∀ fault, ¬ Rule.Breaks root true rule fault := by
  constructor
  · rintro ⟨text, htext⟩ fault hbreaks
    have hfails : (outcome (fill root rule) Notes.empty).1 = .error fault := outcome_fill_eq_error_iff.mpr hbreaks
    cases (htext.outcome_fill Notes.empty).symm.trans hfails
  · intro h
    have hends : ¬ Rule.Endless rule true := fun hendless => h _ (.inl ⟨rfl, hendless⟩)
    cases hresolve : (Rule.readingOf rule true).resolve root with
    | ok resolution =>
      exact ⟨_, _, resolution, Rule.outcome_parse_of_not_endless hends, hresolve, rfl⟩
    | error fault =>
      obtain ⟨-, rfl, hover⟩ := Rule.resolve_eq_error_iff.mp hresolve
      exact absurd (.inr ⟨rfl, hends, hover⟩) (h .overflow)

/-- A rule that misses has the empty text. -/
theorem isTextOf_of_misses (hends : ¬ Rule.Endless rule true) (honly : (Rule.readingOf rule true).scriptOnly = false)
    (h : ∀ text ∈ Rule.alternativesOf rule true, Rule.Misses root text) : IsTextOf root rule "" := by
  refine ⟨_, ⟨.array [], none⟩, Rule.outcome_parse_of_not_endless hends, ?_, rfl⟩
  have hresolve := Rule.resolve_of_misses h (Rule.readingOf rule true).script?
  rwa [← honly] at hresolve

/-! ### Rendering -/

theorem renderPieces_literals (root : Tree) (cs : List Char) (pieces : List Piece) :
    renderPieces root (cs.map .literal ++ pieces) = (cs ++ ·) <$> renderPieces root pieces := by
  induction cs with
  | nil => simp
  | cons c cs ih =>
    rw [List.map_cons, List.cons_append, renderPieces, ih]
    simp

theorem outcome_renderPieces_written {texts : List String}
    (h : List.Forall₂ (fun slot text => IsTextOf root slot.rule text) slots texts) (last : String) (notes : Notes) :
    (outcome (renderPieces root (piecesOf slots last)) notes).1 = .ok (filled slots texts last).toList := by
  induction h generalizing notes with
  | nil =>
    have hlast := renderPieces_literals root last.toList []
    rw [List.append_nil] at hlast
    rw [piecesOf, hlast, outcome_map]
    simp [renderPieces, filled, Except.map]
  | @cons slot text slots texts htext _ ih =>
    have hfill := htext.outcome_fill notes
    rw [← fill_trimmed] at hfill
    rw [piecesOf, renderPieces_literals, outcome_map, renderPieces, outcome_bind_of_ok hfill, outcome_bind_of_ok (ih _)]
    simp [filled, Except.map]

theorem breaks_literals_iff {cs : List Char} {pieces : List Piece} {fault : Fault} :
    Breaks root (cs.map .literal ++ pieces) fault ↔ Breaks root pieces fault := by
  induction cs with
  | nil => rfl
  | cons c cs ih => exact breaks_literal_iff.trans ih

theorem breaks_piecesOf_iff {fault : Fault} :
    Breaks root (piecesOf slots last) fault ↔ Breaks root (slots.map fun slot => .rule slot.rule) fault := by
  induction slots with
  | nil =>
    refine iff_of_false ?_ not_breaks_nil
    have hliterals := @breaks_literals_iff root last.toList [] fault
    rw [List.append_nil] at hliterals
    exact fun h => not_breaks_nil (hliterals.mp h)
  | cons slot rest ih =>
    rw [piecesOf, breaks_literals_iff, List.map_cons, breaks_rule_iff, breaks_rule_iff, ih]
    simp only [breaks_trimmed_iff]

theorem outcome_render_written_eq_error_iff (h : ∀ slot ∈ slots, slot.Plain) (hlast : ¬ ['{', '{'] <:+: last.toList)
    {notes : Notes} {fault : Fault} : (outcome (render root (written slots last)) notes).1 = .error fault ↔
      Breaks root (slots.map fun slot => .rule slot.rule) fault := by
  rw [outcome_render_eq_error_iff, pieces_written h hlast (Nat.le_refl _), breaks_piecesOf_iff]

/-- Rendering joins the literal texts and the texts of the rules, whatever these texts hold.  A rule has a text, the empty one
if it misses, unless it breaks; the first rule that breaks is all that rendering fails of. -/
theorem render_written (h : ∀ slot ∈ slots, slot.Plain) (hlast : ¬ ['{', '{'] <:+: last.toList) (root : Tree)
    (notes : Notes) :
    (∀ texts, List.Forall₂ (fun slot text => IsTextOf root slot.rule text) slots texts →
      (outcome (render root (written slots last)) notes).1 = .ok (filled slots texts last)) ∧
    (∀ rule, ((∃ text, IsTextOf root rule text) ↔ ∀ fault, ¬ Rule.Breaks root true rule fault) ∧
      (¬ Rule.Endless rule true → (Rule.readingOf rule true).scriptOnly = false →
        (∀ text ∈ Rule.alternativesOf rule true, Rule.Misses root text) → IsTextOf root rule "")) ∧
    ∀ fault, (outcome (render root (written slots last)) notes).1 = .error fault ↔
      Breaks root (slots.map fun slot => .rule slot.rule) fault := by
  refine ⟨fun texts htexts => ?_, fun rule => ⟨exists_isTextOf_iff, isTextOf_of_misses⟩,
    fun fault => outcome_render_written_eq_error_iff h hlast⟩
  rw [render, pieces_written h hlast (Nat.le_refl _), outcome_bind_of_ok (outcome_renderPieces_written htexts last notes)]
  simp

/-- Braces in the document open no placeholder, and a rule may start with one. -/
theorem render_written_braces :
    (outcome (render (.object [("a", .text "\x7b\x7bb\x7d\x7d\\1"), ("b", .array [.integer 1, .boolean true])])
      "\x7d\\ \x7b\x7b \x7b|| a \x7d\x7d\x7d\x7b\x7bb\x7d\x7d\x7b\x7b$.c\x7d\x7d \x7b") Notes.empty).1 =
      .ok "\x7d\\ \x7b\x7bb\x7d\x7d\\1\x7d1,true \x7b" := by
  let root : Tree := .object [("a", .text "\x7b\x7bb\x7d\x7d\\1"), ("b", .array [.integer 1, .boolean true])]
  have hfirst : IsTextOf root " \x7b|| a " "\x7b\x7bb\x7d\x7d\\1" := ⟨_, _, fun _ => rfl, rfl, rfl⟩
  have hsecond : IsTextOf root "b" "1,true" := ⟨_, _, fun _ => rfl, rfl, rfl⟩
  have hthird : IsTextOf root "$.c" "" := ⟨_, _, fun _ => rfl, rfl, rfl⟩
  have hslots : ∀ slot ∈ ([⟨"\x7d\\ ", " \x7b|| a "⟩, ⟨"\x7d", "b"⟩, ⟨"", "$.c"⟩] : List Slot), slot.Plain := by
    decide
  have hlast : ¬ ['{', '{'] <:+: " \x7b".toList := by decide
  exact (render_written hslots hlast root Notes.empty).1 _ (.cons hfirst (.cons hsecond (.cons hthird .nil)))

/-- A filter meets an integer beyond the range, and rendering does not return although the template is well put together. -/
theorem render_written_overflows :
    (⟨"", "$..[?(@.a==1)]"⟩ : Slot).Plain ∧ ¬ ['{', '{'] <:+: "".toList ∧
      (outcome (render (.object [("a", .integer overflowBound)]) (written [⟨"", "$..[?(@.a==1)]"⟩] "")) Notes.empty).1 =
        .error .overflow := by
  let root (n : Int) : Tree := .object [("a", .integer n)]
  have hplain : (⟨"", "$..[?(@.a==1)]"⟩ : Slot).Plain := by decide
  have hlast : ¬ ['{', '{'] <:+: "".toList := by decide
  have hself (n : Int) : root n ∈ (root n).preorder := by
    rw [Tree.preorder_eq]
    exact List.mem_cons_self
  have hover : (⟨"$..[?(@.a==1)]", [.filter "a" (some "1")]⟩ : Path).Overflows (root overflowBound) := by
    refine Path.overflows_cons_iff.mpr (.inl ⟨"a", "1", rfl, root overflowBound, hself _, ?_⟩)
    exact Tree.overflows_iff.mpr ⟨by decide, _, rfl, Nat.le_of_eq (Int.natAbs_natCast overflowBound).symm⟩
  have halternatives : Rule.alternativesOf "$..[?(@.a==1)]" true = ["$..[?(@.a==1)]"] := by decide +kernel
  have hparse : Path.parse "$..[?(@.a==1)]" = .ok ⟨"$..[?(@.a==1)]", [.filter "a" (some "1")]⟩ := by rfl
  have hends : ¬ Rule.Endless "$..[?(@.a==1)]" true := by simp [Rule.endless_iff, halternatives, hparse]
  have hpaths : (Rule.readingOf "$..[?(@.a==1)]" true).paths = [⟨"$..[?(@.a==1)]", [.filter "a" (some "1")]⟩] := by
    rw [Rule.paths_readingOf, halternatives, Rule.pathsOf_cons_ok hparse]
    rfl
  refine ⟨hplain, hlast, (outcome_render_written_eq_error_iff (List.forall_mem_singleton.mpr hplain) hlast).mpr ?_⟩
  exact ⟨[], _, [], rfl, nofun, .inr ⟨rfl, hends, [], _, [], hpaths, nofun, hover⟩⟩

end SiteReader.Template
