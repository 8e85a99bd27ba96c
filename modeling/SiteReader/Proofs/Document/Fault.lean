import SiteReader.Document.Extract
import SiteReader.Proofs.Excerpt.Fault
import SiteReader.Proofs.Rule.Whole

/-!
# What can go wrong with rules

Rules are lenient, and all that they can fail of is told by what they are used for: a rule for trees fails of an endless index
or of an evaluation that overflows (`Rule.Breaks`), a template of the first of its rules that fails (`Template.Breaks`), and a
rule for pages in the ways of `Excerpt.Breaks`.  Nothing else makes an extraction fail (`rules_fail_only`).
-/

namespace SiteReader

/-! ### Scripts -/

theorem outcome_apply_ne_error (evaluator? : Option Evaluator) (resolution : Resolution) (notes : Notes) (fault : Fault) :
    (outcome (resolution.apply evaluator?) notes).1 ≠ .error fault := by
  unfold Resolution.apply
  split
  next =>
    split
    next => exact Excerpt.outcome_runScript_ne_error _ _ _ _ _
    next => nofun
  next => nofun

/-! ### Templates -/

namespace Template

/-- What a template can fail of: the first of its rules that fails. -/
def Breaks (root : Tree) (pieces : List Piece) (fault : Fault) : Prop :=
  ∃ before text after, pieces = before ++ .rule text :: after ∧
    (∀ other, .rule other ∈ before → ∀ fault, ¬ Rule.Breaks root true other fault) ∧ Rule.Breaks root true text fault

theorem outcome_fill_eq_error_iff {root : Tree} {rule : String} {notes : Notes} {fault : Fault} :
    (outcome (fill root rule) notes).1 = .error fault ↔ Rule.Breaks root true rule fault := by
  have hfill : fill root rule = (do let rule ← Rule.parse rule true; Noted.ofExcept (rule.resolve root)) >>=
      fun resolution => pure resolution.value.asField := by
    rw [bind_assoc]
    rfl
  rw [hfill, outcome_bind_eq_error_iff_left (by simp), Rule.outcome_resolve_eq_error_iff]

theorem not_breaks_nil {root : Tree} {fault : Fault} : ¬ Breaks root [] fault := by
  rintro ⟨before, text, after, hpieces, -⟩
  exact absurd hpieces (by simp)

theorem breaks_literal_iff {root : Tree} {c : Char} {pieces : List Piece} {fault : Fault} :
    Breaks root (.literal c :: pieces) fault ↔ Breaks root pieces fault := by
  constructor
  · rintro ⟨before, text, after, hpieces, hbefore, hbreaks⟩
    cases before with
    | nil => cases hpieces
    | cons piece before =>
      obtain ⟨rfl, rfl⟩ := List.cons.inj hpieces
      exact ⟨before, text, after, rfl, fun other ho => hbefore other (List.mem_cons_of_mem _ ho), hbreaks⟩
  · rintro ⟨before, text, after, rfl, hbefore, hbreaks⟩
    refine ⟨.literal c :: before, text, after, rfl, fun other ho => hbefore other ?_, hbreaks⟩
    exact (List.mem_cons.mp ho).resolve_left nofun

theorem breaks_rule_iff {root : Tree} {rule : String} {pieces : List Piece} {fault : Fault} :
    Breaks root (.rule rule :: pieces) fault ↔
      Rule.Breaks root true rule fault ∨ (∀ fault, ¬ Rule.Breaks root true rule fault) ∧ Breaks root pieces fault := by
  constructor
  · rintro ⟨before, text, after, hpieces, hbefore, hbreaks⟩
    cases before with
    | nil =>
      obtain ⟨heq, -⟩ := List.cons.inj hpieces
      obtain rfl := Piece.rule.inj heq
      exact .inl hbreaks
    | cons piece before =>
      obtain ⟨rfl, rfl⟩ := List.cons.inj hpieces
      exact .inr ⟨hbefore rule List.mem_cons_self, before, text, after, rfl,
        fun other ho => hbefore other (List.mem_cons_of_mem _ ho), hbreaks⟩
  · rintro (hbreaks | ⟨hno, before, text, after, rfl, hbefore, hbreaks⟩)
    · exact ⟨[], rule, pieces, rfl, nofun, hbreaks⟩
    · refine ⟨.rule rule :: before, text, after, rfl, fun other ho => ?_, hbreaks⟩
      rcases List.mem_cons.mp ho with heq | ho
      · obtain rfl := Piece.rule.inj heq
        exact hno
      · exact hbefore other ho

theorem outcome_renderPieces_eq_error_iff {root : Tree} {pieces : List Piece} {notes : Notes} {fault : Fault} :
    (outcome (renderPieces root pieces) notes).1 = .error fault ↔ Breaks root pieces fault := by
  induction pieces generalizing notes with
  | nil => exact iff_of_false nofun not_breaks_nil
  | cons piece rest ih =>
    cases piece with
    | literal c =>
      rw [breaks_literal_iff, renderPieces, outcome_bind_eq_error_iff_left (by simp)]
      exact ih
    | rule text =>
      have hrest (a : String) (notes : Notes) : (outcome (do return a.toList ++ (← renderPieces root rest)) notes).1 =
          .error fault ↔ Breaks root rest fault := by
        rw [outcome_bind_eq_error_iff_left (by simp)]
        exact ih
      rw [breaks_rule_iff, renderPieces, outcome_bind_eq_error_iff, outcome_fill_eq_error_iff]
      refine or_congr_right ⟨?_, ?_⟩
      · rintro ⟨a, hok, h⟩
        refine ⟨fun other hother => ?_, (hrest a _).mp h⟩
        cases hok.symm.trans (outcome_fill_eq_error_iff.mpr hother)
      · rintro ⟨hno, h⟩
        cases hok : (outcome (fill root text) notes).1 with
        | error other => exact absurd (outcome_fill_eq_error_iff.mp hok) (hno other)
        | ok a => exact ⟨a, rfl, (hrest a _).mpr h⟩

theorem outcome_render_eq_error_iff {root : Tree} {template : String} {notes : Notes} {fault : Fault} :
    (outcome (render root template) notes).1 = .error fault ↔
      Breaks root (pieces template.toList.length template.toList) fault := by
  unfold render
  rw [outcome_bind_eq_error_iff_left (by simp)]
  exact outcome_renderPieces_eq_error_iff

end Template

/-! ### Fields -/

namespace Tree

/-- What a rule for a field of a tree can fail of. -/
def FieldBreaks (root : Tree) (rule : String) (fault : Fault) : Prop :=
  if Text.hasMark ['{', '{'] rule.toList then
    Template.Breaks root (Template.pieces rule.toList.length rule.toList) fault
  else Rule.Breaks root true rule fault

theorem fieldText_of_no_template {rule : String} (h : Text.hasMark ['{', '{'] rule.toList = false)
    (evaluator? : Option Evaluator) (root : Tree) :
    root.fieldText evaluator? rule =
      (do let rule ← Rule.parse rule true; Noted.ofExcept (rule.resolve root)) >>= fun resolution => do
        return (← resolution.apply evaluator?).asField := by
  rw [bind_assoc]
  exact if_neg (Bool.eq_false_iff.mp h)

theorem outcome_fieldText_eq_error_iff {evaluator? : Option Evaluator} {root : Tree} {rule : String} {notes : Notes}
    {fault : Fault} : (outcome (root.fieldText evaluator? rule) notes).1 = .error fault ↔ root.FieldBreaks rule fault := by
  unfold FieldBreaks
  split
  next h =>
    rw [fieldText, if_pos h]
    exact Template.outcome_render_eq_error_iff
  next h =>
    rw [fieldText_of_no_template (Bool.eq_false_iff.mpr h), outcome_bind_eq_error_iff_left, Rule.outcome_resolve_eq_error_iff]
    intro resolution notes
    rw [Ne, outcome_bind_eq_error_iff_left (by simp)]
    exact outcome_apply_ne_error evaluator? resolution notes fault

/-- Without a rule there is nothing to fail. -/
theorem not_fieldBreaks_empty (root : Tree) (fault : Fault) : ¬ root.FieldBreaks "" fault := by
  have hends : ¬ Rule.Endless "" true := by
    rw [Rule.endless_iff]
    nofun
  rintro (⟨-, hendless⟩ | ⟨-, -, before, path, after, hpaths, -⟩)
  · exact hends hendless
  · exact absurd hpaths (by simp [Rule.readingOf, show Rule.alternativesOf "" true = [] from rfl, Rule.pathsOf])

end Tree

namespace Document

theorem outcome_treeField_eq_error_iff {evaluator? : Option Evaluator} {base rule : String} {root : Tree} {notes : Notes}
    {fault : Fault} :
    (outcome ((tree root).fieldText evaluator? base rule) notes).1 = .error fault ↔ root.FieldBreaks rule fault := by
  unfold fieldText
  split
  next hempty =>
    obtain rfl := String.isEmpty_iff.mp hempty
    exact iff_of_false nofun (root.not_fieldBreaks_empty fault)
  next => exact Tree.outcome_fieldText_eq_error_iff

end Document

end SiteReader
