import SiteReader.Document.Extract
import SiteReader.Proofs.Notes

/-!
# What extraction notes

Reading and resolving rules, rendering templates and selecting from pages warn of what they skip and call no evaluator.
Only scripts do, and they are run by the fields of a document and by the items of a list: what those come to does not depend
on what has been noted before (`isUniform_fieldText`), and an evaluator that gives its value back makes no difference to them
but for the calls (`mirrors_fieldText`, `mirrors_rows`).
-/

namespace SiteReader

open Noted (IsUniform IsSilent Mirrors)

/-! ### Rules -/

namespace Rule

theorem isSilent_readPaths (bareKeys : Bool) (candidates : List (List Char)) : IsSilent (readPaths bareKeys candidates) := by
  induction candidates with
  | nil => exact .pure _
  | cons candidate rest ih =>
    rw [readPaths]
    split
    next => exact ih.bind fun _ => .pure _
    next => exact .throw _
    next => exact (IsSilent.warn _).bind fun _ => ih

theorem isSilent_parse (raw : String) (bareKeys : Bool) : IsSilent (parse raw bareKeys) := by
  unfold parse
  dsimp only
  split
  next => exact .pure _
  next => exact (isSilent_readPaths _ _).bind fun _ => .pure _

end Rule

namespace Template

theorem isSilent_fill (root : Tree) (rule : String) : IsSilent (fill root rule) :=
  (Rule.isSilent_parse rule true).bind fun _ => (IsSilent.ofExcept _).bind fun _ => .pure _

theorem isSilent_renderPieces (root : Tree) (pieces : List Piece) : IsSilent (renderPieces root pieces) := by
  induction pieces with
  | nil => exact .pure _
  | cons piece rest ih =>
    cases piece with
    | literal c => exact ih.bind fun _ => .pure _
    | rule text => exact (isSilent_fill root text).bind fun _ => ih.bind fun _ => .pure _

theorem isSilent_render (root : Tree) (template : String) : IsSilent (render root template) :=
  (isSilent_renderPieces root _).bind fun _ => .pure _

end Template

/-! ### Pages -/

namespace Excerpt

theorem isSilent_narrow (text pattern : String) : IsSilent (narrow text pattern) := by
  unfold narrow
  split
  next => exact (IsSilent.warn _).bind fun _ => .pure _
  next => exact .throw _
  next => exact .throw _
  next => split <;> exact .pure _

theorem isSilent_elements (page : List Markup) (option : String) (chain : Chain) :
    IsSilent (elements page option chain) := by
  unfold elements
  split
  next => exact .pure _
  next =>
    refine (IsSilent.ofExcept _).bind fun found? => ?_
    cases found? with
    | none => exact (IsSilent.warn _).bind fun _ => .pure _
    | some found => exact .pure _

theorem isSilent_alternativeText (page : List Markup) (pattern base option : String) :
    IsSilent (alternativeText page pattern base option) := by
  unfold alternativeText
  dsimp only
  refine (isSilent_elements page option _).bind fun found => ?_
  cases found with
  | nil => exact .pure _
  | cons node rest =>
    have hcompleted (text : String) : IsSilent (Noted.ofExcept (completed base (Chain.parse option).attribute? text)) :=
      .ofExcept _
    dsimp only
    split
    next => exact (IsSilent.pure _).bind fun text => hcompleted text
    next => exact (isSilent_narrow _ _).bind fun found => (IsSilent.pure (trimmed found)).bind fun text => hcompleted text

theorem isSilent_firstText (page : List Markup) (pattern base : String) (options : List String) :
    IsSilent (firstText page pattern base options) := by
  induction options with
  | nil => exact .pure _
  | cons option rest ih =>
    refine (isSilent_alternativeText page pattern base option).bind fun text => ?_
    split
    next => exact ih
    next => exact .pure _

theorem isSilent_selectText (html rule base : String) : IsSilent (selectText html rule base) := by
  unfold selectText
  split
  next => exact .pure _
  next =>
    dsimp only
    split
    next => exact .pure _
    next => exact (IsSilent.ofExcept _).bind fun _ => isSilent_firstText _ _ _ _

theorem isSilent_firstElements (page : List Markup) (options : List String) : IsSilent (firstElements page options) := by
  induction options with
  | nil => exact .pure _
  | cons option rest ih =>
    refine (isSilent_elements page option _).bind fun found => ?_
    cases found with
    | nil => exact ih
    | cons node others => exact .pure _

theorem isSilent_selectList (html rule : String) : IsSilent (selectList html rule) := by
  unfold selectList
  split
  next => exact .pure _
  next => exact (IsSilent.ofExcept _).bind fun _ => (isSilent_firstElements _ _).bind fun _ => .pure _

end Excerpt

/-! ### Scripts -/

/-- The evaluator that gives each value back. -/
def passthrough : Evaluator :=
  fun _ value => value

theorem adds_runScript (evaluator : Evaluator) (script : String) (value : Tree) :
    Noted.Adds (runScript (some evaluator) script value) (.ok (evaluator script value)) [] [(script, value)] :=
  (Noted.Adds.noteCall script value).bind (.pure _)

theorem isUniform_runScript (evaluator? : Option Evaluator) (script : String) (value : Tree) :
    IsUniform (runScript evaluator? script value) := by
  cases evaluator? with
  | none => exact (IsSilent.pure _).uniform
  | some evaluator => exact ⟨_, _, _, adds_runScript evaluator script value⟩

theorem mirrors_runScript (script : String) (value : Tree) :
    Mirrors (runScript none script value) (runScript (some passthrough) script value) :=
  ⟨_, _, _, .pure value, adds_runScript passthrough script value⟩

theorem isUniform_apply (evaluator? : Option Evaluator) (resolution : Resolution) :
    IsUniform (resolution.apply evaluator?) := by
  unfold Resolution.apply
  split
  next =>
    split
    next => exact isUniform_runScript _ _ _
    next => exact (IsSilent.pure _).uniform
  next => exact (IsSilent.pure _).uniform

theorem mirrors_apply (resolution : Resolution) : Mirrors (resolution.apply none) (resolution.apply (some passthrough)) := by
  unfold Resolution.apply
  split
  next =>
    split
    next => exact mirrors_runScript _ _
    next => exact (IsSilent.pure _).mirrors
  next => exact (IsSilent.pure _).mirrors

/-! ### Fields -/

theorem Tree.isUniform_fieldText (evaluator? : Option Evaluator) (root : Tree) (rule : String) :
    IsUniform (root.fieldText evaluator? rule) := by
  unfold fieldText
  split
  next => exact (Template.isSilent_render root rule).uniform
  next =>
    exact (Rule.isSilent_parse rule true).uniform.bind fun _ => (IsSilent.ofExcept _).uniform.bind fun resolution =>
      (isUniform_apply evaluator? resolution).bind fun _ => (IsSilent.pure _).uniform

theorem Tree.mirrors_fieldText (root : Tree) (rule : String) :
    Mirrors (root.fieldText none rule) (root.fieldText (some passthrough) rule) := by
  unfold fieldText
  split
  next => exact (Template.isSilent_render root rule).mirrors
  next =>
    exact (Rule.isSilent_parse rule true).mirrors.bind fun _ => (IsSilent.ofExcept _).mirrors.bind fun resolution =>
      (mirrors_apply resolution).bind fun _ => (IsSilent.pure _).mirrors

namespace Excerpt

theorem isUniform_fieldText (evaluator? : Option Evaluator) (html base rule : String) :
    IsUniform (fieldText evaluator? html base rule) := by
  have hrun (script : List Char) (text : String) : IsUniform
      (do return (← runScript evaluator? (String.ofList script) (.text text)).asField : Noted String) :=
    (isUniform_runScript _ _ _).bind fun _ => (IsSilent.pure _).uniform
  unfold fieldText
  dsimp only
  split
  next => exact (isSilent_selectText _ _ _).uniform
  next script _ =>
    split
    next => exact hrun script html
    next =>
      refine (isSilent_selectText _ _ _).uniform.bind fun text => ?_
      split
      next => exact (IsSilent.pure _).uniform
      next => exact hrun script text

/-- A text is given to a script and back as it is. -/
theorem mirrors_fieldText (html base rule : String) :
    Mirrors (fieldText none html base rule) (fieldText (some passthrough) html base rule) := by
  have hrun (script : List Char) (text : String) : Mirrors
      (do return (← runScript none (String.ofList script) (.text text)).asField : Noted String)
      (do return (← runScript (some passthrough) (String.ofList script) (.text text)).asField) :=
    (mirrors_runScript _ _).bind fun _ => (IsSilent.pure _).mirrors
  unfold fieldText
  dsimp only
  split
  next => exact (isSilent_selectText _ _ _).mirrors
  next script _ =>
    split
    next => exact hrun script html
    next =>
      refine (isSilent_selectText _ _ _).mirrors.bind fun text => ?_
      cases htext : text.isEmpty with
      | true => exact (IsSilent.pure _).mirrors
      | false => exact hrun script text

end Excerpt

namespace Document

theorem fieldText_of_ne {rule : String} (hne : rule ≠ "") (evaluator? : Option Evaluator) (base : String) (document : Document) :
    document.fieldText evaluator? base rule = match document with
      | .tree root => root.fieldText evaluator? rule
      | .page html => Excerpt.fieldText evaluator? html base rule :=
  if_neg fun hempty => hne (String.isEmpty_iff.mp hempty)

theorem isUniform_fieldText (evaluator? : Option Evaluator) (base rule : String) (document : Document) :
    IsUniform (document.fieldText evaluator? base rule) := by
  unfold fieldText
  split
  next => exact (IsSilent.pure _).uniform
  next =>
    cases document with
    | tree root => exact root.isUniform_fieldText evaluator? rule
    | page html => exact Excerpt.isUniform_fieldText evaluator? html base rule

theorem mirrors_fieldText (base rule : String) (document : Document) :
    Mirrors (document.fieldText none base rule) (document.fieldText (some passthrough) base rule) := by
  unfold fieldText
  split
  next => exact (IsSilent.pure _).mirrors
  next =>
    cases document with
    | tree root => exact root.mirrors_fieldText rule
    | page html => exact Excerpt.mirrors_fieldText html base rule

/-! ### Lists -/

theorem mirrors_treeItems (root : Tree) (rule : String) :
    Mirrors (treeItems none root rule) (treeItems (some passthrough) root rule) := by
  refine (Rule.isSilent_parse rule true).mirrors.bind fun _ => (IsSilent.ofExcept _).mirrors.bind fun resolution =>
    (mirrors_apply resolution).bind fun value => ?_
  split <;> exact (IsSilent.pure _).mirrors

theorem mirrors_items (rule : String) (document : Document) :
    Mirrors (document.items none rule) (document.items (some passthrough) rule) := by
  unfold items
  split
  next => exact (IsSilent.pure _).mirrors
  next =>
    cases document with
    | tree root => exact mirrors_treeItems root rule
    | page html =>
      dsimp only
      exact ((Excerpt.isSilent_selectList html rule).bind fun found => .pure (found.map Tree.text)).mirrors

theorem mirrors_row {field other : String → Noted String} (h : ∀ rule, Mirrors (field rule) (other rule))
    (fields : List (String × String)) : Mirrors (row field fields) (row other fields) := by
  induction fields with
  | nil => exact (IsSilent.pure _).mirrors
  | cons entry rest ih =>
    rw [row, row]
    split
    next => exact ih
    next => exact (h entry.2).bind fun _ => ih.bind fun _ => (IsSilent.pure _).mirrors

theorem mirrors_rows (base listRule : String) (fields : List (String × String)) (document : Document) :
    Mirrors (document.rows none base listRule fields) (document.rows (some passthrough) base listRule fields) := by
  refine (mirrors_items listRule document).bind fun found => ?_
  cases document with
  | tree root => exact .mapM (fun item => mirrors_row item.mirrors_fieldText fields) found
  | page html =>
    have hrow (item : Tree) : Mirrors (row (Excerpt.fieldText none item.plainText base) fields)
        (row (Excerpt.fieldText (some passthrough) item.plainText base) fields) :=
      mirrors_row (Excerpt.mirrors_fieldText item.plainText base) fields
    exact .mapM hrow found

end Document

end SiteReader
