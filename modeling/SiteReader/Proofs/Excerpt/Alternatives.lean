import SiteReader.Proofs.Document.Note
import SiteReader.Proofs.Excerpt.Fault
import SiteReader.Proofs.Text.Mark

/-!
# Options of rules for pages

A rule is cut into the options that it was put together from (`splitPattern_ruleOf`, `alternatives_intercalate`), so that it
tries just what each of them is alone, one after the other (`options_in_order`).  An option with an invalid selector comes to
nothing and the next one is tried (`comesToNothing_elements`).  An option that fails ends the rule, also if it fails of a
selector that could have been passed over (`options_fail_pseudo_element`).
-/

namespace SiteReader

/-! ### Computations in order -/

namespace Noted

variable {α β : Type}

/-- Runs computations up to the first one that gives something that is not empty, and gives that. -/
def firstFilled (isEmpty : α → Bool) (nothing : α) : List (Noted α) → Noted α
  | [] => pure nothing
  | x :: rest => do
    let a ← x
    if isEmpty a then firstFilled isEmpty nothing rest else return a

variable {isEmpty : α → Bool} {nothing : α}

theorem firstFilled_singleton (h : ∀ a, isEmpty a = true → a = nothing) (x : Noted α) :
    firstFilled isEmpty nothing [x] = x := by
  have hkept (a : α) : (if isEmpty a then pure nothing else pure a : Noted α) = pure a := by
    cases he : isEmpty a with
    | true => rw [h a he]; rfl
    | false => rfl
  simp only [firstFilled, hkept, bind_pure]

/-- Where all computations give a value, it is the first of these that is not empty. -/
theorem outcome_firstFilled {xs : List (Noted α)} (hu : ∀ x ∈ xs, IsUniform x) {values : List α}
    (h : List.Forall₂ (fun x a => (outcome x Notes.empty).1 = .ok a) xs values) (notes : Notes) :
    (outcome (firstFilled isEmpty nothing xs) notes).1 = .ok ((values.find? fun a => !isEmpty a).getD nothing) := by
  induction h generalizing notes with
  | nil => rfl
  | @cons x a xs values hx _ ih =>
    obtain ⟨hux, hrest⟩ := List.forall_mem_cons.mp hu
    rw [firstFilled, outcome_bind_of_ok ((hux.outcome_fst notes).trans hx), List.find?_cons]
    cases he : isEmpty a with
    | true => exact ih hrest _
    | false => rfl

theorem map_firstFilled {f : α → β} {isEmpty' : β → Bool} (h : ∀ a, isEmpty' (f a) = isEmpty a) (xs : List (Noted α)) :
    f <$> firstFilled isEmpty nothing xs = firstFilled isEmpty' (f nothing) (xs.map fun x => f <$> x) := by
  induction xs with
  | nil => rfl
  | cons x rest ih =>
    rw [List.map_cons, firstFilled, firstFilled, map_bind, bind_map_left]
    refine bind_congr fun a => ?_
    rw [h, ← ih]
    cases isEmpty a <;> rfl

/-- A computation tries others in order: it does what they do, up to the first one that gives something that is not empty.
So it gives the first value that is not empty where all of them give one. -/
structure Tries (isEmpty : α → Bool) (nothing : α) (x : Noted α) (xs : List (Noted α)) : Prop where
  same : x = firstFilled isEmpty nothing xs
  value : ∀ values, List.Forall₂ (fun y a => (outcome y Notes.empty).1 = .ok a) xs values →
    ∀ notes, (outcome x notes).1 = .ok ((values.find? fun a => !isEmpty a).getD nothing)

theorem Tries.of_eq {x : Noted α} {xs : List (Noted α)} (hu : ∀ y ∈ xs, IsUniform y)
    (h : x = firstFilled isEmpty nothing xs) : Tries isEmpty nothing x xs where
  same := h
  value values hvalues notes := by
    rw [h]
    exact outcome_firstFilled hu hvalues notes

end Noted

namespace Excerpt

open Noted (IsUniform Tries firstFilled)

/-! ### Cutting rules -/

/-- A text that may stand as an option between bars and before a regular expression. -/
structure IsOption (option : String) : Prop where
  bar : '|' ∉ option.toList
  mark : ¬ ['#', '#'] <:+: option.toList
  last : option.toList.getLast? ≠ some '#'
  selector : isLiteral option.toList = false

instance (option : String) : Decidable (IsOption option) :=
  decidable_of_iff ('|' ∉ option.toList ∧ ¬ ['#', '#'] <:+: option.toList ∧ option.toList.getLast? ≠ some '#' ∧
      isLiteral option.toList = false)
    ⟨fun ⟨hbar, hmark, hlast, hselector⟩ => ⟨hbar, hmark, hlast, hselector⟩,
      fun ⟨hbar, hmark, hlast, hselector⟩ => ⟨hbar, hmark, hlast, hselector⟩⟩

/-- Options with bars between them, and a regular expression after them if there is one. -/
def ruleOf (options : List String) (pattern? : Option String) : String :=
  "||".intercalate options ++ pattern?.elim "" fun pattern => "##" ++ pattern

variable {html base : String} {page : List Markup} {options : List String} {pattern? : Option String}

theorem splitPattern_ruleOf (h : ∀ option ∈ options, IsOption option) (pattern? : Option String) :
    splitPattern (ruleOf options pattern?) =
      (['|', '|'].intercalate (options.map String.toList), (pattern?.getD "").toList) := by
  have hmark : ¬ ['#', '#'] <:+: ['|', '|'].intercalate (options.map String.toList) := by
    intro hmark
    obtain ⟨_, hmem, hmark⟩ := Text.infix_of_infix_intercalate (by decide) (by decide) hmark
    obtain ⟨option, hoption, rfl⟩ := List.mem_map.mp hmem
    exact (h option hoption).mark hmark
  have hlast : (['|', '|'].intercalate (options.map String.toList)).getLast? ≠ some '#' :=
    Text.getLast?_intercalate_ne (by decide) (List.forall_mem_map.mpr fun option hoption => (h option hoption).last)
  have hrule : (ruleOf options pattern?).toList =
      ['|', '|'].intercalate (options.map String.toList) ++ pattern?.elim [] fun pattern => '#' :: '#' :: pattern.toList := by
    rw [ruleOf, String.toList_append, String.toList_intercalate]
    cases pattern? with
    | none => rfl
    | some pattern =>
      rw [Option.elim_some, String.toList_append]
      rfl
  unfold splitPattern
  rw [hrule]
  cases pattern? with
  | none =>
    rw [Option.elim_none, List.append_nil, Text.cut?_eq_none_iff.mpr hmark]
    rfl
  | some pattern =>
    rw [Option.elim_some, Text.cut?_append_double hmark hlast]
    rfl

theorem isLiteral_intercalate (h : ∀ option ∈ options, IsOption option) :
    isLiteral (['|', '|'].intercalate (options.map String.toList)) = false := by
  refine Bool.eq_false_iff.mpr fun hliteral => ?_
  rw [isLiteral, Bool.and_eq_true, Bool.not_eq_true', List.any_eq_false, List.any_eq_true] at hliteral
  obtain ⟨hselector, c, hc, hideograph⟩ := hliteral
  have hbar : c ∉ ['|', '|'] := by
    intro hbar
    obtain rfl : c = '|' := by simpa using hbar
    exact absurd hideograph (by decide)
  obtain ⟨_, hmem, hc⟩ := (Text.mem_of_mem_intercalate hc).resolve_left hbar
  obtain ⟨option, hoption, rfl⟩ := List.mem_map.mp hmem
  -- the option with the ideograph has no more marks of selectors than all of them together
  refine Bool.eq_false_iff.mp (h option hoption).selector ?_
  rw [isLiteral, Bool.and_eq_true, Bool.not_eq_true', List.any_eq_false, List.any_eq_true]
  exact ⟨fun d hd => hselector d ((Text.isInfix_intercalate _ hmem).subset hd), c, hc, hideograph⟩

theorem alternatives_intercalate (hne : options ≠ []) (h : ∀ option ∈ options, '|' ∉ option.toList) :
    alternatives (['|', '|'].intercalate (options.map String.toList)) = options := by
  have hne : options.map String.toList ≠ [] := fun hnil => hne (List.map_eq_nil_iff.mp hnil)
  rw [alternatives, Text.splitOn_intercalate hne (List.forall_mem_map.mpr h), List.map_map]
  simp [Function.comp_def]

/-! ### Options of a page -/

theorem firstText_eq (page : List Markup) (pattern base : String) (options : List String) :
    firstText page pattern base options =
      firstFilled String.isEmpty "" (options.map (alternativeText page pattern base)) := by
  induction options with
  | nil => rfl
  | cons option rest ih => rw [firstText, List.map_cons, firstFilled, ih]

theorem firstElements_eq (page : List Markup) (options : List String) :
    firstElements page options =
      firstFilled List.isEmpty [] (options.map fun option => elements page option (Chain.parse option)) := by
  induction options with
  | nil => rfl
  | cons option rest ih =>
    rw [firstElements, List.map_cons, firstFilled, ih]
    refine bind_congr fun found => ?_
    cases found <;> rfl

/-- A rule without a character has the empty option alone. -/
theorem options_of_isEmpty (hne : options ≠ []) (h : ∀ option ∈ options, '|' ∉ option.toList)
    (he : (ruleOf options pattern?).isEmpty = true) : options = [""] := by
  rw [String.isEmpty_iff, ← String.toList_eq_nil_iff, ruleOf, String.toList_append, String.toList_intercalate,
    List.append_eq_nil_iff] at he
  have hoptions := alternatives_intercalate hne h
  rw [show ['|', '|'].intercalate (options.map String.toList) = [] from he.1] at hoptions
  exact hoptions.symm

theorem selectText_ruleOf (hp : Markup.parse html = .ok page) (hne : options ≠ []) (h : ∀ option ∈ options, IsOption option)
    (pattern? : Option String) (base : String) :
    selectText html (ruleOf options pattern?) base =
      firstFilled String.isEmpty "" (options.map (alternativeText page (pattern?.getD "") base)) := by
  have hbars : ∀ option ∈ options, '|' ∉ option.toList := fun option ho => (h option ho).bar
  rw [selectText_eq, splitPattern_ruleOf h, isLiteral_intercalate h, alternatives_intercalate hne hbars, hp,
    String.ofList_toList, ← firstText_eq]
  split
  next he =>
    obtain rfl := options_of_isEmpty hne hbars he
    rfl
  next => rfl

theorem toList_ruleOf_none (options : List String) :
    (ruleOf options none).toList = ['|', '|'].intercalate (options.map String.toList) := by
  rw [ruleOf, String.toList_append, String.toList_intercalate]
  exact List.append_nil _

theorem selectList_ruleOf (hp : Markup.parse html = .ok page) (hne : options ≠ [])
    (h : ∀ option ∈ options, '|' ∉ option.toList) : selectList html (ruleOf options none) = firstFilled List.isEmpty []
      (options.map fun option => List.map Markup.outer <$> elements page option (Chain.parse option)) := by
  have hmap : List.map Markup.outer <$> firstElements page options = firstFilled List.isEmpty []
      (options.map fun option => List.map Markup.outer <$> elements page option (Chain.parse option)) := by
    have hempty (found : List Markup) : (found.map Markup.outer).isEmpty = found.isEmpty := List.isEmpty_map
    rw [firstElements_eq, Noted.map_firstFilled hempty, List.map_map]
    rfl
  rw [selectList, toList_ruleOf_none, alternatives_intercalate hne h, hp]
  split
  next he =>
    obtain rfl := options_of_isEmpty hne h he
    rfl
  next => exact hmap

theorem ruleOf_singleton (option : String) : ruleOf [option] none = option := by
  rw [← String.toList_inj, toList_ruleOf_none]
  exact List.intercalate_singleton

section

variable (hp : Markup.parse html = .ok page) {option : String} (h : IsOption option)

include hp h

theorem selectText_option (pattern? : Option String) (base : String) :
    selectText html (ruleOf [option] pattern?) base = alternativeText page (pattern?.getD "") base option := by
  rw [selectText_ruleOf hp (List.cons_ne_nil _ _) (List.forall_mem_singleton.mpr h)]
  exact Noted.firstFilled_singleton (fun _ => String.isEmpty_iff.mp) _

theorem selectList_option :
    selectList html option = List.map Markup.outer <$> elements page option (Chain.parse option) := by
  have hlist := selectList_ruleOf hp (List.cons_ne_nil option []) (List.forall_mem_singleton.mpr h.bar)
  rw [ruleOf_singleton] at hlist
  rw [hlist]
  exact Noted.firstFilled_singleton (fun _ => List.isEmpty_iff.mp) _

end

/-! ### Invalid selectors -/

/-- A step of an option has an invalid selector. -/
def HasInvalidSelector (option : String) : Prop :=
  ∃ text ∈ (Chain.parse option).steps, ∃ step, Step.parse text = .ok step ∧ Selector.parse step.selector = .error .malformed

/-- A computation comes to nothing, unless a step of an option breaks. -/
def ComesToNothing {α : Type} (option : String) (nothing : α) (x : Noted α) : Prop :=
  ∀ notes, (outcome x notes).1 = .ok nothing ∨
    ∃ text ∈ (Chain.parse option).steps, ∃ fault, StepBreaks text fault ∧ (outcome x notes).1 = .error fault

theorem followAll_nil {texts : List String} {found : List Markup.Spot} (h : followAll texts [] = .ok (some found)) :
    found = [] := by
  induction texts with
  | nil => exact (Option.some.inj (Except.ok.inj h)).symm
  | cons text rest ih =>
    rw [followAll] at h
    cases hs : Step.parse text with
    | error fault => rw [hs] at h; cases h
    | ok step =>
      simp only [hs, bind, Except.bind] at h
      split at h
      next => exact (Option.some.inj (Except.ok.inj h)).symm
      next => exact ih h

theorem followAll_of_malformed {texts : List String} {text : String} {step : Step} {spots found : List Markup.Spot}
    (ht : text ∈ texts) (hs : Step.parse text = .ok step) (hm : Selector.parse step.selector = .error .malformed)
    (h : followAll texts spots = .ok (some found)) : found = [] := by
  induction texts generalizing spots with
  | nil => cases ht
  | cons first rest ih =>
    rw [followAll] at h
    cases hfirst : Step.parse first with
    | error fault => rw [hfirst] at h; cases h
    | ok other =>
      simp only [hfirst, bind, Except.bind] at h
      split at h
      next => exact (Option.some.inj (Except.ok.inj h)).symm
      next =>
        cases hf : follow other spots with
        | error fault => rw [hf] at h; cases h
        | ok reached? =>
          rw [hf] at h
          cases reached? with
          | none => cases h
          | some reached =>
            rcases List.mem_cons.mp ht with rfl | ht
            · -- an invalid selector is not even read where there is nothing to start from
              obtain rfl := Except.ok.inj (hfirst.symm.trans hs)
              unfold follow at hf
              split at hf
              next =>
                obtain rfl := Option.some.inj (Except.ok.inj hf)
                exact followAll_nil h
              next =>
                rw [hm] at hf
                cases hf
            · exact ih ht h

theorem comesToNothing_elements {option : String} (h : HasInvalidSelector option) (page : List Markup) :
    ComesToNothing option [] (elements page option (Chain.parse option)) := by
  intro notes
  obtain ⟨text, ht, step, hs, hm⟩ := h
  unfold elements
  rw [if_neg fun hempty => List.not_mem_nil (List.isEmpty_iff.mp hempty ▸ ht)]
  cases hfound : followAll (Chain.parse option).steps [.page page] with
  | error fault =>
    obtain ⟨other, hother, hbreaks⟩ := followAll_eq_error hfound
    exact .inr ⟨other, hother, fault, hbreaks, rfl⟩
  | ok found? =>
    left
    cases found? with
    | none => rfl
    | some found =>
      obtain rfl := followAll_of_malformed ht hs hm hfound
      rfl

theorem ComesToNothing.bind {α β : Type} {option : String} {nothing : α} {other : β} {x : Noted α} {f : α → Noted β}
    (hx : ComesToNothing option nothing x) (hf : f nothing = pure other) : ComesToNothing option other (x >>= f) := by
  intro notes
  rcases hx notes with hx | ⟨text, ht, fault, hbreaks, hx⟩
  · left
    rw [outcome_bind_of_ok hx, hf, outcome_pure]
  · exact .inr ⟨text, ht, fault, hbreaks, outcome_bind_eq_error_iff.mpr (.inl hx)⟩

/-! ### Options in order -/

/-- A rule tries its options in order.  An option with an invalid selector comes to nothing, unless one of its steps breaks;
where the page cannot be read, no option is tried. -/
theorem options_in_order {options : List String} (hne : options ≠ []) (h : ∀ option ∈ options, IsOption option)
    (pattern? : Option String) (html base : String) :
    (∀ page, Markup.parse html = .ok page →
      Tries String.isEmpty "" (selectText html (ruleOf options pattern?) base)
        (options.map fun option => selectText html (ruleOf [option] pattern?) base) ∧
      Tries List.isEmpty [] (selectList html (ruleOf options none)) (options.map (selectList html)) ∧
      ∀ option ∈ options, HasInvalidSelector option →
        ComesToNothing option "" (selectText html (ruleOf [option] pattern?) base) ∧
          ComesToNothing option [] (selectList html option)) ∧
    ∀ fault, Markup.parse html = .error fault →
      (ruleOf options pattern? ≠ "" → selectText html (ruleOf options pattern?) base = throw fault) ∧
      (ruleOf options none ≠ "" → selectList html (ruleOf options none) = throw fault) := by
  have hbars : ∀ option ∈ options, '|' ∉ option.toList := fun option ho => (h option ho).bar
  have hnonempty {rule : String} (hr : rule ≠ "") : ¬ rule.isEmpty = true := fun he => hr (String.isEmpty_iff.mp he)
  refine ⟨fun page hp => ⟨.of_eq ?_ ?_, .of_eq ?_ ?_, fun option ho hinvalid => ⟨?_, ?_⟩⟩,
    fun fault hp => ⟨fun hr => ?_, fun hr => ?_⟩⟩
  · exact List.forall_mem_map.mpr fun option _ => (isSilent_selectText _ _ _).uniform
  · rw [selectText_ruleOf hp hne h, List.map_congr_left fun option ho => selectText_option hp (h option ho) pattern? base]
  · exact List.forall_mem_map.mpr fun option _ => (isSilent_selectList _ _).uniform
  · rw [selectList_ruleOf hp hne hbars, List.map_congr_left fun option ho => selectList_option hp (h option ho)]
  · rw [selectText_option hp (h option ho)]
    exact (comesToNothing_elements hinvalid page).bind rfl
  · rw [selectList_option hp (h option ho)]
    exact (comesToNothing_elements hinvalid page).bind rfl
  · rw [selectText_eq, splitPattern_ruleOf h, isLiteral_intercalate h, if_neg (hnonempty hr), hp]
    rfl
  · rw [selectList, if_neg (hnonempty hr), hp]
    rfl

/-- An option with an invalid selector and one without elements come before the one that counts, which a regular expression
narrows. -/
theorem options_in_order_invalid :
    let options := ["div[@text", "q@text", "p"]
    (options ≠ [] ∧ (∀ option ∈ options, IsOption option) ∧ (Markup.parse "<p>ab</p>").isOk = true ∧
        HasInvalidSelector "div[@text") ∧
      (outcome (selectText "<p>ab</p>" "div[@text||q@text||p##b" "") Notes.empty).1 = .ok "b" ∧
      (outcome (selectList "<p>ab</p>" "div[@text||q@text||p") Notes.empty).1 = .ok ["<p>ab</p>"] := by
  intro options
  have h : ∀ option ∈ options, IsOption option := by decide +kernel
  have hinvalid : HasInvalidSelector "div[@text" :=
    ⟨"div[", by decide +kernel, ⟨"div[", none, none⟩, by decide +kernel, by rfl⟩
  have hpage : (Markup.parse "<p>ab</p>").isOk = true := by decide +kernel
  have hread := (options_in_order (List.cons_ne_nil _ _) h (some "b") "<p>ab</p>" "").1
  cases hparse : Markup.parse "<p>ab</p>" with
  | error fault => rw [hparse] at hpage; cases hpage
  | ok page =>
    obtain ⟨htext, hlist, -⟩ := hread page hparse
    refine ⟨⟨List.cons_ne_nil _ _, h, rfl, hinvalid⟩, ?_, ?_⟩
    · refine htext.value ["", "", "b"] ?_ _
      exact .cons (by decide +kernel) (.cons (by decide +kernel) (.cons (by decide +kernel) .nil))
    · refine hlist.value [[], [], ["<p>ab</p>"]] ?_ _
      exact .cons (by decide +kernel) (.cons (by decide +kernel) (.cons (by decide +kernel) .nil))

/-- A pseudo-element is no selector that nothing matches: it keeps the options after it from being tried. -/
theorem options_fail_pseudo_element :
    (∀ option ∈ ["p::before", "p"], IsOption option) ∧
      (outcome (selectText "<p>a</p>" "p::before||p" "") Notes.empty).1 = .error .unsupportedSelector ∧
      (outcome (selectText "<p>a</p>" "p" "") Notes.empty).1 = .ok "a" ∧
      (outcome (selectList "<p>a</p>" "p::before||p") Notes.empty).1 = .error .unsupportedSelector ∧
      (outcome (selectList "<p>a</p>" "p") Notes.empty).1 = .ok ["<p>a</p>"] := by
  refine ⟨?_, ?_, ?_, ?_, ?_⟩ <;> decide +kernel

end Excerpt
end SiteReader
