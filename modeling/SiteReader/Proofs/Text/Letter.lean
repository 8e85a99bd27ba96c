import Mathlib.Data.List.Sections
import SiteReader.Proofs.Text.Case
import SiteReader.Proofs.Text.Mark

/-!
# Marks as they are written in either case

Looking for a mark with letter case aside is looking for its spellings (`cutAnyCase?_eq_none_iff`).  A short mark has few of
them, as each of its letters has few variants (`mem_caseVariants`, `AnyCase.mem_sections`).
-/

namespace SiteReader.Text

/-! ### Letters -/

/-- A code point that is shifted to another one is among its sources, unless a shift leads below zero. -/
theorem eq_or_mem_shiftSources {runs : List CaseShift} {m n : Nat} (h : shiftCase runs n = m) (hm : m ≠ 0) :
    n = m ∨ n ∈ shiftSources runs m := by
  induction runs with
  | nil => exact .inl h
  | cons run rest ih =>
    rw [shiftCase] at h
    rw [shiftSources, List.filterMap_cons]
    split at h
    next hcovers =>
      have hsource : (Int.ofNat m - run.distance).toNat = n := by
        subst h
        simp only [Int.ofNat_eq_natCast] at hm ⊢
        omega
      right
      rw [hsource, if_pos hcovers]
      exact List.mem_cons_self
    next =>
      refine (ih h).imp_right fun hmem => ?_
      split
      next => exact hmem
      next => exact List.mem_cons_of_mem _ hmem

theorem toNat_ofNat_eq {n : Nat} (h : (Char.ofNat n).toNat ≠ 0) : (Char.ofNat n).toNat = n := by
  by_cases hvalid : n.isValidChar
  · exact congrArg Char.toNat (show Char.ofNat n = Char.ofNatAux n hvalid from dif_pos hvalid)
  · have hzero : Char.ofNat n = '\x00' := dif_neg hvalid
    exact absurd (congrArg Char.toNat hzero) h

theorem mem_caseVariants {a c : Char} (ha : 0 ∉ lowerClass (lowerChar a).toNat) (h : sameLetter a c = true) :
    c ∈ caseVariants a := by
  have hclass : (lowerChar c).toNat ∈ lowerClass (lowerChar a).toNat := by simpa [sameLetter] using h
  have hzero : (lowerChar c).toNat ≠ 0 := fun hz => ha (hz ▸ hclass)
  refine List.mem_flatMap.mpr ⟨_, hclass, List.mem_map.mpr ⟨c.toNat, ?_, Char.ofNat_toNat c⟩⟩
  generalize hn : (lowerChar c).toNat = n at hzero
  simp only [lowerChar] at hn
  split at hn
  next hascii =>
    split at hn
    next hcapital =>
      simp only [Bool.and_eq_true, decide_eq_true_eq] at hcapital
      have hlower := (toNat_ofNat_eq (hn ▸ hzero)).symm.trans hn
      simp
      omega
    next => simp [hn]
  next =>
    split at hn
    next hdotted =>
      subst hn
      simp [beq_iff_eq.mp hdotted]
    next =>
      have hshift := (toNat_ofNat_eq (hn ▸ hzero)).symm.trans hn
      rcases eq_or_mem_shiftSources hshift hzero with hsame | hsource
      · simp [hsame]
      · simp [hsource]

/-! ### Spellings of a mark -/

/-- A spelling of a mark, letter by letter. -/
abbrev AnyCase (mark found : List Char) : Prop :=
  List.Forall₂ (fun a c => sameLetter a c = true) mark found

variable {mark found cs : List Char}

/-- A spelling of a mark takes one of the variants of each letter. -/
theorem AnyCase.mem_sections (hmark : ∀ a ∈ mark, 0 ∉ lowerClass (lowerChar a).toNat) (h : AnyCase mark found) :
    found ∈ (mark.map caseVariants).sections := by
  rw [List.mem_sections, List.forall₂_map_right_iff]
  induction h with
  | nil => exact .nil
  | cons hc _ ih =>
    obtain ⟨ha, hrest⟩ := List.forall_mem_cons.mp hmark
    exact .cons (mem_caseVariants ha hc) (ih hrest)

theorem AnyCase.dropHeadAnyCase? (h : AnyCase mark found) (rest : List Char) :
    dropHeadAnyCase? mark (found ++ rest) = some rest := by
  induction h with
  | nil => rfl
  | cons hc _ ih => exact (if_pos hc).trans ih

theorem exists_anyCase_of_dropHeadAnyCase? {rest : List Char} (h : dropHeadAnyCase? mark cs = some rest) :
    ∃ found, AnyCase mark found ∧ cs = found ++ rest := by
  induction mark generalizing cs with
  | nil => exact ⟨[], .nil, Option.some.inj h⟩
  | cons a mark ih =>
    cases cs with
    | nil => cases h
    | cons c cs =>
      rw [Text.dropHeadAnyCase?] at h
      split at h
      next hc =>
        obtain ⟨found, hfound, rfl⟩ := ih h
        exact ⟨c :: found, .cons hc hfound, rfl⟩
      next => cases h

/-- A mark is missing where none of its spellings is a part of the text. -/
theorem cutAnyCase?_eq_none_iff (hne : mark ≠ []) :
    cutAnyCase? mark cs = none ↔ ∀ found, AnyCase mark found → ¬ found <:+: cs := by
  constructor
  · rintro h found hfound ⟨before, after, rfl⟩
    rw [List.append_assoc] at h
    have hnone := cutAnyCase?_of_append h
    have hdrop := hfound.dropHeadAnyCase? []
    rw [List.append_nil] at hdrop
    cases hfound with
    | nil => exact hne rfl
    | cons hc hrest => cases (cutAnyCase?_cons_eq_none.mp hnone).1.symm.trans hdrop
  · intro h
    induction cs with
    | nil => rfl
    | cons c cs ih =>
      refine cutAnyCase?_cons_eq_none.mpr ⟨?_, ih fun found hfound hpart => h found hfound (List.infix_cons hpart)⟩
      refine Option.eq_none_iff_forall_ne_some.mpr fun rest hrest => ?_
      obtain ⟨found, hfound, hcs⟩ := exists_anyCase_of_dropHeadAnyCase? hrest
      exact h found hfound ⟨[], rest, hcs.symm⟩

/-- The first occurrence of a mark whose first letter does not come again in it. -/
theorem cutAnyCase?_append {a m : Char} {rest before : List Char} (hfound : AnyCase (a :: rest) (m :: found))
    (hm : Foreign rest m) (h : cutAnyCase? (a :: rest) before = none) (after : List Char) :
    cutAnyCase? (a :: rest) (before ++ (m :: found ++ after)) = some (before, after) := by
  induction before with
  | nil =>
    have hdrop := hfound.dropHeadAnyCase? after
    rw [List.nil_append, List.cons_append, cutAnyCase?]
    rw [List.cons_append] at hdrop
    rw [hdrop]
  | cons c before ih =>
    obtain ⟨hc, hrest⟩ := cutAnyCase?_cons_eq_none.mp h
    have hno : dropHeadAnyCase? (a :: rest) (c :: (before ++ (m :: found ++ after))) = none := by
      rw [Text.dropHeadAnyCase?] at hc ⊢
      split at hc
      next hsame =>
        rw [if_pos hsame, ← Option.not_isSome_iff_eq_none, isSome_dropHeadAnyCase?_append, hc]
        · simp
        · intro d hd
          obtain rfl := Option.some.inj hd
          exact hm
      next hsame => exact if_neg hsame
    rw [List.cons_append, cutAnyCase?, hno, ih hrest]
    rfl

end SiteReader.Text
