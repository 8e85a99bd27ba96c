import SiteReader.Proofs.Text.Case

/-!
# Lower case in every script

What a letter is lowered to is in lower case itself: no run of the table of shifts leads into a run again
(`shifts_settled`), so that lowering is done after one time (`lowerChar_lowerChar`, `lower_lower`).  Besides, a mark of
ASCII that is no letter never comes out of lowering unless it was there before (`mem_of_mem_lower`).
-/

namespace SiteReader.Text

/-! ### The table of shifts -/

/-- What a run shifts a code point to. -/
def CaseShift.target (run : CaseShift) (n : Nat) : Nat :=
  (Int.ofNat n + run.distance).toNat

/-- Whether a run covers no code point from `first` to `last`, or, where they go in steps of two, lies between them. -/
def CaseShift.avoids (first last : Nat) (even : Bool) (run : CaseShift) : Bool :=
  last.blt run.first || run.last.blt first || (run.step == 2 && even && (first - run.first) % 2 == 1)

/-- Whether the targets of a run are out of the way of all runs of the table, and letters of ASCII or beyond it. -/
def CaseShift.settles (runs : List CaseShift) (run : CaseShift) : Bool :=
  let first := run.target run.first
  let last := run.target run.last
  runs.all (avoids first last (run.step == 2 || run.first == run.last)) &&
    (last.blt 0x130 || Nat.blt 0x130 first) && (last.blt 0xD800 || (Nat.blt 0xDFFF first && last.blt 0x110000)) &&
    (Nat.ble 97 first && last.ble 122 || Nat.ble 128 first)

theorem shifts_settled : lowerShifts.all (CaseShift.settles lowerShifts) = true := by
  decide +kernel

theorem CaseShift.covers_iff {run : CaseShift} {n : Nat} :
    run.covers n = true ↔ run.first ≤ n ∧ n ≤ run.last ∧ (n - run.first) % run.step = 0 := by
  simp [covers, and_assoc]

theorem CaseShift.not_covers_of_avoids {run other : CaseShift} {n : Nat} (hrun : run.covers n = true)
    (h : avoids (run.target run.first) (run.target run.last) (run.step == 2 || run.first == run.last) other = true) :
    other.covers (run.target n) = false := by
  rw [covers_iff] at hrun
  rw [← Bool.not_eq_true, covers_iff]
  simp only [avoids, target, Int.ofNat_eq_natCast, Nat.blt_eq, Bool.or_eq_true, Bool.and_eq_true, beq_iff_eq] at h ⊢
  obtain ⟨hlo, hhi, hmod⟩ := hrun
  rintro ⟨ho, ho', hmod'⟩
  rcases h with (h | h) | ⟨⟨htwo, heven⟩, hodd⟩
  · omega
  · omega
  · rw [htwo] at hmod'
    have hpar : (n - run.first) % 2 = 0 := by
      rcases heven with heven | heven
      · rwa [heven] at hmod
      · have : n = run.first := by omega
        simp [this]
    omega

theorem shiftCase_of_not_covers {runs : List CaseShift} {n : Nat} (h : ∀ run ∈ runs, run.covers n = false) :
    shiftCase runs n = n := by
  induction runs with
  | nil => rfl
  | cons run rest ih =>
    have hrest := ih fun other ho => h other (List.mem_cons_of_mem _ ho)
    rw [shiftCase, h run List.mem_cons_self, hrest]
    rfl

theorem shiftCase_cases (runs : List CaseShift) (n : Nat) :
    shiftCase runs n = n ∨ ∃ run ∈ runs, run.covers n = true ∧ shiftCase runs n = run.target n := by
  induction runs with
  | nil => exact .inl rfl
  | cons run rest ih =>
    rw [shiftCase]
    by_cases hrun : run.covers n = true
    · rw [if_pos hrun]
      exact .inr ⟨run, List.mem_cons_self, hrun, rfl⟩
    · rw [if_neg hrun]
      rcases ih with h | ⟨other, ho, hc, h⟩
      · exact .inl h
      · exact .inr ⟨other, List.mem_cons_of_mem _ ho, hc, h⟩

/-- A code point in lower case that is a letter of ASCII or lies beyond it. -/
structure Settled (n : Nat) : Prop where
  valid : n.isValidChar
  shift_eq : shiftCase lowerShifts n = n
  ne_dotted : n ≠ 0x130
  letter : 97 ≤ n ∧ n ≤ 122 ∨ 128 ≤ n

theorem settled_of_covers {run : CaseShift} (hr : run ∈ lowerShifts) {n : Nat} (hn : run.covers n = true) :
    Settled (run.target n) := by
  have hsettles := List.all_eq_true.mp shifts_settled run hr
  simp only [CaseShift.settles, Bool.and_eq_true, Bool.or_eq_true, Nat.blt_eq, Nat.ble_eq] at hsettles
  obtain ⟨⟨⟨havoids, hdotted⟩, hvalid⟩, hletter⟩ := hsettles
  obtain ⟨hlo, hhi, -⟩ := CaseShift.covers_iff.mp hn
  have hbounds : run.target run.first ≤ run.target n ∧ run.target n ≤ run.target run.last := by
    simp only [CaseShift.target, Int.ofNat_eq_natCast]
    omega
  refine ⟨?_, ?_, ?_, ?_⟩
  · rcases hvalid with hv | ⟨hv, hv'⟩
    · exact .inl (by omega)
    · exact .inr ⟨by omega, by omega⟩
  · refine shiftCase_of_not_covers fun other ho => ?_
    exact CaseShift.not_covers_of_avoids hn (List.all_eq_true.mp havoids other ho)
  · omega
  · omega

/-! ### Letters -/

theorem toNat_ofNat_of_valid {n : Nat} (h : n.isValidChar) : (Char.ofNat n).toNat = n :=
  congrArg Char.toNat (show Char.ofNat n = Char.ofNatAux n h from dif_pos h)

theorem lowerChar_of_settled {n : Nat} (h : Settled n) : lowerChar (Char.ofNat n) = Char.ofNat n := by
  have hn := toNat_ofNat_of_valid h.valid
  have hdotted : (n == 0x130) = false := beq_eq_false_iff_ne.mpr h.ne_dotted
  simp only [lowerChar, hn, hdotted, h.shift_eq]
  rcases h.letter with hletter | hletter
  · have hnot : ¬ (65 ≤ n ∧ n ≤ 90) := by omega
    simp [hnot]
  · have hnot : ¬ n < 128 := by omega
    simp [hnot]

/-- A letter is in lower case, or is lowered to one that is a letter of ASCII or beyond it. -/
theorem lowerChar_cases (c : Char) : lowerChar c = c ∨
    lowerChar (lowerChar c) = lowerChar c ∧
      (97 ≤ (lowerChar c).toNat ∧ (lowerChar c).toNat ≤ 122 ∨ 128 ≤ (lowerChar c).toNat) := by
  by_cases hascii : c.toNat < 128
  · have hall := forall_ascii (P := fun c => lowerChar c = c ∨ lowerChar (lowerChar c) = lowerChar c ∧
      97 ≤ (lowerChar c).toNat ∧ (lowerChar c).toNat ≤ 122) (by decide) hascii
    exact hall.imp_right fun ⟨hlow, hletter⟩ => ⟨hlow, .inl hletter⟩
  · by_cases hdotted : c.toNat = 0x130
    · have hi : lowerChar c = 'i' := by
        simp [lowerChar, hdotted]
      rw [hi]
      exact .inr (by decide)
    · have hshift : lowerChar c = Char.ofNat (shiftCase lowerShifts c.toNat) := by
        simp [lowerChar, hascii, hdotted]
      rw [hshift]
      rcases shiftCase_cases lowerShifts c.toNat with hsame | ⟨run, hr, hn, htarget⟩
      · left
        rw [hsame, Char.ofNat_toNat]
      · right
        have hsettled := settled_of_covers hr hn
        rw [htarget, toNat_ofNat_of_valid hsettled.valid]
        exact ⟨lowerChar_of_settled hsettled, hsettled.letter⟩

theorem lowerChar_lowerChar (c : Char) : lowerChar (lowerChar c) = lowerChar c := by
  rcases lowerChar_cases c with h | ⟨h, -⟩
  · rw [h, h]
  · exact h

/-! ### Texts -/

theorem map_lowerChar_map_lowerChar (cs : List Char) : (cs.map lowerChar).map lowerChar = cs.map lowerChar := by
  rw [List.map_map]
  exact List.map_congr_left fun c _ => lowerChar_lowerChar c

/-- All letters of a text are in lower case. -/
def Lowered (cs : List Char) : Prop :=
  ∀ c ∈ cs, lowerChar c = c

theorem Lowered.mono {a b : List Char} (h : Lowered b) (hab : a ⊆ b) : Lowered a :=
  fun c hc => h c (hab hc)

/-- What comes out of lowering is in lower case, and it was there before unless it is a letter of ASCII or beyond it. -/
theorem of_mem_lowerAfter {before cs : List Char} {d : Char} (h : d ∈ lowerAfter before cs) :
    lowerChar d = d ∧ (d ∈ cs ∨ 97 ≤ d.toNat ∧ d.toNat ≤ 122 ∨ 128 ≤ d.toNat) := by
  induction cs generalizing before with
  | nil => cases h
  | cons c rest ih =>
    rw [lowerAfter] at h
    rcases List.mem_append.mp h with hhere | hrest
    · split at hhere
      next =>
        have hsigma : d = Char.ofNat 0x3C2 ∨ d = Char.ofNat 0x3C3 := by
          split at hhere
          · exact .inl (List.mem_singleton.mp hhere)
          · exact .inr (List.mem_singleton.mp hhere)
        rcases hsigma with rfl | rfl
        · exact ⟨by decide +kernel, .inr (.inr (by decide))⟩
        · exact ⟨by decide +kernel, .inr (.inr (by decide))⟩
      next =>
        split at hhere
        next =>
          have hdotted : d = 'i' ∨ d = Char.ofNat 0x307 := by simpa using hhere
          rcases hdotted with rfl | rfl
          · exact ⟨by decide, .inr (.inl (by decide))⟩
          · exact ⟨by decide +kernel, .inr (.inr (by decide))⟩
        next =>
          obtain rfl := List.mem_singleton.mp hhere
          refine ⟨lowerChar_lowerChar c, ?_⟩
          rcases lowerChar_cases c with hsame | ⟨-, hletter⟩
          · left
            rw [hsame]
            exact List.mem_cons_self
          · exact .inr hletter
    · have hd := ih hrest
      exact ⟨hd.1, hd.2.imp_left (List.mem_cons_of_mem _)⟩

theorem lowered_lower (cs : List Char) : Lowered (lower cs) :=
  fun _ hd => (of_mem_lowerAfter hd).1

/-- Lowering brings in no mark. -/
theorem mem_of_mem_lower {cs : List Char} {d : Char} (hd : d.toNat < 97 ∨ 122 < d.toNat ∧ d.toNat < 128)
    (h : d ∈ lower cs) : d ∈ cs := by
  rcases (of_mem_lowerAfter h).2 with hmem | hletter | hbeyond
  · exact hmem
  · omega
  · omega

/-- A text in lower case stays as it is. -/
theorem lower_of_lowered {cs : List Char} (h : Lowered cs) : lower cs = cs := by
  have hall : ∀ before, lowerAfter before cs = cs := by
    induction cs with
    | nil => exact fun _ => rfl
    | cons c rest ih =>
      intro before
      have hc := h c List.mem_cons_self
      have hrest := ih (h.mono (List.subset_cons_self c rest)) (c :: before)
      -- the two letters that are lowered in a way of their own are not in lower case
      have hne (n : Nat) (hn : lowerChar (Char.ofNat n) ≠ Char.ofNat n) : (c.toNat == n) = false := by
        refine beq_eq_false_iff_ne.mpr fun he => hn ?_
        rw [← he, Char.ofNat_toNat]
        exact hc
      have hsigma := hne 0x3A3 (by decide +kernel)
      have hdotted := hne 0x130 (by decide +kernel)
      rw [lowerAfter, hrest, hc]
      simp [hsigma, hdotted]
  exact hall []

theorem lower_lower (cs : List Char) : lower (lower cs) = lower cs :=
  lower_of_lowered (lowered_lower cs)

end SiteReader.Text
