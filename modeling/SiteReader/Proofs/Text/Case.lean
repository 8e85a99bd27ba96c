import SiteReader.Text.Case

/-!
# Lower case within ASCII

A text that begins with ASCII characters is lowered character by character as far as these go (`lower_append`), and so is
a text of such characters alone (`lower_eq_map`).
-/

namespace SiteReader.Text

/-- All characters of a text are ASCII. -/
def AllAscii (cs : List Char) : Prop :=
  ∀ c ∈ cs, c.toNat < 128

theorem AllAscii.append {a b : List Char} (ha : AllAscii a) (hb : AllAscii b) : AllAscii (a ++ b) := by
  intro c hc
  rcases List.mem_append.mp hc with hc | hc
  · exact ha c hc
  · exact hb c hc

theorem AllAscii.mono {a b : List Char} (h : AllAscii b) (hab : a ⊆ b) : AllAscii a :=
  fun c hc => h c (hab hc)

/-! ### Characters -/

/-- A property of all ASCII characters can be checked on their numbers. -/
theorem forall_ascii {P : Char → Prop} (h : ∀ n < 128, P (Char.ofNat n)) {c : Char} (hc : c.toNat < 128) : P c := by
  have := h c.toNat hc
  rwa [Char.ofNat_toNat] at this

theorem lowerChar_lt {c : Char} (hc : c.toNat < 128) : (lowerChar c).toNat < 128 :=
  forall_ascii (P := fun c => (lowerChar c).toNat < 128) (by decide) hc

theorem lowerChar_of_lt {c : Char} (hc : c.toNat < 65) : lowerChar c = c :=
  forall_ascii (P := fun c => c.toNat < 65 → lowerChar c = c) (by decide) (by omega) hc

/-- A character that is no letter is not what another one is lowered to. -/
theorem eq_of_lowerChar_eq {c d : Char} (hc : c.toNat < 128) (hd : d.toNat < 97 ∨ 122 < d.toNat)
    (h : lowerChar c = d) : c = d := by
  have hnat : (lowerChar c).toNat < 97 ∨ 122 < (lowerChar c).toNat → lowerChar c = c :=
    forall_ascii (P := fun c => (lowerChar c).toNat < 97 ∨ 122 < (lowerChar c).toNat → lowerChar c = c) (by decide) hc
  rw [← h] at hd ⊢
  exact (hnat hd).symm

theorem not_capital {c : Char} (hc : c.toNat < 128) (h : lowerChar c = c) : ¬ (65 ≤ c.toNat ∧ c.toNat ≤ 90) :=
  forall_ascii (P := fun c => lowerChar c = c → ¬ (65 ≤ c.toNat ∧ c.toNat ≤ 90)) (by decide) hc h

/-! ### Texts -/

theorem lowerChar_eq_of_mem {cs : List Char} (h : cs.map lowerChar = cs) {c : Char} (hc : c ∈ cs) : lowerChar c = c := by
  have hmap : cs.map lowerChar = cs.map id := by rw [List.map_id, h]
  exact List.map_inj_left.mp hmap c hc

/-- Digits and points are in lower case. -/
theorem map_lowerChar_of_lt {cs : List Char} (h : ∀ c ∈ cs, c.toNat < 65) : cs.map lowerChar = cs := by
  have hmap : cs.map lowerChar = cs.map id := List.map_congr_left fun c hc => lowerChar_of_lt (h c hc)
  rw [hmap, List.map_id]

theorem lowerAfter_append {head : List Char} (h : AllAscii head) (before tail : List Char) :
    lowerAfter before (head ++ tail) = head.map lowerChar ++ lowerAfter (head.reverse ++ before) tail := by
  induction head generalizing before with
  | nil => rfl
  | cons c rest ih =>
    have hc := h c List.mem_cons_self
    -- the two characters that are lowered in a way of their own are not ASCII
    have hsigma : (c.toNat == 0x3A3) = false := beq_eq_false_iff_ne.mpr (by omega)
    have hdotted : (c.toNat == 0x130) = false := beq_eq_false_iff_ne.mpr (by omega)
    have hrest := ih (fun d hd => h d (List.mem_cons_of_mem _ hd)) (c :: before)
    rw [List.cons_append, lowerAfter, hrest]
    simp [hsigma, hdotted]

theorem lower_append {head : List Char} (h : AllAscii head) (tail : List Char) :
    lower (head ++ tail) = head.map lowerChar ++ lowerAfter head.reverse tail := by
  rw [lower, lowerAfter_append h, List.append_nil]

theorem lower_eq_map {cs : List Char} (h : AllAscii cs) : lower cs = cs.map lowerChar := by
  have := lower_append h []
  rwa [List.append_nil, lowerAfter, List.append_nil] at this

theorem AllAscii.map_lowerChar {cs : List Char} (h : AllAscii cs) : AllAscii (cs.map lowerChar) := by
  intro c hc
  obtain ⟨d, hd, rfl⟩ := List.mem_map.mp hc
  exact lowerChar_lt (h d hd)

end SiteReader.Text
