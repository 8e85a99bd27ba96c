import SiteReader.Proofs.Address.Numeral

/-!
# Spellings of IPv4 addresses

An address is spelled as one to four numbers between points, of which all but the last are bytes and the last fills the
bytes that are left (`Parts`).  Such a text is read as the address (`Parts.loose?_eq`).  The dotted quad is read back in the
strict form too (`strict?_dotted`).
-/

namespace SiteReader.Ipv4

/-- A text spells the last `width` bytes of an address as numbers between points. -/
inductive Parts : Nat → List Char → Nat → Prop
  | last {width : Nat} {cs : List Char} {n : Nat} (h : Numeral cs n) (hlt : n < 256 ^ (width + 1)) :
      Parts (width + 1) cs n
  | byte {width : Nat} {cs rest : List Char} {n m : Nat} (h : Numeral cs n) (hlt : n < 256)
      (hr : Parts (width + 1) rest m) : Parts (width + 2) (cs ++ '.' :: rest) (n * 256 ^ (width + 1) + m)

namespace Parts

variable {width : Nat} {cs : List Char} {n : Nat}

/-! ### Characters of a spelling -/

theorem mem_cases (h : Parts width cs n) {c : Char} (hc : c ∈ cs) :
    (isHexDigit c = true ∨ c = 'x' ∨ c = 'X') ∨ c = '.' := by
  induction h with
  | last h => exact .inl (h.mem_cases hc)
  | byte h _ _ ih =>
    rcases List.mem_append.mp hc with hc | hc
    · exact .inl (h.mem_cases hc)
    · rcases List.mem_cons.mp hc with rfl | hc
      · exact .inr rfl
      · exact ih hc

theorem ne_nil (h : Parts width cs n) : cs ≠ [] := by
  cases h with
  | last h => exact h.ne_nil
  | byte => simp

theorem getLast?_ne (h : Parts width cs n) : cs.getLast? ≠ some '.' := by
  induction h with
  | last h =>
    intro hc
    exact absurd (h.mem_cases (List.mem_of_getLast? hc)) (by decide)
  | byte _ _ hr ih =>
    rw [← List.singleton_append, ← List.append_assoc]
    exact Text.getLast?_append_ne hr.ne_nil ih

theorem lower (h : Parts width cs n) : Parts width (cs.map Text.lowerChar) n := by
  induction h with
  | last h hlt => exact .last h.lower hlt
  | byte h hlt _ ih =>
    rw [List.map_append, List.map_cons]
    exact .byte h.lower hlt ih

/-! ### Reading a spelling -/

theorem read (h : Parts (width + 1) cs n) :
    ∃ ns, ns ≠ [] ∧ parts? width cs = some (ns, []) ∧ partsValue? (width + 1) ns = some n := by
  -- the width is an index of the grammar, so that it must be a variable for the induction
  generalize hw : width + 1 = total at h
  induction h generalizing width with
  | @last _ cs n h hlt =>
    obtain rfl := Nat.succ.inj hw
    have hp : part? (cs ++ []) = some (n, []) := h.part?_append (by simp)
    rw [List.append_nil] at hp
    refine ⟨[n], by simp, ?_, ?_⟩
    · cases width <;> simp [parts?, hp]
    · rw [partsValue?]
      exact if_pos hlt
  | @byte more cs rest n m h hlt _ ih =>
    obtain rfl : width = more + 1 := by omega
    obtain ⟨ns, hne, hp, hv⟩ := ih rfl
    have hbyte : ¬ 255 < n := by omega
    refine ⟨n :: ns, by simp, ?_, ?_⟩
    · have hfirst : part? (cs ++ '.' :: rest) = some (n, '.' :: rest) := h.part?_append (by simp)
      simp [parts?, hfirst, hbyte, hp]
    · rw [partsValue?.eq_3 _ _ _ hne, hv]
      rfl

/-- A spelling of all four bytes is read as the address. -/
theorem loose?_eq {a : Ipv4} (h : Parts 4 cs a.value) : loose? cs = some a := by
  obtain ⟨ns, -, hp, hv⟩ := h.read
  simp [loose?, hp, hv, ofNat?, a.value_lt]

theorem not_mem (h : Parts width cs n) {c : Char}
    (hc : isHexDigit c = false ∧ c ≠ 'x' ∧ c ≠ 'X' ∧ c ≠ '.') : c ∉ cs := by
  intro hm
  obtain ⟨hd, hx, hX, hp⟩ := hc
  rcases h.mem_cases hm with (h | h | h) | h
  · rw [hd] at h
    cases h
  · exact hx h
  · exact hX h
  · exact hp h

theorem allAscii (h : Parts width cs n) : Text.AllAscii cs := by
  intro c hc
  rcases h.mem_cases hc with (h | rfl | rfl) | rfl
  · have := isHexDigit_cases h
    omega
  · decide
  · decide
  · decide

/-- The labels of a spelling in lower case are numeric. -/
theorem isNumericLabel (h : Parts width cs n) (hl : cs.map Text.lowerChar = cs) :
    (Text.splitOn ['.'] cs).all Host.isNumericLabel = true := by
  induction h with
  | last h =>
    have hp : '.' ∉ _ := fun hm => absurd (h.mem_cases hm) (by decide)
    rw [Text.splitOn_of_not_mem hp, List.all_cons, h.isNumericLabel hl]
    rfl
  | byte h _ _ ih =>
    have hp : '.' ∉ _ := fun hm => absurd (h.mem_cases hm) (by decide)
    rw [List.map_append, List.map_cons] at hl
    obtain ⟨hcs, hrest⟩ := List.append_inj hl (by rw [List.length_map])
    rw [Text.splitOn_append_of_not_mem hp, List.all_cons, h.isNumericLabel hcs, ih (List.cons.inj hrest).2]
    rfl

end Parts

/-! ### Dotted quads -/

theorem octets_lt (a : Ipv4) : ∀ n ∈ a.octets, n < 256 := by
  have := a.value_lt
  intro n hn
  simp only [octets, List.mem_cons, List.not_mem_nil, or_false] at hn
  rcases hn with rfl | rfl | rfl | rfl <;> omega

theorem octet?_decimal {n : Nat} (h : n < 256) : octet? (decimal n) = some n := by
  have hall : ∀ n < 256, octet? (decimal n) = some n := by decide +kernel
  exact hall n h

/-- A dotted quad consists of ASCII digits and points. -/
theorem mem_dotted {a : Ipv4} {c : Char} (hc : c ∈ a.dotted) : Text.isAsciiDigit c = true ∨ c = '.' := by
  simp only [dotted, octets, List.map_cons, List.map_nil, Text.join, List.mem_append, List.mem_singleton] at hc
  rcases hc with (hc | hc) | (hc | hc) | (hc | hc) | hc
  · exact .inl (isAsciiDigit_of_mem_decimal hc)
  · exact .inr hc
  · exact .inl (isAsciiDigit_of_mem_decimal hc)
  · exact .inr hc
  · exact .inl (isAsciiDigit_of_mem_decimal hc)
  · exact .inr hc
  · exact .inl (isAsciiDigit_of_mem_decimal hc)

theorem isAsciiDigit_cases {c : Char} (h : Text.isAsciiDigit c = true) : 48 ≤ c.toNat ∧ c.toNat ≤ 57 := by
  simpa [Text.isAsciiDigit] using h

theorem isHexDigit_of_isAsciiDigit {c : Char} (h : Text.isAsciiDigit c = true) : isHexDigit c = true := by
  have hc := isAsciiDigit_cases h
  simp [isHexDigit, Text.hexValue?, hc]

theorem map_lowerChar_dotted (a : Ipv4) : a.dotted.map Text.lowerChar = a.dotted := by
  refine Text.map_lowerChar_of_lt fun c hc => ?_
  rcases mem_dotted hc with h | rfl
  · have := isAsciiDigit_cases h
    omega
  · decide

theorem dotted_getLast (a : Ipv4) : a.dotted ≠ [] ∧ a.dotted.getLast? ≠ some '.' := by
  have hne : decimal (a.value % 256) ≠ [] := Nat.toDigits_ne_nil
  simp only [dotted, octets, List.map_cons, List.map_nil, Text.join]
  refine ⟨by simp, Text.getLast?_append_ne ?_ (Text.getLast?_append_ne ?_ (Text.getLast?_append_ne hne ?_))⟩
  · simp
  · simp
  · exact fun hc => absurd (isAsciiDigit_of_mem_decimal (List.mem_of_getLast? hc)) (by decide)

theorem splitOn_dotted (a : Ipv4) : Text.splitOn ['.'] a.dotted = a.octets.map decimal := by
  have hpoint (n : Nat) : '.' ∉ decimal n := fun hc => absurd (isAsciiDigit_of_mem_decimal hc) (by decide)
  simp only [dotted, octets, List.map_cons, List.map_nil, Text.join, List.append_assoc, List.singleton_append]
  rw [Text.splitOn_append_of_not_mem (hpoint _), Text.splitOn_append_of_not_mem (hpoint _),
    Text.splitOn_append_of_not_mem (hpoint _), Text.splitOn_of_not_mem (hpoint _)]

/-- The strict form is read back. -/
theorem strict?_dotted (a : Ipv4) : strict? a.dotted = some a := by
  have hoctet : ∀ n ∈ a.octets, octet? (decimal n) = some n := fun n hn => octet?_decimal (a.octets_lt n hn)
  simp only [octets, List.mem_cons, List.not_mem_nil, or_false, forall_eq_or_imp, forall_eq] at hoctet
  obtain ⟨h1, h2, h3, h4⟩ := hoctet
  have hvalue : ((a.value / 16777216 * 256 + a.value / 65536 % 256) * 256 + a.value / 256 % 256) * 256 +
      a.value % 256 = a.value := by omega
  simp only [strict?, splitOn_dotted, octets, List.map_cons, List.map_nil, h1, h2, h3, h4, hvalue]
  exact dif_pos a.value_lt

end SiteReader.Ipv4
