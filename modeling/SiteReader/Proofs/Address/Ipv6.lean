import Mathlib.Data.List.Forall2
import SiteReader.Proofs.Address.Ipv4

/-!
# Spellings of IPv6 addresses

An address is spelled as eight groups between colons, where two colons may stand for groups of zeros and a dotted quad for
the last two groups (`Literal`).  Such a text is read as the groups that it spells (`Literal.parse?_eq`).
-/

namespace SiteReader.Ipv6

/-! ### The grammar -/

/-- A text of one to four hexadecimal digits, and its value. -/
def Group (cs : List Char) (g : Nat) : Prop :=
  Ipv4.Digits 16 cs g ∧ cs ≠ [] ∧ cs.length ≤ 4

/-- Groups between colons, the last two of them as a dotted quad if that is allowed. -/
inductive Groups (mixed : Bool) : List Char → List Nat → Prop
  | one {cs : List Char} {g : Nat} (h : Group cs g) : Groups mixed cs [g]
  | more {cs rest : List Char} {g : Nat} {gs : List Nat} (h : Group cs g) (hr : Groups mixed rest gs) :
      Groups mixed (cs ++ ':' :: rest) (g :: gs)
  | quad (hm : mixed = true) (a : Ipv4) : Groups mixed a.dotted [a.value / 65536, a.value % 65536]

/-- Groups beside two colons, of which there may be none. -/
inductive Side (mixed : Bool) : List Char → List Nat → Prop
  | empty : Side mixed [] []
  | present {cs : List Char} {gs : List Nat} (h : Groups mixed cs gs) : Side mixed cs gs

/-- A text spells the eight groups of an address, all of them or with two colons for at least one zero. -/
inductive Literal : List Char → List Nat → Prop
  | full {cs : List Char} {gs : List Nat} (h : Groups true cs gs) (hlen : gs.length = 8) : Literal cs gs
  | gap {high low : List Char} {hs ls : List Nat} (hh : Side false high hs) (hl : Side true low ls)
      (hle : hs.length + ls.length ≤ 7) :
      Literal (high ++ ':' :: ':' :: low) (hs ++ List.replicate (8 - hs.length - ls.length) 0 ++ ls)

/-! ### Groups -/

theorem Group.ne_nil {cs : List Char} {g : Nat} (h : Group cs g) : cs ≠ [] :=
  h.2.1

theorem Group.mem {cs : List Char} {g : Nat} (h : Group cs g) {c : Char} (hc : c ∈ cs) : Ipv4.isHexDigit c = true := by
  obtain ⟨d, hd⟩ := h.1.exists_digit c hc
  exact hd.isHexDigit

theorem Group.lower {cs : List Char} {g : Nat} (h : Group cs g) : Group (cs.map Text.lowerChar) g := by
  refine ⟨h.1.lower, ?_, ?_⟩
  · simpa using h.2.1
  · rw [List.length_map]
    exact h.2.2

theorem Group.group?_eq {cs : List Char} {g : Nat} (h : Group cs g) : group? cs = some g := by
  have hall : cs.all Ipv4.isHexDigit = true := List.all_eq_true.mpr fun c hc => h.mem hc
  have hlen : ¬ 4 < cs.length := by have := h.2.2; omega
  simp [group?, h.ne_nil, hall, hlen, h.1.digitsValue_eq]

theorem group_hex {n : Nat} (h : n < 65536) : Group (hex n) n := by
  refine ⟨.toDigits (by decide) (by decide) n, Nat.toDigits_ne_nil, ?_⟩
  exact (Nat.length_toDigits_le_iff (by decide) (by decide)).mpr h

theorem Group.lt {cs : List Char} {g : Nat} (h : Group cs g) : g < 65536 :=
  Nat.lt_of_lt_of_le h.1.lt_pow (Nat.pow_le_pow_right (by decide) h.2.2)

theorem mapM_group? {parts : List (List Char)} {gs : List Nat} (h : List.Forall₂ Group parts gs) :
    parts.mapM group? = some gs := by
  induction h with
  | nil => rfl
  | cons hg _ ih =>
    rw [List.mapM_cons, hg.group?_eq, ih]
    rfl

theorem ne_nil_of_mem {parts : List (List Char)} {gs : List Nat} (h : List.Forall₂ Group parts gs) :
    ∀ part ∈ parts, part ≠ [] := by
  induction h with
  | nil => simp
  | cons hg _ ih =>
    intro part hp
    rcases List.mem_cons.mp hp with rfl | hp
    · exact hg.ne_nil
    · exact ih part hp

theorem lt_of_mem {parts : List (List Char)} {gs : List Nat} (h : List.Forall₂ Group parts gs) :
    ∀ g ∈ gs, g < 65536 := by
  induction h with
  | nil => simp
  | cons hg _ ih =>
    intro g hm
    rcases List.mem_cons.mp hm with rfl | hm
    · exact hg.lt
    · exact ih g hm

/-! ### The parts between colons -/

theorem spread?_append {parts : List (List Char)} (h : parts ≠ []) (before : List (List Char)) :
    spread? (before ++ parts) = (spread? parts).map (before ++ ·) := by
  obtain ⟨last, hl⟩ := Option.ne_none_iff_exists'.mp (mt List.getLast?_eq_none_iff.mp h)
  have hl' : (before ++ parts).getLast? = some last := by rw [List.getLast?_append, hl]; rfl
  simp only [spread?, hl, hl']
  split
  next =>
    rw [List.dropLast_append_of_ne_nil h]
    cases Ipv4.strict? last <;> simp
  next => rfl

theorem spread?_singleton {cs : List Char} (h : '.' ∉ cs) : spread? [cs] = some [cs] := by
  simp [spread?, h]

theorem spread?_quad (a : Ipv4) : spread? [a.dotted] = some [hex (a.value / 65536), hex (a.value % 65536)] := by
  have hp : '.' ∈ a.dotted := by simp [Ipv4.dotted, Ipv4.octets, Text.join]
  simp [spread?, hp, Ipv4.strict?_dotted]

/-- The parts of groups are read as the groups, a dotted quad as two of them. -/
theorem Groups.spread {mixed : Bool} {cs : List Char} {gs : List Nat} (h : Groups mixed cs gs) :
    ∃ parts, spread? (Text.splitOn [':'] cs) = some parts ∧ List.Forall₂ Group parts gs ∧ parts ≠ [] ∧
      parts.length ≤ (Text.splitOn [':'] cs).length + 1 ∧ (mixed = false → parts = Text.splitOn [':'] cs) := by
  induction h with
  | @one cs g h =>
    have hc : ':' ∉ cs := fun hm => absurd (h.mem hm) (by decide)
    have hp : '.' ∉ cs := fun hm => absurd (h.mem hm) (by decide)
    rw [Text.splitOn_of_not_mem hc, spread?_singleton hp]
    exact ⟨[cs], rfl, .cons h .nil, by simp, by simp, fun _ => rfl⟩
  | @more cs rest g gs h _ ih =>
    have hc : ':' ∉ cs := fun hm => absurd (h.mem hm) (by decide)
    obtain ⟨parts, hs, hg, -, hlen, hplain⟩ := ih
    have hne : Text.splitOn [':'] rest ≠ [] := Text.splitFrom_ne_nil [':'] 0 rest
    rw [Text.splitOn_append_of_not_mem hc, ← List.singleton_append, spread?_append hne, hs]
    refine ⟨cs :: parts, rfl, .cons h hg, by simp, by simpa using hlen, ?_⟩
    intro hm
    rw [hplain hm]
    rfl
  | quad hm a =>
    have hc : ':' ∉ a.dotted := by
      intro hc
      rcases Ipv4.mem_dotted hc with h | h
      · exact absurd h (by decide)
      · exact absurd h (by decide)
    have hlt := a.value_lt
    rw [Text.splitOn_of_not_mem hc, spread?_quad]
    refine ⟨_, rfl, .cons (group_hex (by omega)) (.cons (group_hex (by omega)) .nil), by simp, by simp, ?_⟩
    rw [hm]
    intro h
    cases h

theorem cutAtGap?_of_ne_nil {parts : List (List Char)} (h : ∀ part ∈ parts, part ≠ []) : cutAtGap? parts = none := by
  induction parts with
  | nil => rfl
  | cons a rest ih =>
    have hrest := ih fun part hp => h part (List.mem_cons_of_mem _ hp)
    rcases rest with _ | ⟨b, _ | ⟨c, rest⟩⟩
    · rfl
    · rfl
    · have hb : b.isEmpty = false := by simpa using h b (by simp)
      rw [cutAtGap?, hb, hrest]
      rfl

theorem cutAtGap?_append {before after : List (List Char)} (hb : before ≠ []) (hne : ∀ part ∈ before.tail, part ≠ [])
    (ha : after ≠ []) : cutAtGap? (before ++ [] :: after) = some (before, after) := by
  obtain ⟨c, after, rfl⟩ := List.exists_cons_of_ne_nil ha
  -- a gap is looked for from the second part on, for the first one may be empty
  induction before with
  | nil => exact absurd rfl hb
  | cons a rest ih =>
    cases rest with
    | nil => rfl
    | cons b rest =>
      have hb : b.isEmpty = false := by simpa using hne b (by simp)
      have hrest := ih (by simp) fun part hp => hne part (List.mem_cons_of_mem _ hp)
      obtain ⟨d, more, hd⟩ : ∃ d more, rest ++ [] :: c :: after = d :: more := by cases rest <;> simp
      rw [List.cons_append, hd] at hrest
      rw [List.cons_append, List.cons_append, hd, cutAtGap?, hb, hrest]
      rfl

theorem beside_of_ne {outer? : Option (List Char)} (h : outer? ≠ some []) (parts : List (List Char)) :
    beside outer? parts = some parts := by
  unfold beside
  split
  next => exact absurd rfl h
  next => rfl

/-- The parts of a side are read as its groups; a side without groups is one empty part. -/
theorem Side.spread {mixed : Bool} {cs : List Char} {gs : List Nat} (h : Side mixed cs gs) :
    ∃ parts groups, spread? (Text.splitOn [':'] cs) = some parts ∧ parts ≠ [] ∧ (∀ part ∈ parts.tail, part ≠ []) ∧
      parts.length ≤ max 1 gs.length ∧ beside parts.head? parts = some groups ∧
      beside parts.getLast? parts = some groups ∧ List.Forall₂ Group groups gs ∧
      (mixed = false → parts = Text.splitOn [':'] cs) := by
  cases h with
  | empty => exact ⟨[[]], [], rfl, by simp, by simp, by simp, rfl, rfl, .nil, fun _ => rfl⟩
  | present h =>
    obtain ⟨parts, hs, hg, hne, -, hplain⟩ := h.spread
    have hall := ne_nil_of_mem hg
    refine ⟨parts, parts, hs, hne, ?_, ?_, beside_of_ne ?_ parts, beside_of_ne ?_ parts, hg, hplain⟩
    · exact fun part hp => hall part (List.mem_of_mem_tail hp)
    · rw [hg.length_eq]
      exact Nat.le_max_right 1 gs.length
    · exact fun he => hall [] (List.mem_of_head? he) rfl
    · exact fun he => hall [] (List.mem_of_getLast? he) rfl

/-! ### Whole addresses -/

theorem ofGroups?_eq {gs : List Nat} (hlen : gs.length = 8) (hlt : ∀ g ∈ gs, g < 65536) :
    ofGroups? gs = some ⟨gs, hlen, hlt⟩ :=
  dif_pos ⟨hlen, hlt⟩

theorem eq_of_groups {a b : Ipv6} (h : a.groups = b.groups) : a = b := by
  cases a
  cases b
  simpa using h

theorem ofParts?_full {parts : List (List Char)} {gs : List Nat} (h : List.Forall₂ Group parts gs) :
    ofParts? parts = ofGroups? gs := by
  rw [ofParts?, cutAtGap?_of_ne_nil (ne_nil_of_mem h)]
  simp only [mapM_group? h, Option.bind_eq_bind, Option.bind_some]

theorem ofParts?_gap {before after highs lows : List (List Char)} {hs ls : List Nat} (hb : before ≠ [])
    (htail : ∀ part ∈ before.tail, part ≠ []) (ha : after ≠ []) (hhigh : beside before.head? before = some highs)
    (hlow : beside after.getLast? after = some lows) (hhs : List.Forall₂ Group highs hs)
    (hls : List.Forall₂ Group lows ls) (hle : hs.length + ls.length ≤ 7) :
    ofParts? (before ++ [] :: after) = ofGroups? (hs ++ List.replicate (8 - hs.length - ls.length) 0 ++ ls) := by
  have hh := hhs.length_eq
  have hl := hls.length_eq
  rw [ofParts?, cutAtGap?_append hb htail ha]
  simp only [hhigh, hlow, Option.bind_eq_bind, Option.bind_some]
  rw [if_neg (by omega), mapM_group? hhs, mapM_group? hls, hh, hl]
  simp only [Option.bind_some]

theorem splitOn_gap (high low : List Char) : Text.splitOn [':'] (high ++ ':' :: ':' :: low) =
    (Text.splitOn [':'] high ++ [[]]) ++ Text.splitOn [':'] low := by
  have hlow : Text.splitOn [':'] (':' :: low) = [[]] ++ Text.splitOn [':'] low := Text.splitOn_append ':' [] low
  rw [Text.splitOn_append, hlow, List.append_assoc]

/-- Groups with zeros put between them are groups. -/
theorem lt_of_mem_filled {hs ls : List Nat} (hh : ∀ g ∈ hs, g < 65536) (hl : ∀ g ∈ ls, g < 65536) (k : Nat) :
    ∀ g ∈ hs ++ List.replicate k 0 ++ ls, g < 65536 := by
  intro g hg
  rcases List.mem_append.mp hg with hg | hg
  · rcases List.mem_append.mp hg with hg | hg
    · exact hh g hg
    · rw [List.eq_of_mem_replicate hg]
      decide
  · exact hl g hg

/-- A spelled address is read as the groups that it spells. -/
theorem Literal.parse?_eq {cs : List Char} {gs : List Nat} (h : Literal cs gs) :
    ∃ address, parse? cs = some address ∧ address.groups = gs := by
  cases h with
  | full h hlen =>
    obtain ⟨parts, hs, hg, -, hpieces, -⟩ := h.spread
    have hparts := hg.length_eq
    refine ⟨⟨gs, hlen, lt_of_mem hg⟩, ?_, rfl⟩
    rw [parse?, if_neg (by omega), hs]
    simp only [Option.bind_eq_bind, Option.bind_some]
    rw [if_neg (by omega), ofParts?_full hg, ofGroups?_eq hlen (lt_of_mem hg)]
  | @gap high low hs ls hh hl hle =>
    obtain ⟨before, highs, -, hbne, hbtail, hblen, hhigh, -, hhs, hplain⟩ := hh.spread
    obtain ⟨after, lows, hspread, hane, -, halen, -, hlow, hls, -⟩ := hl.spread
    -- there is no dotted quad before the two colons, so that the parts there are the pieces themselves
    obtain rfl := hplain rfl
    have hlen : (hs ++ List.replicate (8 - hs.length - ls.length) 0 ++ ls).length = 8 := by
      simp only [List.length_append, List.length_replicate]
      omega
    have hlt := lt_of_mem_filled (lt_of_mem hhs) (lt_of_mem hls) (8 - hs.length - ls.length)
    have hlone : Text.splitOn [':'] low ≠ [] := Text.splitFrom_ne_nil [':'] 0 low
    have hbpos := List.length_pos_iff.mpr hbne
    have hlpos := List.length_pos_iff.mpr hlone
    refine ⟨⟨_, hlen, hlt⟩, ?_, rfl⟩
    rw [parse?, splitOn_gap, if_neg (by simp only [List.length_append, List.length_singleton]; omega), spread?_append hlone,
      hspread]
    simp only [Option.map_some, Option.bind_eq_bind, Option.bind_some]
    rw [if_neg (by simp only [List.length_append, List.length_singleton]; omega), List.append_assoc, List.singleton_append,
      ofParts?_gap hbne hbtail hane hhigh hlow hhs hls hle, ofGroups?_eq hlen hlt]

/-! ### Characters of a spelling -/

theorem Groups.mem_cases {mixed : Bool} {cs : List Char} {gs : List Nat} (h : Groups mixed cs gs) {c : Char}
    (hc : c ∈ cs) : Ipv4.isHexDigit c = true ∨ c = ':' ∨ c = '.' := by
  induction h with
  | one h => exact .inl (h.mem hc)
  | more h _ ih =>
    rcases List.mem_append.mp hc with hc | hc
    · exact .inl (h.mem hc)
    · rcases List.mem_cons.mp hc with rfl | hc
      · exact .inr (.inl rfl)
      · exact ih hc
  | quad _ a =>
    rcases Ipv4.mem_dotted hc with h | h
    · exact .inl (Ipv4.isHexDigit_of_isAsciiDigit h)
    · exact .inr (.inr h)

theorem Side.mem_cases {mixed : Bool} {cs : List Char} {gs : List Nat} (h : Side mixed cs gs) {c : Char}
    (hc : c ∈ cs) : Ipv4.isHexDigit c = true ∨ c = ':' ∨ c = '.' := by
  cases h with
  | empty => cases hc
  | present h => exact h.mem_cases hc

namespace Literal

variable {cs : List Char} {gs : List Nat}

theorem mem_cases (h : Literal cs gs) {c : Char} (hc : c ∈ cs) : Ipv4.isHexDigit c = true ∨ c = ':' ∨ c = '.' := by
  cases h with
  | full h => exact h.mem_cases hc
  | gap hh hl =>
    rcases List.mem_append.mp hc with hc | hc
    · exact hh.mem_cases hc
    · rcases List.mem_cons.mp hc with rfl | hc
      · exact .inr (.inl rfl)
      · rcases List.mem_cons.mp hc with rfl | hc
        · exact .inr (.inl rfl)
        · exact hl.mem_cases hc

theorem not_mem (h : Literal cs gs) {c : Char} (hc : Ipv4.isHexDigit c = false ∧ c ≠ ':' ∧ c ≠ '.') : c ∉ cs := by
  intro hm
  obtain ⟨hd, hcolon, hp⟩ := hc
  rcases h.mem_cases hm with h | h | h
  · rw [hd] at h
    cases h
  · exact hcolon h
  · exact hp h

theorem allAscii (h : Literal cs gs) : Text.AllAscii cs := by
  intro c hc
  rcases h.mem_cases hc with h | rfl | rfl
  · have := Ipv4.isHexDigit_cases h
    omega
  · decide
  · decide

theorem colon_mem (h : Literal cs gs) : ':' ∈ cs := by
  cases h with
  | full h hlen =>
    cases h with
    | one => cases hlen
    | more => simp
    | quad => cases hlen
  | gap => simp

theorem getLast?_ne (h : Literal cs gs) : cs.getLast? ≠ some '.' := by
  have hgroups : ∀ {cs gs}, Groups true cs gs → cs ≠ [] ∧ cs.getLast? ≠ some '.' := by
    intro cs gs h
    induction h with
    | one h => exact ⟨h.ne_nil, fun hc => absurd (h.mem (List.mem_of_getLast? hc)) (by decide)⟩
    | more _ _ ih =>
      refine ⟨by simp, ?_⟩
      rw [← List.singleton_append, ← List.append_assoc]
      exact Text.getLast?_append_ne ih.1 ih.2
    | quad _ a => exact a.dotted_getLast
  cases h with
  | full h => exact (hgroups h).2
  | gap _ hl =>
    cases hl with
    | empty => simp [List.getLast?_append]
    | present h =>
      have hlow := hgroups h
      exact Text.getLast?_append_ne (by simp) (@Text.getLast?_append_ne [':', ':'] _ '.' hlow.1 hlow.2)

end Literal

/-! ### Letter case -/

theorem Groups.lower {mixed : Bool} {cs : List Char} {gs : List Nat} (h : Groups mixed cs gs) :
    Groups mixed (cs.map Text.lowerChar) gs := by
  induction h with
  | one h => exact .one h.lower
  | more h _ ih =>
    rw [List.map_append, List.map_cons]
    exact .more h.lower ih
  | quad hm a =>
    rw [Ipv4.map_lowerChar_dotted]
    exact .quad hm a

theorem Side.lower {mixed : Bool} {cs : List Char} {gs : List Nat} (h : Side mixed cs gs) :
    Side mixed (cs.map Text.lowerChar) gs := by
  cases h with
  | empty => exact .empty
  | present h => exact .present h.lower

theorem Literal.lower {cs : List Char} {gs : List Nat} (h : Literal cs gs) : Literal (cs.map Text.lowerChar) gs := by
  cases h with
  | full h hlen => exact .full h.lower hlen
  | gap hh hl hle =>
    rw [List.map_append, List.map_cons, List.map_cons]
    exact .gap hh.lower hl.lower hle

end SiteReader.Ipv6
