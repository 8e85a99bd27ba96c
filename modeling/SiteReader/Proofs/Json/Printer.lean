import SiteReader.Json.Printer
import SiteReader.Proofs.Json.Reader

/-!
# Printing and reading back

What is printed of a value spells this value in JSON (`printAt_spelling`), whatever layout and depth, so the value is read
back from its text (`read?_print`).  This holds of values without floating-point numbers, whose texts are left out here.
-/

namespace SiteReader.Json

open Ipv4 (Digits IsDigit)

/-! ### Strings -/

theorem isDigit_hexDigit {d : Nat} (h : d < 16) : IsDigit 16 (Text.hexDigit d) d := by
  have hall : ∀ d < 16, "0123456789abcdef".toList[d]? = some (Text.hexDigit d) := by decide
  exact ⟨h, .inl (hall d h)⟩

theorem digits_hexDigits (width n : Nat) : Digits 16 (Text.hexDigits width n) (n % 16 ^ width) := by
  induction width generalizing n with
  | zero =>
    rw [Nat.pow_zero, Nat.mod_one]
    exact .nil
  | succ width ih =>
    have hvalue : n % 16 ^ (width + 1) = 16 * (n / 16 % 16 ^ width) + n % 16 := by
      rw [Nat.pow_succ, Nat.mul_comm, Nat.mod_mul]
      omega
    rw [hvalue]
    exact .snoc (ih (n / 16)) (isDigit_hexDigit (Nat.mod_lt _ (by decide)))

theorem length_hexDigits (width n : Nat) : (Text.hexDigits width n).length = width := by
  induction width generalizing n with
  | zero => rfl
  | succ width ih => rw [Text.hexDigits, List.length_append, ih, List.length_singleton]

theorem escape_unicodeEscape {n : Nat} (h : n < 0x10000) : Escape n (unicodeEscape n) := by
  have hd := digits_hexDigits 4 n
  rw [show n % 16 ^ 4 = n from Nat.mod_eq_of_lt h] at hd
  exact .code hd (length_hexDigits 4 n)

theorem Pieces.append {quote : Char} {first others : List Nat} {cs rest : List Char} (h : Pieces quote first cs)
    (hr : Pieces quote others rest) : Pieces quote (first ++ others) (cs ++ rest) := by
  induction h with
  | nil => exact hr
  | cons h _ ih =>
    rw [List.append_assoc]
    exact .cons h ih

theorem Pieces.of_piece {quote : Char} {n : Nat} {cs : List Char} (h : Piece quote n cs) : Pieces quote [n] cs := by
  have := Pieces.cons h .nil
  rwa [List.append_nil] at this

/-- A character is printed as its unit, or as its pair of units. -/
theorem stringChar_pieces (asciiOnly : Bool) (c : Char) :
    ∃ units, Pieces '"' units (stringChar asciiOnly c) ∧
      ∀ others, joinUnits (units ++ others) = c :: joinUnits others := by
  have hletters : ∀ c ∈ ['"', '\\', '\n', '\r', '\t', '\x08', '\x0c'],
      ∃ p ∈ escapeLetters, p.2 = c ∧ stringChar asciiOnly c = ['\\', p.1] :=
    Text.forall_mem (by cases asciiOnly <;> decide)
  by_cases hc : c ∈ ['"', '\\', '\n', '\r', '\t', '\x08', '\x0c']
  · obtain ⟨p, hp, rfl, hletter⟩ := hletters c hc
    rw [hletter]
    exact ⟨[p.2.toNat], .of_piece (.escape (.letter hp)), joinUnits_char p.2⟩
  · simp only [List.mem_cons, not_or] at hc
    obtain ⟨hquote, hslash, hn, hr, ht, hb, hf, -⟩ := hc
    rw [stringChar, if_neg hquote, if_neg hslash, if_neg hn, if_neg hr, if_neg ht, if_neg hb, if_neg hf]
    by_cases hlow : c.toNat < 32
    · rw [if_pos hlow]
      exact ⟨[c.toNat], .of_piece (.escape (escape_unicodeEscape (by omega))), joinUnits_char c⟩
    rw [if_neg hlow]
    split
    next =>
      split
      next hplane => exact ⟨[c.toNat], .of_piece (.escape (escape_unicodeEscape hplane)), joinUnits_char c⟩
      next hplane =>
        have hvalid := not_surrogate c
        refine ⟨_, Pieces.append (.of_piece (.escape (escape_unicodeEscape ?_)))
          (.of_piece (.escape (escape_unicodeEscape ?_))), fun others => joinUnits_pair (by omega) others⟩
        · omega
        · omega
    next => exact ⟨[c.toNat], .of_piece (.raw (by omega) hquote hslash), joinUnits_char c⟩

theorem printString_text (asciiOnly : Bool) (s : String) :
    StringText .strict s (printString asciiOnly s.toList) := by
  have hpieces : ∀ cs : List Char,
      ∃ units, Pieces '"' units (cs.flatMap (stringChar asciiOnly)) ∧ joinUnits units = cs := by
    intro cs
    induction cs with
    | nil => exact ⟨[], .nil, rfl⟩
    | cons c cs ih =>
      obtain ⟨first, hfirst, hjoin⟩ := stringChar_pieces asciiOnly c
      obtain ⟨others, hothers, hcs⟩ := ih
      refine ⟨first ++ others, hfirst.append hothers, ?_⟩
      rw [hjoin, hcs]
  obtain ⟨units, hunits, hjoin⟩ := hpieces s.toList
  have htext : StringText .strict (String.ofList (joinUnits units)) (printString asciiOnly s.toList) := .double hunits
  rwa [hjoin, String.ofList_toList] at htext

/-! ### Numbers -/

theorem whole_toDigits (n : Nat) : Whole (Nat.toDigits 10 n) n := by
  have hdigits (m : Nat) : Digits 10 (Nat.toDigits 10 m) m := Digits.toDigits (by decide) (by decide) m
  have hne (m : Nat) : Nat.toDigits 10 m ≠ [] := by
    intro h
    have := Nat.length_toDigits_pos (b := 10) (n := m)
    simp [h] at this
  refine ⟨hdigits n, hne n, ?_⟩
  induction n using Nat.strongRecOn with
  | ind n ih =>
    intro hz
    by_cases hn : n < 10
    · rw [Nat.toDigits_of_lt_base hn] at hz ⊢
      rw [Option.some.inj hz]
    · -- only the digits of zero start with zero, and the quotient by ten is not zero
      obtain ⟨c, cs, hcs⟩ := List.exists_cons_of_ne_nil (hne (n / 10))
      rw [Nat.toDigits_of_base_le (by decide) (by omega), hcs] at hz
      obtain rfl := Option.some.inj hz
      have hzero := ih (n / 10) (by omega) (by rw [hcs]; rfl)
      have hvalue := (hdigits (n / 10)).digitsValue_eq
      rw [hzero] at hvalue
      have : Ipv4.digitsValue 10 ['0'] = 0 := rfl
      omega

theorem number_ofInt (n : Int) : Number (.integer n) (Numeral.ofInt n) := by
  have hnumber (negative : Bool) := @Number.integer negative _ _ (whole_toDigits n.natAbs)
  unfold Numeral.ofInt
  split
  next hn =>
    have hvalue : (if true then -Int.ofNat n.natAbs else Int.ofNat n.natAbs) = n := by
      show -(n.natAbs : Int) = n
      omega
    have := hnumber true
    rwa [hvalue] at this
  next hn =>
    have hvalue : (if false then -Int.ofNat n.natAbs else Int.ofNat n.natAbs) = n := by
      show (n.natAbs : Int) = n
      omega
    have := hnumber false
    rwa [hvalue] at this

/-! ### Values -/

/-- Values without floating-point numbers whose objects have distinct keys. -/
inductive Printable : Tree → Prop
  | null : Printable .null
  | boolean (b : Bool) : Printable (.boolean b)
  | integer (n : Int) : Printable (.integer n)
  | text (s : String) : Printable (.text s)
  | array {ts : List Tree} (h : ∀ t ∈ ts, Printable t) : Printable (.array ts)
  | object {entries : List (String × Tree)} (hd : (entries.map Prod.fst).Nodup)
      (h : ∀ entry ∈ entries, Printable entry.2) : Printable (.object entries)

/-- The separators of a layout are the marks of JSON, with white space after them. -/
structure Layout.Standard (layout : Layout) : Prop where
  item : ∃ space, Space space ∧ layout.itemSeparator.toList = ',' :: space
  key : ∃ space, Space space ∧ layout.keySeparator.toList = ':' :: space

theorem standard_compact : compact.Standard :=
  ⟨⟨[], by decide, by simp [compact]⟩, ⟨[], by decide, by simp [compact]⟩⟩

theorem standard_spaced (asciiOnly : Bool) : Layout.Standard ⟨", ", ": ", none, asciiOnly⟩ :=
  ⟨⟨[' '], by decide, by simp⟩, ⟨[' '], by decide, by simp⟩⟩

theorem standard_indented : indented.Standard :=
  ⟨⟨[], by decide, by simp [indented]⟩, ⟨[' '], by decide, by simp [indented]⟩⟩

theorem Space.append {a b : List Char} (ha : Space a) (hb : Space b) : Space (a ++ b) :=
  List.forall_mem_append.mpr ⟨ha, hb⟩

theorem space_lineBreak (layout : Layout) (depth : Nat) : Space (lineBreak layout depth) := by
  unfold lineBreak
  split
  next n =>
    refine List.forall_mem_cons.mpr ⟨by decide, fun c hc => ?_⟩
    rw [List.eq_of_mem_replicate hc]
    decide
  next => exact List.forall_mem_nil _

variable {layout : Layout}

theorem printItems_spelling (hl : layout.Standard) {depth : Nat} {t : Tree} {ts : List Tree} {before after : List Char}
    (h : ∀ t' ∈ t :: ts, Spelling .strict (.value t') (printAt layout depth t')) (hb : Space before) (ha : Space after) :
    Spelling .strict (.items (t :: ts))
      (before ++ (printAt layout depth t ++ (printItems layout depth ts ++ (after ++ [']'])))) := by
  obtain ⟨space, hs, hsep⟩ := hl.item
  have hnil : Space [] := List.forall_mem_nil _
  induction ts generalizing t before with
  | nil => exact .lastItem hb (h t List.mem_cons_self) ha
  | cons t' ts ih =>
    have hrest := ih (fun t hm => h t (List.mem_cons_of_mem _ hm)) (hs.append (space_lineBreak layout depth))
    have := Spelling.nextItem hb (h t List.mem_cons_self) hnil hrest
    simpa only [printItems, hsep, List.append_assoc, List.cons_append, List.nil_append] using this

theorem printField_spelling (hl : layout.Standard) {depth : Nat} {t : Tree}
    (h : Spelling .strict (.value t) (printAt layout depth t)) (key : String) :
    Spelling .strict (.field key t)
      (printString layout.asciiOnly key.toList ++ layout.keySeparator.toList ++ printAt layout depth t) := by
  obtain ⟨space, hs, hsep⟩ := hl.key
  have hnil : Space [] := List.forall_mem_nil _
  have := Spelling.field (.text (printString_text layout.asciiOnly key)) hnil hs h
  simpa only [hsep, List.append_assoc, List.cons_append, List.nil_append] using this

theorem printFields_spelling (hl : layout.Standard) {depth : Nat} {key : String} {t : Tree} {entries : List (String × Tree)}
    {before after : List Char}
    (h : ∀ entry ∈ (key, t) :: entries, Spelling .strict (.value entry.2) (printAt layout depth entry.2))
    (hb : Space before) (ha : Space after) :
    Spelling .strict (.fields ((key, t) :: entries))
      (before ++ (printString layout.asciiOnly key.toList ++ layout.keySeparator.toList ++ printAt layout depth t ++
        (printFields layout depth entries ++ (after ++ ['}'])))) := by
  obtain ⟨space, hs, hsep⟩ := hl.item
  have hnil : Space [] := List.forall_mem_nil _
  induction entries generalizing key t before with
  | nil => exact .lastField hb (printField_spelling hl (h (key, t) List.mem_cons_self) key) ha
  | cons entry entries ih =>
    have hfield := printField_spelling hl (h (key, t) List.mem_cons_self) key
    have hrest := ih (fun entry hm => h entry (List.mem_cons_of_mem _ hm)) (hs.append (space_lineBreak layout depth))
    have := Spelling.nextField hb hfield hnil hrest
    simpa only [printFields, hsep, List.append_assoc, List.cons_append, List.nil_append] using this

/-- The printed text of a value spells this value. -/
theorem printAt_spelling (hl : layout.Standard) {t : Tree} (h : Printable t) (depth : Nat) :
    Spelling .strict (.value t) (printAt layout depth t) := by
  induction h generalizing depth with
  | null => exact .null
  | boolean b =>
    rw [printAt]
    exact .boolean b
  | integer n =>
    rw [printAt]
    exact .number (number_ofInt n)
  | text s =>
    rw [printAt]
    exact .text (printString_text layout.asciiOnly s)
  | @array ts _ ih =>
    cases ts with
    | nil => exact .emptyArray (List.forall_mem_nil _)
    | cons t ts =>
      have hitems := printItems_spelling hl (fun t' hm => ih t' hm (depth + 1)) (space_lineBreak layout (depth + 1))
        (space_lineBreak layout depth)
      rw [printAt]
      simpa only [List.append_assoc, List.cons_append] using Spelling.array hitems
  | @object entries hd _ ih =>
    cases entries with
    | nil => exact .emptyObject (List.forall_mem_nil _)
    | cons entry entries =>
      obtain ⟨key, t⟩ := entry
      have hfields := printFields_spelling hl (fun entry hm => ih entry hm (depth + 1)) (space_lineBreak layout (depth + 1))
        (space_lineBreak layout depth)
      rw [printAt]
      simpa only [List.append_assoc, List.cons_append] using Spelling.object hfields hd

theorem print_document (hl : layout.Standard) {t : Tree} (h : Printable t) : DocumentText .strict t (print layout t) :=
  (printAt_spelling hl h 0).document

/-- A value is read back from its printed text. -/
theorem read?_print (hl : layout.Standard) {t : Tree} (h : Printable t) (hf : (Part.value t).Fits) :
    read? (print layout t) = some t :=
  (print_document hl h).read?_of_strict.1 hf

end SiteReader.Json
