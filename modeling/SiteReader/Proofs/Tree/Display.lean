import SiteReader.Json.Printer
import SiteReader.Proofs.Text.Basic
import SiteReader.Tree.Display

/-!
# Values that look like their JSON text

What is shown of a value is mostly not its JSON text: null and truth values have other words, infinities and the not-a-number
other names, and texts stand in other quotes.  A value looks like its JSON text if and only if each of its nodes does
(`display_eq_print_iff`).
-/

namespace SiteReader

namespace Text

/-- A character inside a text in double quotes has the same form in messages and in JSON text. -/
def LooksLikeJson (c : Char) : Prop :=
  isPrintable c = true ∨ c ∈ ['\n', '\r', '\t']

theorem stringChar_of_le {c : Char} (h : 32 ≤ c.toNat) (hq : c ≠ '"') (hs : c ≠ '\\') : Json.stringChar false c = [c] := by
  have hcontrol : ∀ d ∈ ['\n', '\r', '\t', '\x08', '\x0c'], c ≠ d := by
    rintro d hd rfl
    exact absurd h (forall_mem (P := fun d => ¬ 32 ≤ d.toNat) (by decide) c hd)
  simp only [List.forall_mem_cons] at hcontrol
  obtain ⟨hn, hr, ht, hb, hf, -⟩ := hcontrol
  simp [Json.stringChar, hq, hs, hn, hr, ht, hb, hf, Nat.not_lt.mpr h]

theorem quotedChar_eq_stringChar {c : Char} (hc : c ≠ '"') (h : LooksLikeJson c) :
    quotedChar '"' c = Json.stringChar false c := by
  by_cases hescape : c ∈ ['\\', '\n', '\r', '\t']
  · exact forall_mem (P := fun c => quotedChar '"' c = Json.stringChar false c) (by decide) c hescape
  · simp only [List.mem_cons, not_or] at hescape
    obtain ⟨hslash, hn, hr, ht, -⟩ := hescape
    have hprintable : isPrintable c = true := h.resolve_right (by simp [hn, hr, ht])
    have hle : 32 ≤ c.toNat := by
      refine Nat.le_of_not_lt fun hlow => ?_
      have hascii : c.toNat < 128 := Nat.lt_trans hlow (by decide)
      simp only [isPrintable, hascii, if_true, Bool.and_eq_true, decide_eq_true_eq] at hprintable
      exact absurd hprintable.1 (Nat.not_le.mpr hlow)
    rw [stringChar_of_le hle hc hslash]
    simp [quotedChar, hc, hslash, hn, hr, ht, hprintable]

/-- Any other character has forms of which neither starts with the other. -/
theorem quotedChar_append_ne {c : Char} (hc : c ≠ '"') (h : ¬ LooksLikeJson c) (u v : List Char) :
    quotedChar '"' c ++ u ≠ Json.stringChar false c ++ v := by
  unfold LooksLikeJson at h
  simp only [List.mem_cons, not_or, Bool.not_eq_true] at h
  obtain ⟨hprintable, hn, hr, ht, -⟩ := h
  have hslash : c ≠ '\\' := by
    rintro rfl
    exact absurd hprintable (by decide)
  have hquoted : quotedChar '"' c = if c.toNat < 0x100 then '\\' :: 'x' :: hexDigits 2 c.toNat
      else if c.toNat < 0x10000 then '\\' :: 'u' :: hexDigits 4 c.toNat else '\\' :: 'U' :: hexDigits 8 c.toNat := by
    simp [quotedChar, hc, hslash, hn, hr, ht, hprintable]
  intro heq
  by_cases hlow : c.toNat < 32
  · -- the letters after the backslash differ
    obtain ⟨letter, rest, hletter, hstring⟩ :
        ∃ letter rest, 'x' ≠ letter ∧ Json.stringChar false c = '\\' :: letter :: rest := by
      by_cases hb : c = '\x08'
      · exact ⟨'b', [], by decide, by rw [hb]; decide⟩
      by_cases hf : c = '\x0c'
      · exact ⟨'f', [], by decide, by rw [hf]; decide⟩
      refine ⟨'u', hexDigits 4 c.toNat, by decide, ?_⟩
      simp [Json.stringChar, hc, hslash, hn, hr, ht, hb, hf, hlow, Json.unicodeEscape]
    rw [hquoted, if_pos (Nat.lt_trans hlow (by decide)), hstring] at heq
    exact hletter (List.cons.inj (List.cons.inj heq).2).1
  · -- only one of them starts with a backslash
    rw [stringChar_of_le (Nat.le_of_not_lt hlow) hc hslash, hquoted] at heq
    refine hslash ?_
    split at heq
    next => exact (List.cons.inj heq).1.symm
    next =>
      split at heq <;> exact (List.cons.inj heq).1.symm

/-- A text has the same form in messages and in JSON text. -/
structure QuotesLikeJson (cs : List Char) : Prop where
  single : '\'' ∈ cs
  no_double : '"' ∉ cs
  chars : ∀ c ∈ cs, LooksLikeJson c

theorem flatMap_quotedChar_eq_iff {cs : List Char} (h : '"' ∉ cs) (u v : List Char) :
    cs.flatMap (quotedChar '"') ++ u = cs.flatMap (Json.stringChar false) ++ v ↔ (∀ c ∈ cs, LooksLikeJson c) ∧ u = v := by
  induction cs with
  | nil => simp
  | cons c rest ih =>
    rw [List.mem_cons, not_or] at h
    rw [List.flatMap_cons, List.flatMap_cons, List.append_assoc, List.append_assoc, List.forall_mem_cons, and_assoc]
    by_cases hc : LooksLikeJson c
    · rw [quotedChar_eq_stringChar (Ne.symm h.1) hc, List.append_cancel_left_eq, ih h.2, and_iff_right hc]
    · exact iff_of_false (quotedChar_append_ne (Ne.symm h.1) hc _ _) fun ⟨hlooks, _⟩ => hc hlooks

theorem quoted_eq_printString_iff (cs u v : List Char) :
    quoted cs ++ u = Json.printString false cs ++ v ↔ QuotesLikeJson cs ∧ u = v := by
  by_cases hquote : '\'' ∈ cs ∧ '"' ∉ cs
  · have hfor : quoteFor cs = '"' := by simp [quoteFor, hquote.1, hquote.2]
    have hlike : QuotesLikeJson cs ↔ ∀ c ∈ cs, LooksLikeJson c :=
      ⟨QuotesLikeJson.chars, fun hchars => ⟨hquote.1, hquote.2, hchars⟩⟩
    rw [quoted, hfor, Json.printString, hlike]
    simp only [List.cons_append, List.append_assoc, List.cons.injEq, true_and, flatMap_quotedChar_eq_iff hquote.2,
      List.nil_append]
  · have hfor : quoteFor cs = '\'' := by
      rw [quoteFor, if_neg]
      simpa using hquote
    refine iff_of_false (fun heq => ?_) fun ⟨hlike, _⟩ => hquote ⟨hlike.single, hlike.no_double⟩
    rw [quoted, hfor] at heq
    exact absurd (List.cons.inj heq).1 (by decide)

end Text

namespace Double

/-- Numbers look like JSON text, unless they are infinite or no numbers. -/
def IsNumber : Double → Prop
  | .finite _ _ _ => True
  | .infinite _ | .nan => False

theorem text_plainStyle_eq_iff (x : Double) (u v : List Char) :
    x.text plainStyle ++ u = x.text jsonStyle ++ v ↔ x.IsNumber ∧ u = v := by
  cases x with
  | finite negative mantissa exponent =>
    have hsame : text plainStyle (.finite negative mantissa exponent) = text jsonStyle (.finite negative mantissa exponent) :=
      rfl
    rw [hsame, List.append_cancel_left_eq, IsNumber, true_and]
  | infinite negative => cases negative <;> simp [text, plainStyle, jsonStyle, IsNumber]
  | nan => simp [text, plainStyle, jsonStyle, IsNumber]

end Double

namespace Tree

/-- A node on its own looks like its JSON text. -/
def LooksLikeJson : Tree → Prop
  | null | boolean _ => False
  | integer _ | array _ => True
  | double x => x.IsNumber
  | text s => Text.QuotesLikeJson s.toList
  | object fields => ∀ key ∈ fields.map Prod.fst, Text.QuotesLikeJson key.toList

theorem looksLikeJson_array (items : List Tree) : (array items).LooksLikeJson :=
  trivial

theorem looksLikeJson_object {fields : List (String × Tree)} :
    (object fields).LooksLikeJson ↔ ∀ key ∈ fields.map Prod.fst, Text.QuotesLikeJson key.toList :=
  Iff.rfl

theorem spaced_marks (depth : Nat) : Json.spaced.itemSeparator.toList = [',', ' '] ∧
    Json.spaced.keySeparator.toList = [':', ' '] ∧ Json.spaced.asciiOnly = false ∧ Json.lineBreak Json.spaced depth = [] := by
  simp [Json.spaced, Json.lineBreak]

-- the texts after a value are carried along, so that the two forms are compared part by part
mutual

/-- A value is shown like its JSON text if and only if each of its nodes is. -/
theorem display_eq_printAt_iff (t : Tree) (depth : Nat) (u v : List Char) :
    display t ++ u = Json.printAt Json.spaced depth t ++ v ↔ (∀ node ∈ t.preorder, LooksLikeJson node) ∧ u = v := by
  cases t with
  | null => simp [display, Json.printAt, preorder, LooksLikeJson]
  | boolean b => cases b <;> simp [display, Json.printAt, preorder, LooksLikeJson]
  | integer n => simp [display, Json.printAt, preorder, LooksLikeJson]
  | double x => simp [display, Json.printAt, preorder, LooksLikeJson, Double.text_plainStyle_eq_iff]
  | text s => simp [display, Json.printAt, preorder, LooksLikeJson, Json.spaced, Text.quoted_eq_printString_iff]
  | array items =>
    cases items with
    | nil => simp [display, Json.printAt, preorder, preorderItems, looksLikeJson_array]
    | cons t rest =>
      obtain ⟨-, -, -, hline⟩ := spaced_marks depth
      obtain ⟨-, -, -, hinner⟩ := spaced_marks (depth + 1)
      rw [display, Json.printAt, hline, hinner]
      simp only [List.nil_append, List.append_nil, List.cons_append, List.append_assoc, List.cons.injEq, true_and]
      rw [display_eq_printAt_iff t, displayItems_eq_printItems_iff rest]
      simp only [List.cons.injEq, true_and, preorder, preorderItems, List.forall_mem_cons, List.forall_mem_append,
        looksLikeJson_array, and_assoc]
  | object fields =>
    cases fields with
    | nil => simp [display, Json.printAt, preorder, preorderFields, looksLikeJson_object]
    | cons field rest =>
      obtain ⟨key, t⟩ := field
      obtain ⟨-, hkey, hascii, hline⟩ := spaced_marks depth
      obtain ⟨-, -, -, hinner⟩ := spaced_marks (depth + 1)
      rw [display, Json.printAt, hline, hinner, hkey, hascii]
      simp only [List.nil_append, List.append_nil, List.cons_append, List.append_assoc, List.cons.injEq, true_and]
      rw [Text.quoted_eq_printString_iff]
      simp only [List.cons.injEq, true_and]
      rw [display_eq_printAt_iff t, displayFields_eq_printFields_iff rest]
      simp only [List.cons.injEq, true_and, preorder, preorderFields, List.forall_mem_cons, List.forall_mem_append,
        looksLikeJson_object, List.map_cons, and_assoc, and_left_comm]

theorem displayItems_eq_printItems_iff (items : List Tree) (depth : Nat) (u v : List Char) :
    displayItems items ++ u = Json.printItems Json.spaced depth items ++ v ↔
      (∀ node ∈ preorderItems items, LooksLikeJson node) ∧ u = v := by
  cases items with
  | nil => simp [displayItems, Json.printItems, preorderItems]
  | cons t rest =>
    obtain ⟨hitem, -, -, hline⟩ := spaced_marks depth
    rw [displayItems, Json.printItems, hline, hitem]
    simp only [List.nil_append, List.append_nil, List.cons_append, List.append_assoc, List.cons.injEq, true_and]
    rw [display_eq_printAt_iff t, displayItems_eq_printItems_iff rest]
    simp only [preorderItems, List.forall_mem_append, and_assoc]

theorem displayFields_eq_printFields_iff (fields : List (String × Tree)) (depth : Nat) (u v : List Char) :
    displayFields fields ++ u = Json.printFields Json.spaced depth fields ++ v ↔
      (∀ key ∈ fields.map Prod.fst, Text.QuotesLikeJson key.toList) ∧
        (∀ node ∈ preorderFields fields, LooksLikeJson node) ∧ u = v := by
  cases fields with
  | nil => simp [displayFields, Json.printFields, preorderFields]
  | cons field rest =>
    obtain ⟨key, t⟩ := field
    obtain ⟨hitem, hkey, hascii, hline⟩ := spaced_marks depth
    rw [displayFields, Json.printFields, hline, hitem, hkey, hascii]
    simp only [List.nil_append, List.append_nil, List.cons_append, List.append_assoc, List.cons.injEq, true_and]
    rw [Text.quoted_eq_printString_iff]
    simp only [List.cons.injEq, true_and]
    rw [display_eq_printAt_iff t, displayFields_eq_printFields_iff rest]
    simp only [preorderFields, List.forall_mem_cons, List.forall_mem_append, List.map_cons, and_assoc, and_left_comm]

end

/-- A value as a whole is shown like its JSON text if and only if each of its nodes is. -/
theorem display_eq_print_iff {t : Tree} : display t = Json.print Json.spaced t ↔ ∀ node ∈ t.preorder, LooksLikeJson node := by
  have happend := display_eq_printAt_iff t 0 [] []
  rwa [List.append_nil, List.append_nil, and_iff_left rfl] at happend

end Tree
end SiteReader
