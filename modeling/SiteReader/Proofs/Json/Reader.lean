import SiteReader.Proofs.Entry
import SiteReader.Proofs.Json.Literal

/-!
# Reading what the grammar has

The reader takes every text of the grammar to its value, as far as its integers are within the limit; of a text in the
relaxed dialect it makes this value or nothing (`Spelling.reads`, by induction on the grammar with one case per form).
So a document in JSON is read if its value fits, and not otherwise (`DocumentText.read?_of_strict`).
-/

namespace SiteReader.Json

variable {dialect : Dialect}

/-! ### Results -/

section Reads

variable {α β : Type} {p q : Prop} {result : Option α} {value : α}

theorem Reads.of_iff (h : Reads dialect p result value) (hpq : p ↔ q) : Reads dialect q result value := by
  rwa [Reads, ← hpq]

theorem Reads.bind (h : Reads dialect p result value) {f : α → Option β} {last : β} (hf : Reads dialect q (f value) last) :
    Reads dialect (p ∧ q) (result.bind f) last := by
  rcases h with ⟨rfl, hp⟩ | ⟨rfl, hp⟩
  · rcases hf with ⟨hr, hq⟩ | ⟨hr, hq⟩
    · exact .inl ⟨hr, hp, hq⟩
    · exact .inr ⟨hr, hq.imp_right fun hq h => hq h.2⟩
  · exact .inr ⟨rfl, hp.imp_right fun hp h => hp h.1⟩

theorem Reads.map (h : Reads dialect p result value) (f : α → β) : Reads dialect p (result.map f) (f value) := by
  rcases h with ⟨rfl, hp⟩ | ⟨rfl, hp⟩
  · exact .inl ⟨rfl, hp⟩
  · exact .inr ⟨rfl, hp⟩

end Reads

/-! ### Integers within the limit -/

theorem fits_of_no_integer {part : Part} (h : ∀ n, Tree.integer n ∉ part.nodes) : part.Fits :=
  fun n hn => absurd hn (h n)

theorem fits_array {ts : List Tree} : (Part.value (.array ts)).Fits ↔ (Part.items ts).Fits := by
  simp [Part.Fits, Part.nodes, Tree.preorder]

theorem fits_object {entries : List (String × Tree)} :
    (Part.value (.object entries)).Fits ↔ (Part.fields entries).Fits := by
  simp [Part.Fits, Part.nodes, Tree.preorder]

theorem fits_items_singleton {t : Tree} : (Part.items [t]).Fits ↔ (Part.value t).Fits := by
  simp [Part.Fits, Part.nodes, Tree.preorderItems]

theorem fits_items_cons {t : Tree} {ts : List Tree} :
    (Part.items (t :: ts)).Fits ↔ (Part.value t).Fits ∧ (Part.items ts).Fits := by
  simp [Part.Fits, Part.nodes, Tree.preorderItems, or_imp, forall_and]

theorem fits_fields_singleton {key : String} {t : Tree} : (Part.fields [(key, t)]).Fits ↔ (Part.field key t).Fits := by
  simp [Part.Fits, Part.nodes, Tree.preorderFields]

theorem fits_fields_cons {key : String} {t : Tree} {entries : List (String × Tree)} :
    (Part.fields ((key, t) :: entries)).Fits ↔ (Part.field key t).Fits ∧ (Part.fields entries).Fits := by
  simp [Part.Fits, Part.nodes, Tree.preorderFields, or_imp, forall_and]

/-! ### White space -/

theorem skipSpace_append {gap rest : List Char} (h : Space gap) (hs : ∀ c, rest.head? = some c → isSpace c = false) :
    skipSpace (gap ++ rest) = rest :=
  Text.dropWhile_append_of_stop h hs

theorem skipSpace_append_cons {gap rest : List Char} (h : Space gap) {c : Char} (hc : isSpace c = false) :
    skipSpace (gap ++ c :: rest) = c :: rest := by
  apply skipSpace_append h
  intro d hd
  obtain rfl := Option.some.inj hd
  exact hc

theorem Follows.of_mark {gap rest : List Char} (hg : Space gap) {c : Char} (hc : c = ',' ∨ c = ']' ∨ c = '}') :
    Follows (gap ++ c :: rest) := by
  refine .follows hg ?_
  intro d hd
  obtain rfl := Option.some.inj hd
  exact hc

theorem of_isSpace {P : Char → Prop} (hP : ∀ c ∈ [' ', '\t', '\n', '\r'], P c) {c : Char} (h : isSpace c = true) : P c :=
  hP c (by simpa [isSpace, or_assoc] using h)

/-- What holds of white space, and of the first character after it, holds of the first character. -/
theorem Space.head_append {P : Char → Prop} (hP : ∀ c ∈ [' ', '\t', '\n', '\r'], P c) {gap rest : List Char}
    (h : Space gap) (hr : ∀ c, rest.head? = some c → P c) : ∀ c, (gap ++ rest).head? = some c → P c := by
  intro c hc
  cases gap with
  | nil => exact hr c hc
  | cons d gap =>
    obtain rfl := Option.some.inj hc
    exact of_isSpace hP (h d List.mem_cons_self)

/-- A class of characters without white space. -/
theorem isSpace_eq_false {p : Char → Bool} (hp : ∀ c ∈ [' ', '\t', '\n', '\r'], p c = false) {c : Char} (h : p c = true) :
    isSpace c = false := by
  rw [← Bool.not_eq_true]
  intro hs
  rw [of_isSpace (P := fun c => p c = false) hp hs] at h
  cases h

theorem Follows.ends {rest : List Char} (h : Follows rest) : Ends rest := by
  cases h with
  | @follows gap rest hg hr =>
    refine hg.head_append (Text.forall_mem (by decide)) fun c hc => ?_
    rcases hr c hc with rfl | rfl | rfl <;> decide

/-! ### The first character -/

theorem Number.head {t : Tree} {cs : List Char} (h : Number t cs) :
    ∃ d tail, Text.isAsciiDigit d = true ∧ (cs = d :: tail ∨ cs = '-' :: d :: tail) := by
  have hsigned : ∀ (negative : Bool) {ds : List Char} {n : Nat} (tail : List Char), Whole ds n →
      ∃ d r, Text.isAsciiDigit d = true ∧ (minus negative ++ (ds ++ tail) = d :: r ∨
        minus negative ++ (ds ++ tail) = '-' :: d :: r) := by
    intro negative ds n tail h
    obtain ⟨d, ds, rfl⟩ := List.exists_cons_of_ne_nil h.ne_nil
    refine ⟨d, ds ++ tail, h.digits.isAsciiDigit d List.mem_cons_self, ?_⟩
    cases negative with
    | true => exact .inr rfl
    | false => exact .inl rfl
  cases h with
  | @integer negative ds n h =>
    have := hsigned negative [] h
    rwa [List.append_nil] at this
  | double h => exact hsigned _ _ h

theorem StringText.head {s : String} {cs : List Char} (h : StringText dialect s cs) :
    ∃ c rest, cs = c :: rest ∧ (c = '"' ∨ c = '\'') := by
  cases h with
  | double => exact ⟨_, _, rfl, .inl rfl⟩
  | single => exact ⟨_, _, rfl, .inr rfl⟩

theorem Spelling.value_head {t : Tree} {cs : List Char} (h : Spelling dialect (.value t) cs) :
    ∃ c rest, cs = c :: rest ∧ isSpace c = false ∧ c ≠ ']' := by
  cases h with
  | null => exact ⟨_, _, rfl, by decide, by decide⟩
  | boolean b => cases b <;> exact ⟨_, _, rfl, by decide, by decide⟩
  | number h =>
    obtain ⟨d, tail, hd, rfl | rfl⟩ := h.head
    · refine ⟨_, _, rfl, isSpace_eq_false (Text.forall_mem (by decide)) hd, ?_⟩
      rintro rfl
      exact absurd hd (by decide)
    · exact ⟨_, _, rfl, by decide, by decide⟩
  | text h =>
    obtain ⟨c, rest, rfl, rfl | rfl⟩ := h.head <;> exact ⟨_, _, rfl, by decide, by decide⟩
  | emptyArray => exact ⟨_, _, rfl, by decide, by decide⟩
  | array => exact ⟨_, _, rfl, by decide, by decide⟩
  | emptyObject => exact ⟨_, _, rfl, by decide, by decide⟩
  | object => exact ⟨_, _, rfl, by decide, by decide⟩

theorem KeyText.head {key : String} {cs : List Char} (h : KeyText dialect key cs) :
    ∃ c rest, cs = c :: rest ∧ isSpace c = false ∧ c ≠ '}' := by
  cases h with
  | text h =>
    obtain ⟨c, rest, rfl, rfl | rfl⟩ := h.head <;> exact ⟨_, _, rfl, by decide, by decide⟩
  | bare h =>
    obtain ⟨c, rest, rfl⟩ := List.exists_cons_of_ne_nil h.ne_nil
    have hc := h.start c rfl
    refine ⟨c, rest, rfl, isSpace_eq_false (Text.forall_mem (by decide)) hc, ?_⟩
    rintro rfl
    exact absurd hc (by decide)

theorem Spelling.items_head {ts : List Tree} {cs : List Char} (h : Spelling dialect (.items ts) cs) (rest : List Char) :
    ∃ c tail, skipSpace (cs ++ rest) = c :: tail ∧ c ≠ ']' := by
  cases h with
  | lastItem hb h =>
    obtain ⟨c, tail, rfl, hs, hc⟩ := h.value_head
    exact ⟨c, _, by rw [List.append_assoc]; exact skipSpace_append_cons hb hs, hc⟩
  | nextItem hb h =>
    obtain ⟨c, tail, rfl, hs, hc⟩ := h.value_head
    exact ⟨c, _, by rw [List.append_assoc]; exact skipSpace_append_cons hb hs, hc⟩

theorem Spelling.field_head {key : String} {t : Tree} {cs : List Char} (h : Spelling dialect (.field key t) cs) :
    ∃ c rest, cs = c :: rest ∧ isSpace c = false ∧ c ≠ '}' := by
  cases h with
  | field hk =>
    obtain ⟨c, rest, rfl, h⟩ := hk.head
    exact ⟨c, _, rfl, h⟩

theorem Spelling.fields_head {entries : List (String × Tree)} {cs : List Char} (h : Spelling dialect (.fields entries) cs)
    (rest : List Char) : ∃ c tail, skipSpace (cs ++ rest) = c :: tail ∧ c ≠ '}' := by
  cases h with
  | lastField hb h =>
    obtain ⟨c, tail, rfl, hs, hc⟩ := h.field_head
    exact ⟨c, _, by rw [List.append_assoc]; exact skipSpace_append_cons hb hs, hc⟩
  | nextField hb h =>
    obtain ⟨c, tail, rfl, hs, hc⟩ := h.field_head
    exact ⟨c, _, by rw [List.append_assoc]; exact skipSpace_append_cons hb hs, hc⟩

theorem Spelling.fields_last {entries : List (String × Tree)} {cs : List Char} (h : Spelling dialect (.fields entries) cs) :
    ∃ inner, cs = inner ++ ['}'] := by
  generalize hpart : Part.fields entries = part at h
  induction h generalizing entries with
  | @lastField _ _ before cs after => exact ⟨before ++ (cs ++ after), by simp⟩
  | @nextField _ _ _ before cs after _ _ _ _ _ _ ihr =>
    obtain ⟨inner, rfl⟩ := ihr rfl
    exact ⟨before ++ (cs ++ (after ++ ',' :: inner)), by simp⟩
  | _ => cases hpart

/-! ### Scalars -/

theorem readWord_of_digit {d : Char} (hd : Text.isAsciiDigit d = true) (rest : List Char) :
    readWord (d :: rest) = none ∧ readWord ('-' :: d :: rest) = none := by
  have hne : 'n' ≠ d ∧ 't' ≠ d ∧ 'f' ≠ d ∧ 'N' ≠ d ∧ 'I' ≠ d ∧ '-' ≠ d := by
    refine ⟨?_, ?_, ?_, ?_, ?_, ?_⟩ <;> rintro rfl <;> exact absurd hd (by decide)
  constructor <;> simp [readWord, words, Text.dropHead?, hne]

theorem readValue_scalar {c : Char} (h : c ≠ '"' ∧ c ≠ '[' ∧ c ≠ '{') (fuel : Nat) (rest : List Char) :
    readValue (fuel + 1) (c :: rest) = (readWord (c :: rest)).or (readNumber (c :: rest)) := by
  rw [readValue]
  · exact fun _ he => h.1 (List.cons.inj he).1
  · exact fun _ he => h.2.1 (List.cons.inj he).1
  · exact fun _ he => h.2.2 (List.cons.inj he).1

theorem readValue_null (fuel : Nat) (rest : List Char) : readValue (fuel + 1) ("null".toList ++ rest) = some (.null, rest) := by
  rfl

theorem readValue_boolean (b : Bool) (fuel : Nat) (rest : List Char) :
    readValue (fuel + 1) ((if b then "true".toList else "false".toList) ++ rest) = some (.boolean b, rest) := by
  cases b <;> rfl

theorem readValue_number {t : Tree} {cs rest : List Char} (h : Number t cs) (fuel : Nat) :
    readValue (fuel + 1) (cs ++ rest) = readNumber (cs ++ rest) := by
  obtain ⟨d, tail, hd, rfl | rfl⟩ := h.head
  · have hne : d ≠ '"' ∧ d ≠ '[' ∧ d ≠ '{' := by
      refine ⟨?_, ?_, ?_⟩ <;> rintro rfl <;> exact absurd hd (by decide)
    rw [List.cons_append, readValue_scalar hne, (readWord_of_digit hd _).1]
    rfl
  · rw [List.cons_append, List.cons_append, readValue_scalar (by decide), (readWord_of_digit hd _).2]
    rfl

theorem readValue_single (fuel : Nat) (rest : List Char) : readValue (fuel + 1) ('\'' :: rest) = none := by
  rfl

/-! ### Containers -/

/-- Reads a field of an object. -/
def readField (fuel : Nat) (cs : List Char) : Option ((String × Tree) × List Char) := do
  let (key, rest) ← readKey cs
  let (value, rest) ← readValue fuel rest
  return ((key, value), rest)

theorem readFields_succ (fuel : Nat) (cs : List Char) :
    readFields (fuel + 1) cs = (readField fuel cs).bind fun (entry, rest) =>
      match skipSpace rest with
      | '}' :: rest => some ([entry], rest)
      | ',' :: rest => (readFields fuel (skipSpace rest)).bind fun (entries, rest) => some (entry :: entries, rest)
      | _ => none := by
  rw [readFields, readField]
  cases readKey cs with
  | none => rfl
  | some found =>
    simp only [Option.bind_eq_bind, Option.bind_some]
    cases readValue fuel found.2 <;> rfl

theorem readItems_succ (fuel : Nat) (cs : List Char) :
    readItems (fuel + 1) cs = (readValue fuel cs).bind fun (t, rest) =>
      match skipSpace rest with
      | ']' :: rest => some ([t], rest)
      | ',' :: rest => (readItems fuel (skipSpace rest)).bind fun (ts, rest) => some (t :: ts, rest)
      | _ => none := by
  rw [readItems]
  cases readValue fuel cs <;> rfl

theorem KeyText.reads {key : String} {name gap space rest : List Char} (h : KeyText dialect key name) (hg : Space gap)
    (hs : Space space) (hr : ∀ c, rest.head? = some c → isSpace c = false) :
    Reads dialect True (readKey (name ++ (gap ++ ':' :: (space ++ rest)))) (key, rest) := by
  have hcolon : isSpace ':' = false := by decide
  cases h with
  | text h =>
    cases h with
    | @double _ units cs h =>
      refine .inl ⟨?_, trivial⟩
      have hstring := h.readString_append (gap ++ ':' :: (space ++ rest))
      rw [List.cons_append, List.append_assoc, List.singleton_append, readKey, hstring]
      simp only [Option.bind_eq_bind, Option.bind_some, skipSpace_append_cons hg hcolon, skipSpace_append hs hr]
      rfl
    | single => exact .inr ⟨rfl, .inl rfl⟩
  | bare h =>
    obtain ⟨c, cs, rfl⟩ := List.exists_cons_of_ne_nil h.ne_nil
    have hc : c ≠ '"' := by
      rintro rfl
      exact absurd (h.start _ rfl) (by decide)
    refine .inr ⟨?_, .inl rfl⟩
    rw [List.cons_append, readKey]
    exact fun _ he => hc (List.cons.inj he).1

theorem readValue_array {r tail : List Char} {c : Char} (h : skipSpace r = c :: tail) (hc : c ≠ ']') (fuel : Nat) :
    readValue (fuel + 1) ('[' :: r) = (readItems fuel (skipSpace r)).map fun (ts, rest) => (.array ts, rest) := by
  rw [readValue]
  split
  next heq =>
    rw [h] at heq
    exact absurd (List.cons.inj heq).1 hc
  next => rfl

theorem readValue_object {r tail : List Char} {c : Char} (h : skipSpace r = c :: tail) (hc : c ≠ '}') (fuel : Nat) :
    readValue (fuel + 1) ('{' :: r) =
      (readFields fuel (skipSpace r)).map fun (entries, rest) => (.object (distinctEntries entries), rest) := by
  rw [readValue]
  split
  next heq =>
    rw [h] at heq
    exact absurd (List.cons.inj heq).1 hc
  next => rfl

/-- What the reader makes of a text of the grammar, given enough fuel. -/
def ReadsPart (dialect : Dialect) : Part → List Char → Prop
  | .value t, cs => ∀ (fuel : Nat) (rest : List Char), 2 * cs.length ≤ fuel → Follows rest →
    Reads dialect (Part.value t).Fits (readValue fuel (cs ++ rest)) (t, rest)
  | .items ts, cs => ∀ (fuel : Nat) (rest : List Char), 2 * cs.length ≤ fuel →
    Reads dialect (Part.items ts).Fits (readItems fuel (skipSpace (cs ++ rest))) (ts, rest)
  | .field key t, cs => ∀ (fuel : Nat) (rest : List Char), 2 * cs.length ≤ fuel → Follows rest →
    Reads dialect (Part.field key t).Fits (readField fuel (cs ++ rest)) ((key, t), rest)
  | .fields entries, cs => ∀ (fuel : Nat) (rest : List Char), 2 * cs.length ≤ fuel →
    Reads dialect (Part.fields entries).Fits (readFields fuel (skipSpace (cs ++ rest))) (entries, rest)

theorem readsPart_value {t : Tree} {cs : List Char} (hne : cs ≠ [])
    (h : ∀ (fuel : Nat) (rest : List Char), 2 * cs.length ≤ fuel + 1 → Follows rest →
      Reads dialect (Part.value t).Fits (readValue (fuel + 1) (cs ++ rest)) (t, rest)) : ReadsPart dialect (.value t) cs := by
  intro fuel rest hf hr
  obtain _ | fuel := fuel
  · exact absurd (List.eq_nil_of_length_eq_zero (by omega)) hne
  exact h fuel rest hf hr

theorem StringText.reads {s : String} {cs : List Char} (h : StringText dialect s cs) :
    ReadsPart dialect (.value (.text s)) cs := by
  have hfits : (Part.value (.text s)).Fits := fits_of_no_integer (by simp [Part.nodes, Tree.preorder])
  cases h with
  | @double _ units cs h =>
    refine readsPart_value (List.cons_ne_nil _ _) fun fuel rest _ _ => .inl ⟨?_, hfits⟩
    rw [List.cons_append, List.append_assoc, List.singleton_append, readValue, h.readString_append rest]
    rfl
  | single h =>
    exact readsPart_value (List.cons_ne_nil _ _) fun _ _ _ _ => .inr ⟨readValue_single _ _, .inl rfl⟩

theorem readItems_last {t : Tree} {before cs after : List Char} (hb : Space before) (h : Spelling dialect (.value t) cs)
    (ha : Space after) (ih : ReadsPart dialect (.value t) cs) :
    ReadsPart dialect (.items [t]) (before ++ (cs ++ (after ++ [']']))) := by
  intro fuel rest hf
  obtain ⟨c, tail, rfl, hc, -⟩ := h.value_head
  obtain _ | fuel := fuel
  · simp at hf
  have hvalue := ih fuel (after ++ ']' :: rest) (by simp at hf ⊢; omega) (.of_mark ha (by simp))
  simp only [List.append_assoc, List.cons_append, List.nil_append] at hvalue ⊢
  rw [skipSpace_append_cons hb hc, readItems_succ]
  refine (hvalue.bind (q := True) (.inl ⟨?_, trivial⟩)).of_iff ?_
  · simp only [skipSpace_append_cons ha (by decide : isSpace ']' = false)]
  · rw [fits_items_singleton, and_true]

theorem readItems_next {t : Tree} {ts : List Tree} {before cs after others : List Char} (hb : Space before)
    (h : Spelling dialect (.value t) cs) (ha : Space after) (ih : ReadsPart dialect (.value t) cs)
    (ihr : ReadsPart dialect (.items ts) others) :
    ReadsPart dialect (.items (t :: ts)) (before ++ (cs ++ (after ++ ',' :: others))) := by
  intro fuel rest hf
  obtain ⟨c, tail, rfl, hc, -⟩ := h.value_head
  obtain _ | fuel := fuel
  · simp at hf
  have hvalue := ih fuel (after ++ ',' :: (others ++ rest)) (by simp at hf ⊢; omega) (.of_mark ha (by simp))
  have hitems := (ihr fuel rest (by simp at hf ⊢; omega)).map fun (ts, rest) => (t :: ts, rest)
  simp only [List.append_assoc, List.cons_append] at hvalue ⊢
  rw [skipSpace_append_cons hb hc, readItems_succ, fits_items_cons]
  refine hvalue.bind ?_
  simp only [skipSpace_append_cons ha (by decide : isSpace ',' = false)]
  rwa [Option.map_eq_bind] at hitems

theorem readField_field {key : String} {t : Tree} {name gap space cs : List Char} (hk : KeyText dialect key name)
    (hg : Space gap) (hs : Space space) (h : Spelling dialect (.value t) cs) (ih : ReadsPart dialect (.value t) cs) :
    ReadsPart dialect (.field key t) (name ++ (gap ++ ':' :: (space ++ cs))) := by
  intro fuel rest hf hr
  have hhead : ∀ c, (cs ++ rest).head? = some c → isSpace c = false := by
    obtain ⟨c, tail, rfl, hc, -⟩ := h.value_head
    intro d hd
    obtain rfl := Option.some.inj hd
    exact hc
  have hkey := hk.reads hg hs hhead
  have hvalue := (ih fuel rest (by simp at hf; omega) hr).map fun (value, rest) => ((key, value), rest)
  simp only [List.append_assoc, List.cons_append]
  refine (hkey.bind (q := (Part.field key t).Fits) ?_).of_iff (iff_of_eq (true_and _))
  rwa [Option.map_eq_bind] at hvalue

theorem readFields_last {key : String} {t : Tree} {before cs after : List Char} (hb : Space before)
    (h : Spelling dialect (.field key t) cs) (ha : Space after) (ih : ReadsPart dialect (.field key t) cs) :
    ReadsPart dialect (.fields [(key, t)]) (before ++ (cs ++ (after ++ ['}']))) := by
  intro fuel rest hf
  obtain ⟨c, tail, rfl, hc, -⟩ := h.field_head
  obtain _ | fuel := fuel
  · simp at hf
  have hfield := ih fuel (after ++ '}' :: rest) (by simp at hf ⊢; omega) (.of_mark ha (by simp))
  simp only [List.append_assoc, List.cons_append, List.nil_append] at hfield ⊢
  rw [skipSpace_append_cons hb hc, readFields_succ]
  refine (hfield.bind (q := True) (.inl ⟨?_, trivial⟩)).of_iff ?_
  · simp only [skipSpace_append_cons ha (by decide : isSpace '}' = false)]
  · rw [fits_fields_singleton, and_true]

theorem readFields_next {key : String} {t : Tree} {entries : List (String × Tree)} {before cs after others : List Char}
    (hb : Space before) (h : Spelling dialect (.field key t) cs) (ha : Space after)
    (ih : ReadsPart dialect (.field key t) cs) (ihr : ReadsPart dialect (.fields entries) others) :
    ReadsPart dialect (.fields ((key, t) :: entries)) (before ++ (cs ++ (after ++ ',' :: others))) := by
  intro fuel rest hf
  obtain ⟨c, tail, rfl, hc, -⟩ := h.field_head
  obtain _ | fuel := fuel
  · simp at hf
  have hfield := ih fuel (after ++ ',' :: (others ++ rest)) (by simp at hf ⊢; omega) (.of_mark ha (by simp))
  have hfields := (ihr fuel rest (by simp at hf ⊢; omega)).map fun (entries, rest) => ((key, t) :: entries, rest)
  simp only [List.append_assoc, List.cons_append] at hfield ⊢
  rw [skipSpace_append_cons hb hc, readFields_succ, fits_fields_cons]
  refine hfield.bind ?_
  simp only [skipSpace_append_cons ha (by decide : isSpace ',' = false)]
  rwa [Option.map_eq_bind] at hfields

theorem Spelling.reads {part : Part} {cs : List Char} (h : Spelling dialect part cs) : ReadsPart dialect part cs := by
  induction h with
  | null =>
    refine readsPart_value (by decide) fun _ _ _ _ => .inl ⟨readValue_null _ _, ?_⟩
    exact fits_of_no_integer (by simp [Part.nodes, Tree.preorder])
  | boolean b =>
    refine readsPart_value (by cases b <;> decide) fun _ _ _ _ => .inl ⟨readValue_boolean b _ _, ?_⟩
    exact fits_of_no_integer (by simp [Part.nodes, Tree.preorder])
  | number h =>
    obtain ⟨d, tail, -, hcs⟩ := h.head
    refine readsPart_value (by rcases hcs with rfl | rfl <;> exact List.cons_ne_nil _ _) fun _ _ _ hr => ?_
    rw [readValue_number h]
    exact h.readNumber_append hr.ends
  | text h => exact h.reads
  | emptyArray hg =>
    refine readsPart_value (List.cons_ne_nil _ _) fun fuel rest _ _ => .inl ⟨?_, ?_⟩
    · rw [List.cons_append, List.append_assoc, List.singleton_append, readValue, skipSpace_append_cons hg (by decide)]
      rfl
    · exact fits_of_no_integer (by simp [Part.nodes, Tree.preorder, Tree.preorderItems])
  | array h ih =>
    refine readsPart_value (List.cons_ne_nil _ _) fun fuel rest hf _ => ?_
    obtain ⟨c, tail, htail, hc⟩ := h.items_head rest
    have hitems := (ih fuel rest (by simp at hf; omega)).of_iff fits_array.symm
    rw [List.cons_append, readValue_array htail hc]
    exact hitems.map _
  | emptyObject hg =>
    refine readsPart_value (List.cons_ne_nil _ _) fun fuel rest _ _ => .inl ⟨?_, ?_⟩
    · rw [List.cons_append, List.append_assoc, List.singleton_append, readValue, skipSpace_append_cons hg (by decide)]
      rfl
    · exact fits_of_no_integer (by simp [Part.nodes, Tree.preorder, Tree.preorderFields])
  | object h hd ih =>
    refine readsPart_value (List.cons_ne_nil _ _) fun fuel rest hf _ => ?_
    obtain ⟨c, tail, htail, hc⟩ := h.fields_head rest
    have hfields := (ih fuel rest (by simp at hf; omega)).of_iff fits_object.symm
    rw [List.cons_append, readValue_object htail hc]
    have hobject := hfields.map fun (entries, rest) => (Tree.object (distinctEntries entries), rest)
    simpa only [distinctEntries_of_nodup hd] using hobject
  | lastItem hb h ha ih => exact readItems_last hb h ha ih
  | nextItem hb h ha _ ih ihr => exact readItems_next hb h ha ih ihr
  | field hk hg hs h ih => exact readField_field hk hg hs h ih
  | lastField hb h ha ih => exact readFields_last hb h ha ih
  | nextField hb h ha _ ih ihr => exact readFields_next hb h ha ih ihr

/-! ### Documents -/

theorem Space.follows {gap : List Char} (h : Space gap) : Follows gap := by
  have := @Follows.follows gap [] h (by simp)
  rwa [List.append_nil] at this

theorem skipSpace_space {gap : List Char} (h : Space gap) : skipSpace gap = [] :=
  Text.dropWhile_of_all h

theorem DocumentText.reads {t : Tree} {cs : List Char} (h : DocumentText dialect t cs) :
    Reads dialect (Part.value t).Fits (read? cs) t := by
  cases h with
  | @document before cs after hb h ha =>
    obtain ⟨c, tail, rfl, hc, -⟩ := h.value_head
    have hread := h.reads (2 * (before ++ (c :: tail ++ after)).length + 2) after (by simp; omega) ha.follows
    rw [read?, List.cons_append, skipSpace_append_cons hb hc]
    rcases hread with ⟨hread, hfits⟩ | ⟨hread, hnone⟩
    · refine .inl ⟨?_, hfits⟩
      rw [List.cons_append] at hread
      rw [hread]
      simp [skipSpace_space ha]
    · refine .inr ⟨?_, hnone⟩
      rw [List.cons_append] at hread
      rw [hread]

/-- JSON text is read if the integers of its value are within the limit, and not otherwise. -/
theorem DocumentText.read?_of_strict {t : Tree} {cs : List Char} (h : DocumentText .strict t cs) :
    ((Part.value t).Fits → read? cs = some t) ∧ (¬ (Part.value t).Fits → read? cs = none) := by
  rcases h.reads with ⟨hread, hfits⟩ | ⟨hread, hnone⟩
  · exact ⟨fun _ => hread, fun hn => absurd hfits hn⟩
  · refine ⟨fun hf => ?_, fun _ => hread⟩
    rcases hnone with hd | hn
    · cases hd
    · exact absurd hf hn

end SiteReader.Json
