import SiteReader.Header
import SiteReader.Proofs.Entry

/-!
# Where header fields come from

Setting and merging add no field but those given (`mem_of_mem_set`, `mem_of_mem_merge`), so a field of a merged list can
be traced back to one of its parts; what is kept out by name stays out (`not_mem_without`), and what is let in by name stays
as it was (`first?_only`).  Merging repeats no name (`NamedOnce.merge`), and of each name the last field that was merged in
counts, in whatever letter case (`first?_merge`).  Where fields are set by their spellings instead, the last field of a name
need not come last any more; when it does is said by `Prevails` (`last?_updateEntries_eq_iff`).
-/

namespace SiteReader.Headers

theorem mem_of_mem_set {name value : String} {headers : Headers} {field : String × String}
    (h : field ∈ set name value headers) : field = (name, value) ∨ field ∈ headers := by
  induction headers with
  | nil => exact .inl (List.mem_singleton.mp h)
  | cons first rest ih =>
    unfold set at h
    split at h
    next =>
      rcases List.mem_cons.mp h with rfl | h
      · exact .inl rfl
      · exact .inr (List.mem_cons_of_mem _ h)
    next =>
      rcases List.mem_cons.mp h with rfl | h
      · exact .inr List.mem_cons_self
      · exact (ih h).imp_right (List.mem_cons_of_mem _)

theorem mem_of_mem_merge {headers updates : Headers} {field : String × String} (h : field ∈ merge headers updates) :
    field ∈ headers ∨ field ∈ updates := by
  unfold merge at h
  induction updates generalizing headers with
  | nil => exact .inl h
  | cons update rest ih =>
    rw [List.foldl_cons] at h
    rcases ih h with h | h
    · rcases mem_of_mem_set h with rfl | h
      · exact .inr List.mem_cons_self
      · exact .inl h
    · exact .inr (List.mem_cons_of_mem _ h)

theorem mem_of_mem_distinct {headers : Headers} {field : String × String} (h : field ∈ headers.distinct) :
    field ∈ headers := by
  rcases mem_of_mem_merge h with h | h
  · cases h
  · exact h

theorem mem_of_mem_only {allowed : List String} {headers : Headers} {field : String × String}
    (h : field ∈ headers.only allowed) : field ∈ headers :=
  (List.mem_filter.mp h).1

theorem lowered_mem_of_mem_only {allowed : List String} {headers : Headers} {field : String × String}
    (h : field ∈ headers.only allowed) : lowered field.1 ∈ allowed :=
  List.contains_iff_mem.mp (List.mem_filter.mp h).2

theorem not_mem_without {refused : List String} {headers : Headers} {name value : String}
    (h : lowered name ∈ refused) : (name, value) ∉ headers.without refused := by
  intro hm
  have := (List.mem_filter.mp hm).2
  simp [h] at this

theorem value?_distinct_of_not_names {headers : Headers} {name : String} (h : headers.names name = false) :
    headers.distinct.value? name = none := by
  rw [value?, Option.map_eq_none_iff, List.find?_eq_none]
  intro field hm hsame
  rw [names, List.any_eq_false] at h
  exact h field (mem_of_mem_distinct hm) hsame

/-! ### The field of a name -/

/-- The first field of a name. -/
def first? (headers : Headers) (name : String) : Option (String × String) :=
  headers.find? fun field => sameName field.1 name

/-- The last field of a name. -/
def last? (headers : Headers) (name : String) : Option (String × String) :=
  first? headers.reverse name

/-- No name is there twice, in whatever letter case. -/
def NamedOnce (headers : Headers) : Prop :=
  (headers.map fun field => lowered field.1).Nodup

theorem sameName_iff {a b : String} : sameName a b = true ↔ lowered a = lowered b :=
  beq_iff_eq

theorem value?_eq (headers : Headers) (name : String) : headers.value? name = (headers.first? name).map (·.2) := rfl

theorem isSome_last? (headers : Headers) (name : String) : (headers.last? name).isSome = headers.names name := by
  rw [Bool.eq_iff_iff, last?, first?, List.find?_isSome, names, List.any_eq_true]
  simp only [List.mem_reverse]

theorem isSome_first? (headers : Headers) (name : String) : (headers.first? name).isSome = headers.names name := by
  rw [Bool.eq_iff_iff, first?, List.find?_isSome, names, List.any_eq_true]

theorem last?_eq_none_iff {headers : Headers} {name : String} : headers.last? name = none ↔ headers.names name = false := by
  rw [← isSome_last?, Option.isSome_eq_false_iff, Option.isNone_iff_eq_none]

theorem names_eq_false_iff {headers : Headers} {name : String} :
    headers.names name = false ↔ ∀ field ∈ headers, lowered field.1 ≠ lowered name := by
  rw [names, List.any_eq_false]
  simp only [sameName_iff, ne_eq]

theorem mem_of_first? {headers : Headers} {name : String} {field : String × String}
    (h : headers.first? name = some field) : field ∈ headers :=
  List.mem_of_find?_eq_some h

/-- The fields under their names in lower case, where to set a field is to set the entry of its name. -/
def entries (headers : Headers) : List (String × String × String) :=
  headers.map fun field => (lowered field.1, field)

theorem namedOnce_iff {headers : Headers} : headers.NamedOnce ↔ (headers.entries.map Prod.fst).Nodup := by
  rw [NamedOnce, entries, List.map_map]
  rfl

theorem first?_eq_lookup (headers : Headers) (name : String) :
    headers.first? name = headers.entries.lookup (lowered name) := by
  induction headers with
  | nil => rfl
  | cons field rest ih =>
    rw [entries, List.map_cons, lookup_cons_eq_ite, ← entries, ← ih, first?]
    split
    next h => exact List.find?_cons_of_pos (sameName_iff.mpr h.symm)
    next h => exact List.find?_cons_of_neg fun hs => h (sameName_iff.mp hs).symm

theorem last?_eq_lookup (headers : Headers) (name : String) :
    headers.last? name = headers.entries.reverse.lookup (lowered name) := by
  rw [last?, first?_eq_lookup, entries, List.map_reverse]
  rfl

theorem entries_set (name value : String) (headers : Headers) :
    (headers.set name value).entries = setEntry (lowered name) (name, value) headers.entries := by
  induction headers with
  | nil => rfl
  | cons field rest ih =>
    by_cases h : lowered field.1 = lowered name
    · rw [set, if_pos (sameName_iff.mpr h), entries, entries, List.map_cons, List.map_cons, setEntry, if_pos h, h]
    · rw [set, if_neg fun hs => h (sameName_iff.mp hs)]
      simp only [entries, List.map_cons, setEntry, if_neg h] at ih ⊢
      rw [ih]

theorem entries_merge (headers updates : Headers) :
    (headers.merge updates).entries = updateEntries headers.entries updates.entries := by
  unfold merge updateEntries
  induction updates generalizing headers with
  | nil => rfl
  | cons update rest ih =>
    rw [List.foldl_cons, ih, entries_set]
    rfl

theorem NamedOnce.set {headers : Headers} (h : headers.NamedOnce) (name value : String) :
    (headers.set name value).NamedOnce := by
  rw [namedOnce_iff, entries_set]
  exact nodup_setEntry (namedOnce_iff.mp h) _ _

theorem NamedOnce.merge {headers : Headers} (h : headers.NamedOnce) (updates : Headers) :
    (headers.merge updates).NamedOnce := by
  rw [namedOnce_iff, entries_merge]
  exact nodup_updateEntries (namedOnce_iff.mp h) _

theorem namedOnce_distinct (headers : Headers) : headers.distinct.NamedOnce :=
  @NamedOnce.merge [] List.nodup_nil headers

theorem NamedOnce.filter {headers : Headers} (h : headers.NamedOnce) (p : String × String → Bool) :
    NamedOnce (headers.filter p) :=
  List.Nodup.sublist (List.filter_sublist.map fun field : String × String => lowered field.1) h

/-- Names that differ in lower case differ in their spellings. -/
theorem NamedOnce.nodup {headers : Headers} (h : headers.NamedOnce) : (headers.map Prod.fst).Nodup := by
  have hlowered : ((headers.map Prod.fst).map lowered).Nodup := by
    rw [List.map_map]
    exact h
  exact List.Pairwise.of_map lowered (fun _ _ hne heq => hne (congrArg lowered heq)) hlowered

theorem NamedOnce.append {headers further : Headers} (h : headers.NamedOnce) (hf : further.NamedOnce)
    (hne : ∀ a ∈ headers, ∀ b ∈ further, lowered a.1 ≠ lowered b.1) : NamedOnce (headers ++ further) := by
  rw [NamedOnce, List.map_append]
  refine List.nodup_append.mpr ⟨h, hf, ?_⟩
  intro x hx y hy
  obtain ⟨a, ha, rfl⟩ := List.mem_map.mp hx
  obtain ⟨b, hb, rfl⟩ := List.mem_map.mp hy
  exact hne a ha b hb

theorem NamedOnce.first?_of_mem {headers : Headers} (h : headers.NamedOnce) {field : String × String}
    (hm : field ∈ headers) : headers.first? field.1 = some field := by
  rw [first?_eq_lookup]
  exact lookup_of_mem (namedOnce_iff.mp h) (List.mem_map.mpr ⟨field, hm, rfl⟩)

theorem NamedOnce.last?_of_mem {headers : Headers} (h : headers.NamedOnce) {field : String × String}
    (hm : field ∈ headers) : headers.last? field.1 = some field := by
  have hreverse : NamedOnce headers.reverse := by
    rw [NamedOnce, List.map_reverse]
    exact List.pairwise_reverse.mpr (h.imp Ne.symm)
  exact hreverse.first?_of_mem (List.mem_reverse.mpr hm)

theorem first?_set (name value : String) (headers : Headers) (asked : String) :
    (headers.set name value).first? asked =
      if sameName name asked then some (name, value) else headers.first? asked := by
  rw [first?_eq_lookup, entries_set, lookup_setEntry, first?_eq_lookup]
  simp only [sameName_iff, @eq_comm _ (lowered asked)]

/-- The last field that is merged in counts, else the one that was there. -/
theorem first?_merge (headers updates : Headers) (name : String) :
    (headers.merge updates).first? name = (updates.last? name).or (headers.first? name) := by
  rw [first?_eq_lookup, entries_merge, lookup_updateEntries, last?_eq_lookup, first?_eq_lookup]

theorem first?_distinct (headers : Headers) (name : String) : headers.distinct.first? name = headers.last? name := by
  rw [distinct, first?_merge]
  exact Option.or_none

/-- Where all fields of a name stay, the first one does. -/
theorem first?_filter {p : String × String → Bool} {name : String}
    (h : ∀ field : String × String, lowered field.1 = lowered name → p field = true) (headers : Headers) :
    first? (headers.filter p) name = headers.first? name := by
  rw [first?, List.find?_filter, first?]
  refine congrArg (List.find? · headers) (funext fun field => ?_)
  rw [Bool.eq_iff_iff, decide_eq_true_iff, sameName_iff]
  exact and_iff_right_of_imp (h field)

theorem first?_only {allowed : List String} {name : String} (h : lowered name ∈ allowed) (headers : Headers) :
    (headers.only allowed).first? name = headers.first? name :=
  first?_filter (fun _ heq => List.contains_iff_mem.mpr (heq ▸ h)) headers

theorem first?_without {refused : List String} {name : String} (h : lowered name ∉ refused) (headers : Headers) :
    (headers.without refused).first? name = headers.first? name := by
  refine first?_filter (fun field heq => ?_) headers
  rw [Bool.not_eq_true', ← Bool.not_eq_true, List.contains_iff_mem, heq]
  exact h

theorem last?_only {allowed : List String} {name : String} (h : lowered name ∈ allowed) (headers : Headers) :
    (headers.only allowed).last? name = headers.last? name := by
  rw [last?, only, ← List.filter_reverse]
  exact first?_only h headers.reverse

theorem last?_only_of_not_mem {allowed : List String} {name : String} (h : lowered name ∉ allowed) (headers : Headers) :
    (headers.only allowed).last? name = none := by
  rw [last?_eq_none_iff, names_eq_false_iff]
  intro field hf hname
  exact h (hname ▸ lowered_mem_of_mem_only hf)

theorem last?_singleton (field : String × String) (name : String) :
    last? [field] name = if sameName field.1 name then some field else none := by
  rw [last?, first?, List.reverse_singleton, List.find?_singleton]

theorem first?_append (headers further : Headers) (name : String) :
    first? (headers ++ further) name = (first? headers name).or (first? further name) :=
  List.find?_append

theorem last?_append (headers further : Headers) (name : String) :
    last? (headers ++ further) name = (last? further name).or (last? headers name) := by
  rw [last?, first?, List.reverse_append, List.find?_append]
  rfl

/-! ### Precedence by spelling -/

theorem last?_congr {a b : String} (h : lowered a = lowered b) (headers : Headers) : headers.last? a = headers.last? b := by
  rw [last?_eq_lookup, last?_eq_lookup, h]

theorem names_congr {a b : String} (h : lowered a = lowered b) (headers : Headers) : headers.names a = headers.names b := by
  rw [← isSome_last?, ← isSome_last?, last?_congr h]

theorem mem_of_last? {headers : Headers} {name : String} {field : String × String} (h : headers.last? name = some field) :
    field ∈ headers ∧ sameName field.1 name = true := by
  rw [last?, first?] at h
  have hsame := List.find?_some h
  exact ⟨List.mem_reverse.mp (List.mem_of_find?_eq_some h), hsame⟩

theorem last?_filter {headers : Headers} {name : String} {field : String × String} (h : headers.last? name = some field)
    {p : String × String → Bool} (hp : p field = true) : last? (headers.filter p) name = some field := by
  obtain ⟨hsame, before, after, hreverse, hbefore⟩ := List.find?_eq_some_iff_append.mp h
  have hnone : (before.filter p).find? (fun field => sameName field.1 name) = none :=
    List.find?_eq_none.mpr fun other ho => by simpa using hbefore other (List.mem_filter.mp ho).1
  rw [last?, first?, ← List.filter_reverse, hreverse, List.filter_append, List.find?_append, hnone, Option.none_or,
    List.filter_cons_of_pos hp]
  exact List.find?_cons_of_pos hsame

/-- Where fields are set by their spellings, the last field of a name is the last new spelling of it, and without a new
spelling it is the last old one. -/
theorem last?_updateEntries {old new : Headers} (ho : (old.map Prod.fst).Nodup) (hn : (new.map Prod.fst).Nodup)
    (name : String) :
    last? (updateEntries old new) name = (last? (new.filter fun field => field.1 ∉ old.map Prod.fst) name).or
      ((old.last? name).map fun field => (field.1, (new.lookup field.1).getD field.2)) := by
  rw [updateEntries_eq_append ho hn, last?_append]
  congr 1
  rw [last?, first?, ← List.map_reverse, List.find?_map]
  rfl

theorem names_updateEntries {old new : Headers} (ho : (old.map Prod.fst).Nodup) (hn : (new.map Prod.fst).Nodup)
    {name : String} (h : new.names name = true ∨ old.names name = true) : names (updateEntries old new) name = true := by
  have hold : old.names name = true → names (updateEntries old new) name = true := by
    intro h
    rw [← isSome_last?, last?_updateEntries ho hn, Option.isSome_or, Option.isSome_map, isSome_last?, isSome_last?, h,
      Bool.or_true]
  rcases h with h | h
  · obtain ⟨field, hm, hsame⟩ := List.any_eq_true.mp h
    by_cases hnew : field.1 ∈ old.map Prod.fst
    · obtain ⟨same, hmem, heq⟩ := List.mem_map.mp hnew
      exact hold (List.any_eq_true.mpr ⟨same, hmem, show sameName same.1 name = true from heq ▸ hsame⟩)
    · refine List.any_eq_true.mpr ⟨field, ?_, hsame⟩
      rw [updateEntries_eq_append ho hn]
      exact List.mem_append_right _ (List.mem_filter.mpr ⟨hm, decide_eq_true hnew⟩)
  · exact hold h

theorem last?_updateEntries_of_not_names {old new : Headers} (ho : (old.map Prod.fst).Nodup)
    (hn : (new.map Prod.fst).Nodup) {name : String} (h : new.names name = false) :
    last? (updateEntries old new) name = old.last? name := by
  have hnone := names_eq_false_iff.mp h
  have hfresh : last? (new.filter fun field => field.1 ∉ old.map Prod.fst) name = none := by
    rw [last?_eq_none_iff, names_eq_false_iff]
    exact fun field hf => hnone field (List.mem_filter.mp hf).1
  rw [last?_updateEntries ho hn, hfresh, Option.none_or]
  cases hl : old.last? name with
  | none => rfl
  | some field =>
    have hmiss : new.lookup field.1 = none := by
      refine List.lookup_eq_none_iff.mpr fun other hm => bne_iff_ne.mpr fun heq => hnone other hm ?_
      exact heq ▸ sameName_iff.mp (mem_of_last? hl).2
    rw [Option.map_some, hmiss]
    rfl

/-- A field that gives a name in a list comes last of this name when the list is set by its spellings: its spelling is new,
or no spelling of the name is new and it is the last old one. -/
def Prevails (old new : Headers) (field : String × String) : Prop :=
  field.1 ∉ old.map Prod.fst ∨
    (∀ other ∈ new, sameName other.1 field.1 = true → other.1 ∈ old.map Prod.fst) ∧
      (old.last? field.1).map (·.1) = some field.1

theorem last?_updateEntries_eq_iff {old new : Headers} (ho : (old.map Prod.fst).Nodup) (hn : (new.map Prod.fst).Nodup)
    {name : String} {field : String × String} (h : new.last? name = some field) :
    last? (updateEntries old new) name = some field ↔ Prevails old new field := by
  obtain ⟨hm, hsame⟩ := mem_of_last? h
  have hname : lowered field.1 = lowered name := sameName_iff.mp hsame
  rw [last?_updateEntries ho hn, Prevails, last?_congr hname]
  by_cases hnew : field.1 ∈ old.map Prod.fst
  · rw [or_iff_right (not_not_intro hnew)]
    cases hfresh : last? (new.filter fun field => field.1 ∉ old.map Prod.fst) name with
    | some other =>
      -- some other spelling is new, and the field is not
      obtain ⟨hother, hsame'⟩ := mem_of_last? hfresh
      obtain ⟨hmem, hout⟩ := List.mem_filter.mp hother
      have hout : other.1 ∉ old.map Prod.fst := of_decide_eq_true hout
      rw [Option.some_or]
      constructor
      · intro heq
        exact absurd (Option.some.inj heq ▸ hnew) hout
      · rintro ⟨hall, -⟩
        exact absurd (hall other hmem (sameName_iff.mpr ((sameName_iff.mp hsame').trans hname.symm))) hout
    | none =>
      have hall : ∀ other ∈ new, sameName other.1 field.1 = true → other.1 ∈ old.map Prod.fst := by
        intro other hmem hs
        refine Decidable.byContradiction fun hout => ?_
        rw [last?_eq_none_iff, names_eq_false_iff] at hfresh
        exact hfresh other (List.mem_filter.mpr ⟨hmem, decide_eq_true hout⟩) ((sameName_iff.mp hs).trans hname)
      rw [Option.none_or, and_iff_right hall]
      cases old.last? name with
      | none => simp
      | some first =>
        simp only [Option.map_some, Option.some.injEq]
        constructor
        · exact fun heq => heq ▸ rfl
        · intro heq
          rw [heq, lookup_of_mem hn hm]
          rfl
  · rw [iff_true_right (.inl hnew)]
    rw [last?_filter h (decide_eq_true hnew), Option.some_or]

/-- A name is spelled in one way only, if it is there at all. -/
def SpelledOnce (headers : Headers) (name : String) : Prop :=
  ∀ a ∈ headers, ∀ b ∈ headers, sameName a.1 name = true → sameName b.1 name = true → a.1 = b.1

theorem prevails_of_spelledOnce {old new : Headers} {name : String} {field : String × String}
    (ho : old.SpelledOnce name) (hn : new.SpelledOnce name) (h : new.last? name = some field) : Prevails old new field := by
  obtain ⟨hm, hsame⟩ := mem_of_last? h
  have hname : lowered field.1 = lowered name := sameName_iff.mp hsame
  by_cases hnew : field.1 ∈ old.map Prod.fst
  · refine .inr ⟨fun other hother hs => ?_, ?_⟩
    · rw [hn other hother field hm (sameName_iff.mpr ((sameName_iff.mp hs).trans hname)) hsame]
      exact hnew
    · obtain ⟨same, hmem, heq⟩ := List.mem_map.mp hnew
      have hsame' : sameName same.1 name = true := heq ▸ hsame
      cases hl : old.last? field.1 with
      | none =>
        rw [last?_congr hname, last?_eq_none_iff, names_eq_false_iff] at hl
        exact absurd (sameName_iff.mp hsame') (hl same hmem)
      | some last =>
        obtain ⟨hlast, hs⟩ := mem_of_last? hl
        rw [Option.map_some, ← heq, ho last hlast same hmem (sameName_iff.mpr ((sameName_iff.mp hs).trans hname)) hsame']
  · exact .inl hnew

end SiteReader.Headers
