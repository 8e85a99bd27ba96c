import Mathlib.Data.List.Induction
import SiteReader.Entry

/-!
# Ordered maps without repeated keys

Setting a new key puts it last, so entries that are set one by one under distinct keys stay as they are
(`distinctEntries_of_nodup`), and others leave their keys in the order in which they were first set
(`map_fst_updateEntries`).  Setting entries never makes a key appear twice (`nodup_updateEntries`), and no other entry
takes the place of what was set last (`lookup_updateEntries`, `mem_updateEntries`).
-/

namespace SiteReader

variable {α : Type}

theorem setEntry_of_not_mem {key : String} {value : α} {entries : List (String × α)} (h : key ∉ entries.map Prod.fst) :
    setEntry key value entries = entries ++ [(key, value)] := by
  induction entries with
  | nil => rfl
  | cons entry rest ih =>
    rw [List.map_cons, List.mem_cons, not_or] at h
    rw [setEntry, if_neg (Ne.symm h.1), ih h.2]
    rfl

theorem updateEntries_of_nodup {entries updates : List (String × α)} (h : ((entries ++ updates).map Prod.fst).Nodup) :
    updateEntries entries updates = entries ++ updates := by
  induction updates generalizing entries with
  | nil => exact (List.append_nil entries).symm
  | cons update updates ih =>
    have hmem : update.1 ∉ entries.map Prod.fst := by
      intro hm
      rw [List.map_append, List.map_cons, List.nodup_append] at h
      exact h.2.2 _ hm _ List.mem_cons_self rfl
    have happend : entries ++ update :: updates = entries ++ [(update.1, update.2)] ++ updates := by simp
    rw [happend] at h ⊢
    rw [← ih h, ← setEntry_of_not_mem hmem]
    rfl

theorem distinctEntries_of_nodup {entries : List (String × α)} (h : (entries.map Prod.fst).Nodup) :
    distinctEntries entries = entries :=
  @updateEntries_of_nodup α [] entries h

/-! ### Keys stay distinct -/

theorem map_fst_setEntry (key : String) (value : α) (entries : List (String × α)) :
    (setEntry key value entries).map Prod.fst =
      if key ∈ entries.map Prod.fst then entries.map Prod.fst else entries.map Prod.fst ++ [key] := by
  induction entries with
  | nil => rfl
  | cons entry rest ih =>
    rw [setEntry]
    by_cases h : entry.1 = key
    · rw [if_pos h, List.map_cons, List.map_cons, if_pos (List.mem_cons.mpr (.inl h.symm))]
    · rw [if_neg h, List.map_cons, List.map_cons, ih]
      simp only [List.mem_cons, Ne.symm h, false_or]
      split <;> rfl

theorem nodup_setEntry {entries : List (String × α)} (h : (entries.map Prod.fst).Nodup) (key : String) (value : α) :
    ((setEntry key value entries).map Prod.fst).Nodup := by
  rw [map_fst_setEntry]
  split
  next => exact h
  next hm =>
    refine List.nodup_append.mpr ⟨h, List.nodup_cons.mpr ⟨List.not_mem_nil, .nil⟩, fun k hk other ho heq => hm ?_⟩
    rw [← List.mem_singleton.mp ho, ← heq]
    exact hk

theorem nodup_updateEntries {entries : List (String × α)} (h : (entries.map Prod.fst).Nodup)
    (updates : List (String × α)) : ((updateEntries entries updates).map Prod.fst).Nodup := by
  unfold updateEntries
  induction updates generalizing entries with
  | nil => exact h
  | cons update updates ih => exact ih (nodup_setEntry h update.1 update.2)

theorem nodup_distinctEntries (entries : List (String × α)) : ((distinctEntries entries).map Prod.fst).Nodup :=
  @nodup_updateEntries α [] List.nodup_nil entries

/-! ### What is found under a key -/

theorem lookup_cons_eq_ite (first : String × α) (rest : List (String × α)) (key : String) :
    (first :: rest).lookup key = if key = first.1 then some first.2 else rest.lookup key := by
  rw [List.lookup_cons]
  split
  next h => rw [if_pos (eq_of_beq h)]
  next h => rw [if_neg (beq_eq_false_iff_ne.mp h)]

theorem lookup_setEntry (key : String) (value : α) (entries : List (String × α)) (k : String) :
    (setEntry key value entries).lookup k = if k = key then some value else entries.lookup k := by
  induction entries with
  | nil => exact lookup_cons_eq_ite (key, value) [] k
  | cons entry rest ih =>
    rw [setEntry]
    by_cases hkey : entry.1 = key
    · rw [if_pos hkey, lookup_cons_eq_ite, lookup_cons_eq_ite, hkey]
      split <;> rfl
    · rw [if_neg hkey, lookup_cons_eq_ite, lookup_cons_eq_ite, ih]
      by_cases hk : k = entry.1
      · rw [if_pos hk, if_neg (hk ▸ hkey), if_pos hk]
      · rw [if_neg hk, if_neg hk]

/-- The last value that is set for a key counts, else the one that was there. -/
theorem lookup_updateEntries (entries updates : List (String × α)) (key : String) :
    (updateEntries entries updates).lookup key = (updates.reverse.lookup key).or (entries.lookup key) := by
  unfold updateEntries
  induction updates generalizing entries with
  | nil => rfl
  | cons update rest ih =>
    rw [List.foldl_cons, ih, lookup_setEntry, List.reverse_cons, List.lookup_append, lookup_cons_eq_ite, Option.or_assoc]
    split <;> rfl

theorem lookup_of_mem {entries : List (String × α)} (hd : (entries.map Prod.fst).Nodup) {entry : String × α}
    (h : entry ∈ entries) : entries.lookup entry.1 = some entry.2 := by
  induction entries with
  | nil => cases h
  | cons first rest ih =>
    obtain ⟨hn, hr⟩ := List.nodup_cons.mp hd
    rw [lookup_cons_eq_ite]
    rcases List.mem_cons.mp h with rfl | h
    · rw [if_pos rfl]
    · have hne : entry.1 ≠ first.1 := fun heq => hn (List.mem_map.mpr ⟨entry, h, heq⟩)
      rw [if_neg hne, ih hr h]

/-! ### Entries in their places -/

theorem setEntry_of_mem {key : String} {value : α} {entries : List (String × α)} (hd : (entries.map Prod.fst).Nodup)
    (h : key ∈ entries.map Prod.fst) :
    setEntry key value entries = entries.map fun entry => (entry.1, if entry.1 = key then value else entry.2) := by
  induction entries with
  | nil => cases h
  | cons entry rest ih =>
    obtain ⟨hn, hd⟩ := List.nodup_cons.mp hd
    rw [setEntry, List.map_cons]
    by_cases hkey : entry.1 = key
    · have hrest : ∀ other ∈ rest, (other.1, if other.1 = key then value else other.2) = other := by
        intro other ho
        have hne : other.1 ≠ key := fun heq => hn (List.mem_map.mpr ⟨other, ho, heq.trans hkey.symm⟩)
        rw [if_neg hne]
      rw [if_pos hkey, if_pos hkey, List.map_congr_left hrest, List.map_id']
    · rw [if_neg hkey, if_neg hkey, ih hd ((List.mem_cons.mp h).resolve_left (Ne.symm hkey))]

/-- Setting distinct entries gives new values to what is there, and what is not there comes last. -/
theorem updateEntries_eq_append {entries updates : List (String × α)} (he : (entries.map Prod.fst).Nodup)
    (hu : (updates.map Prod.fst).Nodup) :
    updateEntries entries updates =
      entries.map (fun entry => (entry.1, (updates.lookup entry.1).getD entry.2)) ++
        updates.filter fun update => update.1 ∉ entries.map Prod.fst := by
  induction updates generalizing entries with
  | nil => simp [updateEntries]
  | cons update rest ih =>
    obtain ⟨key, value⟩ := update
    obtain ⟨hn, hr⟩ := List.nodup_cons.mp hu
    have hne : ∀ other ∈ rest, other.1 ≠ key := fun other ho heq =>
      hn (List.mem_map.mpr ⟨other, ho, heq⟩)
    have hmiss : rest.lookup key = none :=
      List.lookup_eq_none_iff.mpr fun other ho => bne_iff_ne.mpr (Ne.symm (hne other ho))
    show updateEntries (setEntry key value entries) rest = _
    rw [ih (nodup_setEntry he key value) hr, map_fst_setEntry]
    by_cases hm : key ∈ entries.map Prod.fst
    · rw [if_pos hm, setEntry_of_mem he hm, List.map_map, List.filter_cons_of_neg (by simpa using hm)]
      congr 1
      refine List.map_congr_left fun entry _ => ?_
      by_cases hkey : entry.1 = key
      · simp [hkey, hmiss]
      · simp only [Function.comp_apply, lookup_cons_eq_ite, if_neg hkey]
    · rw [if_neg hm, setEntry_of_not_mem hm, List.filter_cons_of_pos (by simpa using hm), List.map_append,
        List.map_singleton, hmiss, List.append_assoc]
      congr 1
      · refine List.map_congr_left fun entry hentry => ?_
        rw [lookup_cons_eq_ite, if_neg fun heq => hm (List.mem_map.mpr ⟨entry, hentry, heq⟩)]
      · refine congrArg (List.cons (key, value)) (List.filter_congr fun other ho => ?_)
        simp [hne other ho]

/-! ### The order of keys -/

theorem updateEntries_append (entries first second : List (String × α)) :
    updateEntries entries (first ++ second) = updateEntries (updateEntries entries first) second :=
  List.foldl_append

/-- Entries under the same keys, none of them twice, are told by what is found under each key. -/
theorem eq_of_lookup {a b : List (String × α)} (hd : (a.map Prod.fst).Nodup) (hk : a.map Prod.fst = b.map Prod.fst)
    (hl : ∀ key, a.lookup key = b.lookup key) : a = b := by
  induction a generalizing b with
  | nil => exact (List.map_eq_nil_iff.mp hk.symm).symm
  | cons entry rest ih =>
    obtain ⟨other, others, rfl⟩ := List.exists_cons_of_ne_nil (l := b) (by rintro rfl; cases hk)
    obtain ⟨hkey, hkeys⟩ := List.cons.inj hk
    obtain ⟨hn, hr⟩ := List.nodup_cons.mp hd
    have hfirst : entry = other := by
      have hvalue := hl entry.1
      rw [lookup_cons_eq_ite, lookup_cons_eq_ite, if_pos rfl, if_pos hkey] at hvalue
      exact Prod.ext hkey (Option.some.inj hvalue)
    refine congrArg₂ List.cons hfirst (ih hr hkeys fun key => ?_)
    have hrest := hl key
    rw [lookup_cons_eq_ite, lookup_cons_eq_ite, ← hfirst] at hrest
    by_cases h : key = entry.1
    · have hmiss (entries : List (String × α)) (he : entry.1 ∉ entries.map Prod.fst) : entries.lookup entry.1 = none :=
        List.lookup_eq_none_iff.mpr fun found hf => bne_iff_ne.mpr fun heq => he (List.mem_map.mpr ⟨found, hf, heq.symm⟩)
      rw [h, hmiss rest hn, hmiss others (hkeys ▸ hn)]
    · rwa [if_neg h, if_neg h] at hrest

private theorem eraseDups_concat (keys : List String) (key : String) :
    (keys ++ [key]).eraseDups = if key ∈ keys then keys.eraseDups else keys.eraseDups ++ [key] := by
  rw [List.eraseDups_append]
  split
  next h => simp [List.removeAll, h]
  next h => simp [List.removeAll, h, List.eraseDups_cons]

/-- New keys come last, in the order in which they are first set. -/
theorem map_fst_updateEntries (entries updates : List (String × α)) :
    (updateEntries entries updates).map Prod.fst =
      entries.map Prod.fst ++ (updates.map Prod.fst).eraseDups.filter (· ∉ entries.map Prod.fst) := by
  induction updates using List.reverseRecOn with
  | nil => exact (List.append_nil _).symm
  | append_singleton rest update ih =>
    rw [updateEntries_append, List.map_append, List.map_singleton, eraseDups_concat]
    show (setEntry update.1 update.2 (updateEntries entries rest)).map Prod.fst = _
    rw [map_fst_setEntry, ih]
    by_cases hthere : update.1 ∈ entries.map Prod.fst
    · rw [if_pos (List.mem_append_left _ hthere)]
      split
      next => rfl
      next =>
        rw [List.filter_append, List.filter_cons_of_neg (by simpa using hthere), List.filter_nil, List.append_nil]
    · by_cases hnew : update.1 ∈ rest.map Prod.fst
      · have hkept : update.1 ∈ (rest.map Prod.fst).eraseDups.filter (· ∉ entries.map Prod.fst) :=
          List.mem_filter.mpr ⟨List.mem_eraseDups.mpr hnew, decide_eq_true hthere⟩
        rw [if_pos hnew, if_pos (List.mem_append_right _ hkept)]
      · have habsent : update.1 ∉ entries.map Prod.fst ++
            (rest.map Prod.fst).eraseDups.filter (· ∉ entries.map Prod.fst) := by
          simp only [List.mem_append, List.mem_filter, List.mem_eraseDups, hthere, hnew, false_and, or_self,
            not_false_eq_true]
        rw [if_neg hnew, if_neg habsent, List.filter_append, List.filter_cons_of_pos (by simpa using hthere),
          List.filter_nil, List.append_assoc]

theorem map_fst_distinctEntries (entries : List (String × α)) :
    (distinctEntries entries).map Prod.fst = (entries.map Prod.fst).eraseDups := by
  rw [distinctEntries, map_fst_updateEntries]
  exact List.filter_eq_self.mpr fun key _ => by simp

theorem lookup_distinctEntries (entries : List (String × α)) (key : String) :
    (distinctEntries entries).lookup key = entries.reverse.lookup key := by
  rw [distinctEntries, lookup_updateEntries]
  exact Option.or_none

theorem lookup_reverse {entries : List (String × α)} (h : (entries.map Prod.fst).Nodup) (key : String) :
    entries.reverse.lookup key = entries.lookup key := by
  rw [← lookup_distinctEntries, distinctEntries_of_nodup h]

/-- Repeated keys among what is set make no difference. -/
theorem updateEntries_distinctEntries {entries : List (String × α)} (h : (entries.map Prod.fst).Nodup)
    (updates : List (String × α)) : updateEntries entries (distinctEntries updates) = updateEntries entries updates := by
  have hd := nodup_distinctEntries updates
  refine eq_of_lookup (nodup_updateEntries h _) ?_ fun key => ?_
  · rw [map_fst_updateEntries, map_fst_updateEntries, ← map_fst_distinctEntries, distinctEntries_of_nodup hd,
      map_fst_distinctEntries]
  · rw [lookup_updateEntries, lookup_updateEntries, lookup_reverse hd, lookup_distinctEntries]

/-! ### The last value stays -/

theorem mem_setEntry_self (key : String) (value : α) (entries : List (String × α)) :
    (key, value) ∈ setEntry key value entries := by
  induction entries with
  | nil => exact List.mem_singleton_self _
  | cons entry rest ih =>
    obtain ⟨k, old⟩ := entry
    unfold setEntry
    split
    next h => exact h ▸ List.mem_cons_self
    next => exact List.mem_cons_of_mem _ ih

theorem mem_setEntry_of_ne {key : String} {entries : List (String × α)} {entry : String × α} (h : entry ∈ entries)
    (hne : entry.1 ≠ key) (value : α) : entry ∈ setEntry key value entries := by
  induction entries with
  | nil => cases h
  | cons first rest ih =>
    unfold setEntry
    rcases List.mem_cons.mp h with rfl | h
    · rw [if_neg hne]
      exact List.mem_cons_self
    · split
      · exact List.mem_cons_of_mem _ h
      · exact List.mem_cons_of_mem _ (ih h)

theorem mem_updateEntries_of_ne {entries updates : List (String × α)} {entry : String × α} (h : entry ∈ entries)
    (hne : entry.1 ∉ updates.map Prod.fst) : entry ∈ updateEntries entries updates := by
  unfold updateEntries
  induction updates generalizing entries with
  | nil => exact h
  | cons update rest ih =>
    rw [List.map_cons, List.mem_cons, not_or] at hne
    exact ih (mem_setEntry_of_ne h hne.1 update.2) hne.2

/-- Entries that are set under distinct keys are there in the end. -/
theorem mem_updateEntries {entries updates : List (String × α)} (hd : (updates.map Prod.fst).Nodup)
    {entry : String × α} (h : entry ∈ updates) : entry ∈ updateEntries entries updates := by
  induction updates generalizing entries with
  | nil => cases h
  | cons update rest ih =>
    obtain ⟨hn, hd⟩ := List.nodup_cons.mp hd
    rcases List.mem_cons.mp h with rfl | h
    · show entry ∈ updateEntries (setEntry entry.1 entry.2 entries) rest
      exact mem_updateEntries_of_ne (mem_setEntry_self entry.1 entry.2 entries) hn
    · exact ih hd h

/-! ### Values come from the entries -/

theorem mem_setEntry {key : String} {value : α} {entries : List (String × α)} {entry : String × α}
    (h : entry ∈ setEntry key value entries) : entry.2 = value ∨ entry ∈ entries := by
  induction entries with
  | nil => exact .inl (congrArg Prod.snd (List.mem_singleton.mp h))
  | cons first rest ih =>
    unfold setEntry at h
    split at h
    · rcases List.mem_cons.mp h with rfl | h
      · exact .inl rfl
      · exact .inr (List.mem_cons_of_mem _ h)
    · rcases List.mem_cons.mp h with rfl | h
      · exact .inr List.mem_cons_self
      · exact (ih h).imp_right (List.mem_cons_of_mem _)

theorem mem_of_mem_distinctEntries {entries : List (String × α)} {entry : String × α}
    (h : entry ∈ distinctEntries entries) : ∃ key, (key, entry.2) ∈ entries := by
  suffices hupdate : ∀ {first updates : List (String × α)}, entry ∈ updateEntries first updates →
      entry ∈ first ∨ ∃ key, (key, entry.2) ∈ updates from
    (hupdate h).resolve_left List.not_mem_nil
  intro first updates h
  unfold updateEntries at h
  induction updates generalizing first with
  | nil => exact .inl h
  | cons update rest ih =>
    rw [List.foldl_cons] at h
    rcases ih h with h | ⟨key, h⟩
    · rcases mem_setEntry h with h | h
      · exact .inr ⟨update.1, h ▸ List.mem_cons_self⟩
      · exact .inl h
    · exact .inr ⟨key, List.mem_cons_of_mem _ h⟩

end SiteReader
