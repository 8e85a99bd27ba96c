import SiteReader.Proofs.Json.Reader
import SiteReader.Proofs.Tree.Walk

/-!
# Keys of objects that were read

However often a text repeats the keys of an object, the object that is read has each of them once (`keyed_of_parse?`).
-/

namespace SiteReader

/-- No object of a tree has a key twice. -/
def Tree.Keyed (t : Tree) : Prop :=
  ∀ fields, Tree.object fields ∈ t.preorder → (fields.map Prod.fst).Nodup

namespace Tree

theorem keyed_of_isContainer {t : Tree} (h : t.isContainer = false) : t.Keyed := by
  intro fields hm
  cases t with
  | array | object => cases h
  | _ => simp [preorder] at hm

theorem keyed_array {items : List Tree} : (array items).Keyed ↔ ∀ t ∈ items, t.Keyed := by
  simp only [Keyed, preorder, preorderItems_eq, List.mem_cons, List.mem_flatMap, reduceCtorEq, false_or]
  constructor
  · exact fun h t ht fields hf => h fields ⟨t, ht, hf⟩
  · rintro h fields ⟨t, ht, hf⟩
    exact h t ht fields hf

theorem keyed_object {entries : List (String × Tree)} :
    (object entries).Keyed ↔ (entries.map Prod.fst).Nodup ∧ ∀ entry ∈ entries, entry.2.Keyed := by
  simp only [Keyed, preorder, preorderFields_eq, List.mem_cons, List.mem_flatMap, object.injEq, List.mem_map]
  constructor
  · exact fun h => ⟨h entries (.inl rfl), fun entry he fields hf => h fields (.inr ⟨_, ⟨entry, he, rfl⟩, hf⟩)⟩
  · rintro ⟨hd, h⟩ fields (rfl | ⟨_, ⟨entry, he, rfl⟩, hf⟩)
    · exact hd
    · exact h entry he fields hf

theorem Keyed.of_mem_children {t child : Tree} (h : t.Keyed) (hc : child ∈ t.children) : child.Keyed := by
  cases t with
  | array items => exact keyed_array.mp h child hc
  | object fields =>
    obtain ⟨field, hf, rfl⟩ := List.mem_map.mp hc
    exact (keyed_object.mp h).2 field hf
  | _ => cases hc

/-! ### Look-up in objects -/

theorem field?_eq_lookup (name : String) (fields : List (String × Tree)) : field? name fields = fields.lookup name := by
  induction fields with
  | nil => rfl
  | cons field rest ih => rw [field?, lookup_cons_eq_ite, ih, if_congr eq_comm rfl rfl]

theorem field?_of_mem {fields : List (String × Tree)} (hd : (fields.map Prod.fst).Nodup) {name : String} {value : Tree}
    (h : (name, value) ∈ fields) : field? name fields = some value := by
  rw [field?_eq_lookup]
  exact lookup_of_mem hd h

theorem mem_of_field? {name : String} {value : Tree} {fields : List (String × Tree)}
    (h : field? name fields = some value) : (name, value) ∈ fields := by
  induction fields with
  | nil => cases h
  | cons field rest ih =>
    unfold field? at h
    split at h
    next hk =>
      obtain rfl := Option.some.inj h
      exact hk ▸ List.mem_cons_self
    next => exact List.mem_cons_of_mem _ (ih h)

end Tree

namespace Json

theorem isContainer_of_readWord {cs rest : List Char} {t : Tree} (h : readWord cs = some (t, rest)) :
    t.isContainer = false := by
  obtain ⟨⟨word, value⟩, hm, hw⟩ := List.exists_of_findSome?_eq_some h
  have hall : ∀ p ∈ words, p.2.isContainer = false := by decide
  obtain ⟨_, -, heq⟩ := Option.map_eq_some_iff.mp hw
  obtain ⟨rfl, -⟩ := Prod.mk.inj heq
  exact hall _ hm

theorem isContainer_of_readUnsigned {negative : Bool} {cs rest : List Char} {t : Tree}
    (h : readUnsigned negative cs = some (t, rest)) : t.isContainer = false := by
  simp only [readUnsigned, Option.bind_eq_bind, Option.bind_eq_some_iff] at h
  obtain ⟨⟨whole, after⟩, -, h⟩ := h
  split at h
  next =>
    split at h
    next =>
      obtain ⟨n, -, h⟩ := Option.bind_eq_some_iff.mp h
      cases h
      rfl
    next =>
      cases h
      rfl
  next =>
    cases h
    rfl

theorem isContainer_of_readNumber {cs rest : List Char} {t : Tree} (h : readNumber cs = some (t, rest)) :
    t.isContainer = false := by
  unfold readNumber at h
  split at h <;> exact isContainer_of_readUnsigned h

private theorem keyed_of_readItems {fuel : Nat}
    (ihValue : ∀ {cs rest t}, readValue fuel cs = some (t, rest) → t.Keyed)
    (ihItems : ∀ {cs rest ts}, readItems fuel cs = some (ts, rest) → ∀ t ∈ ts, t.Keyed) {cs rest : List Char}
    {ts : List Tree} (h : readItems (fuel + 1) cs = some (ts, rest)) : ∀ t ∈ ts, t.Keyed := by
  rw [readItems_succ] at h
  obtain ⟨⟨first, after⟩, hfirst, h⟩ := Option.bind_eq_some_iff.mp h
  dsimp only at h
  split at h
  next =>
    cases h
    exact List.forall_mem_singleton.mpr (ihValue hfirst)
  next =>
    obtain ⟨⟨others, _⟩, hothers, h⟩ := Option.bind_eq_some_iff.mp h
    cases h
    exact List.forall_mem_cons.mpr ⟨ihValue hfirst, ihItems hothers⟩
  next => cases h

private theorem keyed_of_readFields {fuel : Nat}
    (ihValue : ∀ {cs rest t}, readValue fuel cs = some (t, rest) → t.Keyed)
    (ihFields : ∀ {cs rest entries}, readFields fuel cs = some (entries, rest) → ∀ entry ∈ entries, entry.2.Keyed)
    {cs rest : List Char} {entries : List (String × Tree)} (h : readFields (fuel + 1) cs = some (entries, rest)) :
    ∀ entry ∈ entries, entry.2.Keyed := by
  rw [readFields_succ] at h
  obtain ⟨⟨first, after⟩, hfirst, h⟩ := Option.bind_eq_some_iff.mp h
  have hkeyed : first.2.Keyed := by
    simp only [readField, Option.bind_eq_bind, Option.bind_eq_some_iff] at hfirst
    obtain ⟨_, -, ⟨value, _⟩, hvalue, hfirst⟩ := hfirst
    cases hfirst
    exact ihValue hvalue
  dsimp only at h
  split at h
  next =>
    cases h
    exact List.forall_mem_singleton.mpr hkeyed
  next =>
    obtain ⟨⟨others, _⟩, hothers, h⟩ := Option.bind_eq_some_iff.mp h
    cases h
    exact List.forall_mem_cons.mpr ⟨hkeyed, ihFields hothers⟩
  next => cases h

/-- What the three readers give with some fuel has no object with a repeated key. -/
theorem keyed_of_read (fuel : Nat) :
    (∀ {cs rest t}, readValue fuel cs = some (t, rest) → t.Keyed) ∧
    (∀ {cs rest ts}, readItems fuel cs = some (ts, rest) → ∀ t ∈ ts, t.Keyed) ∧
    ∀ {cs rest entries}, readFields fuel cs = some (entries, rest) → ∀ entry ∈ entries, entry.2.Keyed := by
  induction fuel with
  | zero => exact ⟨nofun, nofun, nofun⟩
  | succ fuel ih =>
    obtain ⟨ihValue, ihItems, ihFields⟩ := ih
    refine ⟨?_, keyed_of_readItems ihValue ihItems, keyed_of_readFields ihValue ihFields⟩
    intro cs rest t h
    unfold readValue at h
    split at h
    next =>
      obtain ⟨_, -, h⟩ := Option.map_eq_some_iff.mp h
      cases h
      exact Tree.keyed_of_isContainer rfl
    next =>
      split at h
      next =>
        cases h
        exact Tree.keyed_array.mpr (List.forall_mem_nil _)
      next =>
        obtain ⟨⟨items, _⟩, hitems, h⟩ := Option.map_eq_some_iff.mp h
        cases h
        exact Tree.keyed_array.mpr (ihItems hitems)
    next =>
      split at h
      next =>
        cases h
        exact Tree.keyed_object.mpr ⟨.nil, List.forall_mem_nil _⟩
      next =>
        obtain ⟨⟨entries, _⟩, hentries, h⟩ := Option.map_eq_some_iff.mp h
        cases h
        -- the fields as they were read may repeat a key, and only the last of each stays
        refine Tree.keyed_object.mpr ⟨nodup_distinctEntries entries, fun entry he => ?_⟩
        obtain ⟨key, hm⟩ := mem_of_mem_distinctEntries he
        exact ihFields hentries (key, entry.2) hm
    next =>
      rcases Option.or_eq_some_iff.mp h with h | ⟨-, h⟩
      · exact Tree.keyed_of_isContainer (isContainer_of_readWord h)
      · exact Tree.keyed_of_isContainer (isContainer_of_readNumber h)

theorem keyed_of_parse? {text : String} {t : Tree} (h : parse? text = some t) : t.Keyed := by
  rw [parse?, read?] at h
  split at h
  next value rest hread =>
    split at h
    next =>
      obtain rfl := Option.some.inj h
      exact (keyed_of_read _).1 hread
    next => cases h
  next => cases h

end Json

end SiteReader
