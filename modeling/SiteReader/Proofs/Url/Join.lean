import SiteReader.Url.Join

/-!
# When URLs cannot be joined

A reference can be joined to every base that is a URL, unless the reference itself is a text that is no URL
(`join_eq_error_iff`).  The scheme to assume has no part in that (`splitWith_eq_error_iff`).
-/

namespace SiteReader.Url

/-- A text that no URL can be read from. -/
def IsMalformed (text : String) : Prop :=
  split text.toList = .error .malformedUrl

private theorem cutScheme_rest (default other cs : List Char) : (cutScheme default cs).2 = (cutScheme other cs).2 := by
  unfold cutScheme
  dsimp only
  split
  next =>
    split
    next => rfl
    next => rfl
  next => rfl

/-- Whether a text is split does not depend on the scheme to assume. -/
theorem splitWith_eq_error_iff (default : List Char) {cs : List Char} {fault : Fault} :
    splitWith default cs = .error fault ↔ split cs = .error fault := by
  have hrest := cutScheme_rest default [] (cleaned cs)
  unfold split splitWith
  revert hrest
  rcases cutScheme default (cleaned cs) with ⟨scheme, rest⟩
  rcases cutScheme [] (cleaned cs) with ⟨scheme', rest'⟩
  rintro rfl
  dsimp only
  -- the authority decides, which is the same in both
  split
  next => exact Iff.rfl
  next =>
    split
    next => exact Iff.rfl
    next => exact iff_of_false nofun nofun

theorem fault_of_split {cs : List Char} {fault : Fault} (h : split cs = .error fault) : fault = .malformedUrl := by
  unfold split splitWith at h
  dsimp only at h
  split at h
  next => exact (Except.error.inj h).symm
  next =>
    split at h
    next => exact (Except.error.inj h).symm
    next => cases h

private theorem joinChars_eq_error_iff {base reference : List Char} {url : Url} (hb : split base = .ok url)
    (hbase : base ≠ []) (hreference : reference ≠ []) {fault : Fault} :
    joinChars base reference = .error fault ↔ split reference = .error fault := by
  rw [← splitWith_eq_error_iff url.scheme]
  unfold joinChars
  rw [if_neg (by simpa using hbase), if_neg (by simpa using hreference), hb]
  simp only [bind, Except.bind]
  cases splitWith url.scheme reference with
  | error other => simp only [Except.error.injEq]
  | ok parts =>
    refine iff_of_false ?_ nofun
    dsimp only
    split
    next => exact nofun
    next =>
      split
      next => exact nofun
      next => split <;> exact nofun

/-- A reference that is not empty is joined to a URL, unless the reference is no URL itself. -/
theorem join_eq_error_iff {base reference : String} {url : Url} (hb : split base.toList = .ok url) (hbase : base ≠ "")
    (hreference : reference ≠ "") {fault : Fault} :
    join base reference = .error fault ↔ fault = .malformedUrl ∧ IsMalformed reference := by
  have hchars := @joinChars_eq_error_iff base.toList reference.toList url hb (by simpa using hbase)
    (by simpa using hreference)
  have hjoin : join base reference = .error fault ↔ joinChars base.toList reference.toList = .error fault := by
    unfold join
    cases joinChars base.toList reference.toList with
    | error other => simp only [Except.map, Except.error.injEq]
    | ok text => exact iff_of_false nofun nofun
  rw [hjoin, hchars]
  constructor
  · intro h
    obtain rfl := fault_of_split h
    exact ⟨rfl, h⟩
  · rintro ⟨rfl, h⟩
    exact h

/-- Two texts that are not empty are joined, unless one of them is no URL. -/
theorem join_eq_error_iff_either {base reference : String} {fault : Fault} :
    join base reference = .error fault ↔
      fault = .malformedUrl ∧ base ≠ "" ∧ reference ≠ "" ∧ (IsMalformed base ∨ IsMalformed reference) := by
  by_cases hbase : base = ""
  · subst hbase
    exact iff_of_false nofun fun h => h.2.1 rfl
  by_cases hreference : reference = ""
  · subst hreference
    have hjoin : join base "" = .ok base := by
      simp [join, joinChars, hbase, Except.map]
    rw [hjoin]
    exact iff_of_false nofun fun h => h.2.2.1 rfl
  cases hsplit : split base.toList with
  | ok url =>
    have hnot : ¬ IsMalformed base := fun h => by cases hsplit.symm.trans h
    rw [join_eq_error_iff hsplit hbase hreference]
    simp only [hbase, hreference, hnot, ne_eq, not_false_eq_true, true_and, false_or]
  | error cause =>
    obtain rfl := fault_of_split hsplit
    have hjoin : join base reference = .error .malformedUrl := by
      simp [join, joinChars, hbase, hreference, hsplit, Except.map, bind, Except.bind]
    rw [hjoin]
    constructor
    · intro h
      exact ⟨(Except.error.inj h).symm, hbase, hreference, .inl hsplit⟩
    · rintro ⟨rfl, -⟩
      rfl

end SiteReader.Url
