import CodeFlow.Proofs.Url.Reading

/-!
# Where addresses lead

The place of an address is its scheme, its authority and its path. Another query does not lead to
another place, as long as the path consists of segments; and an address that is read under one of
the well-known schemes has such a path, whatever its text is.
-/

namespace CodeFlow.Url

/-- Where an address leads: all of it but its query and its fragment. -/
def place (u : CodeFlow.Url) : CodeFlow.Url :=
  { u with query := none, fragment := none }

/-! ## Other queries -/

@[simp] theorem scheme_withQuery (u : CodeFlow.Url) (query : Option (List Char)) :
    (u.withQuery query).scheme = u.scheme := by
  unfold withQuery
  split
  · rfl
  · split <;> rfl

theorem authority_withQuery (u : CodeFlow.Url) (query : Option (List Char)) :
    (u.withQuery query).authority = u.authority := by
  unfold withQuery
  split
  · rfl
  · split <;> rfl

theorem fragment_withQuery (u : CodeFlow.Url) (query : Option (List Char)) :
    (u.withQuery query).fragment = u.fragment := by
  unfold withQuery
  split
  · rfl
  · split <;> rfl

theorem query_withQuery (u : CodeFlow.Url) (query : Option (List Char)) :
    (u.withQuery query).query =
      query.map (percentEncode (inQuery (kindOf u.scheme).isSpecial)) := by
  unfold withQuery
  split
  · rfl
  · split <;> rfl

@[simp] theorem scheme_addPairs (u : CodeFlow.Url) (ps : List (String × String)) :
    (u.addPairs ps).scheme = u.scheme := by
  unfold addPairs
  split
  · exact u.scheme_withQuery none
  · rfl

/-- Only a path of no structure changes where its query goes away. -/
theorem place_withQuery {u : CodeFlow.Url} {ss : List (List Char)} (hpath : u.path = .segments ss)
    (query : Option (List Char)) : (u.withQuery query).place = u.place := by
  unfold withQuery
  split
  · rfl
  · split
    · simp only [place, hpath, Path.withoutFinalSpaces]
    · rfl

theorem path_withQuery {u : CodeFlow.Url} {ss : List (List Char)} (hpath : u.path = .segments ss)
    (query : Option (List Char)) : (u.withQuery query).path = u.path := by
  have hplace := congrArg CodeFlow.Url.path (place_withQuery hpath query)
  exact hplace

theorem place_addPairs {u : CodeFlow.Url} {ss : List (List Char)} (hpath : u.path = .segments ss)
    (ps : List (String × String)) : (u.addPairs ps).place = u.place := by
  unfold addPairs
  split
  · exact place_withQuery hpath none
  · rfl

/-! ## Paths of addresses that are read -/

/-- An address of a scheme has a path of segments. -/
def IsSegmented (scheme : List Char) (u : CodeFlow.Url) : Prop :=
  u.scheme = scheme ∧ ∃ ss, u.path = .segments ss

theorem isSegmented_withPath (scheme : List Char) (authority : Option Authority) (kind : Kind)
    (done : List (List Char)) (cs : List Char) :
    IsSegmented scheme (withPath scheme authority kind done cs) :=
  ⟨rfl, _, rfl⟩

theorem isSegmented_withPathStart (scheme : List Char) (authority : Option Authority)
    (kind : Kind) (cs : List Char) : IsSegmented scheme (withPathStart scheme authority kind cs) := by
  unfold withPathStart
  split
  · split
    · exact isSegmented_withPath ..
    · split
      · exact ⟨rfl, _, rfl⟩
      · exact isSegmented_withPath ..
  · exact ⟨rfl, _, rfl⟩

theorem isSegmented_of_readAuthority {scheme : List Char} {kind : Kind} {cs : List Char}
    {u : CodeFlow.Url} (h : readAuthority scheme kind cs = .ok u) : IsSegmented scheme u := by
  obtain ⟨authority, rest, rfl, -⟩ := withPathStart_of_readAuthority h
  exact isSegmented_withPathStart ..

theorem isSegmented_of_readFile {cs : List Char} {u : CodeFlow.Url} (h : readFile cs = .ok u) :
    IsSegmented "file".toList u := by
  unfold readFile at h
  dsimp only at h
  split at h
  · split at h
    · split at h
      · cases h
        exact isSegmented_withPathStart ..
      · split at h
        · cases h
        · cases h
          -- a drive takes the place of the host, and leaves the path as it is
          split <;> exact isSegmented_withPathStart ..
    · cases h
      exact isSegmented_withPathStart ..
  · cases h
    exact isSegmented_withPathStart ..

theorem scheme_of_readOther {scheme : List Char} {cs : List Char} {u : CodeFlow.Url}
    (h : readOther scheme cs = .ok u) : u.scheme = scheme := by
  unfold readOther at h
  split at h
  · exact (isSegmented_of_readAuthority h).1
  · cases h
    exact (isSegmented_withPath ..).1
  · cases h
    rfl

/-- Under one of the well-known schemes the path consists of segments. -/
theorem segments_of_parse {text : String} {u : CodeFlow.Url} (h : parse text = .ok u)
    (hspecial : (kindOf u.scheme).isSpecial = true) : ∃ ss, u.path = .segments ss := by
  unfold parse at h
  split at h
  · rename_i scheme rest _
    unfold readBehindScheme at h
    split at h
    · exact (isSegmented_of_readFile h).2
    · exact (isSegmented_of_readAuthority h).2
    · -- what is read under another scheme keeps that scheme
      rename_i hkind
      rw [scheme_of_readOther h, hkind] at hspecial
      cases hspecial
  · cases h

/-! ## Schemes of addresses that are read -/

theorem eq_file_of_kindOf {scheme : List Char} (h : kindOf scheme = .file) :
    scheme = "file".toList := by
  unfold kindOf at h
  split at h
  · assumption
  · split at h <;> cases h

theorem scheme_of_readBehindScheme {scheme cs : List Char} {u : CodeFlow.Url}
    (h : readBehindScheme scheme cs = .ok u) : u.scheme = scheme := by
  unfold readBehindScheme at h
  split at h
  · rename_i hkind
    rw [(isSegmented_of_readFile h).1, eq_file_of_kindOf hkind]
  · exact (isSegmented_of_readAuthority h).1
  · exact scheme_of_readOther h

/-- The query of an address is encoded for the scheme of the address. -/
theorem query_eq_of_parse {text : String} {u : CodeFlow.Url} (h : parse text = .ok u) :
    u.query = keptQuery (kindOf u.scheme) (clean text.toList) := by
  unfold parse at h
  split at h
  · rename_i scheme rest hscheme
    rw [query_of_readBehindScheme h, scheme_of_readBehindScheme h, keptQuery, keptQuery,
      queryText?_of_readScheme? hscheme]
  · cases h

end CodeFlow.Url
