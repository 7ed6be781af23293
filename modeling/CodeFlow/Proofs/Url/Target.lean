import CodeFlow.Proofs.Url.Place
import CodeFlow.Proofs.Url.Reencoding

/-!
# What a request names

Of its address, a request names the path and the query behind a question mark. For an address of
one of the well-known schemes neither part can be taken for the other: the path holds no question
mark, and nothing in the query ends it. So the server finds the query that the address has, and
reads its pairs.
-/

namespace CodeFlow.Url

open CodeFlow.Text

/-- What a request names of its address. -/
def target (u : CodeFlow.Url) : List Char :=
  u.path.write ++ writePart '?' u.query

/-! ## Paths -/

theorem escapeBytes_of_forall {p : Char → Prop} (hpercent : p '%') (hdigit : ∀ n < 16, p (upperHex n))
    (bs : List UInt8) : ∀ c ∈ bs.flatMap escapeByte, p c := by
  intro c hc
  obtain ⟨b, -, hb⟩ := List.mem_flatMap.mp hc
  have hbyte := b.toNat_lt
  simp only [escapeByte, List.mem_cons, List.not_mem_nil, or_false] at hb
  rcases hb with rfl | rfl | rfl
  · exact hpercent
  · exact hdigit _ (by omega)
  · exact hdigit _ (by omega)

theorem staysInPath_percentEncode_inPath (cs : List Char) :
    StaysInPath (percentEncode inPath cs) := by
  intro c hc
  obtain ⟨d, -, hd⟩ := List.mem_flatMap.mp hc
  unfold escapeChar at hd
  split at hd
  · rename_i hkept
    rw [List.mem_singleton.mp hd]
    exact endsPath_of_pred (by decide) (by decide) hkept
  · exact escapeBytes_of_forall (p := fun c => endsPath c = false) (by decide) (by decide) _ c hd

/-- None of the segments holds a sign that ends a path. -/
def StayInPath (segments : List (List Char)) : Prop := ∀ s ∈ segments, StaysInPath s

theorem stayInPath_append {done more : List (List Char)} (hdone : StayInPath done)
    (hmore : StayInPath more) : StayInPath (done ++ more) := by
  intro s hs
  exact (List.mem_append.mp hs).elim (hdone s) (hmore s)

theorem stayInPath_singleton {segment : List Char} (h : StaysInPath segment) :
    StayInPath [segment] := by
  intro s hs
  rwa [List.mem_singleton.mp hs]

theorem staysInPath_nil : StaysInPath [] := fun _ hc => absurd hc List.not_mem_nil

theorem stayInPath_up {done : List (List Char)} (h : StayInPath done) : StayInPath (up done) := by
  unfold up
  split
  · exact h
  · exact fun s hs => h s ((List.dropLast_sublist done).subset hs)

/-- Dots are resolved and the rest is encoded, so nothing that ends a path comes in. -/
theorem stayInPath_resolve {done : List (List Char)} (h : StayInPath done)
    (segments : List (List Char)) : StayInPath (resolve done segments) := by
  induction done, segments using resolve.induct with
  | case1 done => exact h
  | case2 done s hdots =>
    rw [resolve, if_pos hdots]
    exact stayInPath_append (stayInPath_up h) (stayInPath_singleton staysInPath_nil)
  | case3 done s hdots hdot =>
    rw [resolve, if_neg hdots, if_pos hdot]
    exact stayInPath_append h (stayInPath_singleton staysInPath_nil)
  | case4 done s hdots hdot =>
    rw [resolve, if_neg hdots, if_neg hdot]
    exact stayInPath_append h (stayInPath_singleton (staysInPath_percentEncode_inPath s))
  | case5 done s ss hne hdots ih =>
    rw [resolve, if_pos hdots]
    · exact ih (stayInPath_up h)
    · exact hne
  | case6 done s ss hne hdots hdot ih =>
    rw [resolve, if_neg hdots, if_pos hdot]
    · exact ih h
    · exact hne
  | case7 done s ss hne hdots hdot ih =>
    rw [resolve, if_neg hdots, if_neg hdot]
    · exact ih (stayInPath_append h (stayInPath_singleton (staysInPath_percentEncode_inPath s)))
    · exact hne

theorem staysInPath_write {segments : List (List Char)} (h : StayInPath segments) :
    StaysInPath (Path.segments segments).write := by
  intro c hc
  obtain ⟨s, hs, hc⟩ := List.mem_flatMap.mp hc
  rcases List.mem_cons.mp hc with rfl | hc
  · decide
  · exact h s hs c hc

theorem staysInPath_withPath (scheme : List Char) (authority : Option Authority)
    (cs : List Char) :
    StaysInPath (withPath scheme authority .special [] cs).path.write :=
  staysInPath_write (stayInPath_resolve (fun _ hs => absurd hs List.not_mem_nil) _)

theorem staysInPath_withPathStart (scheme : List Char) (authority : Option Authority)
    (cs : List Char) : StaysInPath (withPathStart scheme authority .special cs).path.write := by
  unfold withPathStart
  split
  · split
    · exact staysInPath_withPath _ _ _
    · split
      · exact staysInPath_write fun _ hs => absurd hs List.not_mem_nil
      · exact staysInPath_withPath _ _ _
  · exact staysInPath_write (stayInPath_singleton staysInPath_nil)

variable {text : String} {u : CodeFlow.Url}

theorem staysInPath_of_parse (h : parse text = .ok u) (hspecial : kindOf u.scheme = .special) :
    StaysInPath u.path.write := by
  unfold parse at h
  split at h
  · rename_i scheme rest _
    unfold readBehindScheme at h
    split at h
    · rw [(isSegmented_of_readFile h).1] at hspecial
      exact absurd hspecial (by decide)
    · obtain ⟨authority, behind, rfl, -⟩ := withPathStart_of_readAuthority h
      exact staysInPath_withPathStart _ _ _
    · rename_i hkind
      rw [scheme_of_readOther h, hkind] at hspecial
      cases hspecial
  · cases h

/-! ## Queries -/

theorem number_not_mem_keptQuery {kind : Kind} {cs q : List Char} (h : keptQuery kind cs = some q) :
    '#' ∉ q := by
  obtain ⟨written, hwritten, rfl⟩ := Option.map_eq_some_iff.mp h
  obtain ⟨-, -, -, -, hnumber, -⟩ := queryText?_eq_some_iff.mp hwritten
  exact separator_not_mem_percentEncode (by decide) hnumber

theorem number_not_mem_writePair (p : String × String) : '#' ∉ writePair p := by
  intro h
  rcases (spellsPair_writePair p).inPiece_or '#' h with hc | hc <;> exact absurd hc (by decide)

theorem number_not_mem_appendPairs {query : List Char} (h : '#' ∉ query)
    (ps : List (String × String)) : '#' ∉ appendPairs query ps := by
  induction ps generalizing query with
  | nil => exact h
  | cons p ps ih =>
    rw [appendPairs]
    apply ih
    split
    · exact number_not_mem_writePair p
    · rw [List.mem_append, List.mem_cons, not_or, not_or]
      exact ⟨h, by decide, number_not_mem_writePair p⟩

theorem number_not_mem_addPairs (h : ∀ q, u.query = some q → '#' ∉ q)
    (ps : List (String × String)) : ∀ q, (u.addPairs ps).query = some q → '#' ∉ q := by
  have hall : '#' ∉ appendPairs (u.query.getD []) ps := by
    apply number_not_mem_appendPairs
    cases hquery : u.query with
    | none => exact List.not_mem_nil
    | some q => exact h q hquery
  intro q hq
  unfold addPairs at hq
  split at hq
  · unfold withQuery at hq
    dsimp only at hq
    split at hq <;> cases hq
  · obtain rfl := Option.some.inj hq
    exact hall

theorem path_addPairs {ss : List (List Char)} (hpath : u.path = .segments ss)
    (ps : List (String × String)) : (u.addPairs ps).path = u.path := by
  have hplace := congrArg CodeFlow.Url.path (place_addPairs hpath ps)
  exact hplace

theorem queryText?_target (hpath : StaysInPath u.path.write)
    (hquery : ∀ q, u.query = some q → '#' ∉ q) : queryText? u.target = u.query := by
  rw [target, queryText?_append hpath]
  cases hq : u.query with
  | none => rfl
  | some q =>
    refine queryText?_eq_some_iff.mpr ⟨[], [], ?_, staysInPath_nil, hquery q hq, .inl rfl⟩
    rw [List.append_nil]
    rfl

/-- In what a request names of its address, the server finds the query with the pairs that were
put to it. -/
theorem queryText?_target_addPairs (h : parse text = .ok u)
    (hspecial : kindOf u.scheme = .special) (ps : List (String × String)) :
    queryText? (u.addPairs ps).target = (u.addPairs ps).query := by
  have hkind : (kindOf u.scheme).isSpecial = true := by rw [hspecial]; rfl
  obtain ⟨ss, hss⟩ := segments_of_parse h hkind
  refine queryText?_target ?_ (number_not_mem_addPairs (fun q hq => ?_) ps)
  · rw [path_addPairs hss]
    exact staysInPath_of_parse h hspecial
  · obtain ⟨kind, hkept⟩ := query_of_parse h
    exact number_not_mem_keptQuery (hkept ▸ hq)

end CodeFlow.Url
