import CodeFlow.Proofs.Text.Pieces
import CodeFlow.Url.Parser

/-!
# The query of an address that is read

In the text of an address the query stands behind the first question mark and ends at the number
sign. No part before it can take anything of it: a scheme, a user, a host and a port end before the
path does, and the path ends there. So an address that is read has the query of its text, encoded
once more, whether it stands alone or leads on from another address.
-/

namespace CodeFlow.Url

open CodeFlow.Text

/-- The text of the query in the text of an address; nothing if there is none. -/
def queryText? (cs : List Char) : Option (List Char) :=
  match cs.dropWhile fun c => !endsPath c with
  | '?' :: rest => some (rest.takeWhile (· ≠ '#'))
  | _ => none

/-! ## What stands before a query -/

/-- None of the characters ends a path. -/
def StaysInPath (cs : List Char) : Prop := ∀ c ∈ cs, endsPath c = false

variable {kind : Kind} {scheme front cs rest : List Char} {u : CodeFlow.Url}

theorem dropWhile_append_of_staysInPath (h : StaysInPath front) (cs : List Char) :
    (front ++ cs).dropWhile (fun c => !endsPath c) = cs.dropWhile fun c => !endsPath c := by
  apply List.dropWhile_append_of_pos
  intro c hc
  rw [h c hc]
  rfl

theorem queryText?_append (h : StaysInPath front) (cs : List Char) :
    queryText? (front ++ cs) = queryText? cs := by
  unfold queryText?
  rw [dropWhile_append_of_staysInPath h]

theorem queryText?_cons {c : Char} (h : endsPath c = false) (cs : List Char) :
    queryText? (c :: cs) = queryText? cs := by
  have hfront : StaysInPath [c] := by simpa [StaysInPath] using h
  exact queryText?_append hfront cs

theorem queryText?_dropWhile {p : Char → Bool} (hp : ∀ c, p c = true → endsPath c = false)
    (cs : List Char) : queryText? (cs.dropWhile p) = queryText? cs := by
  have hfront : StaysInPath (cs.takeWhile p) := fun c hc => hp c (List.mem_takeWhile_imp hc)
  calc queryText? (cs.dropWhile p)
      = queryText? (cs.takeWhile p ++ cs.dropWhile p) := (queryText?_append hfront _).symm
    _ = queryText? cs := by rw [List.takeWhile_append_dropWhile]

/-- What is neither of the two signs does not end a path. -/
theorem endsPath_of_pred {p : Char → Bool} (hmark : p '?' = false) (hnumber : p '#' = false)
    {c : Char} (h : p c = true) : endsPath c = false := by
  have hne (d : Char) (hd : p d = false) : c ≠ d := by
    rintro rfl
    rw [h] at hd
    cases hd
  simp [endsPath, hne '?' hmark, hne '#' hnumber]

theorem endsPath_of_isSlash {c : Char} (h : isSlash kind c = true) : endsPath c = false :=
  endsPath_of_pred (by cases kind <;> rfl) (by cases kind <;> rfl) h

theorem endsPath_of_isDigit {c : Char} (h : isDigit c = true) : endsPath c = false :=
  endsPath_of_pred (by decide) (by decide) h

theorem endsPath_of_inScheme {c : Char} (h : inScheme c = true) : endsPath c = false :=
  endsPath_of_pred (by decide) (by decide) h

theorem endsPath_of_not_endsAuthority {c : Char} (h : (!endsAuthority kind c) = true) :
    endsPath c = false := by
  simp only [endsAuthority, Bool.not_eq_true', Bool.or_eq_false_iff] at h
  exact h.2

/-! ## Before reading -/

/-- In its text, a query stands between a question mark and the end or a number sign. -/
theorem queryText?_eq_some_iff {q : List Char} :
    queryText? cs = some q ↔ ∃ front behind, cs = front ++ '?' :: (q ++ behind) ∧
      StaysInPath front ∧ '#' ∉ q ∧ (behind = [] ∨ ∃ fragment, behind = '#' :: fragment) := by
  constructor
  · intro h
    have hfront : StaysInPath (cs.takeWhile fun c => !endsPath c) := by
      intro c hc
      have hstays := List.mem_takeWhile_imp hc
      simpa using hstays
    have hcs := List.takeWhile_append_dropWhile (p := fun c => !endsPath c) (l := cs)
    unfold queryText? at h
    split at h
    · rename_i rest hdrop
      cases h
      rw [hdrop] at hcs
      -- the query is what stands in front of the first number sign
      obtain ⟨hq, hwhole | ⟨fragment, hrest⟩⟩ :=
        takeWhile_ne_eq_iff.mp (rfl : rest.takeWhile (· ≠ '#') = _)
      · refine ⟨_, [], ?_, hfront, hq, .inl rfl⟩
        rw [List.append_nil, ← hwhole, hcs]
      · refine ⟨_, '#' :: fragment, ?_, hfront, hq, .inr ⟨fragment, rfl⟩⟩
        rw [← hrest, hcs]
    · cases h
  · rintro ⟨front, behind, rfl, hfront, hq, hbehind⟩
    rw [queryText?_append hfront]
    change some ((q ++ behind).takeWhile (· ≠ '#')) = some q
    rcases hbehind with rfl | ⟨fragment, rfl⟩
    · rw [List.append_nil, takeWhile_ne_eq_self hq]
    · rw [takeWhile_ne_of_not_mem hq]

theorem stripBehind_append {p : Char → Bool} {front : List Char} (h : ∀ c ∈ front, p c = false)
    (rest : List Char) :
    ((front ++ rest).reverse.dropWhile p).reverse = front ++ (rest.reverse.dropWhile p).reverse := by
  induction front with
  | nil => rfl
  | cons c front ih =>
    have hstrip := stripBehind_append_cons (h c List.mem_cons_self) [] (front ++ rest)
    rw [List.nil_append, List.nil_append] at hstrip
    rw [List.cons_append, hstrip, ih fun d hd => h d (List.mem_cons_of_mem c hd)]
    rfl

/-- What holds of the first characters of all holds of spaces and controls. -/
theorem of_isEdge {p : Char → Prop} (h : ∀ n < 0x21, p (Char.ofNat n)) {c : Char}
    (hc : isEdge c = true) : p c := by
  have hle : c.toNat ≤ 0x20 := of_decide_eq_true hc
  have hp := h c.toNat (Nat.lt_succ_of_le hle)
  rwa [Char.ofNat_toNat] at hp

theorem isLineBreak_of_not_isEdge {c : Char} (h : isEdge c = false) : (!isLineBreak c) = true := by
  have hne (d : Char) (hd : isEdge d = true) : (c == d) = false := by
    rw [beq_eq_false_iff_ne]
    rintro rfl
    rw [h] at hd
    cases hd
  simp [isLineBreak, hne '\t' (by decide), hne '\n' (by decide), hne '\r' (by decide)]

/-- A query without white space and controls is not touched by what is dropped before reading. -/
theorem queryText?_clean {q : List Char} (h : queryText? cs = some q)
    (hq : ∀ c ∈ q, isEdge c = false) : queryText? (clean cs) = some q := by
  obtain ⟨front, behind, rfl, hfront, hsign, hbehind⟩ := queryText?_eq_some_iff.mp h
  have hkept : q.filter (fun c => !isLineBreak c) = q := by
    rw [List.filter_eq_self]
    exact fun c hc => isLineBreak_of_not_isEdge (hq c hc)
  have hsplit : clean (front ++ '?' :: (q ++ behind)) =
      (front.dropWhile isEdge).filter (fun c => !isLineBreak c) ++
        '?' :: (q ++ (behind.reverse.dropWhile isEdge).reverse.filter fun c => !isLineBreak c) := by
    rw [clean, dropWhile_append_cons (by decide), stripBehind_append_cons (by decide),
      stripBehind_append hq, List.filter_append, List.filter_cons_of_pos (by decide),
      List.filter_append, hkept]
  refine queryText?_eq_some_iff.mpr ⟨_, _, hsplit, ?_, hsign, ?_⟩
  · intro c hc
    exact hfront c ((List.dropWhile_sublist _).subset (List.mem_filter.mp hc).1)
  · rcases hbehind with rfl | ⟨fragment, rfl⟩
    · exact .inl rfl
    · have hstrip := stripBehind_append_cons (p := isEdge) (c := '#') (by decide) [] fragment
      rw [List.nil_append, List.nil_append] at hstrip
      rw [hstrip]
      exact .inr ⟨_, List.filter_cons_of_pos (by decide)⟩

/-! ## The parts of an authority -/

theorem suffix_of_splitLastAt {cs info behind : List Char}
    (h : splitLastAt cs = some (info, behind)) : behind <:+ cs := by
  unfold splitLastAt at h
  dsimp only at h
  split at h
  · cases h
  · cases h
    rw [← List.reverse_prefix, List.reverse_reverse]
    exact List.takeWhile_prefix _

theorem staysInPath_behindLastAt {info behind : List Char} (hcs : StaysInPath cs)
    (h : splitLastAt cs = some (info, behind)) : StaysInPath behind :=
  fun c hc => hcs c ((suffix_of_splitLastAt h).subset hc)

theorem queryText?_of_readUserinfo {user : List Char × List Char × List Char}
    (h : readUserinfo kind cs = .ok user) : queryText? user.2.2 = queryText? cs := by
  have hfront : StaysInPath (cs.takeWhile fun c => !endsAuthority kind c) := by
    intro c hc
    have hends := List.mem_takeWhile_imp hc
    exact endsPath_of_not_endsAuthority hends
  have hbehind (behind : List Char) (hstays : StaysInPath behind) :
      queryText? (behind ++ cs.dropWhile fun c => !endsAuthority kind c) = queryText? cs := by
    rw [queryText?_append hstays]
    exact queryText?_dropWhile (fun c => endsPath_of_not_endsAuthority) cs
  unfold readUserinfo at h
  split at h
  · cases h
    rfl
  · rename_i behind hcut
    dsimp only at h
    split at h
    · cases h
    · cases h
      exact hbehind behind (staysInPath_behindLastAt hfront hcut)
  · rename_i info behind _ hcut
    cases h
    exact hbehind behind (staysInPath_behindLastAt hfront hcut)

theorem takeHost_append (kind : Kind) (inside : Bool) (cs : List Char) :
    (takeHost kind inside cs).1 ++ (takeHost kind inside cs).2 = cs ∧
      StaysInPath (takeHost kind inside cs).1 := by
  induction cs generalizing inside with
  | nil => exact ⟨rfl, fun c hc => absurd hc List.not_mem_nil⟩
  | cons c cs ih =>
    unfold takeHost
    split
    · exact ⟨rfl, fun c hc => absurd hc List.not_mem_nil⟩
    · rename_i hc
      rw [Bool.or_eq_true, not_or, Bool.not_eq_true (endsAuthority kind c)] at hc
      obtain ⟨happend, hstays⟩ :=
        ih (if c == '[' then true else if c == ']' then false else inside)
      refine ⟨congrArg (c :: ·) happend, fun d hd => ?_⟩
      rcases List.mem_cons.mp hd with rfl | hd
      · exact endsPath_of_not_endsAuthority (by rw [hc.2]; rfl)
      · exact hstays d hd

theorem queryText?_takeHost (kind : Kind) (inside : Bool) (cs : List Char) :
    queryText? (takeHost kind inside cs).2 = queryText? cs := by
  obtain ⟨happend, hstays⟩ := takeHost_append kind inside cs
  calc queryText? (takeHost kind inside cs).2
      = queryText? ((takeHost kind inside cs).1 ++ (takeHost kind inside cs).2) :=
        (queryText?_append hstays _).symm
    _ = queryText? cs := by rw [happend]

theorem queryText?_of_readPortDigits {n : Nat} {any : Bool} {port : Nat × Bool × List Char}
    (h : readPortDigits n any cs = .ok port) : queryText? port.2.2 = queryText? cs := by
  induction cs generalizing n any with
  | nil =>
    cases h
    rfl
  | cons c cs ih =>
    unfold readPortDigits at h
    split at h
    · rename_i hdigit
      dsimp only at h
      split at h
      · cases h
      · rw [ih h, queryText?_cons (endsPath_of_isDigit hdigit)]
    · split at h
      · cases h
        rfl
      · cases h

theorem queryText?_of_readPort {port : Option Nat × List Char} (h : readPort scheme cs = .ok port) :
    queryText? port.2 = queryText? cs := by
  unfold readPort at h
  split at h
  · rename_i rest
    cases hdigits : readPortDigits 0 false rest with
    | error fault =>
      rw [hdigits] at h
      cases h
    | ok digits =>
      rw [hdigits] at h
      cases h
      rw [queryText?_of_readPortDigits hdigits]
      exact (queryText?_cons (by decide) rest).symm
  · cases h
    rfl

/-- Behind an authority stands a path, with the query of the whole. -/
theorem withPathStart_of_readAuthority (h : readAuthority scheme kind cs = .ok u) :
    ∃ authority rest, u = withPathStart scheme (some authority) kind rest ∧
      queryText? rest = queryText? cs := by
  unfold readAuthority at h
  -- the user, the host and the port may each be refused; behind all of them stands the path
  cases huser : readUserinfo kind cs with
  | error fault =>
    rw [huser] at h
    cases h
  | ok user =>
    have hhostQuery := queryText?_takeHost kind false user.2.2
    simp only [huser] at h
    generalize (takeHost kind false user.2.2).1 = hostText at h
    generalize (takeHost kind false user.2.2).2 = behindHost at h hhostQuery
    split at h
    · cases h
    · cases hhost : (if kind.isSpecial = true then readHost hostText else readPlainHost hostText) with
      | error fault =>
        rw [hhost] at h
        cases h
      | ok host =>
        simp only [hhost] at h
        split at h
        · cases h
        · cases hport : readPort scheme behindHost with
          | error fault =>
            rw [hport] at h
            cases h
          | ok port =>
            simp only [hport] at h
            split at h
            · cases h
            · cases h
              refine ⟨_, port.2, rfl, ?_⟩
              rw [queryText?_of_readPort hport, hhostQuery, queryText?_of_readUserinfo huser]

/-! ## The query behind a path -/

/-- A query as it is kept in an address. -/
def keptQuery (kind : Kind) (cs : List Char) : Option (List Char) :=
  (queryText? cs).map (percentEncode (inQuery kind.isSpecial))

theorem readTail_fst (kind : Kind) (cs : List Char) :
    (readTail kind (cs.dropWhile fun c => !endsPath c)).1 = keptQuery kind cs := by
  unfold keptQuery queryText?
  generalize cs.dropWhile (fun c => !endsPath c) = behind
  match behind with
  | [] => rfl
  | c :: rest =>
    by_cases hc : c = '?'
    · subst hc
      rfl
    · simp [readTail, hc]

theorem readTail_fst_of_endsPath {c : Char} (h : endsPath c = true) :
    (readTail kind (c :: cs)).1 = keptQuery kind (c :: cs) := by
  rw [← readTail_fst, List.dropWhile_cons_of_neg (by simp [h])]

theorem query_withPath (scheme : List Char) (authority : Option Authority) (kind : Kind)
    (done : List (List Char)) (cs : List Char) :
    (withPath scheme authority kind done cs).query = keptQuery kind cs :=
  readTail_fst kind cs

theorem query_withPathStart (scheme : List Char) (authority : Option Authority) (kind : Kind)
    (cs : List Char) : (withPathStart scheme authority kind cs).query = keptQuery kind cs := by
  unfold withPathStart
  split
  · rename_i c rest
    split
    · rename_i hslash
      rw [query_withPath, keptQuery, keptQuery, queryText?_cons (endsPath_of_isSlash hslash)]
    · split
      · rename_i hends
        rw [Bool.and_eq_true] at hends
        exact readTail_fst_of_endsPath hends.1
      · exact query_withPath ..
  · rfl

theorem query_of_readAuthority (h : readAuthority scheme kind cs = .ok u) :
    u.query = keptQuery kind cs := by
  obtain ⟨authority, rest, rfl, hquery⟩ := withPathStart_of_readAuthority h
  rw [query_withPathStart, keptQuery, keptQuery, hquery]

theorem query_of_readFile (h : readFile cs = .ok u) : u.query = keptQuery .file cs := by
  unfold readFile at h
  dsimp only at h
  split at h
  · rename_i a b rest
    split at h
    · rename_i hslashes
      rw [Bool.and_eq_true] at hslashes
      have hbehind : queryText? (a :: b :: rest) = queryText? rest := by
        rw [queryText?_cons (endsPath_of_isSlash hslashes.1),
          queryText?_cons (endsPath_of_isSlash hslashes.2)]
      split at h
      · cases h
        rw [query_withPathStart, keptQuery, keptQuery, hbehind]
      · split at h
        · cases h
        · cases h
          -- a drive takes the place of the host, and leaves the query as it is
          split <;>
            simp only [query_withPathStart, keptQuery, hbehind,
              queryText?_dropWhile (fun c => endsPath_of_not_endsAuthority)]
    · cases h
      exact query_withPathStart ..
  · cases h
    exact query_withPathStart ..

theorem query_of_readOther (h : readOther scheme cs = .ok u) : u.query = keptQuery .other cs := by
  unfold readOther at h
  split at h
  · rename_i rest
    rw [query_of_readAuthority h, keptQuery, keptQuery, queryText?_cons (by decide),
      queryText?_cons (by decide)]
  · rename_i rest _
    cases h
    rw [query_withPath, keptQuery, keptQuery, queryText?_cons (by decide)]
  · cases h
    exact readTail_fst ..

theorem query_of_readBehindScheme (h : readBehindScheme scheme cs = .ok u) :
    u.query = keptQuery (kindOf scheme) cs := by
  unfold readBehindScheme at h
  cases hkind : kindOf scheme with
  | file =>
    rw [hkind] at h
    exact query_of_readFile h
  | special =>
    rw [hkind] at h
    rw [query_of_readAuthority h, keptQuery, keptQuery,
      queryText?_dropWhile (fun c => endsPath_of_isSlash)]
  | other =>
    rw [hkind] at h
    exact query_of_readOther h

/-! ## Whole addresses -/

theorem queryText?_of_readScheme? {scheme : List Char} (h : readScheme? cs = some (scheme, rest)) :
    queryText? rest = queryText? cs := by
  unfold readScheme? at h
  split at h
  · split at h
    · split at h
      · rename_i hdrop
        cases h
        have hquery := queryText?_dropWhile (fun c => endsPath_of_inScheme) cs
        rw [hdrop, queryText?_cons (by decide)] at hquery
        exact hquery
      · cases h
    · cases h
  · cases h

/-- An address that stands alone has the query of its text. -/
theorem query_of_parse {text : String} (h : parse text = .ok u) :
    ∃ kind, u.query = keptQuery kind (clean text.toList) := by
  unfold parse at h
  split at h
  · rename_i scheme rest hscheme
    refine ⟨kindOf scheme, ?_⟩
    rw [query_of_readBehindScheme h, keptQuery, keptQuery, queryText?_of_readScheme? hscheme]
  · cases h

theorem query_of_readRelative {base : CodeFlow.Url} {q : List Char} (hq : queryText? cs = some q)
    (h : readRelative base cs = .ok u) : u.query = keptQuery (kindOf base.scheme) cs := by
  unfold readRelative at h
  dsimp only at h
  split at h
  · cases hq
  · rename_i c rest
    split at h
    · rename_i hc
      cases h
      refine readTail_fst_of_endsPath ?_
      rw [endsPath, hc]
      rfl
    · split at h
      · -- behind a number sign stands no query
        rename_i _ hc
        rw [beq_iff_eq] at hc
        subst hc
        cases hq
      · split at h
        · rename_i hc
          have hslash (d : Char) (hd : (d == '/' || d == '\\') = true) : endsPath d = false := by
            rw [Bool.or_eq_true, beq_iff_eq, beq_iff_eq] at hd
            rcases hd with rfl | rfl <;> rfl
          split at h
          · rename_i d rest'
            split at h
            · rename_i hd
              split at h
              · rw [query_of_readAuthority h, keptQuery, keptQuery, queryText?_cons (hslash c hc),
                  queryText?_cons (hslash d hd)]
              · rw [query_of_readAuthority h, keptQuery, keptQuery, queryText?_dropWhile hslash]
            · cases h
              rw [query_withPath, keptQuery, keptQuery, queryText?_cons (hslash c hc)]
          · cases h
            rw [query_withPath, keptQuery, keptQuery, queryText?_cons (hslash c hc)]
        · cases h
          exact query_withPath ..

/-- An address that leads on from another has the query of its text, if the text has one. -/
theorem query_of_join {base : CodeFlow.Url} {text : String} {q : List Char}
    (hq : queryText? (clean text.toList) = some q) (h : join base text = .ok u) :
    ∃ kind, u.query = keptQuery kind (clean text.toList) := by
  unfold join at h
  dsimp only at h
  split at h
  · rename_i scheme rest hscheme
    have hrest := queryText?_of_readScheme? hscheme
    split at h
    · refine ⟨kindOf base.scheme, ?_⟩
      rw [query_of_readRelative (hrest.trans hq) h, keptQuery, keptQuery, hrest]
    · refine ⟨kindOf scheme, ?_⟩
      rw [query_of_readBehindScheme h, keptQuery, keptQuery, hrest]
  · split at h
    · -- behind a number sign stands no query
      rename_i hcs
      rw [hcs] at hq
      cases hq
    · cases h
    · exact ⟨kindOf base.scheme, query_of_readRelative hq h⟩

end CodeFlow.Url
