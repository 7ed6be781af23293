import CodeFlow.Proofs.Url.Host
import CodeFlow.Proofs.Url.Segments
import CodeFlow.Proofs.Url.Target

/-!
# Putting a path behind the text of an address

Where an address ends in its path, further segments can be put to its text. Reading goes on where it
would have ended: the authority is the same whatever stands behind it (`readAuthority_append`), and
so the whole address is the same but for its path (`parse_append`). Where what is put to the text
goes on with the authority instead, it must not end it in a space or a control.
-/

namespace CodeFlow.Url

open CodeFlow.Text

/-! ## Authorities -/

/-- None of the characters ends an authority. -/
def StaysInAuthority (kind : Kind) (cs : List Char) : Prop :=
  ∀ c ∈ cs, endsAuthority kind c = false

/-- Nothing, or a text that begins where an authority ends. -/
def BehindAuthority (kind : Kind) (cs : List Char) : Prop :=
  ∀ c ∈ cs.head?, endsAuthority kind c = true

variable {kind : Kind} {scheme body rest : List Char} {u : CodeFlow.Url}

theorem StaysInAuthority.takeWhile (hbody : StaysInAuthority kind body)
    (hrest : BehindAuthority kind rest) :
    (body ++ rest).takeWhile (fun c => !endsAuthority kind c) = body := by
  have hpos : ∀ c ∈ body, (!endsAuthority kind c) = true := fun c hc => by rw [hbody c hc]; rfl
  rw [List.takeWhile_append_of_pos hpos]
  cases rest with
  | nil => simp
  | cons c rest => rw [List.takeWhile_cons_of_neg (by simp [hrest c rfl]), List.append_nil]

theorem StaysInAuthority.dropWhile (hbody : StaysInAuthority kind body)
    (hrest : BehindAuthority kind rest) :
    (body ++ rest).dropWhile (fun c => !endsAuthority kind c) = rest := by
  have hpos : ∀ c ∈ body, (!endsAuthority kind c) = true := fun c hc => by rw [hbody c hc]; rfl
  rw [List.dropWhile_append_of_pos hpos]
  cases rest with
  | nil => rfl
  | cons c rest => rw [List.dropWhile_cons_of_neg (by simp [hrest c rfl])]

/-- The user of an authority is the same whatever stands behind the authority, as long as there is
room for a host. -/
theorem readUserinfo_append (hbody : StaysInAuthority kind body) (hrest : BehindAuthority kind rest)
    {user : List Char × List Char × List Char} (h : readUserinfo kind (body ++ rest) = .ok user) :
    ∃ username password behind, behind <:+ body ∧ user = (username, password, behind ++ rest) ∧
      (behind ≠ [] → ∀ {more}, BehindAuthority kind more →
        readUserinfo kind (body ++ more) = .ok (username, password, behind ++ more)) := by
  -- there is no user, or an empty one, or one that is written; the host stands behind it
  unfold readUserinfo at h ⊢
  rw [hbody.takeWhile hrest] at h
  split at h
  · rename_i hcut
    cases h
    refine ⟨[], [], body, List.suffix_refl body, rfl, fun _ more hmore => ?_⟩
    rw [hbody.takeWhile hmore, hcut]
  · rename_i behind hcut
    rw [hbody.dropWhile hrest] at h
    dsimp only at h
    split at h
    · cases h
    · cases h
      have hsuffix := suffix_of_splitLastAt hcut
      refine ⟨[], [], behind, hsuffix, rfl, fun hroom more hmore => ?_⟩
      rw [hbody.takeWhile hmore, hcut, hbody.dropWhile hmore]
      obtain ⟨c, cs, rfl⟩ := List.exists_cons_of_ne_nil hroom
      simp [hbody c (hsuffix.subset List.mem_cons_self)]
  · rename_i info behind hinfo hcut
    rw [hbody.dropWhile hrest] at h
    cases h
    refine ⟨_, _, behind, suffix_of_splitLastAt hcut, rfl, fun _ more hmore => ?_⟩
    rw [hbody.takeWhile hmore, hcut, hbody.dropWhile hmore]
    cases info with
    | nil => exact absurd rfl hinfo
    | cons c info => rfl

theorem takeHost_behind (inside : Bool) (hrest : BehindAuthority kind rest) :
    takeHost kind inside rest = ([], rest) := by
  cases rest with
  | nil => rfl
  | cons c rest => rw [takeHost, if_pos (by rw [hrest c rfl, Bool.or_true])]

/-- A host ends before what stands behind the authority. -/
theorem takeHost_append_behind (inside : Bool) (hbody : StaysInAuthority kind body)
    (hrest : BehindAuthority kind rest) : takeHost kind inside (body ++ rest) =
      ((takeHost kind inside body).1, (takeHost kind inside body).2 ++ rest) := by
  induction body generalizing inside with
  | nil => exact takeHost_behind inside hrest
  | cons c body ih =>
    have ih := fun inside => ih inside fun d hd => hbody d (List.mem_cons_of_mem c hd)
    rw [List.cons_append, takeHost, takeHost, ih]
    split <;> rfl

/-- Behind a host nothing is left, or a port. -/
theorem takeHost_snd (inside : Bool) (hbody : StaysInAuthority kind body) :
    (takeHost kind inside body).2 = [] ∨ ∃ digits, (takeHost kind inside body).2 = ':' :: digits ∧
      StaysInAuthority kind digits := by
  induction body generalizing inside with
  | nil => exact .inl rfl
  | cons c body ih =>
    have htail : StaysInAuthority kind body := fun d hd => hbody d (List.mem_cons_of_mem c hd)
    rw [takeHost]
    split
    · rename_i hc
      rw [hbody c List.mem_cons_self, Bool.or_false, Bool.and_eq_true, beq_iff_eq] at hc
      exact .inr ⟨body, by rw [hc.1], htail⟩
    · exact ih _ htail

theorem endsAuthority_of_isDigit {c : Char} (h : isDigit c = true) :
    endsAuthority kind c = false := by
  have hne (d : Char) (hd : isDigit d = false) : c ≠ d := by
    rintro rfl
    rw [h] at hd
    cases hd
  simp [endsAuthority, isSlash, endsPath_of_isDigit h, hne '/' (by decide), hne '\\' (by decide)]

/-- Digits end where the authority ends. -/
theorem readPortDigits_append {n : Nat} {any : Bool} {digits : List Char}
    (hdigits : StaysInAuthority .special digits) (hrest : BehindAuthority .special rest)
    {port : Nat × Bool × List Char}
    (h : readPortDigits n any (digits ++ rest) = .ok port) :
    (∀ c ∈ digits, isDigit c = true) ∧ port.2.2 = rest ∧
      ∀ {more}, BehindAuthority .special more →
        readPortDigits n any (digits ++ more) = .ok (port.1, port.2.1, more) := by
  have hbehind {n : Nat} {any : Bool} {more : List Char} (hmore : BehindAuthority .special more) :
      readPortDigits n any more = .ok (n, any, more) := by
    cases more with
    | nil => rfl
    | cons c more =>
      have hends := hmore c rfl
      have hdigit : ¬isDigit c = true := by
        intro hdigit
        rw [endsAuthority_of_isDigit hdigit] at hends
        cases hends
      rw [readPortDigits, if_neg hdigit, if_pos]
      simpa [endsAuthority, isSlash, Kind.isSpecial] using hends
  -- a character that is no digit must end the authority, and none of the digits does
  induction digits generalizing n any with
  | nil =>
    rw [List.nil_append, hbehind hrest] at h
    cases h
    exact ⟨fun c hc => absurd hc List.not_mem_nil, rfl, fun hmore => hbehind hmore⟩
  | cons c digits ih =>
    have hnot : ¬(c == '/' || c == '\\' || endsPath c) = true := by
      have hc := hdigits c List.mem_cons_self
      rw [Bool.not_eq_true]
      simpa [endsAuthority, isSlash, Kind.isSpecial] using hc
    have htail : StaysInAuthority .special digits := fun d hd =>
      hdigits d (List.mem_cons_of_mem c hd)
    rw [List.cons_append, readPortDigits] at h
    by_cases hdigit : isDigit c = true
    · rw [if_pos hdigit] at h
      dsimp only at h
      split at h
      · cases h
      · rename_i hlimit
        obtain ⟨hall, hend, hsame⟩ := ih htail h
        refine ⟨List.forall_mem_cons.mpr ⟨hdigit, hall⟩, hend, fun hmore => ?_⟩
        rw [List.cons_append, readPortDigits, if_pos hdigit]
        dsimp only
        rw [if_neg hlimit, hsame hmore]
    · rw [if_neg hdigit, if_neg hnot] at h
      cases h

/-- A port ends where the authority ends, and consists of digits. -/
theorem readPort_append {body : List Char} (hbody : StaysInAuthority .special body)
    (hrest : BehindAuthority .special rest) {port : Option Nat × List Char}
    (h : readPort scheme ((takeHost .special false body).2 ++ rest) = .ok port) :
    (∀ c ∈ (takeHost .special false body).2, c = ':' ∨ isDigit c = true) ∧ port.2 = rest ∧
      ∀ {more}, BehindAuthority .special more →
        readPort scheme ((takeHost .special false body).2 ++ more) = .ok (port.1, more) := by
  rcases takeHost_snd false hbody with hnone | ⟨digits, hdigits, hstays⟩
  · have hbehind {more : List Char} (hmore : BehindAuthority .special more) :
        readPort scheme more = .ok (none, more) := by
      unfold readPort
      split
      · exact absurd (hmore ':' rfl) (by decide)
      · rfl
    rw [hnone, List.nil_append, hbehind hrest] at h
    cases h
    refine ⟨fun c hc => ?_, rfl, fun hmore => ?_⟩
    · rw [hnone] at hc
      exact absurd hc List.not_mem_nil
    · rw [hnone, List.nil_append, hbehind hmore]
  · rw [hdigits, List.cons_append, readPort] at h
    split at h
    · cases h
    · rename_i n any behind hread
      cases h
      obtain ⟨hall, hend, hsame⟩ := readPortDigits_append hstays hrest hread
      refine ⟨fun c hc => ?_, hend, fun hmore => ?_⟩
      · rw [hdigits] at hc
        exact (List.mem_cons.mp hc).imp_right (hall c)
      · rw [hdigits, List.cons_append, readPort, hsame hmore]

theorem isEdge_of_isDigit {c : Char} (h : isDigit c = true) : isEdge c = false := by
  have hzero : '0'.toNat ≤ c.toNat := by
    rw [isDigit, Bool.and_eq_true, decide_eq_true_eq] at h
    exact h.1
  rw [isEdge, decide_eq_false_iff_not, Nat.not_le]
  exact Nat.lt_of_lt_of_le (by decide) hzero

/-- The text of a host and a port that are read does not end in a space or a control. -/
theorem not_isEdge_of_readHost {body : List Char} {host : Host}
    (hhost : readHost (takeHost .special false body).1 = .ok host)
    (hport : ∀ c ∈ (takeHost .special false body).2, c = ':' ∨ isDigit c = true) :
    ∀ c ∈ body.getLast?, isEdge c = false := by
  intro c hc
  have hcut := (takeHost_append .special false body).1
  rw [Bool.eq_false_iff]
  intro hedge
  by_cases hnone : (takeHost .special false body).2 = []
  · -- the host is all that there is
    rw [hnone, List.append_nil] at hcut
    obtain ⟨front, rfl⟩ := List.getLast?_eq_some_iff.mp hc
    obtain ⟨fault, hfault⟩ := readHost_of_isEdge hedge front
    rw [hcut, hfault] at hhost
    cases hhost
  · rw [← hcut, List.getLast?_append_of_ne_nil _ hnone] at hc
    rcases hport c (List.mem_of_getLast? hc) with rfl | hdigit
    · exact absurd hedge (by decide)
    · rw [isEdge_of_isDigit hdigit] at hedge
      cases hedge

/-- An authority is the same whatever stands behind it. -/
theorem readAuthority_append (hbody : StaysInAuthority .special body)
    (hrest : BehindAuthority .special rest)
    (h : readAuthority scheme .special (body ++ rest) = .ok u) :
    (∀ c ∈ body.getLast?, isEdge c = false) ∧
      ∃ authority, u = withPathStart scheme (some authority) .special rest ∧
        ∀ {more}, BehindAuthority .special more → readAuthority scheme .special (body ++ more) =
          .ok (withPathStart scheme (some authority) .special more) := by
  unfold readAuthority at h ⊢
  -- the user, the host and the port are read in this order, and each leaves what stands behind it
  cases huser : readUserinfo .special (body ++ rest) with
  | error fault =>
    rw [huser] at h
    cases h
  | ok user =>
    obtain ⟨username, password, behind, hsuffix, rfl, huserSame⟩ :=
      readUserinfo_append hbody hrest huser
    have hstays : StaysInAuthority .special behind := fun c hc => hbody c (hsuffix.subset hc)
    simp only [huser, takeHost_append_behind false hstays hrest, Kind.isSpecial, Bool.true_and,
      decide_eq_true_eq, if_true] at h
    split at h
    · cases h
    · rename_i hhostText
      have hroom : behind ≠ [] := by
        rintro rfl
        exact hhostText rfl
      cases hhost : readHost (takeHost .special false behind).1 with
      | error fault =>
        rw [hhost] at h
        cases h
      | ok host =>
        simp only [hhost, hhostText, decide_false, Bool.false_and, Bool.false_eq_true,
          if_false] at h
        cases hport : readPort scheme ((takeHost .special false behind).2 ++ rest) with
        | error fault =>
          rw [hport] at h
          cases h
        | ok port =>
          obtain ⟨hdigits, hend, hportSame⟩ := readPort_append hstays hrest hport
          simp only [hport] at h
          cases h
          have hlast := not_isEdge_of_readHost hhost hdigits
          obtain ⟨front, rfl⟩ := hsuffix
          rw [← List.getLast?_append_of_ne_nil front hroom] at hlast
          refine ⟨hlast, _, by rw [hend], fun hmore => ?_⟩
          simp only [huserSame hroom hmore, takeHost_append_behind false hstays hmore,
            Kind.isSpecial, Bool.true_and, if_true, hhostText, hhost,
            hportSame hmore, decide_false, Bool.false_and, Bool.false_eq_true, if_false]

/-! ## Before reading -/

/-- The characters of a text that count if something stands behind them. -/
def readable (cs : List Char) : List Char :=
  (cs.dropWhile isEdge).filter fun c => !isLineBreak c

theorem filter_isLineBreak {cs : List Char} (h : ∀ c ∈ cs, isEdge c = false) :
    cs.filter (fun c => !isLineBreak c) = cs :=
  List.filter_eq_self.mpr fun c hc => isLineBreak_of_not_isEdge (h c hc)

theorem readable_append_cons {c : Char} {rest : List Char} (h : ∀ d ∈ c :: rest, isEdge d = false)
    (front : List Char) : readable (front ++ c :: rest) = readable front ++ c :: rest := by
  rw [readable, dropWhile_append_cons (h c List.mem_cons_self), List.filter_append,
    filter_isLineBreak h, readable]

/-- Nothing is dropped behind a text that ends in neither white space nor a control. -/
theorem clean_append_cons {c : Char} {rest : List Char} (h : ∀ d ∈ c :: rest, isEdge d = false)
    (front : List Char) : clean (front ++ c :: rest) = readable front ++ c :: rest := by
  have hstrip := stripBehind_append (fun d hd => h d (List.mem_cons_of_mem c hd)) []
  simp only [List.append_nil, List.reverse_nil, List.dropWhile_nil] at hstrip
  rw [clean, dropWhile_append_cons (h c List.mem_cons_self),
    stripBehind_append_cons (h c List.mem_cons_self), hstrip, List.filter_append,
    filter_isLineBreak h, readable]

theorem readable_eq_append (cs : List Char) :
    ∃ trail, readable cs = clean cs ++ trail ∧ ∀ c ∈ trail, isEdge c = true := by
  have hcut := congrArg List.reverse
    (List.takeWhile_append_dropWhile (p := isEdge) (l := (cs.dropWhile isEdge).reverse))
  rw [List.reverse_append, List.reverse_reverse] at hcut
  refine ⟨((cs.dropWhile isEdge).reverse.takeWhile isEdge).reverse.filter fun c => !isLineBreak c,
    ?_, ?_⟩
  · rw [readable, clean, ← List.filter_append, hcut]
  · intro c hc
    exact List.mem_takeWhile_imp (List.mem_reverse.mp (List.mem_filter.mp hc).1)

/-! ## Schemes -/

/-- A scheme is the same whatever stands behind its colon. -/
theorem readScheme?_append {cs : List Char} (h : readScheme? cs = some (scheme, rest)) :
    ∃ front, cs = front ++ ':' :: rest ∧
      ∀ more, readScheme? (front ++ ':' :: more) = some (scheme, more) := by
  unfold readScheme? at h
  split at h
  · rename_i c hhead
    split at h
    · rename_i hletter
      split at h
      · rename_i behind hdrop
        cases h
        have hcs := List.takeWhile_append_dropWhile (p := inScheme) (l := cs)
        rw [hdrop] at hcs
        refine ⟨cs.takeWhile inScheme, hcs.symm, fun more => ?_⟩
        have hall : ∀ d ∈ cs.takeWhile inScheme, inScheme d = true := fun d hd =>
          List.mem_takeWhile_imp hd
        have hfirst : (cs.takeWhile inScheme ++ ':' :: more).head? = some c := by
          cases cs with
          | nil => cases hhead
          | cons d cs =>
            cases hhead
            rw [List.takeWhile_cons_of_pos (by rw [inScheme, hletter]; rfl)]
            rfl
        unfold readScheme?
        rw [hfirst, List.dropWhile_append_of_pos hall, List.takeWhile_append_of_pos hall]
        simp [hletter, List.takeWhile_cons_of_neg, List.dropWhile_cons_of_neg,
          show inScheme ':' = false by decide]
      · cases h
    · cases h
  · cases h

/-! ## Whole addresses -/

theorem StaysInPath.append {path : List Char} (hpath : StaysInPath path)
    (hrest : StaysInPath rest) : StaysInPath (path ++ rest) := by
  intro c hc
  exact (List.mem_append.mp hc).elim (hpath c) (hrest c)

theorem StaysInPath.of_append {path : List Char} (h : StaysInPath (path ++ rest)) :
    StaysInPath path :=
  fun c hc => h c (List.mem_append_left rest hc)

/-- A path ends where a query or a fragment begins. -/
theorem staysInPath_of_readTail {cs : List Char}
    (hquery : (readTail kind (cs.dropWhile fun c => !endsPath c)).1 = none)
    (hfragment : (readTail kind (cs.dropWhile fun c => !endsPath c)).2 = none) :
    StaysInPath cs := by
  have hhead := List.head?_dropWhile_not (fun c => !endsPath c) cs
  cases hdrop : cs.dropWhile fun c => !endsPath c with
  | nil =>
    intro c hc
    simpa using List.dropWhile_eq_nil_iff.mp hdrop c hc
  | cons c rest =>
    rw [hdrop] at hhead hquery hfragment
    have hends : endsPath c = true := by simpa using hhead
    rw [endsPath, Bool.or_eq_true, beq_iff_eq, beq_iff_eq] at hends
    rcases hends with rfl | rfl
    · cases hquery
    · cases hfragment

theorem staysInPath_of_withPathStart {authority : Option Authority} {cs : List Char}
    (hquery : (withPathStart scheme authority .special cs).query = none)
    (hfragment : (withPathStart scheme authority .special cs).fragment = none) :
    StaysInPath cs := by
  unfold withPathStart at hquery hfragment
  split at hquery
  · rename_i c rest
    by_cases hslash : isSlash .special c = true
    · simp only [if_pos hslash] at hquery hfragment
      intro d hd
      rcases List.mem_cons.mp hd with rfl | hd
      · exact endsPath_of_isSlash hslash
      · exact staysInPath_of_readTail hquery hfragment d hd
    · simp only [if_neg hslash, Kind.isSpecial, Bool.not_true, Bool.and_false, Bool.false_eq_true,
        if_false] at hquery hfragment
      exact staysInPath_of_readTail hquery hfragment
  · exact staysInPath_nil

theorem BehindAuthority.append {path : List Char} (hpath : BehindAuthority kind path)
    (hrest : BehindAuthority kind rest) : BehindAuthority kind (path ++ rest) := by
  cases path with
  | nil => exact hrest
  | cons c path => exact hpath

theorem BehindAuthority.append_of_ne_nil {path : List Char} (hpath : BehindAuthority kind path)
    (hsome : path ≠ []) : BehindAuthority kind (path ++ rest) := by
  cases path with
  | nil => exact absurd rfl hsome
  | cons c path => exact hpath

theorem behindAuthority_slash (rest : List Char) : BehindAuthority .special ('/' :: rest) := by
  rintro c ⟨⟩
  rfl

/-- A character that does not stand at the end of a text stands before that end. -/
theorem eq_append_cons_of_not_mem {α : Type} {front behind name rest : List α} {c : α}
    (hc : c ∉ behind) (h : front ++ behind = name ++ c :: rest) :
    ∃ between, front = name ++ c :: between ∧ rest = between ++ behind := by
  rcases List.append_eq_append_iff.mp h with ⟨more, -, hbehind⟩ | ⟨more, rfl, hcons⟩
  · refine absurd ?_ hc
    rw [hbehind]
    exact List.mem_append_right more List.mem_cons_self
  · cases more with
    | nil =>
      refine absurd ?_ hc
      rw [List.nil_append] at hcons
      rw [← hcons]
      exact List.mem_cons_self
    | cons d between =>
      obtain ⟨rfl, rfl⟩ := List.cons.inj hcons
      exact ⟨between, rfl, rfl⟩

/-- What the texts that begin like `front` are read as, given what they go on with. -/
structure Continues (front scheme : List Char) (authority : Authority) (path : List Char) :
    Prop where
  behind : BehindAuthority .special path
  read : ∀ {other : String} {more : List Char}, clean other.toList = front ++ more →
    BehindAuthority .special (path ++ more) →
      parse other = .ok (withPathStart scheme (some authority) .special (path ++ more))
  /-- What goes on with the authority itself does not end it in a space or a control. -/
  last : path = [] → ∀ {other : String} {trail more : List Char},
    clean other.toList = front ++ (trail ++ more) → StaysInAuthority .special trail →
      trail ≠ [] → BehindAuthority .special more → ∀ {e : CodeFlow.Url}, parse other = .ok e →
        ∀ c ∈ trail.getLast?, isEdge c = false

/-- Up to slashes at its end, a text is read like the texts that begin with it. -/
theorem readAuthority_of_parse {text : String} {front slashes : List Char}
    (hslashes : ∀ c ∈ slashes, c = '/') (hclean : clean text.toList = front ++ slashes)
    (h : parse text = .ok u) (hspecial : kindOf u.scheme = .special) :
    ∃ behind, ∀ {other : String} {more : List Char}, clean other.toList = front ++ more →
      parse other = readAuthority u.scheme .special (behind ++ more) := by
  unfold parse at h
  split at h
  · rename_i scheme rest hscheme
    obtain ⟨name, hname, hsame⟩ := readScheme?_append hscheme
    -- the colon stands before the slashes
    have hcolon : ':' ∉ slashes := fun hmem => absurd (hslashes ':' hmem) (by decide)
    obtain ⟨behind, rfl, rfl⟩ := eq_append_cons_of_not_mem hcolon (hclean.symm.trans hname)
    unfold readBehindScheme at h
    split at h
    · rw [(isSegmented_of_readFile h).1] at hspecial
      exact absurd hspecial (by decide)
    · rename_i hkind
      -- behind the slashes in front something is left, or there would be no host
      have hroom : behind.dropWhile (isSlash .special) ≠ [] := by
        intro hnone
        have hempty : slashes.dropWhile (isSlash .special) = [] :=
          List.dropWhile_eq_nil_iff.mpr fun c hc => by rw [hslashes c hc]; rfl
        rw [List.dropWhile_append, hnone, hempty] at h
        cases h
      refine ⟨behind.dropWhile (isSlash .special), fun {other more} hother => ?_⟩
      rw [List.append_assoc, List.cons_append] at hother
      rw [parse, hother, hsame, (isSegmented_of_readAuthority h).1]
      dsimp only
      rw [readBehindScheme, hkind]
      dsimp only
      rw [List.dropWhile_append, if_neg (by simpa using hroom)]
    · rename_i hkind
      rw [scheme_of_readOther h, hkind] at hspecial
      cases hspecial
  · cases h

/-- What a text leads to whose end consists of slashes is told by what stands before its path. -/
theorem parse_append {text : String} {front slashes : List Char}
    (hslashes : ∀ c ∈ slashes, c = '/') (hclean : clean text.toList = front ++ slashes)
    (h : parse text = .ok u) (hspecial : kindOf u.scheme = .special) :
    ∃ authority path, Continues front u.scheme authority path ∧
      u = withPathStart u.scheme (some authority) .special (path ++ slashes) := by
  obtain ⟨behind, hsame⟩ := readAuthority_of_parse hslashes hclean h hspecial
  have hbody : StaysInAuthority .special (behind.takeWhile fun c => !endsAuthority .special c) :=
    fun c hc => by simpa using List.mem_takeWhile_imp hc
  have hpath : BehindAuthority .special
      (behind.dropWhile fun c => !endsAuthority .special c) := by
    have hhead := List.head?_dropWhile_not (fun c => !endsAuthority .special c) behind
    intro c hc
    rw [hc] at hhead
    simpa using hhead
  rw [← List.takeWhile_append_dropWhile (p := fun c => !endsAuthority .special c) (l := behind)]
    at hsame
  generalize behind.takeWhile (fun c => !endsAuthority .special c) = body at hbody hsame
  generalize behind.dropWhile (fun c => !endsAuthority .special c) = path at hpath hsame
  simp only [List.append_assoc] at hsame
  have hbehind : BehindAuthority .special slashes := by
    cases slashes with
    | nil => exact fun c hc => nomatch hc
    | cons c slashes =>
      obtain rfl := hslashes c List.mem_cons_self
      exact behindAuthority_slash slashes
  obtain ⟨-, authority, hu, hauthority⟩ :=
    readAuthority_append hbody (hpath.append hbehind) ((hsame hclean).symm.trans h)
  refine ⟨authority, path, ⟨hpath, fun hother hmore => ?_, ?_⟩, hu⟩
  · rw [hsame hother, hauthority hmore]
  · rintro rfl other trail more hother htrail hsome hmore e he
    have hwhole : StaysInAuthority .special (body ++ trail) := by
      intro c hc
      exact (List.mem_append.mp hc).elim (hbody c) (htrail c)
    rw [hsame hother, List.nil_append, ← List.append_assoc] at he
    have hlast := (readAuthority_append hwhole hmore he).1
    rwa [List.getLast?_append_of_ne_nil _ hsome] at hlast

/-! ## Paths -/

theorem isSlash_of_endsAuthority {c : Char} (hends : endsAuthority .special c = true)
    (hpath : endsPath c = false) : isSlash .special c = true := by
  rwa [endsAuthority, hpath, Bool.or_false] at hends

section

variable {authority : Option Authority} {path : List Char}

theorem withPathStart_of_staysInPath {cs : List Char} (hstays : StaysInPath cs)
    (hcs : BehindAuthority .special cs) : withPathStart scheme authority .special cs =
      { scheme, authority, query := none, fragment := none
        path := .segments (resolve [] (splitSegments .special cs.tail)) } := by
  cases cs with
  | nil => rfl
  | cons c cs =>
    have hslash := isSlash_of_endsAuthority (hcs c rfl) (hstays c List.mem_cons_self)
    have hall : ∀ d ∈ cs, (!endsPath d) = true := fun d hd => by
      rw [hstays d (List.mem_cons_of_mem c hd)]
      rfl
    have hdrop := List.dropWhile_eq_nil_iff.mpr hall
    have htake := List.takeWhile_eq_self_iff.mpr hall
    simp only [withPathStart, if_pos hslash, withPath, hdrop, htake, segmentsFrom, reduceCtorEq,
      if_false, List.tail_cons]
    rfl

/-- Slashes behind a path add empty segments. -/
theorem withPathStart_slashes (scheme : List Char) (authority : Option Authority)
    (hstays : StaysInPath path) (hpath : BehindAuthority .special path) (count : Nat) :
    ∃ n, withPathStart scheme authority .special
      (path ++ List.replicate count '/') =
        { scheme, authority, query := none, fragment := none
          path := .segments (entered path ++ List.replicate n []) } := by
  have hall : StaysInPath (List.replicate count '/') := by
    intro c hc
    rw [List.eq_of_mem_replicate hc]
    rfl
  have hslashes : BehindAuthority .special (List.replicate count '/') := by
    cases count with
    | zero => exact fun c hc => nomatch hc
    | succ count => exact behindAuthority_slash _
  obtain ⟨n, hn⟩ := resolve_slashes path count
  refine ⟨n, ?_⟩
  rw [withPathStart_of_staysInPath (hstays.append hall) (hpath.append hslashes), hn]

/-- What stands behind a slash behind a path leads on from there. -/
theorem withPathStart_behind (hstays : StaysInPath path) (hpath : BehindAuthority .special path)
    {more : List Char} (hmore : StaysInPath more) :
    withPathStart scheme authority .special (path ++ '/' :: more) =
      { scheme, authority, query := none, fragment := none
        path := .segments (resolve (entered path) (splitSegments .special more)) } := by
  have hall : StaysInPath ('/' :: more) := List.forall_mem_cons.mpr ⟨rfl, hmore⟩
  rw [withPathStart_of_staysInPath (hstays.append hall)
    (hpath.append (behindAuthority_slash more)), resolve_behind]

end

end CodeFlow.Url
