import CodeFlow.Proofs.Flow.Rejections

/-!
# Redirects

An answer is taken for a redirect by its status, its first `Location` header and the address that
this leads to, in this order. `RedirectsTo` says when all of them are in order, and
`RedirectFault` names the first that is not. The cookies of an answer are said by its headers: what
counts is the first header that sets one of the kind that is looked for.
-/

namespace CodeFlow

open CodeFlow.Http

/-! ## The first of a list -/

section

variable {α : Type} {xs before after : List α} {x : α}

/-- An element is the first of a list that has a property. -/
def FirstOf (p : α → Prop) (xs : List α) (x : α) : Prop :=
  ∃ before after, xs = before ++ x :: after ∧ p x ∧ ∀ y ∈ before, ¬ p y

theorem FirstOf.holds {p : α → Prop} (h : FirstOf p xs x) : p x := by
  obtain ⟨-, -, -, hx, -⟩ := h
  exact hx

theorem find?_eq_some_iff_firstOf {p : α → Bool} :
    xs.find? p = some x ↔ FirstOf (p · = true) xs x := by
  rw [List.find?_eq_some_iff_append]
  constructor
  · rintro ⟨hx, before, after, hxs, hbefore⟩
    exact ⟨before, after, hxs, hx, fun y hy => by simpa using hbefore y hy⟩
  · rintro ⟨before, after, hxs, hx, hbefore⟩
    exact ⟨hx, before, after, hxs, fun y hy => by simpa using hbefore y hy⟩

/-- An element behind another one of its kind is never the first. -/
theorem find?_of_behind {p : α → Bool} (h : p x = true → ∃ y ∈ before, p y = true) :
    (before ++ x :: after).find? p = (before ++ after).find? p := by
  rw [List.find?_append, List.find?_append, List.find?_cons]
  cases hx : p x with
  | false => rfl
  | true =>
    obtain ⟨first, hfirst⟩ := Option.isSome_iff_exists.mp (List.find?_isSome.mpr (h hx))
    rw [hfirst, Option.some_or, Option.some_or]

/-- An element is the first of a list that has a property, and stands behind so many others. -/
structure FirstAt (p : α → Prop) (xs : List α) (i : Nat) (x : α) : Prop where
  found : xs[i]? = some x
  holds : p x
  first : ∀ j < i, ∀ y, xs[j]? = some y → ¬p y

theorem find?_eq_some_iff_firstAt {p : α → Bool} :
    xs.find? p = some x ↔ ∃ i, FirstAt (p · = true) xs i x := by
  rw [List.find?_eq_some_iff_getElem]
  constructor
  · rintro ⟨hx, i, hi, rfl, hfirst⟩
    refine ⟨i, List.getElem?_eq_getElem hi, hx, fun j hj y hy => ?_⟩
    obtain ⟨-, rfl⟩ := List.getElem?_eq_some_iff.mp hy
    simpa using hfirst j hj
  · rintro ⟨i, hfound, hx, hfirst⟩
    obtain ⟨hi, rfl⟩ := List.getElem?_eq_some_iff.mp hfound
    refine ⟨hx, i, hi, rfl, fun j hj => ?_⟩
    simpa using hfirst j hj _ (List.getElem?_eq_getElem (Nat.lt_trans hj hi))

/-- The first element of a wider kind is not behind the first of a narrower one. -/
theorem FirstAt.le {p q : α → Prop} {i j : Nat} {y : α} (hp : FirstAt p xs i x)
    (hq : FirstAt q xs j y) (hwider : q y → p y) : i ≤ j := by
  apply Nat.le_of_not_lt
  intro hlt
  exact hp.first j hlt y hq.found (hwider hq.holds)

end

/-- There is nothing where nothing fits. -/
theorem eq_none_iff_of_eq_some_iff {α : Type} {found : Option α} {fits : α → Prop}
    (h : ∀ x, found = some x ↔ fits x) : found = none ↔ ¬∃ x, fits x := by
  rw [Option.eq_none_iff_forall_ne_some, not_exists]
  exact forall_congr' fun x => not_congr (h x)

/-! ## Headers -/

namespace Http

variable {h : Header} {a : Answer} {name text : String}

/-- A header is read as a text: it holds printable characters and tabs, and nothing else. -/
structure Header.Reads (h : Header) (text : String) : Prop where
  printable : ∀ b ∈ h.value, (32 ≤ b ∧ b < 127) ∨ b = 9
  chars : text.toList = h.value.map fun b => Char.ofNat b.toNat

theorem Header.text?_eq_some_iff : h.text? = some text ↔ h.Reads text := by
  have hprintable : h.value.all inTextValue = true ↔ ∀ b ∈ h.value, (32 ≤ b ∧ b < 127) ∨ b = 9 := by
    simp [List.all_eq_true, inTextValue]
  unfold Header.text?
  constructor
  · intro htext
    split at htext
    · rename_i hall
      cases htext
      exact ⟨hprintable.mp hall, String.toList_ofList⟩
    · cases htext
  · rintro ⟨hall, hchars⟩
    rw [if_pos (hprintable.mpr hall), ← hchars, String.ofList_toList]

/-- The first header with a name is read as a text. -/
def Answer.Tells (a : Answer) (name text : String) : Prop :=
  ∃ h, FirstOf (fun h => h.isNamed name = true) a.headers h ∧ h.Reads text

theorem Answer.header?_eq_some_iff : a.header? name = some text ↔ a.Tells name text := by
  unfold Answer.header? Answer.Tells
  simp only [Option.bind_eq_some_iff, find?_eq_some_iff_firstOf, Header.text?_eq_some_iff]

/-- A header sets a cookie. -/
def Header.Sets (h : Header) (c : Cookie) : Prop :=
  h.isNamed "set-cookie" = true ∧ ∃ text, h.Reads text ∧ Cookie.parse? text = some c

/-- The first header that sets a cookie of some kind sets this one. -/
def Answer.SetsFirst (a : Answer) (kind : Cookie → Prop) (c : Cookie) : Prop :=
  ∃ h, FirstOf (fun h => ∃ d, h.Sets d ∧ kind d) a.headers h ∧ h.Sets c ∧ kind c

end Http

namespace Cookie

variable {h : Header} {headers : List Header} {a : Answer} {c : Cookie} {front : String}

/-- The cookie that a header sets. -/
def ofHeader? (h : Header) : Option Cookie :=
  if h.isNamed "set-cookie" then h.text?.bind parse? else none

theorem ofHeader?_eq_some_iff : ofHeader? h = some c ↔ h.Sets c := by
  unfold ofHeader? Header.Sets
  simp only [← Header.text?_eq_some_iff]
  cases h.isNamed "set-cookie" <;> simp [Option.bind_eq_some_iff]

theorem capture_eq_filterMap (headers : List Header) :
    capture headers = headers.filterMap ofHeader? := by
  rw [capture, List.filterMap_filterMap, List.filterMap_filter]
  exact congrArg (List.filterMap · headers) (funext fun h => by unfold ofHeader?; rfl)

/-- Looking among the cookies of an answer is looking among its headers. -/
theorem find?_capture_eq_some_iff {kind : Cookie → Bool} :
    (capture a.headers).find? kind = some c ↔ a.SetsFirst (kind · = true) c := by
  have hkind (h : Header) :
      (ofHeader? h).any kind = true ↔ ∃ d, h.Sets d ∧ kind d = true := by
    simp only [Option.any_eq_true, ← ofHeader?_eq_some_iff]
  rw [capture_eq_filterMap, List.find?_filterMap, Option.bind_eq_some_iff]
  simp only [find?_eq_some_iff_firstOf, hkind, ofHeader?_eq_some_iff]
  constructor
  · rintro ⟨h, hfirst, hsets⟩
    obtain ⟨d, hd, hkind⟩ := hfirst.holds
    -- a header sets no more than one cookie
    have hcd : d = c := Option.some.inj
      ((ofHeader?_eq_some_iff.mpr hd).symm.trans (ofHeader?_eq_some_iff.mpr hsets))
    exact ⟨h, hfirst, hsets, hcd ▸ hkind⟩
  · rintro ⟨h, hfirst, hsets, -⟩
    exact ⟨h, hfirst, hsets⟩

theorem head?_capture_eq_some_iff :
    (capture a.headers).head? = some c ↔ a.SetsFirst (fun _ => True) c := by
  have hfind : (capture a.headers).head? = (capture a.headers).find? fun _ => true := by
    cases capture a.headers <;> rfl
  rw [hfind, find?_capture_eq_some_iff]
  simp only

/-- A cookie whose name begins with a text. -/
def Begins (front : String) (c : Cookie) : Prop :=
  front.toList <+: c.name.toList

theorem findPrefix?_capture_eq_some_iff :
    findPrefix? (capture a.headers) front = some c ↔ a.SetsFirst (Begins front) c := by
  rw [findPrefix?, find?_capture_eq_some_iff]
  simp only [List.isPrefixOf_iff_prefix]
  rfl

end Cookie

/-! ## Redirects in order -/

/-- The first parameter of a name has a value, which is not empty. -/
def Url.Bears (u : Url) (name value : String) : Prop :=
  u.pairs.lookup name = some value ∧ value ≠ ""

/-- An answer redirects the request for an address to another one, without a report of an error. -/
structure RedirectsTo (asked : Url) (a : Answer) (location : Url) : Prop where
  status : a.isRedirect = true
  target : ∃ text, a.Tells "location" text ∧ (bareUrl asked).join text = .ok location
  errorless : ¬∃ error, location.Bears "error" error

/-- The first thing that is not in order with a redirect. -/
inductive RedirectFault (asked : Url) (a : Answer) : ProtocolError → Prop where
  | unexpected : a.isRedirect = false → RedirectFault asked a (.unexpectedStatus a.status a.text)
  | nowhere :
      a.isRedirect = true → (¬∃ text, a.Tells "location" text) →
      RedirectFault asked a .missingLocation
  | astray {text : String} {fault : Url.Fault} :
      a.isRedirect = true → a.Tells "location" text → (bareUrl asked).join text = .error fault →
      RedirectFault asked a (.invalidRedirect fault)
  | reported {text error : String} {location : Url} :
      a.isRedirect = true → a.Tells "location" text → (bareUrl asked).join text = .ok location →
      location.Bears "error" error →
      RedirectFault asked a
        (.providerRejected error ((location.pairs.lookup "error_description").getD ""))

section

variable {asked location : Url} {a : Answer} {e : ProtocolError} {redirect : Redirect}

theorem parameter?_eq_none_iff {name : String} :
    location.parameter? name = none ↔ ¬∃ value, location.Bears name value :=
  eq_none_iff_of_eq_some_iff fun _ => parameter?_eq_some_iff

theorem providerError?_eq_none_iff :
    providerError? location = none ↔ ¬∃ error, location.Bears "error" error := by
  rw [providerError?, Option.map_eq_none_iff, parameter?_eq_none_iff]

theorem readRedirect_eq_ok_iff_redirectsTo :
    readRedirect asked a = .ok redirect ↔
      RedirectsTo asked a redirect.location ∧ redirect.cookies = Cookie.capture a.headers := by
  have htarget : redirectTarget? asked a = some redirect.location ↔
      ∃ text, a.Tells "location" text ∧ (bareUrl asked).join text = .ok redirect.location := by
    simp only [redirectTarget?, Option.bind_eq_some_iff, Answer.header?_eq_some_iff]
    refine exists_congr fun text => and_congr_right fun _ => ?_
    cases (bareUrl asked).join text <;> simp [Except.toOption]
  rw [readRedirect_eq_ok_iff, providerError?_eq_none_iff, htarget]
  constructor
  · rintro ⟨hstatus, htarget, herrorless, hcookies⟩
    exact ⟨⟨hstatus, htarget, herrorless⟩, hcookies⟩
  · rintro ⟨⟨hstatus, htarget, herrorless⟩, hcookies⟩
    exact ⟨hstatus, htarget, herrorless, hcookies⟩

theorem readRedirect_of_redirectFault (h : RedirectFault asked a e) :
    readRedirect asked a = .error e := by
  unfold readRedirect
  cases h with
  | unexpected hstatus => simp [hstatus]
  | nowhere hstatus hnone =>
    have hheader : a.header? "location" = none :=
      (eq_none_iff_of_eq_some_iff fun _ => Answer.header?_eq_some_iff).mpr hnone
    simp [hstatus, hheader]
  | astray hstatus htext hjoin =>
    simp [hstatus, Answer.header?_eq_some_iff.mpr htext, hjoin]
  | reported hstatus htext hjoin herror =>
    have hreport := providerError?_eq_some_iff.mpr ⟨_, herror.1, herror.2, rfl⟩
    simp [hstatus, Answer.header?_eq_some_iff.mpr htext, hjoin, hreport]

/-- Every answer is a redirect in order, or something is not in order with it. -/
theorem redirectsTo_or_redirectFault (asked : Url) (a : Answer) :
    (∃ location, RedirectsTo asked a location) ∨ ∃ e, RedirectFault asked a e := by
  cases hstatus : a.isRedirect with
  | false => exact .inr ⟨_, .unexpected hstatus⟩
  | true =>
    by_cases htext : ∃ text, a.Tells "location" text
    · obtain ⟨text, htext⟩ := htext
      cases hjoin : (bareUrl asked).join text with
      | error fault => exact .inr ⟨_, .astray hstatus htext hjoin⟩
      | ok location =>
        by_cases herror : ∃ error, location.Bears "error" error
        · obtain ⟨error, herror⟩ := herror
          exact .inr ⟨_, .reported hstatus htext hjoin herror⟩
        · exact .inl ⟨location, hstatus, ⟨text, htext, hjoin⟩, herror⟩
    · exact .inr ⟨_, .nowhere hstatus htext⟩

theorem readRedirect_eq_error_iff : readRedirect asked a = .error e ↔ RedirectFault asked a e := by
  constructor
  · intro h
    rcases redirectsTo_or_redirectFault asked a with ⟨location, hto⟩ | ⟨e', hfault⟩
    · have hread := readRedirect_eq_ok_iff_redirectsTo.mpr
        (show _ ∧ (⟨location, Cookie.capture a.headers⟩ : Redirect).cookies = _ from ⟨hto, rfl⟩)
      rw [hread] at h
      cases h
    · rw [readRedirect_of_redirectFault hfault] at h
      cases h
      exact hfault
  · exact readRedirect_of_redirectFault

end

end CodeFlow
