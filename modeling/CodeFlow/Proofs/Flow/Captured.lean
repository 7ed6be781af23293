import CodeFlow.Proofs.Flow.Redeeming
import CodeFlow.Proofs.Flow.Redirecting

/-!
# Cookies as they are captured and looked up

The cookies of an answer are those that its headers set, one by one: a header that sets none may
stand anywhere, and no header depends on another one (`capture_of_amid`). The three look-ups agree
on the order in which the cookies were captured: each finds the first of its kind, and a kind that
is wider is never found later (`captured_in_order`).
-/

namespace CodeFlow.Cookie

open CodeFlow.Http

/-! ## Headers that set nothing -/

/-- Why a header sets no cookie. -/
inductive SetsNothing (h : Header) : Prop where
  | otherName : h.isNamed "set-cookie" = false → SetsNothing h
  | unprintable {b : UInt8} : b ∈ h.value → ¬((32 ≤ b ∧ b < 127) ∨ b = 9) → SetsNothing h
  | unparsed {text : String} : h.Reads text → parse? text = none → SetsNothing h

variable {h h' : Header} {headers others : List Header}

theorem SetsNothing.not_sets (hnothing : SetsNothing h) (c : Cookie) : ¬h.Sets c := by
  rintro ⟨hnamed, text, hreads, hparse⟩
  cases hnothing with
  | otherName hother =>
    rw [hother] at hnamed
    cases hnamed
  | unprintable hb hodd => exact hodd (hreads.printable _ hb)
  | @unparsed text' hreads' hnone =>
    obtain rfl : text' = text := Option.some.inj
      ((Header.text?_eq_some_iff.mpr hreads').symm.trans (Header.text?_eq_some_iff.mpr hreads))
    rw [hnone] at hparse
    cases hparse

/-- There is no other reason. -/
theorem ofHeader?_eq_none_iff : ofHeader? h = none ↔ SetsNothing h := by
  constructor
  · intro hnone
    cases hnamed : h.isNamed "set-cookie" with
    | false => exact .otherName hnamed
    | true =>
      rw [ofHeader?, hnamed, if_pos rfl, Option.bind_eq_none_iff] at hnone
      cases htext : h.text? with
      | some text => exact .unparsed (Header.text?_eq_some_iff.mp htext) (hnone text htext)
      | none =>
        -- a value is read as a text unless some byte of it is not printable
        by_contra hall
        have hprintable : ∀ b ∈ h.value, (32 ≤ b ∧ b < 127) ∨ b = 9 := fun b hb =>
          not_not.mp fun hodd => hall (.unprintable hb hodd)
        rw [Header.text?_eq_some_iff.mpr ⟨hprintable, String.toList_ofList⟩] at htext
        cases htext
  · intro hnothing
    exact (eq_none_iff_of_eq_some_iff fun _ => ofHeader?_eq_some_iff).mpr
      fun ⟨c, hc⟩ => hnothing.not_sets c hc

/-- How the name of a header is spelled makes no difference. -/
theorem ofHeader?_congr (hname : h'.name.toLower = h.name.toLower) (hvalue : h'.value = h.value) :
    ofHeader? h' = ofHeader? h := by
  have hnamed : h'.isNamed "set-cookie" = h.isNamed "set-cookie" := by
    rw [Header.isNamed, Header.isNamed, hname]
  have htext : h'.text? = h.text? := by
    rw [Header.text?, Header.text?, hvalue]
  rw [ofHeader?, ofHeader?, hnamed, htext]

/-- The same headers once more, with their names in other letters and with any number of headers
in between that set nothing. -/
inductive Amid : List Header → List Header → Prop where
  | nil : Amid [] []
  | kept {h h' : Header} {headers others : List Header} :
      h'.name.toLower = h.name.toLower → h'.value = h.value → Amid headers others →
      Amid (h :: headers) (h' :: others)
  | noise {h : Header} {headers others : List Header} :
      SetsNothing h → Amid headers others → Amid headers (h :: others)

theorem capture_of_amid (hamid : Amid headers others) : capture others = capture headers := by
  rw [capture_eq_filterMap, capture_eq_filterMap]
  -- a header that is kept sets the same cookie as before, one in between sets none
  induction hamid with
  | nil => rfl
  | kept hname hvalue _ ih =>
    rw [List.filterMap_cons, List.filterMap_cons, ofHeader?_congr hname hvalue, ih]
  | noise hnothing _ ih =>
    rw [List.filterMap_cons_none (ofHeader?_eq_none_iff.mpr hnothing), ih]

theorem capture_append (headers further : List Header) :
    capture (headers ++ further) = capture headers ++ capture further := by
  simp only [capture_eq_filterMap, List.filterMap_append]

/-! ## Look-ups -/

variable {cookies : List Cookie} {name front : String} {i : Nat} {c : Cookie}

theorem findPrefix?_eq_some_iff :
    findPrefix? cookies front = some c ↔ ∃ i, FirstAt (Begins front) cookies i c := by
  rw [findPrefix?, find?_eq_some_iff_firstAt]
  simp only [List.isPrefixOf_iff_prefix]
  rfl

/-- Where there is a cookie of a name, there is one at its place or before that begins as the name
does. -/
theorem exists_begins_le (hnamed : FirstNamed cookies name i c)
    (hfront : front.toList <+: name.toList) :
    ∃ j ≤ i, ∃ d, FirstAt (Begins front) cookies j d := by
  have hbegins : Begins front c := by
    rw [Begins, hnamed.named]
    exact hfront
  have hsome : (findPrefix? cookies front).isSome := by
    rw [findPrefix?, List.find?_isSome]
    exact ⟨c, List.mem_of_getElem? hnamed.found, List.isPrefixOf_iff_prefix.mpr hbegins⟩
  obtain ⟨d, hd⟩ := Option.isSome_iff_exists.mp hsome
  obtain ⟨j, hfirst⟩ := findPrefix?_eq_some_iff.mp hd
  -- the first that begins so cannot stand behind this one, which begins so as well
  have hat : FirstAt (·.name = name) cookies i c :=
    ⟨hnamed.found, hnamed.named, hnamed.first⟩
  exact ⟨j, hfirst.le hat fun _ => hbegins, d, hfirst⟩

/-- What the three look-ups find in a list. -/
structure LookedUp (cookies : List Cookie) : Prop where
  /-- The place of a name is that of the first cookie with exactly this name. -/
  position : ∀ name i c, position? cookies name = some (i, c) ↔ FirstNamed cookies name i c
  /-- What is found by name is the cookie in this place. -/
  named : ∀ name, find? cookies name = (position? cookies name).map Prod.snd
  /-- What is found by the beginning of its name is the first cookie that begins so. -/
  begins : ∀ front c, findPrefix? cookies front = some c ↔ ∃ i, FirstAt (Begins front) cookies i c
  /-- It is not behind a cookie that is found by its whole name. -/
  order : ∀ front name, front.toList <+: name.toList → ∀ i c, position? cookies name = some (i, c) →
    ∃ j ≤ i, ∃ d, FirstAt (Begins front) cookies j d ∧ findPrefix? cookies front = some d

theorem lookedUp (cookies : List Cookie) : LookedUp cookies where
  position := fun _ _ _ => position?_eq_some_iff
  named := fun name => (map_snd_position? cookies name).symm
  begins := fun _ _ => findPrefix?_eq_some_iff
  order := by
    intro front name hfront i c hposition
    obtain ⟨j, hle, d, hfirst⟩ := exists_begins_le (position?_eq_some_iff.mp hposition) hfront
    exact ⟨j, hle, d, hfirst, findPrefix?_eq_some_iff.mpr ⟨j, hfirst⟩⟩

/-- What is captured from headers, and how cookies are looked up. -/
structure CapturedInOrder (headers : List Header) : Prop where
  /-- Header by header, the cookie is captured that is set there, and nothing else. -/
  captured : capture headers = headers.filterMap ofHeader?
  /-- A header sets a cookie if it has the right name and a text that can be read as one. -/
  set : ∀ h c, ofHeader? h = some c ↔ h.Sets c
  /-- Headers that set nothing make no difference, and neither do the letters of names. -/
  undisturbed : ∀ others, Amid headers others → capture others = capture headers
  /-- What further headers set comes behind. -/
  joined : ∀ further, capture (headers ++ further) = capture headers ++ capture further
  /-- The look-ups agree on every list of cookies, where they come from makes no difference. -/
  lookedUp : ∀ cookies, LookedUp cookies

/-- Cookies are captured in the order of the headers that set them, and looked up in that order. -/
theorem captured_in_order (headers : List Header) : CapturedInOrder headers where
  captured := capture_eq_filterMap headers
  set := fun _ _ => ofHeader?_eq_some_iff
  undisturbed := fun _ hamid => capture_of_amid hamid
  joined := capture_append headers
  lookedUp := lookedUp

end CodeFlow.Cookie
