import CodeFlow.Proofs.Cookie

/-!
# Cookies as they are read

Which texts name a cookie, and what it is called and worth. The reader cuts at the first semicolon
and at the first equals sign in front of it, and strips white space before and after the second cut.
`Names` says where the two cuts are without stripping anything, and that is all there is to know: the
name and the value are what stands on either side, each stripped once (`parse?_eq_some_iff`). What
follows from it for a text that is changed in places that do not count is in `parsed_exactly`.
-/

namespace CodeFlow.Cookie

open CodeFlow.Text

variable {text : String} {name value : List Char} {c : Cookie}

/-! ## The two sides of an equals sign -/

/-- In front of the first semicolon, these stand on either side of the first equals sign, and there
is more than white space on the left. -/
structure Names (text : String) (name value : List Char) : Prop where
  front : IsFront ';' (name ++ '=' :: value) text.toList
  first : '=' ∉ name
  named : ∃ c ∈ name, isBlank c = false

/-- The name and the value of a cookie are what stands on either side, without the white space
around it. The text itself is kept as it is. -/
structure ReadAs (text : String) (name value : List Char) (c : Cookie) : Prop where
  name : Strips name c.name.toList
  value : Strips value c.value.toList
  raw : c.raw = text

theorem Names.not_allBlank (h : Names text name value) : ¬AllBlank name := by
  intro hblank
  obtain ⟨c, hc, hsign⟩ := h.named
  exact hblank.not_mem hsign hc

theorem Names.parse?_eq (h : Names text name value) :
    parse? text = some ⟨String.ofList (trim name), String.ofList (trim value), text⟩ := by
  have hcut : text.toList.takeWhile (· ≠ ';') = name ++ '=' :: value :=
    takeWhile_ne_eq_iff.mpr h.front
  have hnamed : trim name ≠ [] := trim_eq_nil_iff.not.mpr h.not_allBlank
  rw [parse?, split?_of_equals hcut h.first, if_neg hnamed, Option.map_some]

/-- There is one way to strip either side. -/
theorem readAs_iff : ReadAs text name value c ↔
    c = ⟨String.ofList (trim name), String.ofList (trim value), text⟩ := by
  constructor
  · rintro ⟨hname, hvalue, rfl⟩
    rw [trim_eq_iff.mpr hname, trim_eq_iff.mpr hvalue, String.ofList_toList, String.ofList_toList]
  · rintro rfl
    exact
      { name := by simpa using strips_trim name
        value := by simpa using strips_trim value
        raw := rfl }

/-- Either side can be stripped, whatever it holds. -/
theorem exists_readAs (text : String) (name value : List Char) : ∃ c, ReadAs text name value c :=
  ⟨_, readAs_iff.mpr rfl⟩

/-- No other text names a cookie. -/
theorem exists_names_of_parse? (h : parse? text = some c) : ∃ name value, Names text name value := by
  -- a text is refused for want of an equals sign or of a name, and for nothing else
  have hsplit : split? text.toList ≠ none := by
    intro hnone
    rw [parse?, hnone] at h
    cases h
  have hequals : '=' ∈ text.toList.takeWhile (· ≠ ';') :=
    not_imp_comm.mp split?_of_no_equals hsplit
  obtain ⟨name, value, hcut, hfirst⟩ := List.eq_append_cons_of_mem hequals
  rw [split?_of_equals hcut hfirst, ne_eq, ite_eq_left_iff, Classical.not_imp] at hsplit
  exact ⟨name, value, takeWhile_ne_eq_iff.mp hcut, hfirst,
    exists_not_blank (trim_eq_nil_iff.not.mp hsplit.1)⟩

/-- What is read from a text. There is one pair of sides and one way to strip them, so the right
hand side holds of one cookie at most. -/
theorem parse?_eq_some_iff :
    parse? text = some c ↔ ∃ name value, Names text name value ∧ ReadAs text name value c := by
  constructor
  · intro h
    obtain ⟨name, value, hnames⟩ := exists_names_of_parse? h
    refine ⟨name, value, hnames, ?_⟩
    -- the sides are read in one way only, so what was read is what stands there
    rw [hnames.parse?_eq, Option.some_inj] at h
    exact readAs_iff.mpr h.symm
  · rintro ⟨name, value, hnames, hread⟩
    rw [hnames.parse?_eq, readAs_iff.mp hread]

/-! ## Texts that name the same -/

theorem parse?_pair_eq {other : String} (h : split? other.toList = split? text.toList) :
    (parse? other).map pair = (parse? text).map pair := by
  simp only [parse?, h, Option.map_map, Function.comp_def, pair]

/-- What stands behind a semicolon is passed over. -/
theorem split?_append_semicolon {cs : List Char} (h : ';' ∉ cs) (further : List Char) :
    split? (cs ++ ';' :: further) = split? cs := by
  rw [split?, takeWhile_ne_of_not_mem h, split?, takeWhile_ne_eq_self h]

/-- How a text is read, and how little of it counts. -/
structure ParsedExactly (text : String) : Prop where
  /-- A cookie is read iff there is an equals sign in front of the first semicolon with something on
  its left. -/
  accepted : (parse? text).isSome ↔ ∃ name value, Names text name value
  /-- It is called and worth what stands on the two sides. -/
  read : ∀ name value, Names text name value →
    ∃ c, parse? text = some c ∧ ReadAs text name value c
  /-- A semicolon and whatever stands behind it make no difference. -/
  attributes : ';' ∉ text.toList → ∀ further : String,
    (parse? (text ++ ";" ++ further)).map pair = (parse? text).map pair
  /-- White space around the text makes no difference. -/
  around : ∀ padded : String, Pads text.toList padded.toList →
    (parse? padded).map pair = (parse? text).map pair
  /-- White space around the name or around the value makes no difference. -/
  within : ∀ name value name' value' : String, text = name ++ "=" ++ value → '=' ∉ name.toList →
    Pads name.toList name'.toList → Pads value.toList value'.toList →
    (parse? (name' ++ "=" ++ value')).map pair = (parse? text).map pair
  /-- A cookie that is read has a name. Name and value hold no sign at which they could be cut and
  no white space at an end. -/
  wellFormed : ∀ c, parse? text = some c → IsPair c.name.toList c.value.toList

/-- Every text is read as what stands on the two sides of its first equals sign in front of its
first semicolon. -/
theorem parsed_exactly (text : String) : ParsedExactly text where
  accepted := by
    rw [Option.isSome_iff_exists]
    simp only [parse?_eq_some_iff]
    constructor
    · rintro ⟨c, name, value, hnames, -⟩
      exact ⟨name, value, hnames⟩
    · rintro ⟨name, value, hnames⟩
      obtain ⟨c, hread⟩ := exists_readAs text name value
      exact ⟨c, name, value, hnames, hread⟩
  read := by
    intro name value hnames
    obtain ⟨c, hread⟩ := exists_readAs text name value
    exact ⟨c, parse?_eq_some_iff.mpr ⟨name, value, hnames, hread⟩, hread⟩
  attributes := by
    intro hwhole further
    apply parse?_pair_eq
    simpa using split?_append_semicolon hwhole further.toList
  around := fun padded hpads => parse?_pair_eq (split?_of_pads hpads)
  within := by
    rintro name value name' value' rfl hname hpadsName hpadsValue
    apply parse?_pair_eq
    simpa using split?_of_pads_within hname hpadsName hpadsValue
  wellFormed := fun c hc => isPair_of_parse? hc

example : (parse? "\u3000a b\u00a0= x=y ; Path=/").map pair = some ("a b", "x=y") := by
  decide +kernel

end CodeFlow.Cookie
