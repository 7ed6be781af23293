import CodeFlow.Cookie
import CodeFlow.Proofs.Text.Pieces
import Mathlib.Data.List.TakeWhile

/-!
# Cookies sent back

A cookie that was read has a name and a value that stand for themselves: neither can end its piece
of a line or begin another one. So the line in which cookies are sent is read as the same names and
values in the same order, whatever characters they hold (`line_reads_back`).
-/

namespace CodeFlow.Cookie

open CodeFlow.Text

/-! ## Where a text is cut -/

/-- A piece in front of the first semicolon that has no equals sign names no cookie. -/
theorem split?_of_no_equals {cs : List Char} (h : '=' ∉ cs.takeWhile (· ≠ ';')) :
    split? cs = none := by
  have hpair : '=' ∉ trim (cs.takeWhile (· ≠ ';')) := fun hmem => h ((trim_sublist _).mem hmem)
  simp only [split?, dropWhile_ne_eq_nil hpair]

/-- Name and value are stripped each on its own, so it makes no difference that both are stripped
together before. -/
theorem split?_of_equals {cs before after : List Char}
    (hcs : cs.takeWhile (· ≠ ';') = before ++ '=' :: after) (hbefore : '=' ∉ before) :
    split? cs = if trim before = [] then none else some (trim before, trim after) := by
  have hequals : isBlank '=' = false := by decide
  have hname : '=' ∉ trimStart before := fun hmem => hbefore ((List.dropWhile_sublist _).mem hmem)
  simp only [split?, hcs, trim_append_cons hequals, takeWhile_ne_of_not_mem hname,
    dropWhile_ne_of_not_mem hname, trim_trimStart, trim_trimEnd]

/-- The two sides of the first equals sign. A semicolon on the left leaves no name in front of it,
one on the right ends the value. -/
theorem split?_append_cons {before : List Char} (hbefore : '=' ∉ before) (after : List Char) :
    split? (before ++ '=' :: after) =
      if ';' ∈ before ∨ trim before = [] then none
      else some (trim before, trim (after.takeWhile (· ≠ ';'))) := by
  by_cases hmem : ';' ∈ before
  · obtain ⟨front, rest, rfl, hfront⟩ := List.eq_append_cons_of_mem hmem
    have hnone : '=' ∉ front := fun h => hbefore (List.mem_append_left _ h)
    rw [if_pos (.inl hmem)]
    apply split?_of_no_equals
    rwa [List.append_assoc, List.cons_append, takeWhile_ne_of_not_mem hfront]
  · have hcut : (before ++ '=' :: after).takeWhile (· ≠ ';') =
        before ++ '=' :: after.takeWhile (· ≠ ';') := by
      rw [takeWhile_ne_append hmem, List.takeWhile_cons_of_pos (by decide)]
    rw [split?_of_equals hcut hbefore]
    simp only [hmem, false_or]

/-- White space around a text is passed over. -/
theorem split?_of_pads {cs padded : List Char} (h : Pads cs padded) : split? padded = split? cs := by
  have hfront : Pads (cs.takeWhile (· ≠ ';')) (padded.takeWhile (· ≠ ';')) :=
    h.takeWhile_ne (by decide)
  rw [split?, trim_of_pads hfront, split?]

/-- So is white space around what stands on either side of the first equals sign. -/
theorem split?_of_pads_within {before after name value : List Char} (hbefore : '=' ∉ before)
    (hname : Pads before name) (hvalue : Pads after value) :
    split? (name ++ '=' :: value) = split? (before ++ '=' :: after) := by
  have hequals : '=' ∉ name := (hname.mem_iff (by decide)).not.mpr hbefore
  have hsemicolon : ';' ∈ name ↔ ';' ∈ before := hname.mem_iff (by decide)
  have hend : Pads (after.takeWhile (· ≠ ';')) (value.takeWhile (· ≠ ';')) :=
    hvalue.takeWhile_ne (by decide)
  simp only [split?_append_cons hequals, split?_append_cons hbefore, hsemicolon, trim_of_pads hname,
    trim_of_pads hend]

/-! ## What is read -/

/-- The characters of a name and a value that can be read from a text. -/
structure IsPair (name value : List Char) : Prop where
  named : name ≠ []
  bareName : Bare name
  bareValue : Bare value
  noEquals : '=' ∉ name
  noSemicolonInName : ';' ∉ name
  noSemicolonInValue : ';' ∉ value

theorem isPair_of_split? {cs : List Char} {p : List Char × List Char} (h : split? cs = some p) :
    IsPair p.1 p.2 := by
  -- what is in front of the first semicolon holds none, and neither does any part of it
  have hpiece : ';' ∉ cs.takeWhile (· ≠ ';') := fun hmem => by
    simpa using List.mem_takeWhile_imp hmem
  by_cases hequals : '=' ∈ cs.takeWhile (· ≠ ';')
  · obtain ⟨before, after, hcs, hbefore⟩ := List.eq_append_cons_of_mem hequals
    rw [hcs, List.mem_append, List.mem_cons, not_or, not_or] at hpiece
    rw [split?_of_equals hcs hbefore] at h
    split at h
    · cases h
    · rename_i hnamed
      cases h
      exact
        { named := hnamed
          bareName := bare_trim before
          bareValue := bare_trim after
          noEquals := fun hmem => hbefore ((trim_sublist before).mem hmem)
          noSemicolonInName := fun hmem => hpiece.1 ((trim_sublist before).mem hmem)
          noSemicolonInValue := fun hmem => hpiece.2.2 ((trim_sublist after).mem hmem) }
  · rw [split?_of_no_equals hequals] at h
    cases h

/-- A name and a value are read from the text in which they are written. -/
theorem IsPair.split?_eq {name value : List Char} (h : IsPair name value) :
    split? (name ++ '=' :: value) = some (name, value) := by
  rw [split?_append_cons h.noEquals, trim_of_bare h.bareName,
    takeWhile_ne_eq_self h.noSemicolonInValue, trim_of_bare h.bareValue,
    if_neg (not_or.mpr ⟨h.noSemicolonInName, h.named⟩)]

theorem isPair_of_parse? {text : String} {c : Cookie} (h : parse? text = some c) :
    IsPair c.name.toList c.value.toList := by
  obtain ⟨p, hp, rfl⟩ := Option.map_eq_some_iff.mp h
  simpa using isPair_of_split? hp

/-! ## Lines -/

/-- The name and the value. -/
def pair (c : Cookie) : String × String :=
  (c.name, c.value)

/-- The pieces of a line, between its semicolons. -/
def pieces (line : String) : List String :=
  (splitOn ';' line.toList).map String.ofList

/-- The cookies in a line. Pieces that name none are passed over. -/
def readLine (line : String) : List Cookie :=
  (pieces line).filterMap parse?

/-- What is read from a text that holds a name and a value, with a space in front or without. -/
theorem IsPair.parse?_pair {c : Cookie} (h : IsPair c.name.toList c.value.toList) :
    (parse? c.write).map pair = some c.pair ∧
      (parse? (String.ofList (' ' :: c.write.toList))).map pair = some c.pair := by
  have hwrite : c.write.toList = c.name.toList ++ '=' :: c.value.toList := by
    simp [write]
  have hsplit : split? c.write.toList = some (c.name.toList, c.value.toList) := by
    rw [hwrite]
    exact h.split?_eq
  have hspace : split? (' ' :: c.write.toList) = some (c.name.toList, c.value.toList) := by
    have hpads : Pads c.write.toList (' ' :: c.write.toList) :=
      ⟨[' '], [], allBlank_singleton (by decide), nofun, (List.append_nil _).symm⟩
    rw [split?_of_pads hpads, hsplit]
  constructor
  · simp [parse?, hsplit, pair]
  · simp [parse?, hspace, pair]

theorem IsPair.semicolon_not_mem_write {c : Cookie} (h : IsPair c.name.toList c.value.toList) :
    ';' ∉ c.write.toList := by
  simp [write, h.noSemicolonInName, h.noSemicolonInValue]

/-- The pieces of a line of cookies are these, all but the first with a space in front. -/
theorem pieces_line {c : Cookie} {cookies : List Cookie}
    (h : ∀ d ∈ c :: cookies, IsPair d.name.toList d.value.toList) :
    pieces (line (c :: cookies)) =
      c.write :: cookies.map fun d => String.ofList (' ' :: d.write.toList) := by
  have hpieces : ∀ p ∈ c.write.toList :: cookies.map (·.write.toList), ';' ∉ p := by
    intro p hp
    obtain ⟨d, hd, rfl⟩ : ∃ d ∈ c :: cookies, d.write.toList = p := by
      simpa [eq_comm] using hp
    exact (h d hd).semicolon_not_mem_write
  have hgap : ';' ∉ [' '] := by decide
  have hcut := splitOn_intercalate hgap hpieces
  have hline : (line (c :: cookies)).toList =
      List.intercalate "; ".toList (c.write.toList :: cookies.map (·.write.toList)) := by
    simp [line, Function.comp_def]
  rw [pieces, hline, show "; ".toList = [';', ' '] from rfl, hcut]
  simp

/-- A line of cookies holds these and no others. -/
structure ReadsBack (cookies : List Cookie) : Prop where
  /-- The names and values in the line are those of the cookies, in the same order. -/
  pairs : (readLine (line cookies)).map pair = cookies.map pair
  /-- Each piece of the line is one of the cookies. Only the empty line has a piece that is none. -/
  whole : cookies ≠ [] →
    (pieces (line cookies)).map (fun piece => (parse? piece).map pair) =
      cookies.map fun c => some c.pair
  /-- A cookie is read from the text in which it is written alone. -/
  single : ∀ c ∈ cookies, (parse? c.write).map pair = some c.pair

theorem whole_of_isPair {c : Cookie} {cookies : List Cookie}
    (h : ∀ d ∈ c :: cookies, IsPair d.name.toList d.value.toList) :
    (pieces (line (c :: cookies))).map (fun piece => (parse? piece).map pair) =
      (c :: cookies).map fun c => some c.pair := by
  have hfirst := (h c List.mem_cons_self).parse?_pair.1
  have hfurther : ∀ d ∈ cookies,
      (parse? (String.ofList (' ' :: d.write.toList))).map pair = some d.pair := by
    intro d hd
    exact (h d (List.mem_cons_of_mem c hd)).parse?_pair.2
  rw [pieces_line h, List.map_cons, List.map_cons, List.map_map, hfirst]
  simpa using hfurther

/-- Cookies that were read from any texts are read back from the line in which they are sent. -/
theorem line_reads_back {cookies : List Cookie}
    (h : ∀ c ∈ cookies, ∃ text, parse? text = some c) : ReadsBack cookies := by
  have hpairs : ∀ c ∈ cookies, IsPair c.name.toList c.value.toList := by
    intro c hc
    obtain ⟨text, htext⟩ := h c hc
    exact isPair_of_parse? htext
  cases cookies with
  | nil =>
    exact
      { pairs := rfl
        whole := fun hne => absurd rfl hne
        single := nofun }
  | cons c cookies =>
    have hwhole := whole_of_isPair hpairs
    exact
      { pairs := by
          have hkept := congrArg (List.filterMap id) hwhole
          rw [List.filterMap_map, List.filterMap_map] at hkept
          simpa [readLine, List.map_filterMap, Function.comp_def] using hkept
        whole := fun _ => hwhole
        single := fun d hd => (hpairs d hd).parse?_pair.1 }

/-- Texts that ask to keep cookies, with signs in odd places and white space beyond ASCII. -/
def unusualTexts : List String :=
  [" a = x=y ; Path=/", "b=\"q r\"; Secure", "none", "\u3000é\u3000=\u00a0 ü=\u2003", "e=;f=g"]

theorem line_reads_back_unusual :
    line (unusualTexts.filterMap parse?) = "a=x=y; b=\"q r\"; é=ü=; e=" ∧
      (∀ c ∈ unusualTexts.filterMap parse?, ∃ text, parse? text = some c) ∧
      ReadsBack (unusualTexts.filterMap parse?) := by
  have hparsed : ∀ c ∈ unusualTexts.filterMap parse?, ∃ text, parse? text = some c := by
    intro c hc
    obtain ⟨text, -, htext⟩ := List.mem_filterMap.mp hc
    exact ⟨text, htext⟩
  exact ⟨by decide +kernel, hparsed, line_reads_back hparsed⟩

end CodeFlow.Cookie
