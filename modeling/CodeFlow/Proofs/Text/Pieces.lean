import CodeFlow.Text.Blank
import CodeFlow.Text.Split
import Mathlib.Data.List.TakeWhile

/-!
# Pieces and their ends

A text that is put together from pieces with separators is cut into the same pieces again. White
space that is stripped from the ends of a text leaves nothing to strip, and there is one way to
strip a text, whatever white space stood around it (`trim_eq_iff`).
-/

namespace CodeFlow.Text

/-! ## Cutting -/

theorem splitOn_of_not_mem {sep : Char} {cs : List Char} (h : sep ∉ cs) :
    splitOn sep cs = [cs] := by
  induction cs with
  | nil => rfl
  | cons c cs ih =>
    rw [List.mem_cons, not_or] at h
    rw [splitOn, if_neg (Ne.symm h.1), ih h.2]

theorem splitOn_ne_nil (sep : Char) (cs : List Char) : splitOn sep cs ≠ [] := by
  cases cs with
  | nil => exact List.cons_ne_nil _ _
  | cons c cs =>
    unfold splitOn
    split
    · exact List.cons_ne_nil _ _
    · split <;> exact List.cons_ne_nil _ _

/-- What stands on both sides of a separator is cut on its own. -/
theorem splitOn_append (sep : Char) (cs ds : List Char) :
    splitOn sep (cs ++ sep :: ds) = splitOn sep cs ++ splitOn sep ds := by
  induction cs with
  | nil => exact if_pos rfl
  | cons c cs ih =>
    rw [List.cons_append, splitOn, splitOn, ih]
    split
    · rfl
    · cases hcut : splitOn sep cs with
      | nil => exact absurd hcut (splitOn_ne_nil sep cs)
      | cons piece pieces => rfl

/-- Pieces are cut where they were put together; what stands behind each separator stays in front
of the piece that follows. -/
theorem splitOn_intercalate {sep : Char} {gap piece : List Char} {pieces : List (List Char)}
    (hgap : sep ∉ gap) (hpieces : ∀ p ∈ piece :: pieces, sep ∉ p) :
    splitOn sep (List.intercalate (sep :: gap) (piece :: pieces)) =
      piece :: pieces.map (gap ++ ·) := by
  -- the piece in front grows by the gap, so the induction is over any piece
  induction pieces generalizing piece with
  | nil =>
    have hpiece : sep ∉ piece := hpieces piece (List.mem_singleton_self piece)
    simpa using splitOn_of_not_mem hpiece
  | cons next pieces ih =>
    have hpiece : sep ∉ piece := hpieces piece List.mem_cons_self
    have hnext : ∀ p ∈ (gap ++ next) :: pieces, sep ∉ p := by
      intro p hp
      rcases List.mem_cons.mp hp with rfl | hp
      · rw [List.mem_append, not_or]
        exact ⟨hgap, hpieces next (by simp)⟩
      · exact hpieces p (by simp [hp])
    have hcut : List.intercalate (sep :: gap) (piece :: next :: pieces) =
        piece ++ sep :: List.intercalate (sep :: gap) ((gap ++ next) :: pieces) := by
      cases pieces <;> simp [List.intercalate]
    rw [hcut, splitOn_append, splitOn_of_not_mem hpiece, ih hnext]
    rfl

theorem ne_of_not_mem {sep : Char} {cs : List Char} (h : sep ∉ cs) :
    ∀ c ∈ cs, decide (c ≠ sep) = true :=
  fun _ hc => decide_eq_true (ne_of_mem_of_not_mem hc h)

theorem takeWhile_ne_eq_self {sep : Char} {cs : List Char} (h : sep ∉ cs) :
    cs.takeWhile (· ≠ sep) = cs :=
  List.takeWhile_eq_self_iff.mpr (ne_of_not_mem h)

theorem dropWhile_ne_eq_nil {sep : Char} {cs : List Char} (h : sep ∉ cs) :
    cs.dropWhile (· ≠ sep) = [] :=
  List.dropWhile_eq_nil_iff.mpr (ne_of_not_mem h)

/-- What holds no separator stays in front of what is taken. -/
theorem takeWhile_ne_append {sep : Char} {cs : List Char} (h : sep ∉ cs) (rest : List Char) :
    (cs ++ rest).takeWhile (· ≠ sep) = cs ++ rest.takeWhile (· ≠ sep) :=
  List.takeWhile_append_of_pos (ne_of_not_mem h)

/-- What stands in front of the first separator. -/
theorem takeWhile_ne_of_not_mem {sep : Char} {cs : List Char} (h : sep ∉ cs) (rest : List Char) :
    (cs ++ sep :: rest).takeWhile (· ≠ sep) = cs := by
  rw [takeWhile_ne_append h, List.takeWhile_cons_of_neg (by simp), List.append_nil]

/-- What stands from the first separator on. -/
theorem dropWhile_ne_of_not_mem {sep : Char} {cs : List Char} (h : sep ∉ cs) (rest : List Char) :
    (cs ++ sep :: rest).dropWhile (· ≠ sep) = sep :: rest := by
  rw [List.dropWhile_append_of_pos (ne_of_not_mem h), List.dropWhile_cons_of_neg (by simp)]

/-- What stands in front of the first separator. It is the whole of a text without one. -/
def IsFront (sep : Char) (front cs : List Char) : Prop :=
  sep ∉ front ∧ (cs = front ∨ ∃ rest, cs = front ++ sep :: rest)

theorem takeWhile_ne_eq_iff {sep : Char} {cs front : List Char} :
    cs.takeWhile (· ≠ sep) = front ↔ IsFront sep front cs := by
  constructor
  · rintro rfl
    by_cases hsep : sep ∈ cs
    · obtain ⟨front, rest, rfl, hfront⟩ := List.eq_append_cons_of_mem hsep
      rw [takeWhile_ne_of_not_mem hfront]
      exact ⟨hfront, .inr ⟨rest, rfl⟩⟩
    · rw [takeWhile_ne_eq_self hsep]
      exact ⟨hsep, .inl rfl⟩
  · rintro ⟨hfront, rfl | ⟨rest, rfl⟩⟩
    · exact takeWhile_ne_eq_self hfront
    · exact takeWhile_ne_of_not_mem hfront rest

theorem dropWhile_append_cons {p : Char → Bool} {c : Char} (hc : p c = false)
    (front rest : List Char) :
    (front ++ c :: rest).dropWhile p = front.dropWhile p ++ c :: rest := by
  induction front with
  | nil => simp [hc]
  | cons d front ih =>
    cases hd : p d with
    | true => simpa [hd] using ih
    | false => simp [hd]

theorem stripBehind_append_cons {p : Char → Bool} {c : Char} (hc : p c = false)
    (front rest : List Char) :
    ((front ++ c :: rest).reverse.dropWhile p).reverse =
      front ++ c :: (rest.reverse.dropWhile p).reverse := by
  have hreverse : (front ++ c :: rest).reverse = rest.reverse ++ c :: front.reverse := by simp
  rw [hreverse, dropWhile_append_cons hc]
  simp

/-! ## Stripping -/

/-- There is no white space at either end. -/
structure Bare (cs : List Char) : Prop where
  first : ∀ c ∈ cs.head?, isBlank c = false
  last : ∀ c ∈ cs.getLast?, isBlank c = false

variable {cs ds : List Char}

theorem trimStart_of_head (h : ∀ c ∈ cs.head?, isBlank c = false) : trimStart cs = cs := by
  cases cs with
  | nil => rfl
  | cons c cs =>
    have hc : isBlank c = false := h c rfl
    simp [trimStart, hc]

theorem head_trimStart (cs : List Char) : ∀ c ∈ (trimStart cs).head?, isBlank c = false := by
  intro c hc
  have hhead := List.head?_dropWhile_not isBlank cs
  rw [show (cs.dropWhile isBlank).head? = some c from hc] at hhead
  simpa using hhead

/-- What is stripped behind leaves the front as it is. -/
theorem head_trimEnd (h : ∀ c ∈ cs.head?, isBlank c = false) :
    ∀ c ∈ (trimEnd cs).head?, isBlank c = false := by
  intro c hc
  obtain ⟨tail, htail⟩ : trimEnd cs <+: cs := by
    rw [← List.reverse_suffix]
    simpa [trimEnd, trimStart] using List.dropWhile_suffix isBlank
  refine h c ?_
  rw [← htail, List.head?_append, Option.mem_def.mp hc]
  rfl

/-- Stripped text is bare. -/
theorem bare_trim (cs : List Char) : Bare (trim cs) where
  first := head_trimEnd (head_trimStart cs)
  last := by
    intro c hc
    rw [trim, trimEnd, List.getLast?_reverse] at hc
    exact head_trimStart _ c hc

/-- Bare text has nothing to strip. -/
theorem trim_of_bare (h : Bare cs) : trim cs = cs := by
  have hlast : ∀ c ∈ cs.reverse.head?, isBlank c = false := by
    rw [List.head?_reverse]
    exact h.last
  rw [trim, trimStart_of_head h.first, trimEnd, trimStart_of_head hlast, List.reverse_reverse]

theorem trim_sublist (cs : List Char) : (trim cs).Sublist cs := by
  have hend : (trimEnd (trimStart cs)).Sublist (trimStart cs) := by
    rw [← List.reverse_sublist]
    simpa [trimEnd, trimStart] using (List.dropWhile_sublist isBlank)
  exact hend.trans (List.dropWhile_sublist isBlank)

/-! ## White space around a text -/

/-- White space and nothing else. -/
def AllBlank (cs : List Char) : Prop :=
  ∀ c ∈ cs, isBlank c = true

/-- A text with white space around it, or without. -/
def Pads (cs padded : List Char) : Prop :=
  ∃ front behind, AllBlank front ∧ AllBlank behind ∧ padded = front ++ cs ++ behind

/-- A text without the white space around it. -/
structure Strips (padded stripped : List Char) : Prop where
  bare : Bare stripped
  around : Pads stripped padded

variable {padded : List Char} {sign : Char}

theorem AllBlank.not_mem (h : AllBlank cs) (hsign : isBlank sign = false) : sign ∉ cs := by
  intro hmem
  rw [h sign hmem] at hsign
  cases hsign

theorem allBlank_singleton (h : isBlank sign = true) : AllBlank [sign] :=
  fun _ hc => List.mem_singleton.mp hc ▸ h

theorem AllBlank.reverse (h : AllBlank cs) : AllBlank cs.reverse :=
  fun c hc => h c (List.mem_reverse.mp hc)

theorem AllBlank.append (hcs : AllBlank cs) (hds : AllBlank ds) : AllBlank (cs ++ ds) :=
  fun c hc => (List.mem_append.mp hc).elim (hcs c) (hds c)

theorem Pads.trans (h : Pads cs ds) (hds : Pads ds padded) : Pads cs padded := by
  obtain ⟨front, behind, hfront, hbehind, rfl⟩ := h
  obtain ⟨before, after, hbefore, hafter, rfl⟩ := hds
  refine ⟨before ++ front, behind ++ after, hbefore.append hfront, hbehind.append hafter, ?_⟩
  simp only [List.append_assoc]

theorem exists_not_blank (h : ¬AllBlank cs) : ∃ c ∈ cs, isBlank c = false := by
  simpa [AllBlank] using h

theorem trimStart_append (h : AllBlank cs) (ds : List Char) : trimStart (cs ++ ds) = trimStart ds :=
  List.dropWhile_append_of_pos h

theorem trimEnd_append (cs : List Char) (h : AllBlank ds) : trimEnd (cs ++ ds) = trimEnd cs := by
  rw [trimEnd, List.reverse_append, trimStart_append h.reverse, trimEnd]

/-- White space in front of a text is stripped. -/
theorem trim_append_left (h : AllBlank cs) (ds : List Char) : trim (cs ++ ds) = trim ds := by
  rw [trim, trimStart_append h, trim]

/-- Nothing is left of white space alone. -/
theorem trim_of_allBlank (h : AllBlank cs) : trim cs = [] := by
  rw [← List.append_nil cs, trim_append_left h]
  rfl

/-- A sign that is no white space keeps what stands behind it from being stripped in front. -/
theorem trimStart_append_cons (hsign : isBlank sign = false) (cs ds : List Char) :
    trimStart (cs ++ sign :: ds) = trimStart cs ++ sign :: ds :=
  dropWhile_append_cons hsign cs ds

/-- A sign that is no white space keeps what stands in front of it from being stripped behind. -/
theorem trimEnd_append_cons (hsign : isBlank sign = false) (cs ds : List Char) :
    trimEnd (cs ++ sign :: ds) = cs ++ sign :: trimEnd ds :=
  stripBehind_append_cons hsign cs ds

/-- Around a sign that is no white space, either side is stripped on its own. -/
theorem trim_append_cons (hsign : isBlank sign = false) (cs ds : List Char) :
    trim (cs ++ sign :: ds) = trimStart cs ++ sign :: trimEnd ds := by
  rw [trim, trimStart_append_cons hsign, trimEnd_append_cons hsign]

/-- White space behind a text is stripped. -/
theorem trim_append_right (cs : List Char) (h : AllBlank ds) : trim (cs ++ ds) = trim cs := by
  by_cases hcs : AllBlank cs
  · rw [trim_append_left hcs, trim_of_allBlank h, trim_of_allBlank hcs]
  · obtain ⟨sign, hmem, hsign⟩ := exists_not_blank hcs
    obtain ⟨before, after, rfl⟩ := List.append_of_mem hmem
    rw [List.append_assoc, List.cons_append, trim_append_cons hsign, trim_append_cons hsign,
      trimEnd_append after h]

theorem trim_of_pads (h : Pads cs padded) : trim padded = trim cs := by
  obtain ⟨front, behind, hfront, hbehind, rfl⟩ := h
  rw [trim_append_right _ hbehind, trim_append_left hfront]

theorem pads_trimStart (cs : List Char) : Pads (trimStart cs) cs := by
  refine ⟨cs.takeWhile isBlank, [], fun c hc => List.mem_takeWhile_imp hc, nofun, ?_⟩
  rw [List.append_nil]
  exact List.takeWhile_append_dropWhile.symm

theorem pads_trimEnd (cs : List Char) : Pads (trimEnd cs) cs := by
  -- white space in front of the reverse is white space behind
  have hcut : cs.reverse.takeWhile isBlank ++ trimStart cs.reverse = cs.reverse :=
    List.takeWhile_append_dropWhile
  refine ⟨[], (cs.reverse.takeWhile isBlank).reverse, nofun,
    AllBlank.reverse fun c hc => List.mem_takeWhile_imp hc, ?_⟩
  rw [List.nil_append, trimEnd, ← List.reverse_append, hcut, List.reverse_reverse]

theorem trim_trimStart (cs : List Char) : trim (trimStart cs) = trim cs :=
  (trim_of_pads (pads_trimStart cs)).symm

theorem trim_trimEnd (cs : List Char) : trim (trimEnd cs) = trim cs :=
  (trim_of_pads (pads_trimEnd cs)).symm

theorem strips_trim (cs : List Char) : Strips cs (trim cs) where
  bare := bare_trim cs
  around := (pads_trimEnd (trimStart cs)).trans (pads_trimStart cs)

/-- There is one way to strip a text. -/
theorem trim_eq_iff : trim padded = cs ↔ Strips padded cs := by
  constructor
  · rintro rfl
    exact strips_trim padded
  · intro h
    rw [trim_of_pads h.around, trim_of_bare h.bare]

/-- Nothing is left of white space alone, and something of any other text. -/
theorem trim_eq_nil_iff : trim cs = [] ↔ AllBlank cs := by
  refine ⟨fun h => ?_, trim_of_allBlank⟩
  obtain ⟨front, behind, hfront, hbehind, rfl⟩ := (trim_eq_iff.mp h).around
  rw [List.append_nil]
  exact hfront.append hbehind

/-- A sign that is no white space stands in a text whatever white space stands around it. -/
theorem Pads.mem_iff (h : Pads cs padded) (hsign : isBlank sign = false) :
    sign ∈ padded ↔ sign ∈ cs := by
  obtain ⟨front, behind, hfront, hbehind, rfl⟩ := h
  simp [hfront.not_mem hsign, hbehind.not_mem hsign]

/-- White space around a text is white space around what stands in front of its first separator. -/
theorem Pads.takeWhile_ne (h : Pads cs padded) (hsign : isBlank sign = false) :
    Pads (cs.takeWhile (· ≠ sign)) (padded.takeWhile (· ≠ sign)) := by
  obtain ⟨front, behind, hfront, hbehind, rfl⟩ := h
  rw [List.append_assoc, takeWhile_ne_append (hfront.not_mem hsign)]
  by_cases hmem : sign ∈ cs
  · obtain ⟨before, after, rfl, hbefore⟩ := List.eq_append_cons_of_mem hmem
    rw [List.append_assoc, List.cons_append, takeWhile_ne_of_not_mem hbefore,
      takeWhile_ne_of_not_mem hbefore]
    exact ⟨front, [], hfront, nofun, (List.append_nil _).symm⟩
  · rw [takeWhile_ne_append hmem, takeWhile_ne_eq_self hmem,
      takeWhile_ne_eq_self (hbehind.not_mem hsign)]
    exact ⟨front, behind, hfront, hbehind, (List.append_assoc _ _ _).symm⟩

end CodeFlow.Text
