import CodeFlow.Text.Scan

/-!
# What scans take

A scan that succeeds takes what it reads from the front and leaves the rest.
-/

namespace CodeFlow.Text.Scan

variable {α β : Type} {cs rest : List Char}

/-! ## Joining scans -/

theorem orElse_eq_some {x y : Scan α} {r : α × List Char}
    (h : (x <|> y) cs = some r) : x cs = some r ∨ y cs = some r := by
  change (x cs <|> y cs) = some r at h
  cases hx : x cs with
  | none => exact .inr (by rwa [hx] at h)
  | some r' => exact .inl (by rwa [hx] at h)

theorem bind_eq_some {x : Scan α} {f : α → Scan β} {b : β}
    (h : (x >>= f) cs = some (b, rest)) :
    ∃ a left, x cs = some (a, left) ∧ f a left = some (b, rest) := by
  simpa only [bind, StateT.bind, Option.bind_eq_some_iff, Prod.exists] using h

/-! ## Taking characters -/

theorem many1_eq_some {p : Char → Bool} {taken : List Char}
    (h : many1 p cs = some (taken, rest)) : cs = taken ++ rest := by
  obtain ⟨c, left, hchar, h⟩ := bind_eq_some h
  obtain ⟨others, last, hmany, hall⟩ := bind_eq_some h
  cases hmany
  cases hall
  cases cs with
  | nil => cases hchar
  | cons d cs =>
    by_cases hd : p d = true
    · simp only [char, hd, if_true, Option.some.injEq, Prod.mk.injEq] at hchar
      obtain ⟨rfl, rfl⟩ := hchar
      rw [List.cons_append, List.takeWhile_append_dropWhile]
    · simp [char, hd] at hchar

theorem symbol_eq_some {c : Char} {u : Unit} (h : symbol c cs = some (u, rest)) :
    cs = c :: rest := by
  obtain ⟨d, left, hd, hu⟩ := bind_eq_some h
  cases hu
  cases cs with
  | nil => cases hd
  | cons e cs =>
    by_cases he : (e == c) = true
    · simp only [char, he, if_true, Option.some.injEq, Prod.mk.injEq] at hd
      rw [eq_of_beq he, hd.2]
    · simp [char, he] at hd

theorem behind?_eq_some {ws : List Char} (h : behind? ws cs = some rest) : cs = ws ++ rest := by
  induction ws generalizing cs with
  | nil =>
    cases h
    rfl
  | cons w ws ih =>
    cases cs with
    | nil => cases h
    | cons c cs =>
      rw [behind?] at h
      split at h
      · rename_i hw
        rw [hw, ih h, List.cons_append]
      · cases h

/-! ## Taking what may be there -/

/-- What may be there is taken, or else nothing is. -/
theorem optional_eq_some {x : Scan α} {o : Option α}
    (h : (optional x : Scan (Option α)) cs = some (o, rest)) :
    match o with
    | some a => x cs = some (a, rest)
    | none => rest = cs := by
  rcases orElse_eq_some h with h | h
  · change (x cs).bind (fun p => some (some p.1, p.2)) = some (o, rest) at h
    obtain ⟨p, hp, ho⟩ := Option.bind_eq_some_iff.mp h
    cases ho
    exact hp
  · cases h
    rfl

/-- Repeating a scan takes nothing, or takes what the scan takes and goes on. -/
theorem repeatedUpTo_eq_some {x : Scan α} {n : Nat} {as : List α}
    (h : repeatedUpTo x n cs = some (as, rest)) :
    match as with
    | [] => rest = cs
    | a :: as => ∃ left m, x cs = some (a, left) ∧ repeatedUpTo x m left = some (as, rest) := by
  cases n with
  | zero =>
    cases h
    rfl
  | succ n =>
    obtain ⟨o, left, ho, hmore⟩ := bind_eq_some h
    have hfirst := optional_eq_some ho
    cases o with
    | none =>
      cases hmore
      exact hfirst
    | some a =>
      obtain ⟨as', left', has, hall⟩ := bind_eq_some hmore
      cases hall
      exact ⟨left, n, hfirst, has⟩

end CodeFlow.Text.Scan
