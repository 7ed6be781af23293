import CodeFlow.Proofs.Url.Reading
import CodeFlow.Proofs.Url.Reencoding
import Mathlib.Data.List.Flatten

/-!
# Segments behind segments

Segments that are put behind a path come behind those that were there, though not always behind all
of them: a segment of dots at the end leaves an empty one in its place only as long as nothing
stands behind it (`resolve_behind`, `resolve_slashes`). What is no slash goes on with the last
segment instead, which is then longer (`length_write_entered`).
-/

namespace CodeFlow.Url

/-! ## Splitting -/

theorem splitSegments_ne_nil (kind : Kind) (cs : List Char) : splitSegments kind cs ≠ [] := by
  cases cs with
  | nil => exact List.cons_ne_nil _ _
  | cons c cs =>
    rw [splitSegments]
    split
    · exact List.cons_ne_nil _ _
    · split <;> exact List.cons_ne_nil _ _

theorem splitSegments_append (kind : Kind) (cs ds : List Char) :
    splitSegments kind (cs ++ '/' :: ds) = splitSegments kind cs ++ splitSegments kind ds := by
  induction cs with
  | nil => rfl
  | cons c cs ih =>
    rw [List.cons_append, splitSegments, splitSegments, ih]
    split
    · rfl
    · cases hsegments : splitSegments kind cs with
      | nil => exact absurd hsegments (splitSegments_ne_nil kind cs)
      | cons s ss => rfl

theorem splitSegments_replicate (kind : Kind) (n : Nat) :
    splitSegments kind (List.replicate n '/') = List.replicate (n + 1) [] := by
  induction n with
  | zero => rfl
  | succ n ih =>
    rw [List.replicate_succ, splitSegments, if_pos (by cases kind <;> rfl), ih,
      ← List.replicate_succ]

/-- What holds no slash goes on with the last segment. -/
theorem splitSegments_append_last {trail : List Char} (htrail : ∀ c ∈ trail, isSlash kind c = false)
    (cs : List Char) : ∃ init s, splitSegments kind cs = init ++ [s] ∧
      splitSegments kind (cs ++ trail) = init ++ [s ++ trail] := by
  induction cs with
  | nil =>
    refine ⟨[], [], rfl, ?_⟩
    rw [List.nil_append, List.nil_append]
    induction trail with
    | nil => rfl
    | cons c trail ih =>
      rw [splitSegments, if_neg (by rw [htrail c List.mem_cons_self]; decide),
        ih fun d hd => htrail d (List.mem_cons_of_mem c hd)]
  | cons c cs ih =>
    obtain ⟨init, s, hcs, hwhole⟩ := ih
    rw [List.cons_append, splitSegments, splitSegments, hcs, hwhole]
    split
    · exact ⟨[] :: init, s, rfl, rfl⟩
    · cases init with
      | nil => exact ⟨[], c :: s, rfl, rfl⟩
      | cons t init => exact ⟨(c :: t) :: init, s, rfl, rfl⟩

/-! ## Resolving -/

/-- Where a further segment leads if another one stands behind it. -/
def enter (done : List (List Char)) (s : List Char) : List (List Char) :=
  if isDoubleDot s then up done
  else if isSingleDot s then done
  else done ++ [percentEncode inPath s]

theorem resolve_cons {done more : List (List Char)} (s : List Char) (hmore : more ≠ []) :
    resolve done (s :: more) = resolve (enter done s) more := by
  obtain ⟨t, ts, rfl⟩ := List.exists_cons_of_ne_nil hmore
  rw [resolve, enter]
  · split
    · rfl
    · split <;> rfl
  · exact List.cons_ne_nil t ts

theorem resolve_append {done segments more : List (List Char)} (hmore : more ≠ []) :
    resolve done (segments ++ more) = resolve (segments.foldl enter done) more := by
  induction segments generalizing done with
  | nil => rfl
  | cons s segments ih =>
    rw [List.cons_append, resolve_cons s (List.append_ne_nil_of_right_ne_nil segments hmore), ih,
      List.foldl_cons]

theorem resolve_replicate (done : List (List Char)) (n : Nat) :
    resolve done (List.replicate n []) = done ++ List.replicate n [] := by
  induction n generalizing done with
  | zero => exact (List.append_nil done).symm
  | succ n ih =>
    cases n with
    | zero => rfl
    | succ n =>
      have hmore : List.replicate (n + 1) ([] : List Char) ≠ [] := List.cons_ne_nil _ _
      rw [List.replicate_succ, resolve_cons _ hmore, ih]
      change done ++ [[]] ++ List.replicate (n + 1) [] = _
      rw [List.append_assoc, List.singleton_append]

/-- A last segment is kept, or leaves an empty one in its place. -/
theorem resolve_singleton (done : List (List Char)) (s : List Char) :
    ∃ n, resolve done [s] = enter done s ++ List.replicate n [] := by
  rw [resolve, enter]
  split
  · exact ⟨1, rfl⟩
  · split
    · exact ⟨1, rfl⟩
    · exact ⟨0, (List.append_nil _).symm⟩

/-- Where the segments of a path lead if others stand behind them. -/
def entered (path : List Char) : List (List Char) :=
  match path with
  | [] => []
  | _ :: rest => (splitSegments .special rest).foldl enter []

/-- What stands behind a path leads on from where the path leads. -/
theorem resolve_behind (path more : List Char) :
    resolve [] (splitSegments .special (path ++ '/' :: more).tail) =
      resolve (entered path) (splitSegments .special more) := by
  cases path with
  | nil => rfl
  | cons c path =>
    rw [List.cons_append, List.tail_cons, splitSegments_append,
      resolve_append (splitSegments_ne_nil .special more), entered]

/-- Slashes behind a path add empty segments, and even without them there may be one. -/
theorem resolve_slashes (path : List Char) (count : Nat) :
    ∃ n, resolve [] (splitSegments .special (path ++ List.replicate count '/').tail) =
      entered path ++ List.replicate n [] := by
  cases count with
  | succ count =>
    refine ⟨count + 1, ?_⟩
    rw [List.replicate_succ, resolve_behind, splitSegments_replicate, resolve_replicate]
  | zero =>
    cases path with
    | nil => exact ⟨1, rfl⟩
    | cons c path =>
      -- only the last segment may be resolved in another way than with something behind it
      have hlast := List.dropLast_concat_getLast (splitSegments_ne_nil .special path)
      obtain ⟨n, hn⟩ := resolve_singleton ((splitSegments .special path).dropLast.foldl enter [])
        ((splitSegments .special path).getLast (splitSegments_ne_nil .special path))
      refine ⟨n, ?_⟩
      rw [List.replicate_zero, List.append_nil, List.tail_cons, ← hlast,
        resolve_append (List.cons_ne_nil _ _), hn, entered]
      conv_rhs => rw [← hlast]
      rw [List.foldl_append]
      rfl

/-! ## Writing -/

theorem write_append (ss ts : List (List Char)) : (Path.segments (ss ++ ts)).write =
    (Path.segments ss).write ++ (Path.segments ts).write :=
  List.flatMap_append

theorem write_replicate (n : Nat) :
    (Path.segments (List.replicate n [])).write = List.replicate n '/' := by
  induction n with
  | zero => rfl
  | succ n ih =>
    rw [List.replicate_succ, List.replicate_succ, ← ih]
    rfl

/-! ## Spaces and controls -/

theorem dropDot?_eq_some {cs rest : List Char} (h : dropDot? cs = some rest) :
    ∃ dot, cs = dot ++ rest ∧ ∀ c ∈ dot, isEdge c = false := by
  unfold dropDot? at h
  split at h
  · cases h
    exact ⟨['.'], rfl, by simp [isEdge]⟩
  · cases h
    exact ⟨['%', '2', 'e'], rfl, by simp [isEdge]⟩
  · cases h
    exact ⟨['%', '2', 'E'], rfl, by simp [isEdge]⟩
  · cases h

/-- No segment of dots holds a space or a control. -/
theorem enter_of_isEdge {s : List Char} {c : Char} (hc : c ∈ s) (hedge : isEdge c = true)
    (done : List (List Char)) : enter done s = done ++ [percentEncode inPath s] := by
  have hnot {dots : List Char} (hdots : ∀ d ∈ dots, isEdge d = false) : c ∉ dots := by
    intro hmem
    rw [hdots c hmem] at hedge
    cases hedge
  rw [enter, if_neg, if_neg]
  · rw [isSingleDot, beq_iff_eq]
    intro hsingle
    obtain ⟨dot, rfl, hdot⟩ := dropDot?_eq_some hsingle
    rw [List.append_nil] at hc
    exact hnot hdot hc
  · rw [isDoubleDot, beq_iff_eq]
    intro hdouble
    obtain ⟨rest, hfirst, hsecond⟩ := Option.bind_eq_some_iff.mp hdouble
    obtain ⟨dot, rfl, hdot⟩ := dropDot?_eq_some hfirst
    obtain ⟨dot', rfl, hdot'⟩ := dropDot?_eq_some hsecond
    rw [List.append_nil] at hc
    exact (List.mem_append.mp hc).elim (hnot hdot) (hnot hdot')

theorem length_escapeChar_pos_of_isEdge {c : Char} (h : isEdge c = true) :
    0 < (escapeChar inPath c).length :=
  of_isEdge (p := fun c => 0 < (escapeChar inPath c).length) (by decide) h

theorem endsAuthority_of_isEdge {c : Char} (h : isEdge c = true) :
    endsAuthority .special c = false :=
  of_isEdge (p := fun c => endsAuthority .special c = false) (by decide) h

theorem length_write_enter (done : List (List Char)) (s : List Char) :
    (Path.segments (enter done s)).write.length ≤
      (Path.segments (done ++ [percentEncode inPath s])).write.length := by
  have hmore (ss ts : List (List Char)) (h : ss.Sublist ts) :
      (Path.segments ss).write.length ≤ (Path.segments ts).write.length :=
    (List.Sublist.flatMap h _).length_le
  have hdone := List.sublist_append_left done [percentEncode inPath s]
  unfold enter up
  split
  · split
    · exact hmore _ _ hdone
    · exact hmore _ _ ((List.dropLast_sublist done).trans hdone)
  · split
    · exact hmore _ _ hdone
    · exact Nat.le_refl _

/-- Spaces and controls behind a path make its last segment longer. -/
theorem length_write_entered {path trail : List Char} (hpath : path ≠ []) (htrail : trail ≠ [])
    (hedges : ∀ c ∈ trail, isEdge c = true) :
    (Path.segments (entered path)).write.length <
      (Path.segments (entered (path ++ trail))).write.length := by
  obtain ⟨c, path, rfl⟩ := List.exists_cons_of_ne_nil hpath
  have hslash : ∀ d ∈ trail, isSlash .special d = false := by
    intro d hd
    exact (Bool.or_eq_false_iff.mp (endsAuthority_of_isEdge (hedges d hd))).1
  obtain ⟨init, s, hshort, hlong⟩ := splitSegments_append_last hslash path
  obtain ⟨d, ds, rfl⟩ := List.exists_cons_of_ne_nil htrail
  have hmem : d ∈ s ++ d :: ds := List.mem_append_right _ List.mem_cons_self
  rw [List.cons_append, entered, entered, hshort, hlong, List.foldl_append, List.foldl_append,
    List.foldl_cons, List.foldl_cons, List.foldl_nil, List.foldl_nil,
    enter_of_isEdge hmem (hedges d List.mem_cons_self)]
  refine Nat.lt_of_le_of_lt (length_write_enter _ s) ?_
  have hwritten := length_escapeChar_pos_of_isEdge (hedges d List.mem_cons_self)
  rw [write_append, write_append, percentEncode_append, percentEncode, percentEncode,
    List.flatMap_cons]
  simp only [Path.write, List.flatMap_cons, List.flatMap_nil, List.append_nil, List.length_append,
    List.length_cons]
  omega
end CodeFlow.Url
