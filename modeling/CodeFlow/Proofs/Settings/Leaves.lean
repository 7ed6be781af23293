import CodeFlow.Proofs.Settings.Names
import Mathlib.Data.List.Induction

/-!
# Settings from several layers

What a table holds under a key of a group is settled by the last variable that names it, if there is
one, and else is what it was (`settled_overlay`), as long as variables name members of the group and
not the group itself. A variable that names a part of a setting leaves a branch in its place.
-/

namespace CodeFlow.Settings

/-! ## Leaves -/

/-- What a table holds under a key of a group. -/
def leaf? (group key : String) (table : List (String × Json)) : Option Json :=
  (membersOf ((table.lookup group).getD .null)).lookup key

/-- A value that holds others. -/
def isBranch : Json → Bool
  | .arr _ => true
  | .obj _ => true
  | _ => false

/-- A group is not given as a list of its settings. -/
def Unlisted (group : String) (table : List (String × Json)) : Prop :=
  ∀ items, table.lookup group ≠ some (.arr items)

variable {group key : String} {table : List (String × Json)} {p : Path} {j : Json}

/-- A list of values. -/
def isList : Json → Bool
  | .arr _ => true
  | _ => false

theorem isList_iff : isList j = true ↔ ∃ items, j = .arr items := by
  cases j with
  | arr items => exact ⟨fun _ => ⟨items, rfl⟩, fun _ => rfl⟩
  | _ => exact ⟨fun h => (nomatch h), fun ⟨_, h⟩ => (nomatch h)⟩

theorem unlisted_iff : ((table.lookup group).any isList) = false ↔ Unlisted group table := by
  rw [← Bool.not_eq_true, Option.any_eq_true]
  constructor
  · intro h items hitems
    exact h ⟨_, hitems, rfl⟩
  · rintro h ⟨j, hj, hlist⟩
    obtain ⟨items, rfl⟩ := isList_iff.mp hlist
    exact h items hj

instance : Decidable (Unlisted group table) := decidable_of_iff _ unlisted_iff

theorem merge_of_not_obj (h : ∀ members, j ≠ .obj members) (key : String)
    (table : List (String × Json)) : merge key j table = put (small key) j table := by
  cases j with
  | obj members => exact absurd rfl (h members)
  | _ => rw [merge]

theorem isBranch_putAt (j : Json) (t : Turn) (ts : List Turn) (at_ : Json) :
    isBranch (putAt j t ts at_) = true := by
  cases t <;> cases ts <;> rw [putAt] <;> rfl

/-- What is put elsewhere leaves a group alone. -/
theorem lookup_put_of_ne (hsmall : IsSmall p.key) (hne : p.key ≠ group)
    (hj : ∀ members, j ≠ .obj members) (table : List (String × Json)) :
    (p.put j table).lookup group = table.lookup group := by
  unfold Path.put
  split
  · rw [merge_of_not_obj hj, lookup_put, if_neg]
    rw [hsmall]
    exact hne.symm
  · rw [lookup_put, if_neg hne.symm]

/-- What is put at a member of a group comes to be there. -/
theorem leaf?_put_member {member : String} (hsmall : IsSmall member)
    (hj : ∀ members, j ≠ .obj members) :
    leaf? group key (Path.put ⟨group, [.member member]⟩ j table) =
      if key = member then some j else leaf? group key table := by
  rw [leaf?, Path.put, lookup_put, if_pos rfl, Option.getD_some, putAt, merge_of_not_obj hj, hsmall]
  exact lookup_put ..

/-- What is put below a member of a group makes a branch of it. -/
theorem leaf?_put_below (group key member : String) (t : Turn) (ts : List Turn) (j : Json)
    (table : List (String × Json)) :
    leaf? group key (Path.put ⟨group, .member member :: t :: ts⟩ j table) =
        leaf? group key table ∨
      key = member ∧ ∃ branch, isBranch branch = true ∧
        leaf? group key (Path.put ⟨group, .member member :: t :: ts⟩ j table) = some branch := by
  have hleaf : leaf? group key (Path.put ⟨group, .member member :: t :: ts⟩ j table) =
      if key = member then
        some (putAt j t ts
          (((membersOf ((table.lookup group).getD .null)).lookup member).getD .null))
      else leaf? group key table := by
    rw [leaf?, Path.put, lookup_put, if_pos rfl, Option.getD_some, putAt]
    exact lookup_put ..
  by_cases h : key = member
  · rw [if_pos h] at hleaf
    exact .inr ⟨h, _, isBranch_putAt j t ts _, hleaf⟩
  · rw [if_neg h] at hleaf
    exact .inl hleaf

theorem unlisted_put_member {member : String} (turns : List Turn) :
    Unlisted group (Path.put ⟨group, .member member :: turns⟩ j table) := by
  intro items
  rw [Path.put, lookup_put, if_pos rfl]
  cases turns <;> rw [putAt] <;> exact fun h => nomatch h

/-! ## Variables over a table -/

/-- What the variables for a setting say; the last one counts. -/
def given? (mark : String) (lists : List String) (place : String) (vars : List (String × String)) :
    Option Json :=
  ((vars.filter fun v => keyOf? mark v.1 = some place).getLast?).map fun v =>
    valueOf lists place v.2

/-- What variables name in a group is a member of it, or stands below one. -/
def NameMembers (mark group : String) (vars : List (String × String)) : Prop :=
  ∀ v ∈ vars, ∀ k, keyOf? mark v.1 = some k → (Path.ofKey k).key = group →
    ∃ member turns, (Path.ofKey k).turns = .member member :: turns

/-- A variable names a part of what is under a key of a group. -/
def NamesPart (mark group key : String) (v : String × String) : Prop :=
  ∃ k t ts, keyOf? mark v.1 = some k ∧ Path.ofKey k = ⟨group, .member key :: t :: ts⟩

theorem valueOf_ne_obj (lists : List String) (k text : String) (members : List (String × Json)) :
    valueOf lists k text ≠ .obj members := by
  unfold valueOf
  split
  · rename_i j hplain
    rintro rfl
    unfold plainValue? at hplain
    split at hplain
    · cases hplain
    · split at hplain
      · cases hplain
      · split at hplain
        · cases hplain
        · obtain ⟨x, -, hx⟩ := Option.map_eq_some_iff.mp hplain
          cases hx
  · split <;> exact fun h => nomatch h

section

variable {mark : String} {lists : List String} {vars : List (String × String)}
  {v : String × String}

theorem overlay_append (table : List (String × Json)) (source source' : Source) :
    overlay table (source ++ source') = overlay (overlay table source) source' :=
  List.foldl_append

/-- A further variable that names no setting changes nothing. -/
theorem overlay_unnamed (h : keyOf? mark v.1 = none) (table : List (String × Json)) :
    overlay table (ofEnvironment mark lists (vars ++ [v])) =
      overlay table (ofEnvironment mark lists vars) := by
  rw [ofEnvironment, List.filterMap_append, overlay_append, ofEnvironment]
  simp [h, overlay]

/-- A further variable puts its value at the path that it names. -/
theorem overlay_named {k : String} (h : keyOf? mark v.1 = some k) (table : List (String × Json)) :
    overlay table (ofEnvironment mark lists (vars ++ [v])) =
      (Path.ofKey k).put (valueOf lists k v.2) (overlay table (ofEnvironment mark lists vars)) := by
  rw [ofEnvironment, List.filterMap_append, overlay_append, ofEnvironment]
  simp [h, overlay]

theorem given?_of_names {place : String} (h : keyOf? mark v.1 = some place) :
    given? mark lists place (vars ++ [v]) = some (valueOf lists place v.2) := by
  simp [given?, h]

theorem given?_of_not_names {place : String} (h : keyOf? mark v.1 ≠ some place) :
    given? mark lists place (vars ++ [v]) = given? mark lists place vars := by
  simp [given?, h]

/-- What is under the key of a group after some variables: the value of the last one that names it,
or else what was there before, unless one names a part of it, which leaves a branch. -/
inductive Settled (mark : String) (lists : List String) (group key : String) (before : Option Json)
    (vars : List (String × String)) : Option Json → Prop where
  | whole : Settled mark lists group key before vars
      ((given? mark lists (group ++ "." ++ key) vars).or before)
  | parted {v : String × String} {branch : Json} : v ∈ vars → NamesPart mark group key v →
      isBranch branch = true → Settled mark lists group key before vars (some branch)

variable {before after : Option Json}

/-- A further variable that does not name the setting leaves what is there. -/
theorem Settled.kept (h : Settled mark lists group key before vars after)
    (hother : keyOf? mark v.1 ≠ some (group ++ "." ++ key)) :
    Settled mark lists group key before (vars ++ [v]) after := by
  cases h with
  | whole =>
    rw [← given?_of_not_names hother]
    exact .whole
  | parted hv hpart hbranch => exact .parted (List.mem_append_left _ hv) hpart hbranch

/-- A further variable in a group settles what is under each of its keys. -/
theorem Settled.step (hplace : Path.ofKey (group ++ "." ++ key) = ⟨group, [.member key]⟩)
    {k member : String} {turns : List Turn} (hname : keyOf? mark v.1 = some k)
    (hpath : Path.ofKey k = ⟨group, .member member :: turns⟩)
    (h : Settled mark lists group key before vars (leaf? group key table)) :
    Settled mark lists group key before (vars ++ [v])
      (leaf? group key ((Path.ofKey k).put (valueOf lists k v.2) table)) := by
  -- a path that is not that of the setting is not that of its name
  have hother (hne : Path.ofKey k ≠ ⟨group, [.member key]⟩) :
      keyOf? mark v.1 ≠ some (group ++ "." ++ key) := by
    intro hsame
    rw [Option.some.inj (hname.symm.trans hsame)] at hne
    exact hne hplace
  cases turns with
  | nil =>
    have hk : k = group ++ "." ++ member := Path.eq_of_ofKey hpath
    have hmember : IsSmall member := (isSmall_of_keyOf? hname).of_subset (by
      rw [hk, String.toList_append]
      exact List.subset_append_right _ _)
    rw [hpath, leaf?_put_member hmember (valueOf_ne_obj lists k v.2)]
    split
    · rename_i hkey
      subst hkey hk
      have hwhole : Settled mark lists group key before (vars ++ [v])
          ((given? mark lists (group ++ "." ++ key) (vars ++ [v])).or before) := .whole
      rwa [given?_of_names hname] at hwhole
    · rename_i hkey
      refine h.kept (hother ?_)
      rw [hpath]
      rintro ⟨⟩
      exact hkey rfl
  | cons t ts =>
    rw [hpath]
    rcases leaf?_put_below group key member t ts (valueOf lists k v.2) table with
      hsame | ⟨rfl, branch, hbranch, hleaf⟩
    · rw [hsame]
      refine h.kept (hother ?_)
      rw [hpath]
      rintro ⟨⟩
    · rw [hleaf]
      exact .parted (List.mem_append_right _ List.mem_cons_self) ⟨k, t, ts, hname, hpath⟩ hbranch

/-- Variables that name members of a group settle what is under each of its keys. -/
theorem settled_overlay (lists : List String)
    (hplace : Path.ofKey (group ++ "." ++ key) = ⟨group, [.member key]⟩)
    (htable : Unlisted group table) (hvars : NameMembers mark group vars) :
    Unlisted group (overlay table (ofEnvironment mark lists vars)) ∧
      Settled mark lists group key (leaf? group key table) vars
        (leaf? group key (overlay table (ofEnvironment mark lists vars))) := by
  induction vars using List.reverseRecOn with
  | nil => exact ⟨htable, .whole⟩
  | append_singleton vars v ih =>
    obtain ⟨hunlisted, hsettled⟩ := ih fun w hw => hvars w (List.mem_append_left _ hw)
    cases hname : keyOf? mark v.1 with
    | none =>
      rw [overlay_unnamed hname]
      exact ⟨hunlisted, hsettled.kept (by rw [hname]; exact fun h => nomatch h)⟩
    | some k =>
      rw [overlay_named hname]
      by_cases hgroup : (Path.ofKey k).key = group
      · obtain ⟨member, turns, hturns⟩ :=
          hvars v (List.mem_append_right _ List.mem_cons_self) k hname hgroup
        have hpath : Path.ofKey k = ⟨group, .member member :: turns⟩ := by
          rw [← hgroup, ← hturns]
        refine ⟨?_, hsettled.step hplace hname hpath⟩
        rw [hpath]
        exact unlisted_put_member turns
      · have hlookup := lookup_put_of_ne (Path.isSmall_ofKey (isSmall_of_keyOf? hname)) hgroup
          (valueOf_ne_obj lists k v.2) (overlay table (ofEnvironment mark lists vars))
        have hleaf : leaf? group key ((Path.ofKey k).put (valueOf lists k v.2)
              (overlay table (ofEnvironment mark lists vars))) =
            leaf? group key (overlay table (ofEnvironment mark lists vars)) := by
          rw [leaf?, hlookup, leaf?]
        refine ⟨fun items => by rw [hlookup]; exact hunlisted items, ?_⟩
        rw [hleaf]
        refine hsettled.kept ?_
        rw [hname]
        intro h
        rw [Option.some.inj h, hplace] at hgroup
        exact hgroup rfl

end

end CodeFlow.Settings
