import CodeFlow.Proofs.Json.RoundTrip
import CodeFlow.Proofs.Json.Skipping

/-!
# Objects read for some texts

A record whose fields are texts that may be left out is read from an object in full, or not at all.
Each member has to have a key that stands for a text; the key of a field has to come once, and with
a text or null; and whatever the other members hold is passed over. If one member is otherwise,
nothing of the object is read.
-/

namespace CodeFlow.Json

open CodeFlow.Text

variable {rest : List UInt8}

/-! ## Strings -/

theorem readEscape_letter {c d : Char} (h : letter? c = some d) (bs : List UInt8) :
    readEscape (UInt8.ofNat c.toNat :: bs) = .ok (String.utf8EncodeChar d, bs) := by
  obtain ⟨hu, hc, hd, hescaped⟩ := escaped?_of_letter? h
  have hu : UInt8.ofNat c.toNat ≠ 117 := ofNat_toNat_ne hc (by decide : 'u'.toNat < _) hu
  rw [readEscape, if_neg hu, hescaped, Utf8.encodeChar_ascii hd]

theorem readEscape_number {ds : List Char} {n : Nat} (h : Hex ds n) (hhigh : ¬ IsHigh n)
    (hlow : ¬ IsLow n) (bs : List UInt8) :
    readEscape (117 :: (Utf8.encode ds ++ bs)) =
      .ok (String.utf8EncodeChar (Char.ofNat n), bs) := by
  unfold IsHigh at hhigh
  unfold IsLow at hlow
  rw [readEscape, if_pos rfl, h.readHex]
  simp only [if_neg hlow, if_neg hhigh]

theorem readEscape_low {ds : List Char} {n : Nat} (h : Hex ds n) (hlow : IsLow n)
    (bs : List UInt8) :
    readEscape (117 :: (Utf8.encode ds ++ bs)) = .error (.here .loneSurrogate bs) := by
  unfold IsLow at hlow
  rw [readEscape, if_pos rfl, h.readHex]
  simp only [if_pos hlow]

/-- Behind the first half of a pair the second one has to follow. -/
theorem readEscape_high {ds : List Char} {n : Nat} (h : Hex ds n) (hhigh : IsHigh n)
    (bs : List UInt8) : readEscape (117 :: (Utf8.encode ds ++ bs)) = readLowSurrogate n bs := by
  unfold IsHigh at hhigh
  have hlow : ¬ (0xDC00 ≤ n ∧ n ≤ 0xDFFF) := by omega
  rw [readEscape, if_pos rfl, h.readHex]
  simp only [if_neg hlow, if_pos hhigh]

theorem readLowSurrogate_pair {ds : List Char} {high low : Nat} (h : Hex ds low) (hlow : IsLow low)
    (bs : List UInt8) :
    readLowSurrogate high (92 :: 117 :: (Utf8.encode ds ++ bs)) =
      .ok (String.utf8EncodeChar (pairOf high low), bs) := by
  unfold IsLow at hlow
  rw [readLowSurrogate, if_neg (by decide)]
  simp only [ne_eq, not_true_eq_false, if_false, h.readHex, if_pos hlow]
  rfl

theorem readLowSurrogate_other {b : UInt8} (hb : b ≠ 92) (high : Nat) (bs : List UInt8) :
    readLowSurrogate high (b :: bs) = .error (.here .unexpectedEndOfEscape bs) := by
  unfold readLowSurrogate
  simp only [if_pos hb]

theorem readStringOnto_escape_error {acc bs : List UInt8} {f : Fault}
    (h : readEscape bs = .error f) : readStringOnto acc (92 :: bs) = .error f := by
  rw [readStringOnto, if_neg (by decide), if_pos rfl]
  split
  · rename_i h'
    exact congrArg _ (Except.error.inj (h'.symm.trans h))
  · rename_i h'
    cases h.symm.trans h'

/-- What a string stands for is read from it. -/
theorem Says.readStringOnto {raw s : List Char} (h : Says raw s) (acc rest : List UInt8) :
    readStringOnto acc (Utf8.encode raw ++ 34 :: rest) =
      .ok ((Utf8.encode s).reverse ++ acc, rest) := by
  induction h generalizing acc with
  | nil => exact readStringOnto_quote
  | plain hc _ ih =>
    rw [Utf8.encode_cons, List.append_assoc, readStringOnto_plains hc.bytes, ih, Utf8.encode_cons,
      List.reverse_append, List.append_assoc]
  | letter hc _ ih =>
    rw [encode_letter hc, List.cons_append, List.cons_append,
      readStringOnto_escape (readEscape_letter hc _), ih, Utf8.encode_cons, List.reverse_append,
      List.append_assoc]
  | number hds hhigh hlow _ ih =>
    rw [encode_number, List.cons_append, List.cons_append, List.append_assoc,
      readStringOnto_escape (readEscape_number hds hhigh hlow _), ih, Utf8.encode_cons,
      List.reverse_append, List.append_assoc]
  | @pair ds ds' high low raw s hds hhigh hds' hlow _ ih =>
    have hescape : readEscape (117 :: (Utf8.encode ds ++ (92 :: 117 ::
        (Utf8.encode ds' ++ (Utf8.encode raw ++ 34 :: rest))))) =
        .ok (String.utf8EncodeChar (pairOf high low), Utf8.encode raw ++ 34 :: rest) := by
      rw [readEscape_high hds hhigh, readLowSurrogate_pair hds' hlow]
    rw [encode_number, encode_number]
    simp only [List.cons_append, List.append_assoc]
    rw [readStringOnto_escape hescape, ih, Utf8.encode_cons, List.reverse_append, List.append_assoc]

theorem Says.readString {raw : List Char} {s : String} (h : Says raw s.toList)
    (rest : List UInt8) : readString (Utf8.encode raw ++ 34 :: rest) = .ok (s, rest) := by
  rw [Json.readString, h.readStringOnto]
  simp [Utf8.toText?, Utf8.decode?_encode]

/-- A string stands for one text at most. -/
theorem Says.unique {raw : List Char} {s s' : String} (h : Says raw s.toList)
    (h' : Says raw s'.toList) : s = s' := by
  have hread := h.readString []
  rw [h'.readString] at hread
  exact (Prod.mk.inj (Except.ok.inj hread)).1.symm

/-- The second half of a pair is read only from an escape for it. -/
theorem Quoted.exists_low {raw : List Char} (h : Quoted raw) {high : Nat} {out bs : List UInt8}
    (hread : readLowSurrogate high (Utf8.encode raw ++ 34 :: rest) = .ok (out, bs)) :
    ∃ ds low raw', raw = '\\' :: 'u' :: (ds ++ raw') ∧ Hex ds low ∧ IsLow low ∧ Quoted raw' := by
  cases h with
  | nil =>
    rw [Utf8.encode_nil, List.nil_append, readLowSurrogate_other (by decide)] at hread
    cases hread
  | @plain c raw hc =>
    obtain ⟨b, bs', hbytes⟩ : ∃ b bs', String.utf8EncodeChar c = b :: bs' :=
      List.exists_cons_of_ne_nil (by
        intro hnil
        have hlength := congrArg List.length hnil
        have hpos := c.utf8Size_pos
        rw [String.length_utf8EncodeChar, List.length_nil] at hlength
        omega)
    have hb : b ≠ 92 := (hc.bytes b (by rw [hbytes]; exact List.mem_cons_self)).2.1
    rw [Utf8.encode_cons, hbytes, List.cons_append, List.cons_append,
      readLowSurrogate_other hb] at hread
    cases hread
  | @letter c d raw hc =>
    obtain ⟨hu, hascii, -, -⟩ := escaped?_of_letter? hc
    have hu : UInt8.ofNat c.toNat ≠ 117 := ofNat_toNat_ne hascii (by decide : 'u'.toNat < _) hu
    rw [encode_letter hc, List.cons_append, List.cons_append, readLowSurrogate,
      if_neg (by decide)] at hread
    simp only [if_pos hu] at hread
    cases hread
  | @number ds low raw hds hraw =>
    refine ⟨ds, low, raw, rfl, hds, ?_, hraw⟩
    rw [encode_number, List.cons_append, List.cons_append, List.append_assoc, readLowSurrogate,
      if_neg (by decide)] at hread
    simp only [ne_eq, not_true_eq_false, if_false, hds.readHex] at hread
    split at hread
    · assumption
    · cases hread

/-- A string that is read stands for some text. -/
theorem Quoted.exists_text {raw : List Char} (h : Quoted raw) {acc out bs : List UInt8}
    (hread : readStringOnto acc (Utf8.encode raw ++ 34 :: rest) = .ok (out, bs)) :
    ∃ s, Says raw s := by
  -- a pair takes two escapes at once, so the induction is on the length
  induction hlength : raw.length using Nat.strongRecOn generalizing raw acc with
  | ind n ih =>
    subst hlength
    cases h with
    | nil => exact ⟨[], .nil⟩
    | @plain c raw hc h =>
      rw [Utf8.encode_cons, List.append_assoc, readStringOnto_plains hc.bytes] at hread
      obtain ⟨s, hs⟩ := ih raw.length (by simp) h hread rfl
      exact ⟨c :: s, .plain hc hs⟩
    | @letter c d raw hc h =>
      rw [encode_letter hc, List.cons_append, List.cons_append,
        readStringOnto_escape (readEscape_letter hc _)] at hread
      obtain ⟨s, hs⟩ := ih raw.length (by simp only [List.length_cons]; omega) h hread rfl
      exact ⟨d :: s, .letter hc hs⟩
    | @number ds n raw hds h =>
      rw [encode_number, List.cons_append, List.cons_append, List.append_assoc] at hread
      by_cases hlow : IsLow n
      · rw [readStringOnto_escape_error (readEscape_low hds hlow _)] at hread
        cases hread
      by_cases hhigh : IsHigh n
      · cases hescape : readLowSurrogate n (Utf8.encode raw ++ 34 :: rest) with
        | error f =>
          rw [readStringOnto_escape_error ((readEscape_high hds hhigh _).trans hescape)] at hread
          cases hread
        | ok p =>
          obtain ⟨ds', low, raw, rfl, hds', hlow', h⟩ := h.exists_low hescape
          rw [encode_number, List.cons_append, List.cons_append, List.append_assoc,
            readStringOnto_escape ((readEscape_high hds hhigh _).trans
              (readLowSurrogate_pair hds' hlow' _))] at hread
          obtain ⟨s, hs⟩ := ih raw.length
            (by simp only [List.length_cons, List.length_append]; omega) h hread rfl
          exact ⟨_, .pair hds hhigh hds' hlow' hs⟩
      · rw [readStringOnto_escape (readEscape_number hds hhigh hlow _)] at hread
        obtain ⟨s, hs⟩ := ih raw.length
          (by simp only [List.length_cons, List.length_append]; omega) h hread rfl
        exact ⟨_, .number hds hhigh hlow hs⟩

/-- A string is read if it stands for a text, and then as this text. -/
theorem Quoted.readString_eq_ok_iff {raw : List Char} (h : Quoted raw) {p : String × List UInt8} :
    readString (Utf8.encode raw ++ 34 :: rest) = .ok p ↔ Says raw p.1.toList ∧ p.2 = rest := by
  constructor
  · intro hread
    obtain ⟨s, hs⟩ : ∃ s, Says raw s := by
      unfold readString at hread
      split at hread
      · cases hread
      · rename_i hread'
        exact h.exists_text hread'
    have hs : Says raw (String.ofList s).toList := by rwa [String.toList_ofList]
    rw [hs.readString] at hread
    cases hread
    exact ⟨hs, rfl⟩
  · rintro ⟨hs, rfl⟩
    exact hs.readString p.2

/-! ## Texts that may be left out -/

/-- A value is null or a string that stands for a text. -/
inductive OptionalText : List Char → Option String → Prop
  | null : OptionalText ['n', 'u', 'l', 'l'] none
  | text {raw : List Char} {s : String} (h : Says raw s.toList) :
    OptionalText ('"' :: (raw ++ ['"'])) (some s)

/-- What is found to be a string begins with a quote. -/
theorem eq_of_readFound_str {b : UInt8} {bs bs' : List UInt8} {s : String}
    (hspace : ¬ isSpace b = true) (h : readFound (b :: bs) = .ok (.str s, bs')) : b = 34 := by
  -- whatever is read of a literal or a number, it is no string
  have hother {α : Type} {result : Except Fault α} {f : α → Found × List UInt8}
      (hf : ∀ a, (f a).1 ≠ .str s) : result.map f ≠ .ok (.str s, bs') := by
    cases result with
    | error e => rintro ⟨⟩
    | ok a =>
      intro heq
      exact hf a (congrArg Prod.fst (Except.ok.inj heq))
  have hnumber (n : Number) : n.found ≠ .str s := by cases n <;> rintro ⟨⟩
  rw [readFound, skipSpace_cons hspace] at h
  simp only at h
  split at h
  · exact absurd h (hother fun _ => by rintro ⟨⟩)
  split at h
  · exact absurd h (hother fun _ => by rintro ⟨⟩)
  split at h
  · exact absurd h (hother fun _ => by rintro ⟨⟩)
  split at h
  · exact absurd h (hother fun p => hnumber p.1)
  split at h
  · exact absurd h (hother fun p => hnumber p.1)
  split at h
  · assumption
  split at h
  · cases h
  split at h
  · cases h
  · cases h

section

variable {value ws : List Char} {t : Option String} {bs' : List UInt8}

/-- A value that begins otherwise is neither null nor a string. -/
theorem readOptional_other {b : UInt8} {bs : List UInt8} (hbytes : Utf8.encode value = b :: bs)
    (hspace : ¬ isSpace b = true) (hnull : b ≠ 110) (hquote : b ≠ 34) (hws : Gap ws) :
    readOptional readText (Utf8.encode ws ++ (Utf8.encode value ++ rest)) = .ok (t, bs') ↔
      OptionalText value t ∧ bs' = rest := by
  refine iff_of_false (fun hread => ?_) ?_
  · rw [readOptional, hws.blank.skipSpace, hbytes, List.cons_append, skipSpace_cons hspace] at hread
    split at hread
    · rename_i heq
      exact hnull (List.cons.inj heq).1
    · rw [readText] at hread
      split at hread
      · cases hread
      · rename_i hfound
        exact hquote (eq_of_readFound_str hspace hfound)
      · cases hread
  · rintro ⟨htext, -⟩
    cases htext with
    | null => exact hnull (List.cons.inj hbytes).1.symm
    | text =>
      rw [Utf8.encode_cons_ascii (by decide)] at hbytes
      exact hquote (List.cons.inj hbytes).1.symm

theorem optionalText_null_iff : OptionalText ['n', 'u', 'l', 'l'] t ↔ t = none := by
  constructor
  · rintro ⟨⟩
    rfl
  · rintro rfl
    exact .null

theorem optionalText_string_iff {raw : List Char} :
    OptionalText ('"' :: (raw ++ ['"'])) t ↔ ∃ s : String, Says raw s.toList ∧ t = some s := by
  constructor
  · intro h
    generalize hvalue : '"' :: (raw ++ ['"']) = value at h
    cases h with
    | null => simp at hvalue
    | text h =>
      have hraw := List.append_cancel_right (List.cons.inj hvalue).2
      exact ⟨_, hraw ▸ h, rfl⟩
  · rintro ⟨s, h, rfl⟩
    exact .text h

theorem OptionalText.unique {t' : Option String} (h : OptionalText value t)
    (h' : OptionalText value t') : t = t' := by
  cases h with
  | null => exact (optionalText_null_iff.mp h').symm
  | text h =>
    obtain ⟨s, hs, rfl⟩ := optionalText_string_iff.mp h'
    rw [h.unique hs]

/-- A field reads null or a text, and nothing else. -/
theorem Value.readOptional_eq_ok_iff (h : Value value) (hws : Gap ws) :
    readOptional readText (Utf8.encode ws ++ (Utf8.encode value ++ rest)) = .ok (t, bs') ↔
      OptionalText value t ∧ bs' = rest := by
  cases h with
  | null =>
    have hread : readOptional readText (Utf8.encode ws ++ (110 :: 117 :: 108 :: 108 :: rest)) =
        .ok (none, rest) := by
      rw [readOptional, hws.blank.skipSpace]
      rfl
    change readOptional readText (Utf8.encode ws ++ (110 :: 117 :: 108 :: 108 :: rest)) = _ ↔ _
    rw [hread, optionalText_null_iff]
    simp [eq_comm]
  | yes => exact readOptional_other rfl (by decide) (by decide) (by decide) hws
  | no => exact readOptional_other rfl (by decide) (by decide) (by decide) hws
  | positive h =>
    obtain ⟨b, bs, hbytes, hdigit⟩ := h.head_byte
    exact readOptional_other hbytes (not_isSpace_of_isDigit hdigit)
      (ne_of_isDigit hdigit (by decide)) (ne_of_isDigit hdigit (by decide)) hws
  | negative | list | object =>
    exact readOptional_other (Utf8.encode_cons_ascii (by decide) _) (by decide) (by decide)
      (by decide) hws
  | @string raw h =>
    have hread : readOptional readText (Utf8.encode ws ++ (Utf8.encode ('"' :: (raw ++ ['"'])) ++
        rest)) = (readString (Utf8.encode raw ++ 34 :: rest)).map fun p => (some p.1, p.2) := by
      rw [readOptional, hws.blank.skipSpace, Utf8.encode_cons_ascii (by decide), List.cons_append,
        Utf8.encode_append, List.append_assoc, skipSpace_cons (by decide)]
      change (readText (34 :: (Utf8.encode raw ++ 34 :: rest))).map _ = _
      rw [readText, readFound_quote]
      cases readString (Utf8.encode raw ++ 34 :: rest) <;> rfl
    rw [hread, optionalText_string_iff, map_eq_ok_iff]
    constructor
    · rintro ⟨p, hp, heq⟩
      obtain ⟨hs, rfl⟩ := h.readString_eq_ok_iff.mp hp
      cases heq
      exact ⟨⟨p.1, hs, rfl⟩, rfl⟩
    · rintro ⟨⟨s, hs, rfl⟩, rfl⟩
      exact ⟨_, hs.readString _, rfl⟩

end

/-! ## Fields -/

/-- Fields that are texts and may be left out. -/
def textFields : List String → Fields
  | [] => .nil
  | key :: keys => .nullable key .text (textFields keys)

/-- What is known of fields by their keys: nothing, or what stood for the field. -/
abbrev Known := String → Option (Option String)

/-- What is known, field by field. -/
def Known.seen (known : Known) : (keys : List String) → (textFields keys).Seen
  | [] => ()
  | key :: keys => (known key, known.seen keys)

/-- The texts of the fields. -/
def Known.texts (known : Known) : (keys : List String) → (textFields keys).Val
  | [] => ()
  | key :: keys => ((known key).join, known.texts keys)

theorem unseen_textFields : (keys : List String) →
    (textFields keys).unseen = Known.seen (fun _ => none) keys
  | [] => rfl
  | _ :: keys => congrArg (Prod.mk none) (unseen_textFields keys)

theorem complete_nullable (key : String) (s : Shape) (fields : Fields) (v : Option (Option s.Val))
    (seen : fields.Seen) : (Fields.nullable key s fields).complete (v, seen) =
      (fields.complete seen).map fun vs => (v.join, vs) := by
  rw [Fields.complete]
  cases fields.complete seen <;> rfl

/-- No field has to be there. -/
theorem complete_textFields (known : Known) : (keys : List String) →
    (textFields keys).complete (known.seen keys) = .ok (known.texts keys)
  | [] => rfl
  | key :: keys => by
    have hkeys := complete_textFields known keys
    refine (complete_nullable key .text (textFields keys) (known key) (known.seen keys)).trans ?_
    rw [hkeys]
    rfl

variable {keys : List String} {known known' : Known} {name : String} {bs : List UInt8}

theorem Known.texts_eq_of_seen_eq (h : known.seen keys = known'.seen keys) :
    known.texts keys = known'.texts keys := by
  have hcomplete := complete_textFields known keys
  rw [h, complete_textFields] at hcomplete
  exact (Except.ok.inj hcomplete).symm

theorem Known.seen_update (h : name ∉ keys) (v : Option (Option String)) :
    Known.seen (Function.update known name v) keys = known.seen keys := by
  induction keys with
  | nil => rfl
  | cons key keys ih =>
    rw [List.mem_cons, not_or] at h
    change (Function.update known name v key, _) = (known key, known.seen keys)
    rw [Function.update_of_ne (Ne.symm h.1), ih h.2]

/-- A member with another key is passed over. -/
theorem readMember_other (h : name ∉ keys) (known : Known) (bs : List UInt8) :
    (textFields keys).readMember name (known.seen keys) bs =
      (readColon bs).bind fun bs => (skipValue bs).map (known.seen keys, ·) := by
  induction keys with
  | nil =>
    simp only [textFields, Fields.readMember]
    cases readColon bs <;> rfl
  | cons key keys ih =>
    rw [List.mem_cons, not_or] at h
    change (if name = key then _ else
      ((textFields keys).readMember name (known.seen keys) bs).map _) = _
    rw [if_neg h.1, ih h.2]
    cases readColon bs with
    | error f => rfl
    | ok bs => exact map_map ..

/-- A member with the key of a field is read as this field, unless it was read before. -/
theorem readMember_field (h : name ∈ keys) (hkeys : keys.Nodup) (known : Known)
    (bs : List UInt8) :
    (textFields keys).readMember name (known.seen keys) bs =
      (readField name (readOptional readText) (known name) bs).map fun p =>
        (Known.seen (Function.update known name p.1) keys, p.2) := by
  induction keys with
  | nil => cases h
  | cons key keys ih =>
    obtain ⟨hkey, hkeys⟩ := List.nodup_cons.mp hkeys
    change (if name = key then
        (readField key (readOptional readText) (known key) bs).map fun p =>
          ((p.1, known.seen keys), p.2)
      else ((textFields keys).readMember name (known.seen keys) bs).map fun p =>
        ((known key, p.1), p.2)) = _
    by_cases hname : name = key
    · subst hname
      rw [if_pos rfl]
      refine congrArg (Except.map · _) (funext fun p => ?_)
      change _ = ((Function.update known name p.1 name, _), p.2)
      rw [Function.update_self, Known.seen_update hkey]
    · have hmem : name ∈ keys := (List.mem_cons.mp h).resolve_left hname
      rw [if_neg hname, ih hmem hkeys, map_map]
      refine congrArg (Except.map · _) (funext fun p => ?_)
      change _ = ((Function.update known name p.1 key, _), p.2)
      rw [Function.update_of_ne (Ne.symm hname)]

/-! ## One member -/

/-- What is known once a member was read. -/
inductive Notes (keys : List String) (known : Known) : Member → Known → Prop
  | other {m : Member} {name : String} (h : Says m.key name.toList) (hname : name ∉ keys) :
    Notes keys known m known
  | field {m : Member} {name : String} {t : Option String} (h : Says m.key name.toList)
    (hname : name ∈ keys) (hnew : known name = none) (ht : OptionalText m.value t) :
    Notes keys known m (Function.update known name (some t))

theorem Notes.named {m : Member} (h : Notes keys known m known') :
    ∃ name : String, Says m.key name.toList := by
  cases h with
  | other h => exact ⟨_, h⟩
  | field h => exact ⟨_, h⟩

/-- What a member with a known key leads to. -/
theorem notes_iff {m : Member} (hname : Says m.key name.toList) :
    Notes keys known m known' ↔
      (name ∉ keys ∧ known' = known) ∨
      (name ∈ keys ∧ known name = none ∧
        ∃ t, OptionalText m.value t ∧ known' = Function.update known name (some t)) := by
  constructor
  · intro h
    cases h with
    | other h hother =>
      rw [h.unique hname] at hother
      exact .inl ⟨hother, rfl⟩
    | field h hmem hnew ht =>
      rw [h.unique hname] at hmem hnew ⊢
      exact .inr ⟨hmem, hnew, _, ht, rfl⟩
  · rintro (⟨hother, rfl⟩ | ⟨hmem, hnew, t, ht, rfl⟩)
    · exact .other hname hother
    · exact .field hname hmem hnew ht

theorem readColon_gap {ws : List Char} (h : Gap ws) (bs : List UInt8) :
    readColon (Utf8.encode ws ++ 58 :: bs) = .ok bs := by
  rw [readColon, h.blank.skipSpace, skipSpace_cons (by decide)]
  rfl

theorem readField_gap {α : Type} {ws : List Char} (key : String) (read : List UInt8 → Read α)
    (h : Gap ws) (bs : List UInt8) :
    readField key read none (Utf8.encode ws ++ 58 :: bs) =
      (read bs).map fun p => (some p.1, p.2) := by
  simp only [readField, readColon_gap h]

/-- A member is read as it is noted, up to what follows it. -/
theorem readMember_eq_ok_iff {m : Member} {ws ws' : List Char} {seen : (textFields keys).Seen}
    (hkeys : keys.Nodup) (hname : Says m.key name.toList) (hws : Gap ws) (hws' : Gap ws')
    (hvalue : Value m.value) (hrest : Follows rest) :
    (textFields keys).readMember name (known.seen keys)
        (Utf8.encode ws ++ 58 :: (Utf8.encode ws' ++ (Utf8.encode m.value ++ rest))) =
          .ok (seen, bs) ↔
      ∃ known', Notes keys known m known' ∧ seen = known'.seen keys ∧ bs = rest := by
  simp only [notes_iff hname]
  by_cases hmem : name ∈ keys
  · rw [readMember_field hmem hkeys]
    cases hnew : known name with
    | some t =>
      refine iff_of_false (by rintro ⟨⟩) ?_
      rintro ⟨known', ⟨hother, -⟩ | ⟨-, hnone, -⟩, -⟩
      · exact hother hmem
      · cases hnone
    | none =>
      rw [readField_gap _ _ hws, map_map, map_eq_ok_iff]
      constructor
      · rintro ⟨⟨t, bs'⟩, hread, heq⟩
        obtain ⟨ht, rfl⟩ := (hvalue.readOptional_eq_ok_iff hws').mp hread
        cases heq
        exact ⟨_, .inr ⟨hmem, rfl, t, ht, rfl⟩, rfl, rfl⟩
      · rintro ⟨known', ⟨hother, -⟩ | ⟨-, -, t, ht, rfl⟩, rfl, rfl⟩
        · exact absurd hmem hother
        · exact ⟨_, (hvalue.readOptional_eq_ok_iff hws').mpr ⟨ht, rfl⟩, rfl⟩
  · rw [readMember_other hmem, readColon_gap hws]
    change (skipValue _).map _ = _ ↔ _
    rw [hvalue.skipValue hws' hrest]
    constructor
    · rintro ⟨⟩
      exact ⟨known, .inl ⟨hmem, rfl⟩, rfl, rfl⟩
    · rintro ⟨known', ⟨-, rfl⟩ | ⟨hfield, -⟩, rfl, rfl⟩
      · rfl
      · exact absurd hfield hmem

/-! ## All members -/

/-- What is known once members were read one after the other. -/
inductive Collects (keys : List String) : Known → List Member → Known → Prop
  | nil {known : Known} : Collects keys known [] known
  | cons {known known' known'' : Known} {m : Member} {ms : List Member}
    (h : Notes keys known m known') (hmore : Collects keys known' ms known'') :
    Collects keys known (m :: ms) known''

/-- A round reads the end of an object, or a key, its member and further rounds. -/
theorem readMembers_succ_eq_ok_iff {σ : Type} {member : String → σ → List UInt8 → Read σ}
    {fuel : Nat} {first : Bool} {seen seen' : σ} {bs bs' : List UInt8} :
    readMembers member (fuel + 1) first seen bs = .ok (seen', bs') ↔
      (toKey first bs = .ok (none, bs') ∧ seen' = seen) ∨
      ∃ key bs₁ seen₁ bs₂, toKey first bs = .ok (some key, bs₁) ∧
        member key seen bs₁ = .ok (seen₁, bs₂) ∧
        readMembers member fuel false seen₁ bs₂ = .ok (seen', bs') := by
  rw [readMembers]
  cases toKey first bs with
  | error f => simp
  | ok p =>
    obtain ⟨_ | key, bs₁⟩ := p
    · simp [eq_comm, and_comm]
    · cases hmember : member key seen bs₁ with
      | error f => simp [hmember]
      | ok p =>
        obtain ⟨seen₁, bs₂⟩ := p
        simp [hmember]

/-- A key is read if it stands for a text. -/
theorem toKey_eq_ok_iff {first : Bool} {lead key : List Char} (h : Separates first lead)
    (hkey : Quoted key) {name? : Option String} {bs bs' : List UInt8} :
    toKey first (Utf8.encode lead ++ 34 :: (Utf8.encode key ++ 34 :: bs)) = .ok (name?, bs') ↔
      ∃ name, Says key name.toList ∧ name? = some name ∧ bs' = bs := by
  have hquote : ¬ isSpace 34 = true := by decide
  have hcomma : ¬ isSpace 44 = true := by decide
  have hread (bs : List UInt8) : toKey first (Utf8.encode lead ++ 34 :: bs) =
      (readString bs).map fun p => (some p.1, p.2) := by
    cases h with
    | first h =>
      rw [toKey, h.blank.skipSpace, skipSpace_cons hquote]
      rfl
    | @further ws ws' h h' =>
      have hbytes : Utf8.encode (ws ++ ',' :: ws') ++ 34 :: bs =
          Utf8.encode ws ++ 44 :: (Utf8.encode ws' ++ 34 :: bs) := by
        rw [Utf8.encode_append, Utf8.encode_cons_ascii (by decide), List.append_assoc]
        rfl
      rw [hbytes, toKey, h.blank.skipSpace, skipSpace_cons hcomma]
      simp only [h'.blank.skipSpace, skipSpace_cons hquote]
      rfl
  rw [hread, map_eq_ok_iff]
  constructor
  · rintro ⟨p, hp, heq⟩
    obtain ⟨hname, rfl⟩ := hkey.readString_eq_ok_iff.mp hp
    cases heq
    exact ⟨p.1, hname, rfl, rfl⟩
  · rintro ⟨name, hname, rfl, rfl⟩
    exact ⟨_, hname.readString _, rfl⟩

/-- Members are read as they are collected, up to the end of their object. -/
theorem readMembers_eq_ok_iff {first : Bool} {ms : List Member} {cs : List Char}
    (h : Members first ms cs) (hkeys : keys.Nodup) {fuel : Nat} (hfuel : ms.length < fuel)
    {seen : (textFields keys).Seen} :
    readMembers (textFields keys).readMember fuel first (known.seen keys)
        (Utf8.encode cs ++ rest) = .ok (seen, bs) ↔
      ∃ known', Collects keys known ms known' ∧ seen = known'.seen keys ∧ bs = 125 :: rest := by
  induction ms generalizing first cs fuel known with
  | nil =>
    obtain ⟨fuel, rfl⟩ := Nat.exists_eq_succ_of_ne_zero (Nat.ne_of_gt hfuel)
    cases h with
    | @nil _ ws hws =>
      have hend : toKey first (Utf8.encode (ws ++ ['\x7d']) ++ rest) = .ok (none, 125 :: rest) := by
        rw [Utf8.encode_append, List.append_assoc]
        exact toKey_blank_end hws.blank first rest
      rw [readMembers_succ_eq_ok_iff, hend]
      constructor
      · rintro (⟨⟨⟩, rfl⟩ | ⟨_, _, _, _, ⟨⟩, -⟩)
        exact ⟨known, .nil, rfl, rfl⟩
      · rintro ⟨known', ⟨⟩, rfl, rfl⟩
        exact .inl ⟨rfl, rfl⟩
  | cons m ms ih =>
    rw [List.length_cons] at hfuel
    obtain ⟨fuel, rfl⟩ := Nat.exists_eq_succ_of_ne_zero (show fuel ≠ 0 by omega)
    cases h with
    | @cons _ _ _ lead ws ws' further hlead hkey hws hws' hvalue hmore =>
      have hrest := hmore.follows rest
      have hfurther (known : Known) : readMembers (textFields keys).readMember fuel false
          (known.seen keys) (Utf8.encode further ++ rest) = .ok (seen, bs) ↔
            ∃ known', Collects keys known ms known' ∧ seen = known'.seen keys ∧ bs = 125 :: rest :=
        ih hmore (by omega)
      have hbytes : Utf8.encode (lead ++ '"' :: (m.key ++ '"' :: (ws ++ ':' ::
          (ws' ++ (m.value ++ further))))) ++ rest =
          Utf8.encode lead ++ 34 :: (Utf8.encode m.key ++ 34 :: (Utf8.encode ws ++ 58 ::
            (Utf8.encode ws' ++ (Utf8.encode m.value ++ (Utf8.encode further ++ rest))))) := by
        simp only [Utf8.encode_append, Utf8.encode_cons, List.append_assoc]
        rfl
      rw [hbytes, readMembers_succ_eq_ok_iff]
      simp only [toKey_eq_ok_iff hlead hkey]
      constructor
      · rintro (⟨⟨_, _, ⟨⟩, -⟩, -⟩ | ⟨name, _, seen₁, bs₂, ⟨_, hname, ⟨⟩, rfl⟩, hmember, hread⟩)
        obtain ⟨known', hnotes, rfl, rfl⟩ :=
          (readMember_eq_ok_iff hkeys hname hws hws' hvalue hrest).mp hmember
        obtain ⟨known'', hcollects, hseen, hbs⟩ := (hfurther known').mp hread
        exact ⟨known'', .cons hnotes hcollects, hseen, hbs⟩
      · rintro ⟨known'', hcollects, hseen, hbs⟩
        cases hcollects with
        | @cons _ known' _ _ _ hnotes hcollects =>
          obtain ⟨name, hname⟩ := hnotes.named
          exact .inr ⟨name, _, _, _, ⟨name, hname, rfl, rfl⟩,
            (readMember_eq_ok_iff hkeys hname hws hws' hvalue hrest).mpr ⟨known', hnotes, rfl, rfl⟩,
            (hfurther known').mpr ⟨known'', hcollects, hseen, hbs⟩⟩

/-! ## Whole objects -/

/-- Every member takes a character at least, and so does the end. -/
theorem Members.length_lt {first : Bool} {ms : List Member} {cs : List Char}
    (h : Members first ms cs) : ms.length < cs.length := by
  induction ms generalizing first cs with
  | nil =>
    cases h with
    | nil => simp
  | cons m ms ih =>
    cases h with
    | cons _ _ _ _ _ hmore =>
      have hfurther := ih hmore
      simp only [List.length_append, List.length_cons]
      omega

/-- A text that is an object is read as its members are collected. -/
theorem IsObject.read_eq_ok_iff {text : List Char} {ms : List Member} (h : IsObject text ms)
    (hkeys : keys.Nodup) (called : String) {vs : (textFields keys).Val} :
    endText ((Shape.record called (textFields keys)).read (Utf8.encode text)) = .ok vs ↔
      ∃ known, Collects keys (fun _ => none) ms known ∧ vs = known.texts keys := by
  obtain ⟨ws, cs, ws', hws, hmembers, hws', rfl⟩ := h
  have hfuel : ms.length < (Utf8.encode cs ++ Utf8.encode ws').length := by
    have hbytes := Utf8.length_le_length_encode cs
    have hlength := hmembers.length_lt
    rw [List.length_append]
    omega
  have hcollected (p : (textFields keys).Seen × List UInt8) :
      readMembers (textFields keys).readMember (Utf8.encode cs ++ Utf8.encode ws').length true
          (Known.seen (fun _ => none) keys) (Utf8.encode cs ++ Utf8.encode ws') = .ok p ↔
        ∃ known, Collects keys (fun _ => none) ms known ∧ p.1 = known.seen keys ∧
          p.2 = 125 :: Utf8.encode ws' :=
    readMembers_eq_ok_iff hmembers hkeys hfuel
  have hopen (bs : List UInt8) : skipSpace (123 :: bs) = 123 :: bs := rfl
  have hbytes : Utf8.encode (ws ++ '\x7b' :: (cs ++ ws')) =
      Utf8.encode ws ++ 123 :: (Utf8.encode cs ++ Utf8.encode ws') := by
    rw [Utf8.encode_append, Utf8.encode_cons_ascii (by decide), Utf8.encode_append]
    rfl
  rw [hbytes, Shape.read]
  simp only [readRecord, hws.blank.skipSpace, hopen, unseen_textFields]
  cases hread : readMembers (textFields keys).readMember
      (Utf8.encode cs ++ Utf8.encode ws').length true (Known.seen (fun _ => none) keys)
      (Utf8.encode cs ++ Utf8.encode ws') with
  | error f =>
    refine iff_of_false (by rintro ⟨⟩) ?_
    rintro ⟨known, hcollects, -⟩
    cases ((hcollected (_, _)).mpr ⟨known, hcollects, rfl, rfl⟩).symm.trans hread
  | ok p =>
    obtain ⟨seen, bs⟩ := p
    obtain ⟨known, hcollects, rfl, rfl⟩ := (hcollected (seen, bs)).mp hread
    have hspace : skipSpace (Utf8.encode ws') = [] := by
      have hblank := hws'.blank.skipSpace []
      rwa [List.append_nil] at hblank
    have hend : endObject (125 :: Utf8.encode ws') = .ok (Utf8.encode ws') := rfl
    simp only [complete_textFields, hend]
    change endText (.ok (known.texts keys, Utf8.encode ws')) = _ ↔ _
    simp only [endText, hspace]
    constructor
    · rintro ⟨⟩
      exact ⟨known, hcollects, rfl⟩
    · rintro ⟨known', hcollects', rfl⟩
      have hread' := (hcollected (_, _)).mpr ⟨known', hcollects', rfl, rfl⟩
      have hseen : known.seen keys = known'.seen keys :=
        (Prod.mk.inj (Except.ok.inj (hread.symm.trans hread'))).1
      exact congrArg Except.ok (Known.texts_eq_of_seen_eq hseen)

/-! ## What may stand in the way -/

/-- The members of an object let some fields be read: each key stands for a text, no field comes
twice, and each field is null or a text. -/
structure Legible (keys : List String) (ms : List Member) : Prop where
  named : ∀ m ∈ ms, ∃ name : String, Says m.key name.toList
  once : ms.Pairwise fun m m' => ∀ name ∈ keys,
    Says m.key name.toList → ¬ Says m'.key name.toList
  texts : ∀ m ∈ ms, ∀ name ∈ keys, Says m.key name.toList → ∃ t, OptionalText m.value t

/-- What is known of a field stays known. -/
theorem Collects.known_of_some {ms : List Member} {t : Option String}
    (h : Collects keys known ms known') (ht : known name = some t) : known' name = some t := by
  induction h with
  | nil => exact ht
  | cons hnotes _ ih =>
    refine ih ?_
    cases hnotes with
    | other => exact ht
    | @field name' _ _ _ hnew =>
      have hne : name ≠ name' := by
        rintro rfl
        cases ht.symm.trans hnew
      rw [Function.update_of_ne hne, ht]

/-- The text of a field is known once its member was read. -/
theorem Collects.known_of_mem {ms : List Member} {m : Member} {t : Option String}
    (h : Collects keys known ms known') (hm : m ∈ ms) (hname : name ∈ keys)
    (hspelt : Says m.key name.toList) (ht : OptionalText m.value t) : known' name = some t := by
  induction h with
  | nil => cases hm
  | cons hnotes hmore ih =>
    rcases List.mem_cons.mp hm with rfl | hm
    · rcases (notes_iff hspelt).mp hnotes with ⟨hother, -⟩ | ⟨-, -, t', ht', rfl⟩
      · exact absurd hname hother
      · refine hmore.known_of_some ?_
        rw [Function.update_self, ht'.unique ht]
    · exact ih hm

/-- Members that are collected let the fields be read, and none of these was known before. -/
theorem Collects.legible {ms : List Member} (h : Collects keys known ms known') :
    Legible keys ms ∧
      ∀ m ∈ ms, ∀ name ∈ keys, Says m.key name.toList → known name = none := by
  induction h with
  | nil => exact ⟨⟨by simp, .nil, by simp⟩, by simp⟩
  | @cons known _ _ m ms hnotes _ ih =>
    obtain ⟨⟨hnamed, honce, htexts⟩, hnew⟩ := ih
    obtain ⟨name, hname⟩ := hnotes.named
    have hself : ∀ name' ∈ keys, Says m.key name'.toList →
        known name' = none ∧ ∃ t, OptionalText m.value t := by
      intro name' hmem' hname'
      rcases (notes_iff hname').mp hnotes with ⟨hother, -⟩ | ⟨-, hnone, t, ht, -⟩
      · exact absurd hmem' hother
      · exact ⟨hnone, t, ht⟩
    -- a field that is known by now does not come again
    have hafter : ∀ m' ∈ ms, ∀ name' ∈ keys, Says m'.key name'.toList →
        known name' = none ∧ ¬ Says m.key name'.toList := by
      intro m' hm' name' hmem' hname'
      have hnone := hnew m' hm' name' hmem' hname'
      rcases (notes_iff hname).mp hnotes with ⟨hother, rfl⟩ | ⟨-, -, t, -, rfl⟩
      · exact ⟨hnone, fun h => hother (h.unique hname ▸ hmem')⟩
      · have hne : name' ≠ name := by
          rintro rfl
          rw [Function.update_self] at hnone
          cases hnone
        rw [Function.update_of_ne hne] at hnone
        exact ⟨hnone, fun h => hne (h.unique hname)⟩
    refine ⟨⟨?_, ?_, ?_⟩, ?_⟩
    · exact List.forall_mem_cons.mpr ⟨⟨name, hname⟩, hnamed⟩
    · refine List.pairwise_cons.mpr ⟨fun m' hm' name' hmem' hspelt hspelt' => ?_, honce⟩
      exact (hafter m' hm' name' hmem' hspelt').2 hspelt
    · exact List.forall_mem_cons.mpr ⟨fun name' hmem' h => (hself name' hmem' h).2, htexts⟩
    · exact List.forall_mem_cons.mpr ⟨fun name' hmem' h => (hself name' hmem' h).1,
        fun m' hm' name' hmem' h => (hafter m' hm' name' hmem' h).1⟩

/-- Members that let the fields be read are collected as long as none of these is known. -/
theorem Legible.exists_collects {ms : List Member} (h : Legible keys ms)
    (hnew : ∀ m ∈ ms, ∀ name ∈ keys, Says m.key name.toList → known name = none) :
    ∃ known', Collects keys known ms known' := by
  induction ms generalizing known with
  | nil => exact ⟨known, .nil⟩
  | cons m ms ih =>
    obtain ⟨hnamed, honce, htexts⟩ := h
    obtain ⟨⟨name, hname⟩, hnamed⟩ := List.forall_mem_cons.mp hnamed
    obtain ⟨hapart, honce⟩ := List.pairwise_cons.mp honce
    obtain ⟨htext, htexts⟩ := List.forall_mem_cons.mp htexts
    obtain ⟨hnewself, hnew⟩ := List.forall_mem_cons.mp hnew
    by_cases hmem : name ∈ keys
    · obtain ⟨t, ht⟩ := htext name hmem hname
      have hnew' : ∀ m' ∈ ms, ∀ name' ∈ keys, Says m'.key name'.toList →
          Function.update known name (some t) name' = none := by
        intro m' hm' name' hmem' hname'
        have hne : name' ≠ name := by
          rintro rfl
          exact hapart m' hm' name' hmem hname hname'
        rw [Function.update_of_ne hne]
        exact hnew m' hm' name' hmem' hname'
      obtain ⟨known', hmore⟩ := ih ⟨hnamed, honce, htexts⟩ hnew'
      exact ⟨known', .cons (.field hname hmem (hnewself name hmem hname) ht) hmore⟩
    · obtain ⟨known', hmore⟩ := ih ⟨hnamed, honce, htexts⟩ hnew
      exact ⟨known', .cons (.other hname hmem) hmore⟩

end CodeFlow.Json
