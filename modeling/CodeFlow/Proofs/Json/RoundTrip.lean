import CodeFlow.Proofs.Json.Spelling
import CodeFlow.Proofs.Time.Rfc3339

/-!
# Documents read back

A reader of a shape takes a value of the shape from every text that spells the value's JSON, and so
from both written forms. The keys of a record must differ, and what may be null must not be written
as null otherwise. The reader of any JSON takes objects of texts in the same way.
-/

namespace CodeFlow.Json

open CodeFlow.Text

/-- A reader takes a value from every text that spells a JSON value, whatever white space stands
before it, and leaves what follows. -/
def Takes {α : Type} (read : List UInt8 → Read α) (j : Json) (v : α) : Prop :=
  ∀ {ws text rest : List UInt8}, Blank ws → Spells j text → Follows rest →
    read (ws ++ (text ++ rest)) = .ok (v, rest)

theorem map_map {ε α β γ : Type} (x : Except ε α) (f : α → β) (g : β → γ) :
    (x.map f).map g = x.map fun a => g (f a) := by
  cases x <;> rfl

theorem map_eq_ok_iff {ε α β : Type} {x : Except ε α} {f : α → β} {b : β} :
    x.map f = .ok b ↔ ∃ a, x = .ok a ∧ f a = b := by
  cases x <;> simp [Except.map]

/-! ## Scalars -/

theorem readFound_blank {ws : List UInt8} (h : Blank ws) (bs : List UInt8) :
    readFound (ws ++ bs) = readFound bs := by
  rw [readFound, readFound, h.skipSpace]

theorem takes_text (s : String) : Takes readText (.str s) s := by
  intro ws text rest hws h _
  cases h
  rw [readText, readFound_blank hws, readFound_writeString]

theorem takes_instant (t : Time.Instant) : Takes readInstant (.str t.toText) t := by
  intro ws text rest hws h _
  cases h
  have hread : Time.Instant.read t.toText.toList = .ok t := by
    rw [Time.Instant.toText, String.toList_ofList, Time.Instant.read_write]
  rw [readInstant, readFound_blank hws, readFound_writeString]
  simp only [hread]

/-- A number of at most 64 bits is taken by every reader that has it in its range. -/
theorem takes_int {α : Type} {ofInt? : Int → Option α} {n : Int} {v : α} (hv : ofInt? n = some v)
    (hlow : -9223372036854775808 ≤ n) (hhigh : n < 18446744073709551616) (expected : String) :
    Takes (readInt expected ofInt?) (.int n) v := by
  intro ws text rest hws h hrest
  cases h
  rw [readInt, readFound_blank hws, readFound_writeInt hlow hhigh hrest]
  simp only [hv]

theorem toInt64?_toInt (n : Int64) : toInt64? n.toInt = some n := by
  have hlow : -9223372036854775808 ≤ n.toInt := n.le_toInt
  have hhigh : n.toInt < 9223372036854775808 := n.toInt_lt
  rw [toInt64?, if_pos ⟨hlow, hhigh⟩, Int64.ofInt_toInt]

/-! ## Values that may be null -/

section

variable {α : Type} {read : List UInt8 → Read α}

theorem takes_none (read : List UInt8 → Read α) : Takes (readOptional read) .null none := by
  intro ws text rest hws h _
  cases h
  rw [readOptional, hws.skipSpace]
  rfl

/-- What is not written as null is not taken for null. -/
theorem takes_some {j : Json} {v : α} (h : Takes read j v) (hnull : j ≠ .null)
    (hfloat : ∀ x, j ≠ .float x) : Takes (readOptional read) j (some v) := by
  intro ws text rest hws hspells hrest
  have hread := h Blank.nil hspells hrest
  obtain ⟨b, bs, rfl, hspace, -, hb⟩ := hspells.head hfloat
  rw [List.nil_append, List.cons_append] at hread
  rw [readOptional, hws.skipSpace, List.cons_append, skipSpace, List.dropWhile_cons_of_neg hspace]
  split
  · rename_i heq
    cases heq
    exact absurd rfl (hb hnull)
  · rw [hread]
    rfl

end

/-! ## Lists -/

theorem toItem_lead {first : Bool} {lead : List UInt8} (h : Lead first lead) {b : UInt8}
    (hspace : ¬ isSpace b = true) (hend : b ≠ 93) (bs : List UInt8) :
    toItem first (lead ++ b :: bs) = .ok (true, b :: bs) := by
  have hskip : skipSpace (b :: bs) = b :: bs := List.dropWhile_cons_of_neg hspace
  obtain ⟨ws, hws, rfl⟩ := h
  cases first with
  | true =>
    simp only [toItem, if_true, hws.skipSpace, hskip, hend, if_false]
  | false =>
    have hcomma : skipSpace (44 :: (ws ++ b :: bs)) = 44 :: (ws ++ b :: bs) := rfl
    simp only [toItem, Bool.false_eq_true, if_false, List.cons_append, hcomma, hws.skipSpace, hskip,
      hend, if_true]
    rfl

theorem toItem_end {ws : List UInt8} (h : Blank ws) (first : Bool) (rest : List UInt8) :
    toItem first (ws ++ 93 :: rest) = .ok (false, 93 :: rest) := by
  rw [toItem, h.skipSpace]
  rfl

/-- The items of a list are taken one by one, and the list's end is left. -/
theorem readItems_spelled {α : Type} {item : List UInt8 → Read α} {toJson : α → Json}
    (hitem : ∀ v, Takes item (toJson v) v) (hfloat : ∀ v x, toJson v ≠ .float x) {first : Bool}
    {vs : List α} {text : List UInt8} (h : SpellsItems first (vs.map toJson) text) {fuel : Nat}
    (hfuel : text.length ≤ fuel) (rest : List UInt8) :
    readItems item fuel first (text ++ rest) = .ok (vs, 93 :: rest) := by
  -- every item takes a byte at least, and so does the end, so that the rounds last
  induction vs generalizing first text fuel with
  | nil =>
    rw [List.map_nil] at h
    cases h with
    | nil hws =>
      rw [List.length_append, List.length_singleton] at hfuel
      obtain ⟨fuel, rfl⟩ := Nat.exists_eq_succ_of_ne_zero (show fuel ≠ 0 by omega)
      rw [List.append_assoc, List.singleton_append, readItems, toItem_end hws]
  | cons v vs ih =>
    rw [List.map_cons] at h
    cases h with
    | cons hlead hspells hfurther =>
      rename_i lead text further
      have hread := hitem v Blank.nil hspells (hfurther.follows rest)
      obtain ⟨b, bs, rfl, hspace, hend, -⟩ := hspells.head (hfloat v)
      simp only [List.length_append, List.length_cons] at hfuel
      obtain ⟨fuel, rfl⟩ := Nat.exists_eq_succ_of_ne_zero (show fuel ≠ 0 by omega)
      have hmore := ih hfurther (show further.length ≤ fuel by omega)
      simp only [List.append_assoc, List.cons_append, List.nil_append] at hread ⊢
      rw [readItems, toItem_lead hlead hspace hend]
      simp only [hread, hmore]

theorem takes_list {α : Type} {item : List UInt8 → Read α} {toJson : α → Json}
    (hitem : ∀ v, Takes item (toJson v) v) (hfloat : ∀ v x, toJson v ≠ .float x) (vs : List α) :
    Takes (readList item) (.arr (vs.map toJson)) vs := by
  intro ws text rest hws h _
  cases h with
  | arr h =>
    rename_i text
    have hread := readItems_spelled hitem hfloat h
      (show text.length ≤ (text ++ rest).length by simp) rest
    have hopen : skipSpace (91 :: (text ++ rest)) = 91 :: (text ++ rest) := rfl
    have hend : endList (93 :: rest) = .ok rest := rfl
    simp only [readList, hws.skipSpace, List.cons_append, hopen, hread, hend]

/-! ## Members -/

theorem toKey_lead {first : Bool} {lead : List UInt8} (h : Lead first lead) (key : String)
    (rest : List UInt8) :
    toKey first (lead ++ (Utf8.encode (writeString key) ++ rest)) = .ok (some key, rest) := by
  obtain ⟨ws, hws, rfl⟩ := h
  have hread := readString_escaped key rest
  have hskip (bs : List UInt8) : skipSpace (34 :: bs) = 34 :: bs := rfl
  rw [encode_writeString, List.cons_append, List.append_assoc, List.singleton_append]
  cases first with
  | true =>
    simp only [toKey, if_true, hws.skipSpace, hskip, hread]
    rfl
  | false =>
    have hcomma (bs : List UInt8) : skipSpace (44 :: bs) = 44 :: bs := rfl
    simp only [toKey, Bool.false_eq_true, if_false, List.cons_append, hcomma, hws.skipSpace, hskip,
      hread]
    rfl

theorem toKey_blank_end {ws : List UInt8} (h : Blank ws) (first : Bool) (rest : List UInt8) :
    toKey first (ws ++ 125 :: rest) = .ok (none, 125 :: rest) := by
  rw [toKey, h.skipSpace]
  rfl

/-- A member whose key was not seen before is taken as its value is. -/
theorem readField_spelled {α : Type} {read : List UInt8 → Read α} {j : Json} {v : α}
    (h : Takes read j v) (key : String) {ws text rest : List UInt8} (hws : Blank ws)
    (hspells : Spells j text) (hrest : Follows rest) :
    readField key read none (58 :: (ws ++ (text ++ rest))) = .ok (some v, rest) := by
  have hcolon : readColon (58 :: (ws ++ (text ++ rest))) = .ok (ws ++ (text ++ rest)) := rfl
  simp only [readField, hcolon, h hws hspells hrest]
  rfl

section

variable {σ α : Type} {member : String → σ → List UInt8 → Read σ} {first : Bool}
  {ms : List (String × Json)} {text : List UInt8} {fuel : Nat} {rest : List UInt8}

theorem readMembers_end (seen : σ) (h : SpellsMembers first [] text) (hfuel : text.length ≤ fuel) :
    readMembers member fuel first seen (text ++ rest) = .ok (seen, 125 :: rest) := by
  cases h with
  | nil hws =>
    rw [List.length_append, List.length_singleton] at hfuel
    obtain ⟨fuel, rfl⟩ := Nat.exists_eq_succ_of_ne_zero (show fuel ≠ 0 by omega)
    rw [List.append_assoc, List.singleton_append, readMembers, toKey_blank_end hws]

/-- A member that is handled as a field is taken, and the further members are what is left. -/
theorem readMembers_field {read : List UInt8 → Read α} {key : String} {j : Json} {v : α}
    {seen : σ} (put : Option α → σ) (hread : Takes read j v)
    (hmember : ∀ bs, member key seen bs =
      (readField key read none bs).map fun p => (put p.1, p.2))
    (h : SpellsMembers first ((key, j) :: ms) text) (hfuel : text.length ≤ fuel)
    {result : Read σ}
    (hfurther : ∀ {further : List UInt8} {fuel : Nat}, SpellsMembers false ms further →
      further.length ≤ fuel →
        readMembers member fuel false (put (some v)) (further ++ rest) = result) :
    readMembers member fuel first seen (text ++ rest) = result := by
  cases h with
  | cons hlead hws hspells hmore =>
    rename_i lead ws text further
    simp only [List.length_append, List.length_cons] at hfuel
    obtain ⟨fuel, rfl⟩ := Nat.exists_eq_succ_of_ne_zero (show fuel ≠ 0 by omega)
    have hfield := readField_spelled hread key hws hspells (hmore.follows rest)
    simp only [List.append_assoc, List.cons_append]
    rw [readMembers, toKey_lead hlead]
    simp only [hmember, hfield]
    exact hfurther hmore (by omega)

end

/-! ## Objects of texts -/

/-- Texts as members of an object. -/
def textMembers (ms : List (String × String)) : List (String × Json) :=
  ms.map fun m => (m.1, .str m.2)

theorem takes_anyText (depth : Nat) (s : String) : Takes (readValue depth) (.str s) (.str s) := by
  intro ws text rest hws h _
  cases h
  cases depth <;> simp only [readValue, readFound_blank hws, readFound_writeString, Found.scalar?]

/-- A member of any object is read as a field whose key was not seen before. -/
theorem readAnyMember_eq (value : List UInt8 → Read Json) (key : String)
    (seen : List (String × Json)) (bs : List UInt8) : readAnyMember value key seen bs =
      (readField key value none bs).map fun p => ((key, p.1.getD .null) :: seen, p.2) := by
  unfold readAnyMember readField
  cases readColon bs with
  | error f => rfl
  | ok bs => simp only [map_map, Option.getD_some]

/-- Texts are taken one by one, each put before those that were taken. -/
theorem readMembers_texts (depth : Nat) {ms : List (String × String)} {first : Bool}
    {text : List UInt8} {fuel : Nat} (h : SpellsMembers first (textMembers ms) text)
    (hfuel : text.length ≤ fuel) (seen : List (String × Json)) (rest : List UInt8) :
    readMembers (readAnyMember (readValue depth)) fuel first seen (text ++ rest) =
      .ok ((textMembers ms).reverse ++ seen, 125 :: rest) := by
  induction ms generalizing first text fuel seen with
  | nil => exact readMembers_end seen h hfuel
  | cons m ms ih =>
    have hall : (textMembers (m :: ms)).reverse ++ seen =
        (textMembers ms).reverse ++ (m.1, .str m.2) :: seen := by
      simp [textMembers]
    rw [hall]
    exact readMembers_field (fun v => (m.1, v.getD .null) :: seen) (takes_anyText depth m.2)
      (readAnyMember_eq _ m.1 seen) h hfuel fun hfurther hfuel => ih hfurther hfuel _

/-- The compact form of an object of texts reads back, member by member. -/
theorem parse?_compact_texts (ms : List (String × String)) :
    parse? (compact (.obj (textMembers ms))) = some (.obj (textMembers ms)) := by
  have hspells := spells_write (.obj (textMembers ms))
  have hvalue : readValue depthLimit (Utf8.encode (write (.obj (textMembers ms)))) =
      .ok (.obj (textMembers ms), []) := by
    generalize Utf8.encode (write (.obj (textMembers ms))) = bytes at hspells
    cases hspells with
    | obj hmembers =>
      rename_i text
      have hread := readMembers_texts 126 hmembers (Nat.le_refl _) [] []
      have hopen : readValue depthLimit (123 :: text) =
        readNested (readValue 126) (123 :: text) := rfl
      rw [List.append_nil, List.append_nil] at hread
      simp only [hopen, readNested, hread, List.reverse_reverse]
      rfl
  simp only [parse?, readDocument, compact, Utf8.bytesOf, String.toList_ofList, hvalue]
  rfl

/-! ## Fields among members -/

/-- All that is known once the members of some values were read. -/
def Fields.seenOf : (fields : Fields) → fields.Val → fields.Seen
  | .nil, _ => ()
  | .required _ _ rest, (v, vs) => (some v, rest.seenOf vs)
  | .nullable _ _ rest, (v, vs) => (some v, rest.seenOf vs)
  | .defaulted _ _ rest, (v, vs) => (v, rest.seenOf vs)

/-- No field is missing then, and its values are complete. -/
theorem Fields.complete_seenOf :
    (fields : Fields) → (vs : fields.Val) → fields.complete (fields.seenOf vs) = .ok vs
  | .nil, () => rfl
  | .required key s rest, (v, vs) => by
    simp only [seenOf, complete, rest.complete_seenOf vs]
  | .nullable key s rest, (v, vs) => by
    simp only [seenOf, complete, rest.complete_seenOf vs, Option.join_some]
  | .defaulted key s rest, (v, vs) => by
    simp only [seenOf, complete, rest.complete_seenOf vs]

/-- Members with the keys of some fields are handled as these fields handle them, within what is
known in all. -/
def Fields.Within (fields : Fields) {σ : Type} (member : String → σ → List UInt8 → Read σ)
    (put : fields.Seen → σ) : Prop :=
  ∀ key ∈ fields.keys, ∀ seen bs,
    member key (put seen) bs = (fields.readMember key seen bs).map fun p => (put p.1, p.2)

section

variable {σ : Type} {member : String → σ → List UInt8 → Read σ} {fields rest : Fields}

theorem Fields.within_readMember (fields : Fields) : fields.Within fields.readMember id := by
  intro key _ seen bs
  cases h : fields.readMember key seen bs with
  | error f => simp only [id, h]; rfl
  | ok p => simp only [id, h]; rfl

/-- A first field takes the members with its key, and leaves those with other keys to the further
fields. -/
theorem Fields.Within.split {α : Type} {read : List UInt8 → Read α} {key : String}
    {put : fields.Seen → σ} (h : fields.Within member put)
    (hkeys : fields.keys = key :: rest.keys) (hkey : key ∉ rest.keys)
    (pair : Option α → rest.Seen → fields.Seen)
    (hread : ∀ k v seen bs, fields.readMember k (pair v seen) bs =
      if k = key then (readField key read v bs).map fun p => (pair p.1 seen, p.2)
      else (rest.readMember k seen bs).map fun p => (pair v p.1, p.2)) :
    (∀ bs, member key (put (pair none rest.unseen)) bs =
      (readField key read none bs).map fun p => (put (pair p.1 rest.unseen), p.2)) ∧
    ∀ v, rest.Within member fun seen => put (pair v seen) := by
  constructor
  · intro bs
    have hmem : key ∈ fields.keys := hkeys ▸ List.mem_cons_self
    rw [h key hmem, hread, if_pos rfl, map_map]
  · intro v k hk seen bs
    have hmem : k ∈ fields.keys := hkeys ▸ List.mem_cons_of_mem key hk
    rw [h k hmem, hread, if_neg (ne_of_mem_of_not_mem hk hkey), map_map]

end

/-! ## Values of a shape -/

/-- Values of the shape may be written as null. -/
def Shape.isOptional : Shape → Bool
  | .optional _ => true
  | _ => false

mutual

/-- Within a shape no two fields of a record have one key, and null is written for one thing only. -/
def Shape.Sound : Shape → Prop
  | .text => True
  | .instant => True
  | .unsigned _ => True
  | .signed => True
  | .optional s => s.isOptional = false ∧ s.Sound
  | .list s => s.Sound
  | .record _ fields => fields.Sound

/-- The same for some fields. -/
def Fields.Sound : Fields → Prop
  | .nil => True
  | .required key s rest => key ∉ rest.keys ∧ s.Sound ∧ rest.Sound
  | .nullable key s rest => key ∉ rest.keys ∧ (s.isOptional = false ∧ s.Sound) ∧ rest.Sound
  | .defaulted key s rest => key ∉ rest.keys ∧ s.Sound ∧ rest.Sound

end

theorem Shape.toJson_ne_null {s : Shape} (h : s.isOptional = false) (v : s.Val) :
    s.toJson v ≠ .null := by
  cases s <;> first | (simp only [toJson]; exact Json.noConfusion) | cases h

theorem Shape.toJson_ne_float : (s : Shape) → (v : s.Val) → (x : Float) → s.toJson v ≠ .float x
  | .optional s, some v, x => by
    rw [toJson]
    exact s.toJson_ne_float v x
  | .optional _, none, _ => by simp [toJson]
  | .text, _, _ => by simp [toJson]
  | .instant, _, _ => by simp [toJson]
  | .unsigned _, _, _ => by simp [toJson]
  | .signed, _, _ => by simp [toJson]
  | .list _, _, _ => by simp [toJson]
  | .record _ _, _, _ => by simp [toJson]

theorem takes_record {called : String} {fields : Fields} {vs : fields.Val}
    {elements : Bool → List UInt8 → Read fields.Val}
    (h : ∀ {text : List UInt8} {fuel : Nat}, SpellsMembers true (fields.toMembers vs) text →
      text.length ≤ fuel → ∀ rest, readMembers fields.readMember fuel true fields.unseen
        (text ++ rest) = .ok (fields.seenOf vs, 125 :: rest)) :
    Takes (readRecord called fields.unseen fields.readMember fields.complete elements)
      (.obj (fields.toMembers vs)) vs := by
  intro ws text rest hws hspells _
  cases hspells with
  | obj hmembers =>
    rename_i text
    have hread := h hmembers (show text.length ≤ (text ++ rest).length by simp) rest
    have hopen : skipSpace (123 :: (text ++ rest)) = 123 :: (text ++ rest) := rfl
    have hend : endObject (125 :: rest) = .ok rest := rfl
    simp only [readRecord, hws.skipSpace, List.cons_append, hopen, hread, fields.complete_seenOf,
      hend]
    rfl

theorem takes_optional {s : Shape} (hnull : s.isOptional = false)
    (h : ∀ v, Takes s.read (s.toJson v) v) (v : Option s.Val) :
    Takes (readOptional s.read) ((Shape.optional s).toJson v) v := by
  cases v with
  | none =>
    rw [Shape.toJson]
    exact takes_none s.read
  | some v =>
    rw [Shape.toJson]
    exact takes_some (h v) (Shape.toJson_ne_null hnull v) (s.toJson_ne_float v)

theorem Fields.toMembers_nullable (key : String) (s : Shape) (rest : Fields) (v : Option s.Val)
    (vs : rest.Val) : (Fields.nullable key s rest).toMembers (v, vs) =
      (key, (Shape.optional s).toJson v) :: rest.toMembers vs := by
  cases v <;> rfl

mutual

/-- A reader of a sound shape takes every value from the texts that spell it. -/
theorem Shape.takes : (s : Shape) → s.Sound → (v : s.Val) → Takes s.read (s.toJson v) v
  | .text, _, v => by
    rw [Shape.read, Shape.toJson]
    exact takes_text v
  | .instant, _, v => by
    rw [Shape.read, Shape.toJson]
    exact takes_instant v
  | .unsigned called, _, v => by
    have hlimit : v.toNat < 18446744073709551616 := v.toNat_lt
    rw [Shape.read, Shape.toJson]
    exact takes_int (toUInt64?_toNat v) (by omega) (by omega) called
  | .signed, _, v => by
    have hlow : -9223372036854775808 ≤ v.toInt := v.le_toInt
    have hhigh : v.toInt < 9223372036854775808 := v.toInt_lt
    rw [Shape.read, Shape.toJson]
    exact takes_int (toInt64?_toInt v) hlow (by omega) _
  | .optional s, ⟨hnull, hs⟩, v => by
    rw [Shape.read]
    exact takes_optional hnull (s.takes hs) v
  | .list s, hs, vs => by
    rw [Shape.read, Shape.toJson]
    exact takes_list (s.takes hs) s.toJson_ne_float vs
  | .record called fields, hfields, vs => by
    rw [Shape.read, Shape.toJson]
    exact takes_record fun h hfuel rest =>
      fields.readMembers_toMembers hfields fields.within_readMember vs h hfuel rest

/-- The members of some values are taken in their order, wherever the fields stand among others. -/
theorem Fields.readMembers_toMembers : (fields : Fields) → fields.Sound → {σ : Type} →
    {member : String → σ → List UInt8 → Read σ} → {put : fields.Seen → σ} →
    fields.Within member put → (vs : fields.Val) → {first : Bool} → {text : List UInt8} →
    {fuel : Nat} → SpellsMembers first (fields.toMembers vs) text → text.length ≤ fuel →
    (rest : List UInt8) → readMembers member fuel first (put fields.unseen) (text ++ rest) =
      .ok (put (fields.seenOf vs), 125 :: rest)
  | .nil, _, _, _, _, _, _, _, _, _, h, hfuel, rest => by
    rw [Fields.toMembers] at h
    exact readMembers_end _ h hfuel
  -- a field that was read becomes part of what the further fields are put into
  | .required key s fields, ⟨hkey, hs, hfields⟩, _, _, put, hwithin, (v, vs), _, _, _, h, hfuel,
      rest => by
    rw [Fields.toMembers] at h
    obtain ⟨hself, htail⟩ := hwithin.split rfl hkey Prod.mk fun _ _ _ _ => by rw [Fields.readMember]
    exact readMembers_field (fun v => put (v, fields.unseen)) (s.takes hs v) hself h hfuel
      fun hfurther hfuel =>
        fields.readMembers_toMembers hfields (htail (some v)) vs hfurther hfuel rest
  | .nullable key s fields, ⟨hkey, ⟨hnull, hs⟩, hfields⟩, _, _, put, hwithin, (v, vs), _, _, _, h,
      hfuel, rest => by
    rw [Fields.toMembers_nullable] at h
    obtain ⟨hself, htail⟩ := hwithin.split rfl hkey Prod.mk fun _ _ _ _ => by rw [Fields.readMember]
    exact readMembers_field (fun v => put (v, fields.unseen))
      (takes_optional hnull (s.takes hs) v) hself h hfuel fun hfurther hfuel =>
        fields.readMembers_toMembers hfields (htail (some v)) vs hfurther hfuel rest
  | .defaulted key s fields, ⟨hkey, hs, hfields⟩, _, _, _, hwithin, (none, vs), _, _, _, h, hfuel,
      rest => by
    rw [Fields.toMembers] at h
    obtain ⟨-, htail⟩ := hwithin.split rfl hkey Prod.mk fun _ _ _ _ => by rw [Fields.readMember]
    exact fields.readMembers_toMembers hfields (htail none) vs h hfuel rest
  | .defaulted key s fields, ⟨hkey, hs, hfields⟩, _, _, put, hwithin, (some v, vs), _, _, _, h,
      hfuel, rest => by
    rw [Fields.toMembers] at h
    obtain ⟨hself, htail⟩ := hwithin.split rfl hkey Prod.mk fun _ _ _ _ => by rw [Fields.readMember]
    exact readMembers_field (fun v => put (v, fields.unseen)) (s.takes hs v) hself h hfuel
      fun hfurther hfuel =>
        fields.readMembers_toMembers hfields (htail (some v)) vs hfurther hfuel rest

end

/-! ## Whole documents -/

/-- A document is read back from its compact text and from its indented text. -/
def Form.ReadsBack {α : Type} (f : Form α) (a : α) : Prop :=
  f.ofText (compact (f.toJson a)) = .ok a ∧ f.ofText (indented (f.toJson a)) = .ok a

section

variable {α : Type} {f : Form α}

theorem Form.ofText_eq_ok_iff {text : String} {a : α} :
    f.ofText text = .ok a ↔ f.read (Utf8.bytesOf text) = .ok a := by
  unfold ofText
  cases hread : f.read (Utf8.bytesOf text) <;> simp [hread]

/-- A form of a sound shape reads a document from every text that spells it. -/
theorem Form.ofText_of_spells (hf : f.shape.Sound) {a : α} {text : String}
    (h : Spells (f.toJson a) (Utf8.bytesOf text)) : f.ofText text = .ok a := by
  have hnothing : Follows [] := by
    rintro _ ⟨⟩
  have hread := f.shape.takes hf (f.toVal a) Blank.nil h hnothing
  rw [List.nil_append, List.append_nil] at hread
  simp only [ofText, read, hread, endText, skipSpace, List.dropWhile_nil, Except.map, f.ofVal_toVal]

theorem Form.readsBack (hf : f.shape.Sound) (a : α) : f.ReadsBack a := by
  constructor
  · refine ofText_of_spells hf ?_
    rw [Utf8.bytesOf, compact, String.toList_ofList]
    exact spells_write _
  · refine ofText_of_spells hf ?_
    rw [Utf8.bytesOf, indented, String.toList_ofList]
    exact spells_writeAt 0 _

end

end CodeFlow.Json
