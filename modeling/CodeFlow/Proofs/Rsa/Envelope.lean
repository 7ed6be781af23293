import CodeFlow.Proofs.Text.Base64
import CodeFlow.Proofs.Text.Pieces
import CodeFlow.Rsa.Key

/-!
# Envelopes

A published text holds an encoded key under two layers of base64. Each layer has one form only, up
to white space, so a text is opened if and only if it is such an envelope, and what is in it is
settled (`published_keys_enclosed`). Lines may end anywhere, in either layer or in both.
-/

namespace CodeFlow.Rsa

open CodeFlow.Text

/-! ## Markers -/

variable {front back cs rest : List Char}

theorem withoutFront?_eq_some_iff : withoutFront? front cs = some rest ↔ cs = front ++ rest := by
  unfold withoutFront?
  constructor
  · intro h
    split at h
    · rename_i hprefix
      obtain ⟨behind, rfl⟩ := List.isPrefixOf_iff_prefix.mp hprefix
      rw [List.drop_left] at h
      rw [Option.some.inj h]
    · cases h
  · rintro rfl
    simp

theorem withoutBack?_eq_some_iff : withoutBack? back cs = some rest ↔ cs = rest ++ back := by
  unfold withoutBack?
  rw [Option.map_eq_some_iff]
  constructor
  · rintro ⟨behind, hbehind, rfl⟩
    rw [withoutFront?_eq_some_iff, List.reverse_eq_iff] at hbehind
    simpa using hbehind
  · rintro rfl
    refine ⟨rest.reverse, ?_, List.reverse_reverse rest⟩
    rw [withoutFront?_eq_some_iff, List.reverse_append]

/-- Between the markers stands all of a document but white space around it. The markers do not
share a character. -/
theorem body?_eq_some_iff {document inner : List Char} :
    body? document = some inner ↔ trim document = beginMarker ++ (inner ++ endMarker) := by
  unfold body?
  rw [Option.bind_eq_some_iff]
  constructor
  · rintro ⟨behind, hfront, hback⟩
    rw [withoutFront?_eq_some_iff] at hfront
    rw [withoutBack?_eq_some_iff] at hback
    rw [hfront, hback]
  · intro h
    exact ⟨_, withoutFront?_eq_some_iff.mpr h, withoutBack?_eq_some_iff.mpr rfl⟩

/-! ## Layers -/

theorem not_isBlank_digit {v : Nat} (h : v < 64) :
    isBlank (Base64.standard.digit v) = false := by
  decide +revert

/-- No white space is written. -/
theorem squeeze_encode (bs : List UInt8) : squeeze (Base64.encode bs) = Base64.encode bs := by
  apply List.filter_eq_self.mpr
  intro c hc
  rw [Base64.encode, Base64.encodeWith_eq, List.mem_append] at hc
  rcases hc with hc | hc
  · obtain ⟨v, hv, rfl⟩ := List.mem_map.mp hc
    simp [not_isBlank_digit (Base64.lt_of_mem_digits hv)]
  · -- what is no digit is padding
    have hpad : c = Base64.pad := by
      simp only [List.mem_flatten, List.mem_replicate] at hc
      obtain ⟨filler, ⟨-, rfl⟩, hc⟩ := hc
      exact List.mem_singleton.mp hc
    subst hpad
    decide

/-- A layer is opened if and only if it is written base64 with white space in it. -/
theorem decodeLoose_eq_ok_iff {bytes : List UInt8} :
    decodeLoose cs = .ok bytes ↔ squeeze cs = Base64.encode bytes := by
  rw [decodeLoose, Base64.decode_eq_ok_iff]
  constructor
  · intro h
    -- both texts are read from the same bytes
    have hread : some (squeeze cs) = some (Base64.encode bytes) := by
      rw [← Utf8.decode?_encode (squeeze cs), h, Utf8.decode?_encode]
    exact Option.some.inj hread
  · intro h
    rw [h]

/-! ## Envelopes -/

/-- A text is an envelope: base64 of a document, and in the document, between its markers, base64 of
an encoded key. White space is ignored in both layers and around the document. -/
structure Encloses (published : String) (document inner : List Char) (der : List UInt8) : Prop where
  outer : squeeze published.toList = Base64.encode (Utf8.encode document)
  markers : trim document = beginMarker ++ (inner ++ endMarker)
  inner : squeeze inner = Base64.encode der

/-- Only envelopes are opened, and what is in them is found. -/
theorem unwrap_eq_ok_iff {published : String} {der : List UInt8} :
    unwrap published = .ok der ↔ ∃ document inner, Encloses published document inner der := by
  constructor
  · intro h
    unfold unwrap at h
    -- each of the four layers must have been opened
    split at h
    · cases h
    · rename_i bytes houter
      split at h
      · cases h
      · rename_i document hdocument
        split at h
        · cases h
        · rename_i inner hbody
          split at h
          · cases h
          · rename_i hinner
            cases h
            rw [decodeLoose_eq_ok_iff, Utf8.decode?_eq_some_iff.mp hdocument] at houter
            exact ⟨document, inner, houter, body?_eq_some_iff.mp hbody,
              decodeLoose_eq_ok_iff.mp hinner⟩
  · rintro ⟨document, inner, h⟩
    have houter := decodeLoose_eq_ok_iff.mpr h.outer
    have hbody := body?_eq_some_iff.mpr h.markers
    have hinner := decodeLoose_eq_ok_iff.mpr h.inner
    simp only [unwrap, houter, Utf8.decode?_encode, hbody, hinner]

/-- A key whose envelope is not opened is not imported. -/
theorem ofPublished_eq_envelope_iff {published : String} {fault : EnvelopeFault} :
    PublicKey.ofPublished published = .error (.envelope fault) ↔
      unwrap published = .error fault := by
  unfold PublicKey.ofPublished
  cases unwrap published with
  | error fault' => simp
  | ok der =>
    -- what was opened is refused for the key in it, if at all
    dsimp only
    cases PublicKey.ofDer? der <;> simp

/-! ## Wrapped lines -/

/-- A text in lines of certain lengths; the last line takes what is left. -/
def wrap : List Nat → List Char → List Char
  | [], cs => cs
  | n :: ns, cs => cs.take n ++ '\n' :: wrap ns (cs.drop n)

theorem squeeze_wrap (columns : List Nat) (cs : List Char) :
    squeeze (wrap columns cs) = squeeze cs := by
  induction columns generalizing cs with
  | nil => rfl
  | cons n ns ih =>
    have hcut : squeeze (cs.take n) ++ squeeze (cs.drop n) = squeeze cs := by
      rw [squeeze, squeeze, ← List.filter_append, List.take_append_drop, squeeze]
    rw [wrap, squeeze, List.filter_append, List.filter_cons_of_neg (by decide)]
    change squeeze (cs.take n) ++ squeeze (wrap ns (cs.drop n)) = squeeze cs
    rw [ih, hcut]

/-- A document with a key, in lines. -/
def document (columns : List Nat) (der : List UInt8) : List Char :=
  beginMarker ++ ('\n' :: wrap columns (Base64.encode der) ++ ['\n'] ++ endMarker) ++ ['\n']

/-- A key as it is published, with lines in both layers. -/
def publish (outer inner : List Nat) (der : List UInt8) : String :=
  String.ofList (wrap outer (Base64.encode (Utf8.encode (document inner der))))

theorem bare_between_markers (cs : List Char) : Bare (beginMarker ++ (cs ++ endMarker)) where
  first := by
    have hfirst : beginMarker.head? = some '-' := by decide
    intro c hc
    rw [List.head?_append, hfirst, Option.some_or, Option.mem_some_iff] at hc
    subst hc
    decide
  last := by
    have hlast : endMarker.getLast? = some '-' := by decide
    intro c hc
    rw [List.getLast?_append, List.getLast?_append, hlast, Option.some_or, Option.some_or,
      Option.mem_some_iff] at hc
    subst hc
    decide

theorem trim_document (columns : List Nat) (der : List UInt8) :
    trim (document columns der) =
      beginMarker ++ ('\n' :: wrap columns (Base64.encode der) ++ ['\n'] ++ endMarker) := by
  have hbreak : AllBlank ['\n'] := allBlank_singleton (by decide)
  exact trim_eq_iff.mpr ⟨bare_between_markers _, [], ['\n'], nofun, hbreak, rfl⟩

/-- A published key is enclosed, wherever its lines end. -/
theorem encloses_publish (outer columns : List Nat) (der : List UInt8) :
    ∃ inner, Encloses (publish outer columns der) (document columns der) inner der := by
  refine ⟨'\n' :: wrap columns (Base64.encode der) ++ ['\n'], ?_, trim_document columns der, ?_⟩
  · rw [publish, String.toList_ofList, squeeze_wrap, squeeze_encode]
  · have hends : squeeze ('\n' :: wrap columns (Base64.encode der) ++ ['\n']) =
        squeeze (wrap columns (Base64.encode der)) := by
      simp [squeeze, isBlank, blankRanges]
    rw [hends, squeeze_wrap, squeeze_encode]

/-- The encoded key in a published text is found if and only if the text is an envelope around it.
No other text is opened, and it is refused for its envelope. In particular every key is found in its
envelope, wherever the lines end. -/
theorem published_keys_enclosed :
    (∀ published der, unwrap published = .ok der ↔
      ∃ document inner, Encloses published document inner der) ∧
    (∀ published, (∃ fault, unwrap published = .error fault ∧
        PublicKey.ofPublished published = .error (.envelope fault)) ↔
      ¬∃ document inner der, Encloses published document inner der) ∧
    ∀ outer inner der, unwrap (publish outer inner der) = .ok der := by
  refine ⟨fun published der => unwrap_eq_ok_iff, fun published => ?_, fun outer inner der => ?_⟩
  · simp only [ofPublished_eq_envelope_iff, and_self]
    constructor
    · rintro ⟨fault, hfault⟩ ⟨document, inner, der, h⟩
      rw [unwrap_eq_ok_iff.mpr ⟨document, inner, h⟩] at hfault
      cases hfault
    · intro h
      cases hunwrap : unwrap published with
      | error fault => exact ⟨fault, rfl⟩
      | ok der =>
        obtain ⟨document, inner, hencloses⟩ := unwrap_eq_ok_iff.mp hunwrap
        exact absurd ⟨document, inner, der, hencloses⟩ h
  · obtain ⟨body, hencloses⟩ := encloses_publish outer inner der
    exact unwrap_eq_ok_iff.mpr ⟨_, body, hencloses⟩

end CodeFlow.Rsa
