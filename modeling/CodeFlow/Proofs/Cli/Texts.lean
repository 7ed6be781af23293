import CodeFlow.Proofs.Cli.Layering

/-!
# Texts in variables

A variable with a name of its own gives its setting its text as it is. A variable that names a
setting by its place is first asked whether it is a truth value or a number, and a setting that is a
text is then written anew (`named_texts_respelt`). What is neither keeps its text; what is one may
come back in another spelling (`password_altered`).
-/

namespace CodeFlow.Cli

open CodeFlow.Settings

/-! ## Settings that are texts -/

/-- The text of a setting, if it is one and is given. -/
def Setting.textIn? : Setting → Config → Option String
  | .oauthUrl, c => some c.oauthUrl
  | .clientId, c => some c.clientId
  | .redirectUri, c => some c.redirectUri
  | .publicKey, c => some c.publicKey
  | .scopes, _ => none
  | .timeoutSeconds, _ => none
  | .backendUrl, c => some c.backendUrl
  | .email, c => c.email
  | .password, c => c.password
  | .logLevel, c => some c.logLevel

/-- The settings that are texts. -/
def Setting.isText : Setting → Bool
  | .scopes => false
  | .timeoutSeconds => false
  | _ => true

variable {s : Setting} {c : Config} {text : String}

/-- The text of a setting that was read. -/
theorem Setting.textIn?_of_ofShape? (hs : s.isText = true) {j : Json} (hj : j ≠ .null)
    (h : ofShape? s.shape j = some (s.get c)) : s.textIn? c = text? j := by
  have hoptional {o : Option String} (ho : optional? (ofShape? .text) j = some o) :
      o = text? j := by
    unfold optional? at ho
    split at ho
    · exact absurd rfl hj
    · obtain ⟨t, ht, rfl⟩ := Option.map_eq_some_iff.mp ho
      exact ht.symm
  cases s with
  | scopes => cases hs
  | timeoutSeconds => cases hs
  | email => exact hoptional h
  | password => exact hoptional h
  | _ => exact h.symm

theorem Setting.textIn?_of_ofOwn? (hs : s.isText = true) (h : s.ofOwn? text = some (s.get c)) :
    s.textIn? c = some text := by
  cases s with
  | scopes => cases hs
  | timeoutSeconds => cases hs
  | backendUrl => cases h
  | email => exact (Option.some.inj h).symm
  | password => exact (Option.some.inj h).symm
  | _ => exact h.symm

/-! ## Spellings -/

/-- A text as it is written anew once it was taken for what it says by itself. -/
def respelt (text : String) : String :=
  ((plainValue? text).bind text?).getD text

/-- A text that says nothing by itself is kept. -/
theorem respelt_of_plainValue? (h : plainValue? text = none) : respelt text = text := by
  rw [respelt, h, Option.bind_none, Option.getD_none]

theorem text?_of_plainValue? {j : Json} (h : plainValue? text = some j) :
    j ≠ .null ∧ (text? j).isSome = true := by
  unfold plainValue? at h
  split at h
  · cases h
    exact ⟨Json.noConfusion, rfl⟩
  · split at h
    · cases h
      exact ⟨Json.noConfusion, rfl⟩
    · split at h
      · cases h
        exact ⟨Json.noConfusion, rfl⟩
      · obtain ⟨x, -, rfl⟩ := Option.map_eq_some_iff.mp h
        exact ⟨Json.noConfusion, rfl⟩

/-- What a variable gives a setting that is no list is written as the text of the variable is. -/
theorem text?_valueOf {lists : List String} {place : String} (h : place ∉ lists) (text : String) :
    valueOf lists place text ≠ .null ∧ text? (valueOf lists place text) = some (respelt text) := by
  unfold valueOf respelt
  cases hplain : plainValue? text with
  | some j =>
    obtain ⟨hj, htext⟩ := text?_of_plainValue? hplain
    obtain ⟨t, ht⟩ := Option.isSome_iff_exists.mp htext
    refine ⟨hj, ?_⟩
    rw [Option.bind_some, ht, Option.getD_some]
  | none =>
    dsimp only
    rw [if_neg (by simpa using h)]
    exact ⟨Json.noConfusion, rfl⟩

/-! ## Variables -/

/-- The text of the last variable that names a place. -/
def lastText? (place : String) (vars : List (String × String)) : Option String :=
  ((vars.filter fun v => keyOf? Config.mark v.1 = some place).getLast?).map Prod.snd

theorem given?_of_lastText? {place : String} {vars : List (String × String)}
    (h : lastText? place vars = some text) :
    given? Config.mark Config.lists place vars = some (valueOf Config.lists place text) := by
  obtain ⟨v, hv, rfl⟩ := Option.map_eq_some_iff.mp h
  rw [given?, hv, Option.map_some]

theorem Setting.place_not_mem_lists (hs : s.isText = true) : s.place ∉ Config.lists := by
  cases s with
  | scopes => cases hs
  | timeoutSeconds => cases hs
  | _ => decide +kernel

/-- A setting that is a text has the text of its own variable as it is; that of the variable for its
place is written anew, unless it says nothing by itself. -/
theorem named_texts_respelt {path : String} {entry : Option Entry} {vars : List (String × String)}
    {lookup : Lookup} {loaded : Loaded} (hload : Config.load path entry vars lookup = .ok loaded)
    (hs : s.isText = true) (text : String) :
    (∀ own, s.ownName?.bind lookup = some own → s.textIn? loaded.config = some own) ∧
      ∃ file, fileOf? path entry = some file ∧
        (s.Leafwise file vars → s.ownName?.bind lookup = none → lastText? s.place vars = some text →
          s.textIn? loaded.config = some (respelt text) ∧
          (plainValue? text = none → s.textIn? loaded.config = some text)) := by
  obtain ⟨merged, hmerged, hvariables⟩ := withVariables_of_load hload
  obtain ⟨file, hfile, hleaves⟩ := merged?_of_ofSources hmerged
  have hover := withVariables_eq_ok_iff.mp hvariables s
  refine ⟨fun own hown => ?_, file, hfile, fun hleafwise hown hlast => ?_⟩
  · rw [Setting.overridden?, hown] at hover
    exact Setting.textIn?_of_ofOwn? hs hover
  · rw [Setting.overridden?, hown] at hover
    obtain ⟨hnull, htext⟩ := text?_valueOf (s.place_not_mem_lists hs) text
    have hvalue := hleaves s hleafwise
    rw [Setting.merged?, given?_of_lastText? hlast, Option.some_or, Setting.ofLeaf?,
      show some (s.get merged) = _ from hover] at hvalue
    have hrespelt := (Setting.textIn?_of_ofShape? hs hnull hvalue).trans htext
    refine ⟨hrespelt, fun hplain => ?_⟩
    rw [hrespelt, respelt_of_plainValue? hplain]

/-- Variables with names of their own that give what has no usual value. -/
def ownVariables : List (String × String) :=
  [("CISAUTH_UI_WEB_CLIENT_ID", "web"), ("CISAUTH_UI_WEB_PUBLIC_KEY", "a key")]

/-- A level of logging in capital letters, which says nothing by itself, is kept. -/
theorem named_texts_respelt_level : ∃ loaded,
    Config.load "cisauth.toml" none [("CISAUTH__LOGGING__LEVEL", "DEBUG")] (lookupIn ownVariables) =
        .ok loaded ∧
      Setting.logLevel.textIn? loaded.config = some "DEBUG" := by
  have hok : (Config.load "cisauth.toml" none [("CISAUTH__LOGGING__LEVEL", "DEBUG")]
      (lookupIn ownVariables)).isOk = true := by
    decide +kernel
  have hname : keyOf? Config.mark "CISAUTH__LOGGING__LEVEL" = some Setting.logLevel.place := by
    decide +kernel
  cases hload : Config.load "cisauth.toml" none [("CISAUTH__LOGGING__LEVEL", "DEBUG")]
      (lookupIn ownVariables) with
  | error fault =>
    rw [hload] at hok
    cases hok
  | ok loaded =>
    obtain ⟨-, file, hfile, hnamed⟩ := named_texts_respelt hload (s := .logLevel) rfl "DEBUG"
    cases hfile
    have hleafwise : Setting.logLevel.Leafwise [] [("CISAUTH__LOGGING__LEVEL", "DEBUG")] := by
      refine Setting.leafwise_of_places (fun items h => nomatch h) fun v hv k hk => ?_
      rw [List.mem_singleton.mp hv] at hk
      exact ⟨.logLevel, Option.some.inj (hk.symm.trans hname)⟩
    have hplain : (plainValue? "DEBUG").isNone = true := by decide +kernel
    refine ⟨loaded, rfl, (hnamed hleafwise rfl ?_).2 (Option.isNone_iff_eq_none.mp hplain)⟩
    decide +kernel

/-- A password in digits loses its leading zero where its place names it, but not in the variable of
its own. -/
theorem password_altered :
    (Config.load "cisauth.toml" none [("CISAUTH__USER__PASSWORD", "0123")]
        (lookupIn ownVariables)).toOption.map (fun l => l.config.password) = some (some "123") ∧
      (Config.load "cisauth.toml" none [] (lookupIn
        (("CISAUTH_USER_PASSWORD", "0123") :: ownVariables))).toOption.map
          (fun l => l.config.password) = some (some "0123") := by
  constructor <;> decide +kernel

end CodeFlow.Cli
