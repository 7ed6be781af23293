import CodeFlow.Cli.Config
import CodeFlow.Proofs.Settings.Leaves

/-!
# Layers of the program's settings

Each setting has a place, by which files and variables name it, and most have a variable with a name
of their own. Where the sources are merged leaf by leaf, a setting is what the variable for its
place says, else what the file says, else what is usual (`merged?_of_ofSources`). Variables with
names of their own come last, each for its own setting (`withVariables_eq_ok_iff`), and then the
whole is checked (`settings_layered`).
-/

namespace CodeFlow.Cli

open CodeFlow.Settings

/-! ## The settings -/

/-- A setting of the program. -/
inductive Setting where
  | oauthUrl
  | clientId
  | redirectUri
  | publicKey
  | scopes
  | timeoutSeconds
  | backendUrl
  | email
  | password
  | logLevel
deriving DecidableEq

namespace Setting

/-- The group of a setting. -/
def group : Setting → String
  | .backendUrl => "backend"
  | .email => "user"
  | .password => "user"
  | .logLevel => "logging"
  | _ => "oauth"

/-- The key of a setting in its group. -/
def key : Setting → String
  | .oauthUrl => "url"
  | .clientId => "client_id"
  | .redirectUri => "redirect_uri"
  | .publicKey => "public_key"
  | .scopes => "scopes"
  | .timeoutSeconds => "timeout_seconds"
  | .backendUrl => "base_url"
  | .email => "email"
  | .password => "password"
  | .logLevel => "level"

/-- The place of a setting, as variables name it. -/
def place (s : Setting) : String :=
  s.group ++ "." ++ s.key

/-- What kind of value a setting has. -/
def shape : Setting → Json.Shape
  | .scopes => .list .text
  | .timeoutSeconds => .unsigned "u64"
  | .email => .optional .text
  | .password => .optional .text
  | _ => .text

/-- The value of a setting. -/
def get : (s : Setting) → Config → s.shape.Val
  | .oauthUrl, c => c.oauthUrl
  | .clientId, c => c.clientId
  | .redirectUri, c => c.redirectUri
  | .publicKey, c => c.publicKey
  | .scopes, c => c.scopes
  | .timeoutSeconds, c => c.timeoutSeconds
  | .backendUrl, c => c.backendUrl
  | .email, c => c.email
  | .password, c => c.password
  | .logLevel, c => c.logLevel

/-- The variable with a name of its own that a setting has. -/
def ownName? : Setting → Option String
  | .oauthUrl => some "CISAUTH_OAUTH_URL"
  | .clientId => some "CISAUTH_UI_WEB_CLIENT_ID"
  | .redirectUri => some "CISAUTH_OAUTH_REDIRECT_URI"
  | .publicKey => some "CISAUTH_UI_WEB_PUBLIC_KEY"
  | .scopes => none
  | .timeoutSeconds => some "CISAUTH_HTTP_TIMEOUT_SECONDS"
  | .backendUrl => none
  | .email => some "CISAUTH_USER_EMAIL"
  | .password => some "CISAUTH_USER_PASSWORD"
  | .logLevel => some "RUST_LOG"

/-- The value that the text of a variable of its own gives a setting. -/
def ofOwn? : (s : Setting) → String → Option s.shape.Val
  | .oauthUrl, text => some text
  | .clientId, text => some text
  | .redirectUri, text => some text
  | .publicKey, text => some text
  | .scopes, _ => none
  | .timeoutSeconds, text => (Decimal.readUnsigned text).toOption
  | .backendUrl, _ => none
  | .email, text => some (some text)
  | .password, text => some (some text)
  | .logLevel, text => some text

/-- The value of a setting once the variables with names of their own were looked up; nothing if
that of the setting cannot be read. -/
def overridden? (s : Setting) (lookup : Lookup) (merged : Config) : Option s.shape.Val :=
  match s.ownName?.bind lookup with
  | some text => s.ofOwn? text
  | none => some (s.get merged)

end Setting

/-- Settings are the same if each of them is. -/
theorem Config.ext_get {c c' : Config} (h : ∀ s : Setting, s.get c = s.get c') : c = c' := by
  obtain ⟨⟩ := c
  obtain ⟨⟩ := c'
  congr
  · exact h .oauthUrl
  · exact h .clientId
  · exact h .redirectUri
  · exact h .publicKey
  · exact h .scopes
  · exact h .timeoutSeconds
  · exact h .backendUrl
  · exact h .email
  · exact h .password
  · exact h .logLevel

/-! ## Variables with names of their own -/

/-- The time limit once its variable was looked up. -/
def timeoutWith (merged : Config) (lookup : Lookup) : Except LoadFault UInt64 :=
  match lookup "CISAUTH_HTTP_TIMEOUT_SECONDS" with
  | none => .ok merged.timeoutSeconds
  | some text => (Decimal.readUnsigned text).mapError .badTimeout

/-- All other settings once their variables were looked up. -/
def othersWith (merged : Config) (lookup : Lookup) (timeoutSeconds : UInt64) : Config :=
  { merged with
    oauthUrl := (lookup "CISAUTH_OAUTH_URL").getD merged.oauthUrl
    clientId := (lookup "CISAUTH_UI_WEB_CLIENT_ID").getD merged.clientId
    redirectUri := (lookup "CISAUTH_OAUTH_REDIRECT_URI").getD merged.redirectUri
    publicKey := (lookup "CISAUTH_UI_WEB_PUBLIC_KEY").getD merged.publicKey
    email := (lookup "CISAUTH_USER_EMAIL").or merged.email
    password := (lookup "CISAUTH_USER_PASSWORD").or merged.password
    logLevel := (lookup "RUST_LOG").getD merged.logLevel
    timeoutSeconds }

section

variable {merged c : Config} {lookup : Lookup}

theorem withVariables_eq (merged : Config) (lookup : Lookup) :
    merged.withVariables lookup = (timeoutWith merged lookup).map (othersWith merged lookup) := rfl

theorem Setting.overridden?_timeoutSeconds : Setting.timeoutSeconds.overridden? lookup merged =
    (timeoutWith merged lookup).toOption := by
  simp only [overridden?, ownName?, Option.bind_some, timeoutWith]
  cases lookup "CISAUTH_HTTP_TIMEOUT_SECONDS" with
  | none => rfl
  | some text =>
    dsimp only [ofOwn?]
    cases Decimal.readUnsigned text <;> rfl

theorem Setting.overridden?_of_ne {s : Setting} (hs : s ≠ .timeoutSeconds) (t : UInt64) :
    s.overridden? lookup merged = some (s.get (othersWith merged lookup t)) := by
  cases s with
  | timeoutSeconds => exact absurd rfl hs
  | scopes => rfl
  | backendUrl => rfl
  | _ =>
    simp only [overridden?, ownName?, Option.bind_some, get, othersWith]
    split <;> rename_i hlookup <;> rw [hlookup] <;> rfl

/-- Settings with variables are those of which each is overridden by its own. -/
theorem withVariables_eq_ok_iff : merged.withVariables lookup = .ok c ↔
    ∀ s : Setting, s.overridden? lookup merged = some (s.get c) := by
  rw [withVariables_eq]
  constructor
  · intro h s
    cases htimeout : timeoutWith merged lookup with
    | error fault =>
      rw [htimeout] at h
      cases h
    | ok t =>
      rw [htimeout] at h
      cases h
      by_cases hs : s = .timeoutSeconds
      · rw [hs, Setting.overridden?_timeoutSeconds, htimeout]
        rfl
      · exact Setting.overridden?_of_ne hs t
  · intro h
    have htimeout := h .timeoutSeconds
    rw [Setting.overridden?_timeoutSeconds] at htimeout
    cases hread : timeoutWith merged lookup with
    | error fault =>
      rw [hread] at htimeout
      cases htimeout
    | ok t =>
      rw [hread] at htimeout
      obtain rfl : t = c.timeoutSeconds := Option.some.inj htimeout
      refine congrArg Except.ok (Config.ext_get fun s => ?_)
      by_cases hs : s = .timeoutSeconds
      · rw [hs]
        rfl
      · exact Option.some.inj ((Setting.overridden?_of_ne hs _).symm.trans (h s))

/-- The time limit alone can have a text that is of no use. -/
theorem withVariables_eq_error_iff : (∃ fault, merged.withVariables lookup = .error fault) ↔
    ∃ text fault, lookup "CISAUTH_HTTP_TIMEOUT_SECONDS" = some text ∧
      Decimal.readUnsigned text = .error fault := by
  rw [withVariables_eq]
  unfold timeoutWith
  cases lookup "CISAUTH_HTTP_TIMEOUT_SECONDS" with
  | none =>
    constructor
    · rintro ⟨fault, h⟩
      cases h
    · rintro ⟨text, fault, h, -⟩
      cases h
  | some text =>
    dsimp only
    cases hread : Decimal.readUnsigned text with
    | ok t =>
      constructor
      · rintro ⟨fault, h⟩
        cases h
      · rintro ⟨text', fault, h, hfault⟩
        cases h
        rw [hread] at hfault
        cases hfault
    | error fault =>
      exact ⟨fun _ => ⟨text, fault, rfl, hread⟩, fun _ => ⟨_, rfl⟩⟩

end

/-! ## Tables of settings -/

/-- The value of a setting from what stands in its place; the usual one if nothing does. -/
def Setting.ofLeaf? (s : Setting) : Option Json → Option s.shape.Val
  | some j => ofShape? s.shape j
  | none => some (s.get .usual)

variable {s : Setting} {table : List (String × Json)}

theorem member?_eq_some {α : Type} {read : Json → Option α} {key : String}
    {members : List (String × Json)} {o : Option α} (h : member? read key members = some o) :
    match members.lookup key with
    | some j => ∃ a, read j = some a ∧ o = some a
    | none => o = none := by
  unfold member? at h
  split at h
  · rename_i hlookup
    rw [hlookup]
    exact (Option.some.inj h).symm
  · rename_i j hlookup
    rw [hlookup]
    obtain ⟨a, ha, ho⟩ := Option.map_eq_some_iff.mp h
    exact ⟨a, ha, ho.symm⟩

section

variable {key : String} {sh : Json.Shape} {rest : Json.Fields} {members : List (String × Json)}
  {v : Option sh.Val × rest.Val}

theorem ofMembers?_defaulted (h : ofMembers? (.defaulted key sh rest) members = some v) :
    member? (ofShape? sh) key members = some v.1 ∧ ofMembers? rest members = some v.2 := by
  simp only [ofMembers?, bind, pure] at h
  obtain ⟨first, hfirst, h⟩ := Option.bind_eq_some_iff.mp h
  obtain ⟨others, hothers, h⟩ := Option.bind_eq_some_iff.mp h
  cases h
  exact ⟨hfirst, hothers⟩

end

/-- The field of a key is found among others, and its value is picked from theirs. -/
inductive Picks (key : String) (sh : Json.Shape) :
    (fields : Json.Fields) → (fields.Val → Option sh.Val) → Prop where
  | first {rest : Json.Fields} :
    Picks key sh (.defaulted key sh rest) fun v : Option sh.Val × rest.Val => v.1
  | behind {key' : String} {sh' : Json.Shape} {rest : Json.Fields}
      {pick : rest.Val → Option sh.Val} :
    Picks key sh rest pick →
      Picks key sh (.defaulted key' sh' rest) fun v : Option sh'.Val × rest.Val => pick v.2

theorem member?_of_picks {key : String} {sh : Json.Shape} {fields : Json.Fields}
    {pick : fields.Val → Option sh.Val} (hpicks : Picks key sh fields pick)
    {members : List (String × Json)} {v : fields.Val} (h : ofMembers? fields members = some v) :
    member? (ofShape? sh) key members = some (pick v) := by
  induction hpicks with
  | first => exact (ofMembers?_defaulted h).1
  | behind _ ih => exact ih (ofMembers?_defaulted h).2

/-- A record that is not given as a list is a table. -/
theorem ofMembers?_of_record {called : String} {fields : Json.Fields} {j : Json} {v : fields.Val}
    (h : ofShape? (.record called fields) j = some v) (hunlisted : ∀ items, j ≠ .arr items) :
    ofMembers? fields (membersOf j) = some v := by
  cases j with
  | obj members => exact h
  | arr items => exact absurd rfl (hunlisted items)
  | _ => exact nomatch h

/-- A setting is picked from its group, and else is the usual one. -/
theorem Setting.ofLeaf?_of_group {called : String} {fields : Json.Fields}
    {o : Option (Json.Shape.record called fields).Val} {pick : fields.Val → Option s.shape.Val}
    (h : member? (ofShape? (.record called fields)) s.group table = some o)
    (hunlisted : Unlisted s.group table)
    (hpicks : Picks s.key s.shape fields pick) :
    s.ofLeaf? (leaf? s.group s.key table) = some ((o.bind pick).getD (s.get .usual)) := by
  have hgroup := member?_eq_some h
  unfold leaf?
  cases hlookup : table.lookup s.group with
  | none =>
    rw [hlookup] at hgroup
    rw [show o = none from hgroup]
    rfl
  | some j =>
    rw [hlookup] at hgroup
    obtain ⟨v, hv, rfl⟩ := hgroup
    have hmembers := ofMembers?_of_record hv fun items hj => hunlisted items (hj ▸ hlookup)
    have hmember := member?_eq_some (member?_of_picks hpicks hmembers)
    change s.ofLeaf? ((membersOf j).lookup s.key) = some ((pick v).getD (s.get .usual))
    cases hk : (membersOf j).lookup s.key with
    | some k =>
      rw [hk] at hmember
      obtain ⟨a, ha, hpicked⟩ := hmember
      rw [ofLeaf?, ha, hpicked, Option.getD_some]
    | none =>
      rw [hk] at hmember
      rw [ofLeaf?, show pick v = none from hmember, Option.getD_none]

/-- Each setting is what its place in the table holds. -/
theorem ofLeaf?_of_decode? {table : List (String × Json)} {c : Config}
    (h : decode? Config.form table = some c) (s : Setting) (hunlisted : Unlisted s.group table) :
    s.ofLeaf? (leaf? s.group s.key table) = some (s.get c) := by
  obtain ⟨v, hv, rfl⟩ := Option.map_eq_some_iff.mp h
  have hgroups : ofMembers? (.defaulted "oauth" Config.oauthShape (.defaulted "backend"
    Config.backendShape (.defaulted "user" Config.userShape (.defaulted "logging"
      Config.loggingShape .nil)))) table = some v := hv
  obtain ⟨oauth, backend, user, logging, _⟩ := v
  have hoauth := member?_of_picks .first hgroups
  have hbackend := member?_of_picks (.behind .first) hgroups
  have huser := member?_of_picks (.behind (.behind .first)) hgroups
  have hlogging := member?_of_picks (.behind (.behind (.behind .first))) hgroups
  cases s with
  | oauthUrl =>
    rw [Setting.ofLeaf?_of_group (s := .oauthUrl) hoauth hunlisted .first]
    cases oauth <;> rfl
  | clientId =>
    rw [Setting.ofLeaf?_of_group (s := .clientId) hoauth hunlisted (.behind .first)]
    cases oauth <;> rfl
  | redirectUri =>
    rw [Setting.ofLeaf?_of_group (s := .redirectUri) hoauth hunlisted (.behind (.behind .first))]
    cases oauth <;> rfl
  | publicKey =>
    rw [Setting.ofLeaf?_of_group (s := .publicKey) hoauth hunlisted
      (.behind (.behind (.behind .first)))]
    cases oauth <;> rfl
  | scopes =>
    rw [Setting.ofLeaf?_of_group (s := .scopes) hoauth hunlisted
      (.behind (.behind (.behind (.behind .first))))]
    cases oauth <;> rfl
  | timeoutSeconds =>
    rw [Setting.ofLeaf?_of_group (s := .timeoutSeconds) hoauth hunlisted
      (.behind (.behind (.behind (.behind (.behind .first)))))]
    cases oauth <;> rfl
  | backendUrl =>
    rw [Setting.ofLeaf?_of_group (s := .backendUrl) hbackend hunlisted .first]
    cases backend <;> rfl
  | email =>
    rw [Setting.ofLeaf?_of_group (s := .email) huser hunlisted .first]
    cases user <;> rfl
  | password =>
    rw [Setting.ofLeaf?_of_group (s := .password) huser hunlisted (.behind .first)]
    cases user <;> rfl
  | logLevel =>
    rw [Setting.ofLeaf?_of_group (s := .logLevel) hlogging hunlisted .first]
    cases logging <;> rfl

/-! ## Layers -/

/-- What a file says; nothing is said where there is none. -/
def fileOf? (path : String) (entry : Option Entry) : Option Source :=
  match entry with
  | none => some []
  | some e => e.source? path

theorem Setting.ofKey_place (s : Setting) :
    Path.ofKey (s.group ++ "." ++ s.key) = ⟨s.group, [.member s.key]⟩ := by
  cases s <;> decide +kernel

/-- The sources of a setting are merged leaf by leaf: neither the file nor a variable gives its
group as a whole in another way than as a table, and none of the variables names an item of a
list. -/
structure Setting.Leafwise (s : Setting) (file : Source) (vars : List (String × String)) :
    Prop where
  file : Unlisted s.group (layered [file])
  group : NameMembers Config.mark s.group vars
  list : s = .scopes → ∀ v ∈ vars, ¬NamesPart Config.mark s.group s.key v

/-- The value of a setting in layers: that of the last variable that names its place, else that of
the file, else the usual one. -/
def Setting.merged? (s : Setting) (file : Source) (vars : List (String × String)) :
    Option s.shape.Val :=
  s.ofLeaf? ((given? Config.mark Config.lists s.place vars).or
    (leaf? s.group s.key (layered [file])))

/-- A branch serves for a list alone. -/
theorem Setting.ofShape?_of_isBranch {s : Setting} (hs : s ≠ .scopes) {j : Json}
    (h : isBranch j = true) : ofShape? s.shape j = none := by
  cases j with
  | arr items =>
    cases s with
    | scopes => exact absurd rfl hs
    | _ => rfl
  | obj members =>
    cases s with
    | scopes => exact absurd rfl hs
    | _ => rfl
  | _ => cases h

theorem ofSources_eq_ok {path : String} {entry : Option Entry} {vars : List (String × String)}
    {c : Config} (h : Config.ofSources path entry vars = .ok c) :
    ∃ file, fileOf? path entry = some file ∧ decode? Config.form
      (overlay (layered [file]) (ofEnvironment Config.mark Config.lists vars)) = some c := by
  unfold Config.ofSources at h
  dsimp only at h
  split at h
  · cases h
  · rename_i file hfile
    split at h
    · cases h
    · rename_i c' hdecode
      cases h
      exact ⟨file, hfile, hdecode⟩

/-- Sources give each setting the value of its variable, else of the file, else the usual one. -/
theorem merged?_of_ofSources {path : String} {entry : Option Entry} {vars : List (String × String)}
    {c : Config} (h : Config.ofSources path entry vars = .ok c) :
    ∃ file, fileOf? path entry = some file ∧
      ∀ s : Setting, s.Leafwise file vars → s.merged? file vars = some (s.get c) := by
  obtain ⟨file, hfile, hdecode⟩ := ofSources_eq_ok h
  refine ⟨file, hfile, fun s hleafwise => ?_⟩
  obtain ⟨hunlisted, hsettled⟩ :=
    settled_overlay Config.lists s.ofKey_place hleafwise.file hleafwise.group
  have hleaf := ofLeaf?_of_decode? hdecode s hunlisted
  generalize leaf? s.group s.key
    (overlay (layered [file]) (ofEnvironment Config.mark Config.lists vars)) = after
    at hsettled hleaf
  cases hsettled with
  | whole => exact hleaf
  | parted hv hpart hbranch =>
    -- where a part is named, a setting of one value cannot be read
    by_cases hs : s = .scopes
    · exact absurd hpart (hleafwise.list hs _ hv)
    · rw [Setting.ofLeaf?, Setting.ofShape?_of_isBranch hs hbranch] at hleaf
      cases hleaf

/-- Variables that name settings by their places are merged leaf by leaf. -/
theorem Setting.leafwise_of_places {s : Setting} {file : Source} {vars : List (String × String)}
    (hfile : Unlisted s.group (layered [file]))
    (hvars : ∀ v ∈ vars, ∀ k, keyOf? Config.mark v.1 = some k → ∃ s' : Setting, k = s'.place) :
    s.Leafwise file vars := by
  refine ⟨hfile, fun v hv k hk hgroup => ?_, ?_⟩
  · obtain ⟨s', rfl⟩ := hvars v hv k hk
    exact ⟨s'.key, [], by rw [place, s'.ofKey_place]⟩
  · rintro - v hv ⟨k, t, ts, hk, hpath⟩
    obtain ⟨s', rfl⟩ := hvars v hv k hk
    rw [place, s'.ofKey_place] at hpath
    exact nomatch (List.cons.inj (congrArg Path.turns hpath)).2

/-! ## Loading -/

section

variable {path : String} {entry : Option Entry} {vars : List (String × String)} {lookup : Lookup}
  {merged : Config}

/-- What is loaded is what the sources give, with variables. -/
theorem withVariables_of_load {loaded : Loaded}
    (h : Config.load path entry vars lookup = .ok loaded) :
    ∃ merged, Config.ofSources path entry vars = .ok merged ∧
      merged.withVariables lookup = .ok loaded.config := by
  unfold Config.load at h
  split at h
  · cases h
  · rename_i merged hmerged
    split at h
    · cases h
    · rename_i c hc
      split at h
      · cases h
      · cases h
        exact ⟨merged, hmerged, hc⟩

/-- Settings that the sources give are refused for the time limit, or else for what they come to. -/
theorem load_error_iff (h : Config.ofSources path entry vars = .ok merged) :
    (∃ fault, Config.load path entry vars lookup = .error fault) ↔
      (∃ fault, merged.withVariables lookup = .error fault) ∨
        ∃ c fault, merged.withVariables lookup = .ok c ∧ c.check = .error fault := by
  unfold Config.load
  rw [h]
  dsimp only
  cases hvariables : merged.withVariables lookup with
  | error fault => exact ⟨fun _ => .inl ⟨fault, rfl⟩, fun _ => ⟨fault, rfl⟩⟩
  | ok c =>
    dsimp only
    cases hcheck : c.check with
    | error fault => exact ⟨fun _ => .inr ⟨c, fault, rfl, hcheck⟩, fun _ => ⟨.invalid fault, rfl⟩⟩
    | ok _ =>
      constructor
      · rintro ⟨fault, hfault⟩
        cases hfault
      · rintro (⟨fault, hfault⟩ | ⟨c', fault, hc, hfault⟩)
        · cases hfault
        · cases hc
          rw [hcheck] at hfault
          cases hfault

end

/-- A setting depends on its own variable alone. -/
theorem Setting.overridden?_congr {s : Setting} {lookup other : Lookup} {merged : Config}
    (h : ∀ name, s.ownName? = some name → other name = lookup name) :
    s.overridden? other merged = s.overridden? lookup merged := by
  unfold overridden?
  cases hname : s.ownName? with
  | none => rfl
  | some name => rw [Option.bind_some, Option.bind_some, h name hname]

/-- No two settings share a variable. -/
theorem Setting.ownName?_inj {s s' : Setting} {name : String} (h : s.ownName? = some name)
    (h' : s'.ownName? = some name) : s = s' := by
  revert h'
  rw [← h]
  cases s <;> cases h <;> cases s' <;> decide

/-- Settings are loaded in layers. A setting is what its own variable says; else what the variable
for its place says, the file says or is usual. Other variables do not change it, and those of lists
and of the backend have none of their own. What the sources give is refused for a time limit that
is no number, or else for a fault of the settings that it comes to. -/
theorem settings_layered (path : String) (entry : Option Entry) (vars : List (String × String))
    (lookup : Lookup) :
    (∀ loaded, Config.load path entry vars lookup = .ok loaded →
      ∃ merged file, Config.ofSources path entry vars = .ok merged ∧
        fileOf? path entry = some file ∧
        (∀ s : Setting, s.overridden? lookup merged = some (s.get loaded.config)) ∧
        (∀ s : Setting, s.Leafwise file vars → s.merged? file vars = some (s.get merged)) ∧
        ∀ other loaded', Config.load path entry vars other = .ok loaded' →
          loaded'.config.scopes = loaded.config.scopes ∧
          loaded'.config.backendUrl = loaded.config.backendUrl ∧
          ∀ s : Setting, (∀ name, s.ownName? ≠ some name → other name = lookup name) →
            ∀ s', s' ≠ s → s'.get loaded'.config = s'.get loaded.config) ∧
    ∀ merged, Config.ofSources path entry vars = .ok merged →
      ((∃ fault, Config.load path entry vars lookup = .error fault) ↔
        (∃ text fault, lookup "CISAUTH_HTTP_TIMEOUT_SECONDS" = some text ∧
          Decimal.readUnsigned text = .error fault) ∨
        ∃ c fault, (∀ s : Setting, s.overridden? lookup merged = some (s.get c)) ∧
          c.check = .error fault) := by
  constructor
  · intro loaded hload
    obtain ⟨merged, hmerged, hvariables⟩ := withVariables_of_load hload
    obtain ⟨file, hfile, hleaves⟩ := merged?_of_ofSources hmerged
    have hover := withVariables_eq_ok_iff.mp hvariables
    refine ⟨merged, file, hmerged, hfile, hover, hleaves, fun other loaded' hload' => ?_⟩
    obtain ⟨merged', hmerged', hvariables'⟩ := withVariables_of_load hload'
    obtain rfl := Except.ok.inj (hmerged'.symm.trans hmerged)
    have hover' := withVariables_eq_ok_iff.mp hvariables'
    have hsame {s : Setting} (h : ∀ name, s.ownName? = some name → other name = lookup name) :
        s.get loaded'.config = s.get loaded.config := by
      apply Option.some.inj
      rw [← hover s, ← hover' s, Setting.overridden?_congr h]
    have hscopes : Setting.scopes.get loaded'.config = Setting.scopes.get loaded.config :=
      hsame fun _ h => nomatch h
    have hbackend : Setting.backendUrl.get loaded'.config = Setting.backendUrl.get loaded.config :=
      hsame fun _ h => nomatch h
    refine ⟨hscopes, hbackend, fun s hothers s' hne => hsame fun name hname => hothers name ?_⟩
    exact fun hshared => hne (Setting.ownName?_inj hname hshared)
  · intro merged hmerged
    rw [load_error_iff hmerged, withVariables_eq_error_iff]
    simp only [withVariables_eq_ok_iff]

/-- A file in which some settings are given. -/
def localFile : Entry :=
  .file "[oauth]\nurl = \"http://a\"\nclient_id = \"web\"\n"

/-- Variables that name some settings by their places. -/
def localVariables : List (String × String) :=
  [("CISAUTH__OAUTH__URL", "http://b"), ("CISAUTH__OAUTH__PUBLIC_KEY", "a key")]

theorem localVariables_places : ∀ v ∈ localVariables, ∀ k, keyOf? Config.mark v.1 = some k →
    ∃ s : Setting, k = s.place := by
  have hurl : keyOf? Config.mark "CISAUTH__OAUTH__URL" = some Setting.oauthUrl.place := by
    decide +kernel
  have hkey : keyOf? Config.mark "CISAUTH__OAUTH__PUBLIC_KEY" = some Setting.publicKey.place := by
    decide +kernel
  intro v hv k hk
  rcases List.mem_cons.mp hv with rfl | hv
  · exact ⟨_, Option.some.inj (hk.symm.trans hurl)⟩
  · rw [List.mem_singleton.mp hv] at hk
    exact ⟨_, Option.some.inj (hk.symm.trans hkey)⟩

/-- The address of the provider comes from a variable, the client from the file, the level of
logging from a variable of its own, and the time limit is the usual one. -/
theorem settings_layered_local : ∃ loaded,
    Config.load "cisauth.toml" (some localFile) localVariables (lookupIn [("RUST_LOG", "debug")]) =
      .ok loaded ∧
    loaded.config.oauthUrl = "http://b" ∧ loaded.config.clientId = "web" ∧
    loaded.config.logLevel = "debug" ∧ loaded.config.timeoutSeconds = 30 := by
  have hok : (Config.load "cisauth.toml" (some localFile) localVariables
      (lookupIn [("RUST_LOG", "debug")])).isOk = true := by
    decide +kernel
  have hunlisted : (fileOf? "cisauth.toml" (some localFile)).all (fun file =>
      decide (Unlisted "oauth" (layered [file]))) = true := by
    decide +kernel
  have hvalues : ((fileOf? "cisauth.toml" (some localFile)).map fun file =>
      (Setting.oauthUrl.merged? file localVariables, Setting.clientId.merged? file localVariables,
        Setting.timeoutSeconds.merged? file localVariables) :
      Option (Option String × Option String × Option UInt64)) =
      some (some "http://b", some "web", some 30) := by
    decide +kernel
  cases hload : Config.load "cisauth.toml" (some localFile) localVariables
      (lookupIn [("RUST_LOG", "debug")]) with
  | error fault =>
    rw [hload] at hok
    cases hok
  | ok loaded =>
    obtain ⟨hlayers, -⟩ := settings_layered "cisauth.toml" (some localFile) localVariables
      (lookupIn [("RUST_LOG", "debug")])
    obtain ⟨merged, file, -, hfile, hover, hmerged, -⟩ := hlayers loaded hload
    rw [hfile] at hunlisted hvalues
    have hleafwise (s : Setting) (hs : s.group = "oauth") : s.Leafwise file localVariables := by
      refine Setting.leafwise_of_places ?_ localVariables_places
      rw [hs]
      exact of_decide_eq_true hunlisted
    obtain ⟨hurl, hothers⟩ := Prod.mk.inj (Option.some.inj hvalues)
    obtain ⟨hclient, htimeout⟩ := Prod.mk.inj hothers
    refine ⟨loaded, rfl, ?_, ?_, ?_, ?_⟩
    · exact Option.some.inj ((hover .oauthUrl).symm.trans
        ((hmerged .oauthUrl (hleafwise _ rfl)).symm.trans hurl))
    · exact Option.some.inj ((hover .clientId).symm.trans
        ((hmerged .clientId (hleafwise _ rfl)).symm.trans hclient))
    · exact (Option.some.inj (hover .logLevel)).symm
    · exact Option.some.inj ((hover .timeoutSeconds).symm.trans
        ((hmerged .timeoutSeconds (hleafwise _ rfl)).symm.trans htimeout))

end CodeFlow.Cli
