import CodeFlow.Proofs.Cli.ExitStatus
import CodeFlow.Proofs.Flow.Endpoint

/-!
# Settings that are let through

Settings are checked when they are loaded, and a bad one has an exit status of its own. They are
checked once more when a login is configured, and that check asks for more: a client that is more
than white space, a scope, and addresses that can be read. Settings that pass the first check and
not the second are let through, and the command that is run with them fails before it sends
anything, with the status of a login that failed (`settings_checked_again`). There are such settings
(`blank_client_let_through`).
-/

namespace CodeFlow

/-! ## Addresses -/

/-- An address is the first in a list that cannot be read. -/
structure FirstUnreadable (addresses : List (String × String)) (field value : String)
    (reason : Url.Fault) : Prop where
  place : ∃ front behind, addresses = front ++ (field, value) :: behind ∧
    ∀ p ∈ front, ∃ url, Url.parse p.2 = .ok url
  unreadable : Url.parse value = .error reason

namespace FlowConfig

variable {addresses : List (String × String)} {fault : ConfigFault}

theorem checkAddresses_eq_ok_iff :
    checkAddresses addresses = .ok () ↔ ∀ p ∈ addresses, ∃ url, Url.parse p.2 = .ok url := by
  constructor
  · intro h p hp
    exact parse_of_checkAddresses h hp
  · intro h
    induction addresses with
    | nil => rfl
    | cons p rest ih =>
      obtain ⟨url, hurl⟩ := h p List.mem_cons_self
      simp only [checkAddresses, hurl]
      exact ih fun p hp => h p (List.mem_cons_of_mem _ hp)

theorem firstUnreadable_cons_of_ok {p : String × String} {url : CodeFlow.Url}
    {field value : String} {reason : Url.Fault} (hurl : Url.parse p.2 = .ok url) :
    FirstUnreadable (p :: addresses) field value reason ↔
      FirstUnreadable addresses field value reason := by
  constructor
  · rintro ⟨⟨front, behind, hsplit, hfront⟩, hreason⟩
    cases front with
    | nil =>
      -- the first address can be read, so it is not the one
      obtain ⟨rfl, -⟩ := List.cons_eq_cons.mp hsplit
      rw [hreason] at hurl
      cases hurl
    | cons q front =>
      obtain ⟨-, hrest⟩ := List.cons_eq_cons.mp hsplit
      exact ⟨⟨front, behind, hrest, fun p hp => hfront p (List.mem_cons_of_mem _ hp)⟩, hreason⟩
  · rintro ⟨⟨front, behind, rfl, hfront⟩, hreason⟩
    refine ⟨⟨p :: front, behind, rfl, fun q hq => ?_⟩, hreason⟩
    rcases List.mem_cons.mp hq with rfl | hq
    · exact ⟨url, hurl⟩
    · exact hfront q hq

/-- Addresses are refused for the first that cannot be read. -/
theorem checkAddresses_eq_error_iff :
    checkAddresses addresses = .error fault ↔
      ∃ field value reason, FirstUnreadable addresses field value reason ∧
        fault = .invalidUrl field value reason := by
  induction addresses with
  | nil =>
    refine iff_of_false (by simp [checkAddresses]) ?_
    rintro ⟨field, value, reason, ⟨⟨front, behind, hsplit, -⟩, -⟩, -⟩
    simp at hsplit
  | cons p rest ih =>
    obtain ⟨field, value⟩ := p
    cases hparse : Url.parse value with
    | ok url =>
      simp only [checkAddresses, hparse, ih]
      refine exists₃_congr fun field' value' reason => ?_
      rw [firstUnreadable_cons_of_ok (p := (field, value)) hparse]
    | error reason =>
      simp only [checkAddresses, hparse]
      constructor
      · rintro ⟨⟩
        refine ⟨field, value, reason, ⟨⟨[], rest, rfl, ?_⟩, hparse⟩, rfl⟩
        exact fun p hp => absurd hp List.not_mem_nil
      · rintro ⟨field', value', reason', ⟨⟨front, behind, hsplit, hfront⟩, hreason⟩, rfl⟩
        cases front with
        | nil =>
          obtain ⟨⟨⟩, -⟩ := List.cons_eq_cons.mp hsplit
          rw [hparse] at hreason
          cases hreason
          rfl
        | cons q front =>
          -- all in front of it can be read, and the first cannot
          obtain ⟨rfl, -⟩ := List.cons_eq_cons.mp hsplit
          obtain ⟨url, hurl⟩ := hfront (field, value) List.mem_cons_self
          rw [hparse] at hurl
          cases hurl

end FlowConfig

theorem LoginFlow.ofConfig_eq_config_iff {config : FlowConfig} {fault : ConfigFault} :
    LoginFlow.ofConfig config = .error (.config fault) ↔ config.check = .error fault := by
  unfold ofConfig
  cases config.check with
  | error fault' => simp
  | ok checked => cases Rsa.PublicKey.ofPublished config.publicKey <;> simp

namespace Cli

open CodeFlow.Http

/-! ## The second check -/

namespace Config

variable {c : Config} {fault : ConfigFault}

/-- What a login asks of settings besides what was checked when they were loaded. -/
structure FitsLogins (c : Config) : Prop where
  client : Text.strip c.clientId ≠ ""
  scopes : c.scopes ≠ []
  addresses : ∀ p ∈ c.flowConfig.addresses, ∃ url, Url.parse p.2 = .ok url

/-- What is found in settings only when a login is configured. The client counts first, then the
scopes, then the addresses in their order. -/
inductive Overlooks (c : Config) : ConfigFault → Prop where
  | client : Text.strip c.clientId = "" → Overlooks c .noClient
  | scopes : Text.strip c.clientId ≠ "" → c.scopes = [] → Overlooks c .noScope
  | address {field value : String} {reason : Url.Fault} :
      Text.strip c.clientId ≠ "" → c.scopes ≠ [] →
      FirstUnreadable c.flowConfig.addresses field value reason →
      Overlooks c (.invalidUrl field value reason)

theorem timeout_ne_zero_of_check (h : c.check = .ok ()) : c.timeoutSeconds ≠ 0 := by
  intro htimeout
  unfold check at h
  -- the time is the fifth of the settings that are looked at
  rw [if_pos htimeout] at h
  repeat' split at h
  all_goals cases h

/-- Of what the second check asks, the first has settled the time, and the name of the cookie is the
usual one. -/
theorem check_flowConfig (h : c.check = .ok ()) :
    c.flowConfig.check =
      if Text.strip c.clientId = "" then .error .noClient
      else if c.scopes = [] then .error .noScope
      else FlowConfig.checkAddresses c.flowConfig.addresses := by
  have htimeout : c.flowConfig.httpTimeoutSeconds ≠ 0 := timeout_ne_zero_of_check h
  have hcookie : c.flowConfig.cookies.session ≠ "" := by
    change CookieNames.usual.session ≠ ""
    decide
  rw [FlowConfig.check, if_neg htimeout, if_neg hcookie]
  rfl

theorem check_flowConfig_eq_ok_iff (h : c.check = .ok ()) :
    c.flowConfig.check = .ok () ↔ c.FitsLogins := by
  rw [check_flowConfig h]
  by_cases hclient : Text.strip c.clientId = ""
  · rw [if_pos hclient]
    exact iff_of_false (by simp) fun hfits => hfits.client hclient
  · rw [if_neg hclient]
    by_cases hscopes : c.scopes = []
    · rw [if_pos hscopes]
      exact iff_of_false (by simp) fun hfits => hfits.scopes hscopes
    · rw [if_neg hscopes, FlowConfig.checkAddresses_eq_ok_iff]
      exact ⟨fun haddresses => ⟨hclient, hscopes, haddresses⟩, FitsLogins.addresses⟩

theorem check_flowConfig_eq_error_iff (h : c.check = .ok ()) :
    c.flowConfig.check = .error fault ↔ c.Overlooks fault := by
  rw [check_flowConfig h]
  constructor
  · intro hfault
    split at hfault
    · rename_i hclient
      cases hfault
      exact .client hclient
    · rename_i hclient
      split at hfault
      · rename_i hscopes
        cases hfault
        exact .scopes hclient hscopes
      · rename_i hscopes
        obtain ⟨field, value, reason, hfirst, rfl⟩ :=
          FlowConfig.checkAddresses_eq_error_iff.mp hfault
        exact .address hclient hscopes hfirst
  · intro hoverlooks
    cases hoverlooks with
    | client hclient => rw [if_pos hclient]
    | scopes hclient hscopes => rw [if_neg hclient, if_pos hscopes]
    | address hclient hscopes hfirst =>
      rw [if_neg hclient, if_neg hscopes]
      exact FlowConfig.checkAddresses_eq_error_iff.mpr ⟨_, _, _, hfirst, rfl⟩

end Config

/-! ## Commands with such settings -/

namespace Args

variable {a : Args} {c : Config} {d : Draws} {script : List Reply} {fault : ConfigFault}

/-- Of all errors of a flow, those of its configuration come before anything is sent. -/
theorem flowFails_config_iff :
    a.FlowFails c d script (.config fault) ↔
      (a.command.needsCredentials = true → ¬ a.LacksCredentials c) ∧
        c.flowConfig.check = .error fault := by
  have hlogin (f : LoginFlow) (credentials : Credentials) (script : List Reply) :
      ((f.login d.login credentials).play script).result.1 ≠ .error (.config fault) := by
    rw [← dialogue_loginRun]
    exact (LoginRun.closes rfl script).ended.configured fault
  constructor
  · intro h
    cases h with
    | unopened hcredentials hflow =>
      exact ⟨hcredentials, LoginFlow.ofConfig_eq_config_iff.mp hflow⟩
    | login _ _ hresult => exact absurd hresult (hlogin _ _ _)
    | loginBehind _ _ _ hresult => exact absurd hresult (hlogin _ _ _)
    | registration _ _ hresult =>
      rcases LoginFlow.register_error hresult with ⟨reason, hcrypto⟩ | hstep
      · cases hcrypto
      · cases hstep
    | verification _ _ hresult => cases LoginFlow.verifyAccount_error hresult
  · rintro ⟨hcredentials, hcheck⟩
    exact .unopened hcredentials (LoginFlow.ofConfig_eq_config_iff.mpr hcheck)

theorem result_run_config_iff :
    ((a.run c d).run.play script).result = .error (.flow (.config fault)) ↔
      (a.command.needsCredentials = true → ¬ a.LacksCredentials c) ∧
        c.flowConfig.check = .error fault := by
  rw [← flowFails_config_iff]
  exact ⟨fun hresult => (a.plays c d script).flowFails hresult, FlowFails.result_run⟩

/-- A configuration that is refused is all that a command comes to. -/
theorem play_of_config
    (h : ((a.run c d).run.play script).result = .error (.flow (.config fault))) :
    (a.run c d).run.play script = ⟨.error (.flow (.config fault)), [], [], script⟩ := by
  obtain ⟨hcredentials, hcheck⟩ := result_run_config_iff.mp h
  exact play_of_unopened hcredentials (LoginFlow.ofConfig_eq_config_iff.mpr hcheck)

end Args

/-- Settings that are let through fit logins if and only if they name a client and a scope and all
their addresses can be read. With settings that do not, a command that does not lack credentials
fails for them, before it sends anything, and its exit status is that of a login that failed. -/
theorem settings_checked_again {c : Config} (h : c.check = .ok ()) :
    (c.flowConfig.check = .ok () ↔ c.FitsLogins) ∧
    (∀ fault, c.flowConfig.check = .error fault ↔ c.Overlooks fault) ∧
    ∀ (a : Args) (d : Draws) (script : List Reply) (fault : ConfigFault),
      let t := (a.run c d).run.play script
      (t.result = .error (.flow (.config fault)) ↔
        (a.command.needsCredentials = true → ¬ a.LacksCredentials c) ∧ c.Overlooks fault) ∧
      (t.result = .error (.flow (.config fault)) →
        exitStatus t.result = 1 ∧ t.requests = [] ∧ t.unread = script) := by
  refine ⟨Config.check_flowConfig_eq_ok_iff h, fun fault => Config.check_flowConfig_eq_error_iff h,
    fun a d script fault => ⟨?_, fun hresult => ?_⟩⟩
  · rw [Args.result_run_config_iff, Config.check_flowConfig_eq_error_iff h]
  · rw [Args.play_of_config hresult]
    exact ⟨rfl, rfl, rfl⟩

/-- Settings with an address of the provider that cannot be read. -/
def nowhere : Config :=
  { Config.usual with oauthUrl := "nowhere", clientId := "web", publicKey := "a key" }

theorem settings_checked_again_nowhere :
    nowhere.check = .ok () ∧ ¬ nowhere.FitsLogins ∧
      ∀ (d : Draws) (script : List Reply),
        let t := (Args.run ⟨.verify "code", none, none, false⟩ nowhere d).run.play script
        t.result =
            .error (.flow (.config (.invalidUrl "oauth_base_url" "nowhere" .relativeWithoutBase))) ∧
          exitStatus t.result = 1 ∧ t.requests = [] ∧ t.unread = script := by
  have hcheck : nowhere.check = .ok () := by decide +kernel
  have hparse : Url.parse "nowhere" = .error .relativeWithoutBase := by decide +kernel
  obtain ⟨hfits, -, hruns⟩ := settings_checked_again hcheck
  have hoverlooks : nowhere.Overlooks
      (.invalidUrl "oauth_base_url" "nowhere" .relativeWithoutBase) := by
    refine .address (by decide +kernel) (by decide +kernel) ⟨⟨[], _, rfl, ?_⟩, hparse⟩
    exact fun p hp => absurd hp List.not_mem_nil
  refine ⟨hcheck, fun h => ?_, fun d script => ?_⟩
  · obtain ⟨url, hurl⟩ := h.addresses ("oauth_base_url", "nowhere") List.mem_cons_self
    rw [hparse] at hurl
    cases hurl
  · obtain ⟨hiff, hsilent⟩ := hruns ⟨.verify "code", none, none, false⟩ d script _
    have hresult := hiff.mpr ⟨fun hneeds => (nomatch hneeds), hoverlooks⟩
    exact ⟨hresult, hsilent hresult⟩

/-- Settings with a client of white space. -/
def blankClient : Config :=
  { Config.usual with clientId := " ", publicKey := "a key" }

/-- They can be loaded and pass the check there, and every command that needs no credentials fails
for them with the status of a login. -/
theorem blank_client_let_through :
    (Config.load "cisauth.toml" none [] (lookupIn
        [("CISAUTH_UI_WEB_CLIENT_ID", " "), ("CISAUTH_UI_WEB_PUBLIC_KEY", "a key")])).toOption.map
          Loaded.config = some blankClient ∧
      blankClient.check = .ok () ∧
      blankClient.flowConfig.check = .error .noClient ∧
      ∀ code d script,
        let t := (Args.run ⟨.verify code, none, none, false⟩ blankClient d).run.play script
        exitStatus t.result = 1 := by
  have hcheck : blankClient.flowConfig.check = .error .noClient := by decide +kernel
  refine ⟨by decide +kernel, by decide +kernel, hcheck, fun code d script => ?_⟩
  have hflow := LoginFlow.ofConfig_eq_config_iff.mpr hcheck
  have hneeds : Command.needsCredentials (.verify code) = true →
      ¬ Args.LacksCredentials ⟨.verify code, none, none, false⟩ blankClient := by
    intro hneeds
    cases hneeds
  intro t
  have hplay : t = ⟨.error (.flow (.config .noClient)), [], [], script⟩ :=
    Args.play_of_unopened hneeds hflow
  rw [hplay]
  rfl

end Cli

end CodeFlow
