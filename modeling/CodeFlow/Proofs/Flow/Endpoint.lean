import CodeFlow.Flow.Config
import CodeFlow.Proofs.Url.Appending

/-!
# Where the authorization endpoint is

A configuration is checked by reading the address of the provider, while the endpoint is found by
putting its path behind the text of that address. The two agree if and only if the text ends in its
path, and one slash behind it is one slash behind the path (`authorize_endpoint_below`). Other
addresses are accepted as well, and the endpoint is then somewhere else (`endpoints_elsewhere`).
-/

namespace CodeFlow

open CodeFlow.Url

/-! ## Addresses below others -/

/-- An address leads to the server of another, to a certain path below its own, and says nothing
else. -/
structure Url.IsBelow (e u : CodeFlow.Url) (path : String) : Prop where
  scheme : e.scheme = u.scheme
  host : e.authority.map Authority.host = u.authority.map Authority.host
  port : e.authority.bind Authority.port = u.authority.bind Authority.port
  query : e.query = none
  fragment : e.fragment = none
  path : String.ofList e.path.write = withoutFinalSlashes (String.ofList u.path.write) ++ path

instance (e u : CodeFlow.Url) (path : String) : Decidable (e.IsBelow u path) :=
  decidable_of_iff
    (e.scheme = u.scheme ∧ e.authority.map Authority.host = u.authority.map Authority.host ∧
      e.authority.bind Authority.port = u.authority.bind Authority.port ∧ e.query = none ∧
      e.fragment = none ∧
      String.ofList e.path.write = withoutFinalSlashes (String.ofList u.path.write) ++ path)
    ⟨fun ⟨hscheme, hhost, hport, hquery, hfragment, hpath⟩ =>
      ⟨hscheme, hhost, hport, hquery, hfragment, hpath⟩,
    fun h => ⟨h.scheme, h.host, h.port, h.query, h.fragment, h.path⟩⟩

/-- What is put behind the text of an address is put behind its path. -/
structure Url.IsOpen (text : String) (u : CodeFlow.Url) : Prop where
  query : u.query = none
  fragment : u.fragment = none
  /-- What is not read at the end of the text would not be read elsewhere either. -/
  ending : clean text.toList = readable text.toList
  /-- One slash behind the text is one slash behind the path. -/
  slash : ∀ v, parse (withoutFinalSlashes text ++ "/") = .ok v → ¬['/', '/'] <:+ v.path.write

/-- The path of a text that is read does not end in two slashes. -/
def endsInOneSlash (text : String) : Bool :=
  match parse text with
  | .ok v => !List.isSuffixOf ['/', '/'] v.path.write
  | .error _ => true

theorem endsInOneSlash_iff {text : String} : endsInOneSlash text = true ↔
    ∀ v, parse text = .ok v → ¬['/', '/'] <:+ v.path.write := by
  unfold endsInOneSlash
  cases parse text with
  | error fault => exact ⟨fun _ v hv => (nomatch hv), fun _ => rfl⟩
  | ok v =>
    rw [Bool.not_eq_true', ← Bool.not_eq_true, List.isSuffixOf_iff_suffix]
    refine ⟨fun h w hw => ?_, fun h => h v rfl⟩
    cases hw
    exact h

instance (text : String) (u : CodeFlow.Url) : Decidable (u.IsOpen text) :=
  decidable_of_iff
    (u.query = none ∧ u.fragment = none ∧ clean text.toList = readable text.toList ∧
      endsInOneSlash (withoutFinalSlashes text ++ "/") = true)
    ⟨fun ⟨hquery, hfragment, hending, hslash⟩ =>
      ⟨hquery, hfragment, hending, endsInOneSlash_iff.mp hslash⟩,
    fun h => ⟨h.query, h.fragment, h.ending, endsInOneSlash_iff.mpr h.slash⟩⟩

/-! ## Slashes at the end -/

theorem exists_finalSlashes (s : String) :
    ∃ n, s.toList = (withoutFinalSlashes s).toList ++ List.replicate n '/' := by
  refine ⟨(s.toList.reverse.takeWhile (· = '/')).length, ?_⟩
  have hslashes : s.toList.reverse.takeWhile (· = '/') =
      List.replicate (s.toList.reverse.takeWhile (· = '/')).length '/' :=
    List.eq_replicate_of_mem fun c hc => by simpa using List.mem_takeWhile_imp hc
  have hcut := congrArg List.reverse
    (List.takeWhile_append_dropWhile (p := (· = '/')) (l := s.toList.reverse))
  rw [List.reverse_append, List.reverse_reverse] at hcut
  conv_lhs => rw [← hcut, hslashes, List.reverse_replicate]
  rw [withoutFinalSlashes, String.toList_ofList]

theorem withoutFinalSlashes_append (cs : List Char) (n : Nat) :
    withoutFinalSlashes (String.ofList (cs ++ List.replicate n '/')) =
      withoutFinalSlashes (String.ofList cs) := by
  have hall : ∀ c ∈ List.replicate n '/', decide (c = '/') = true := fun c hc =>
    decide_eq_true (List.eq_of_mem_replicate hc)
  rw [withoutFinalSlashes, withoutFinalSlashes, String.toList_ofList, String.toList_ofList,
    List.reverse_append, List.reverse_replicate, List.dropWhile_append_of_pos hall]

theorem not_suffix_withoutFinalSlashes (s : String) :
    ¬['/'] <:+ (withoutFinalSlashes s).toList := by
  rw [withoutFinalSlashes, String.toList_ofList]
  rintro ⟨front, hfront⟩
  have hhead := List.head?_dropWhile_not (· = '/') s.toList.reverse
  rw [← List.reverse_reverse (s.toList.reverse.dropWhile _), ← hfront, List.reverse_append] at hhead
  change decide ('/' = '/') = false at hhead
  cases hhead

theorem withoutFinalSlashes_of_not_suffix {cs : List Char} (h : ¬['/'] <:+ cs) :
    withoutFinalSlashes (String.ofList cs) = String.ofList cs := by
  obtain ⟨n, hn⟩ := exists_finalSlashes (String.ofList cs)
  rw [String.toList_ofList] at hn
  cases n with
  | zero =>
    rw [List.replicate_zero, List.append_nil] at hn
    rw [← String.toList_inj, String.toList_ofList, ← hn]
  | succ n =>
    refine absurd ?_ h
    rw [List.replicate_succ', ← List.append_assoc] at hn
    exact ⟨_, hn.symm⟩

theorem length_withoutFinalSlashes_le (s : String) :
    (withoutFinalSlashes s).toList.length ≤ s.toList.length := by
  obtain ⟨n, hn⟩ := exists_finalSlashes s
  rw [hn, List.length_append]
  exact Nat.le_add_right _ _

/-! ## The endpoint -/

theorem authorizePath_edgeless : ∀ c ∈ '/' :: "oauth2/auth".toList, isEdge c = false := by
  have hall : ('/' :: "oauth2/auth".toList).all (fun c => !isEdge c) = true := by decide +kernel
  intro c hc
  simpa using List.all_eq_true.mp hall c hc

theorem authorizePath_stays : StaysInPath "oauth2/auth".toList := by
  have hall : "oauth2/auth".toList.all (fun c => !endsPath c) = true := by decide +kernel
  intro c hc
  simpa using List.all_eq_true.mp hall c hc

theorem resolve_authorizePath (done : List (List Char)) :
    resolve done (splitSegments .special "oauth2/auth".toList) =
      done ++ ["oauth2".toList, "auth".toList] := by
  have hsplit : splitSegments .special "oauth2/auth".toList =
      ["oauth2".toList, "auth".toList] := rfl
  rw [hsplit, resolve_cons _ (List.cons_ne_nil _ _)]
  change done ++ ["oauth2".toList] ++ ["auth".toList] = _
  rw [List.append_assoc]
  rfl

theorem write_endpoint (done : List (List Char)) :
    String.ofList (Path.segments (done ++ ["oauth2".toList, "auth".toList])).write =
      String.ofList (Path.segments done).write ++ FlowConfig.authorizePath := by
  rw [write_append, String.ofList_append]
  rfl

/-- A text that ends in slashes is read to its end. -/
theorem clean_append_replicate (front : List Char) (n : Nat) :
    clean (front ++ List.replicate (n + 1) '/') = readable front ++ List.replicate (n + 1) '/' ∧
      readable (front ++ List.replicate (n + 1) '/') =
        readable front ++ List.replicate (n + 1) '/' := by
  have hslashes : ∀ c ∈ '/' :: List.replicate n '/', isEdge c = false := by
    intro c hc
    rw [← List.replicate_succ] at hc
    rw [List.eq_of_mem_replicate hc]
    decide
  exact ⟨clean_append_cons hslashes front, readable_append_cons hslashes front⟩

section

variable {text : String} {u : CodeFlow.Url} {authority : Authority} {path : List Char}

/-- Where a text is read to its end, slashes behind it belong to its path. -/
theorem exists_continues (h : parse text = .ok u) (hspecial : kindOf u.scheme = .special)
    (hending : clean text.toList = readable text.toList) :
    ∃ authority path count,
      Continues (readable (withoutFinalSlashes text).toList) u.scheme authority path ∧
        u = withPathStart u.scheme (some authority) .special
          (path ++ List.replicate count '/') := by
  obtain ⟨count, hcount⟩ := exists_finalSlashes text
  have hclean : clean text.toList =
      readable (withoutFinalSlashes text).toList ++ List.replicate count '/' := by
    rw [hending, hcount]
    cases count with
    | zero => rw [List.replicate_zero, List.append_nil, List.append_nil]
    | succ count => exact (clean_append_replicate _ count).2
  obtain ⟨authority, path, hcont, hu⟩ :=
    parse_append (fun c hc => List.eq_of_mem_replicate hc) hclean h hspecial
  exact ⟨authority, path, count, hcont, hu⟩

theorem parse_of_continues {base : String} {scheme : List Char}
    (hcont : Continues (readable base.toList) scheme authority path) {more : List Char}
    (hmore : ∀ c ∈ '/' :: more, isEdge c = false) :
    parse (base ++ String.ofList ('/' :: more)) =
      .ok (withPathStart scheme (some authority) .special (path ++ '/' :: more)) := by
  refine hcont.read ?_ (hcont.behind.append (behindAuthority_slash more))
  rw [String.toList_append, String.toList_ofList, clean_append_cons hmore]

theorem parse_authorizePath {base : String} {scheme : List Char}
    (hcont : Continues (readable base.toList) scheme authority path) :
    parse (base ++ FlowConfig.authorizePath) =
      .ok (withPathStart scheme (some authority) .special
        (path ++ '/' :: "oauth2/auth".toList)) :=
  parse_of_continues hcont authorizePath_edgeless

/-- The endpoint is below an address if and only if its path leads to no slash at the end where
something stands behind it. -/
theorem exists_isBelow_iff_of_staysInPath {count : Nat}
    (hcont : Continues (readable (withoutFinalSlashes text).toList) u.scheme authority path)
    (hu : u = withPathStart u.scheme (some authority) .special (path ++ List.replicate count '/'))
    (hstays : StaysInPath path) :
    (∃ e, parse (withoutFinalSlashes text ++ FlowConfig.authorizePath) = .ok e ∧
      e.IsBelow u FlowConfig.authorizePath) ↔ ¬['/'] <:+ (Path.segments (entered path)).write := by
  have hendpoint := parse_authorizePath hcont
  rw [withPathStart_behind hstays hcont.behind authorizePath_stays, resolve_authorizePath]
    at hendpoint
  obtain ⟨n, hn⟩ := withPathStart_slashes u.scheme (some authority) hstays hcont.behind count
  rw [hn] at hu
  constructor
  · rintro ⟨e, he, hbelow⟩
    rw [hendpoint] at he
    obtain rfl := Except.ok.inj he
    have hpath := hbelow.path
    rw [write_endpoint] at hpath
    have hcut := (String.append_left_inj _).mp hpath
    rw [← String.toList_ofList (l := (Path.segments (entered path)).write), hcut]
    exact not_suffix_withoutFinalSlashes _
  · intro hend
    refine ⟨_, hendpoint, ⟨rfl, ?_, ?_, rfl, rfl, ?_⟩⟩
    · rw [hu]
    · rw [hu]
    · rw [write_endpoint, hu, write_append, write_replicate, withoutFinalSlashes_append,
        withoutFinalSlashes_of_not_suffix hend]

/-- That is so if and only if the text is open. -/
theorem isOpen_iff_of_staysInPath {count : Nat} (hending : clean text.toList = readable text.toList)
    (hcont : Continues (readable (withoutFinalSlashes text).toList) u.scheme authority path)
    (hu : u = withPathStart u.scheme (some authority) .special (path ++ List.replicate count '/'))
    (hstays : StaysInPath path) :
    u.IsOpen text ↔ ¬['/'] <:+ (Path.segments (entered path)).write := by
  have hslash : parse (withoutFinalSlashes text ++ "/") = _ :=
    parse_of_continues hcont (List.forall_mem_singleton.mpr (by decide))
  rw [withPathStart_behind hstays hcont.behind staysInPath_nil] at hslash
  obtain ⟨n, hn⟩ := withPathStart_slashes u.scheme (some authority) hstays hcont.behind count
  rw [hn] at hu
  have hwrite : (Path.segments (resolve (entered path) (splitSegments .special []))).write =
      (Path.segments (entered path)).write ++ ['/'] := by
    change (Path.segments (entered path ++ [[]])).write = _
    rw [write_append]
    rfl
  constructor
  · intro hopen hend
    refine hopen.slash _ hslash ?_
    rw [hwrite]
    exact List.suffix_append_self_iff.mpr hend
  · intro hend
    refine ⟨by rw [hu], by rw [hu], hending, fun v hv htwo => hend ?_⟩
    rw [hslash] at hv
    obtain rfl := Except.ok.inj hv
    rw [hwrite] at htwo
    exact List.suffix_append_self_iff.mp htwo

/-- Where something is not read at the end of a text, it is read before the endpoint, which is then
further down than the address. -/
theorem not_exists_isBelow (h : parse text = .ok u) (hspecial : kindOf u.scheme = .special)
    (hending : clean text.toList ≠ readable text.toList) :
    ¬∃ e, parse (withoutFinalSlashes text ++ FlowConfig.authorizePath) = .ok e ∧
      e.IsBelow u FlowConfig.authorizePath := by
  rintro ⟨e, he, hbelow⟩
  obtain ⟨count, hcount⟩ := exists_finalSlashes text
  cases count with
  | succ count =>
    rw [hcount, (clean_append_replicate _ count).1, (clean_append_replicate _ count).2] at hending
    exact hending rfl
  | zero =>
    rw [List.replicate_zero, List.append_nil] at hcount
    rw [← String.toList_inj.mp hcount] at he
    obtain ⟨trail, htrail, hedges⟩ := readable_eq_append text.toList
    have hsome : trail ≠ [] := by
      rintro rfl
      rw [List.append_nil] at htrail
      exact hending htrail.symm
    have hclean : clean (text ++ FlowConfig.authorizePath).toList =
        clean text.toList ++ (trail ++ '/' :: "oauth2/auth".toList) := by
      rw [String.toList_append, ← List.append_assoc, ← htrail]
      exact clean_append_cons authorizePath_edgeless _
    have hnone : clean text.toList = clean text.toList ++ [] := (List.append_nil _).symm
    obtain ⟨authority, path, hcont, hu⟩ :=
      parse_append (fun c hc => absurd hc List.not_mem_nil) hnone h hspecial
    by_cases hpath : path = []
    · -- it goes on with the authority
      have htrailStays : StaysInAuthority .special trail := fun c hc =>
        endsAuthority_of_isEdge (hedges c hc)
      have hlast := hcont.last hpath hclean htrailStays hsome (behindAuthority_slash _) he
        _ (List.getLast?_eq_some_getLast hsome)
      rw [hedges _ (List.getLast_mem hsome)] at hlast
      cases hlast
    · -- it goes on with the path, and makes its last segment longer
      have hbehind (more : List Char) : BehindAuthority .special (path ++ more) :=
        hcont.behind.append_of_ne_nil hpath
      rw [hcont.read hclean (hbehind _)] at he
      obtain rfl := Except.ok.inj he
      have hstays := staysInPath_of_withPathStart hbelow.query hbelow.fragment
      rw [← List.append_assoc] at hstays
      have htrailStays : StaysInPath (path ++ trail) := hstays.of_append
      obtain ⟨n, hn⟩ := withPathStart_slashes u.scheme (some authority) htrailStays.of_append
        hcont.behind 0
      rw [List.replicate_zero] at hn
      have hwritten := hbelow.path
      rw [← List.append_assoc, withPathStart_behind htrailStays (hbehind trail)
        authorizePath_stays, resolve_authorizePath, write_endpoint, hu, hn, write_append,
        write_replicate, withoutFinalSlashes_append] at hwritten
      have hcut := (String.append_left_inj _).mp hwritten
      have hshort := length_withoutFinalSlashes_le
        (String.ofList (Path.segments (entered path)).write)
      rw [← hcut, String.toList_ofList, String.toList_ofList] at hshort
      exact absurd hshort (Nat.not_le.mpr (length_write_entered hpath hsome hedges))

/-- The endpoint is below an address if and only if its text is open at its end. -/
theorem exists_isBelow_iff (h : parse text = .ok u) (hspecial : kindOf u.scheme = .special) :
    (∃ e, parse (withoutFinalSlashes text ++ FlowConfig.authorizePath) = .ok e ∧
      e.IsBelow u FlowConfig.authorizePath) ↔ u.IsOpen text := by
  by_cases hending : clean text.toList = readable text.toList
  · obtain ⟨authority, path, count, hcont, hu⟩ := exists_continues h hspecial hending
    by_cases hstays : StaysInPath path
    · exact (exists_isBelow_iff_of_staysInPath hcont hu hstays).trans
        (isOpen_iff_of_staysInPath hending hcont hu hstays).symm
    · -- a query or a fragment begins before what is put behind the text
      refine iff_of_false ?_ fun hopen => ?_
      · rintro ⟨e, he, hbelow⟩
        rw [parse_authorizePath hcont] at he
        obtain rfl := Except.ok.inj he
        exact hstays (staysInPath_of_withPathStart hbelow.query hbelow.fragment).of_append
      · have hquery := hopen.query
        have hfragment := hopen.fragment
        rw [hu] at hquery hfragment
        exact hstays (staysInPath_of_withPathStart hquery hfragment).of_append
  · exact iff_of_false (not_exists_isBelow h hspecial hending) fun hopen => hending hopen.ending

end

theorem parse_of_checkAddresses {addresses : List (String × String)}
    (h : FlowConfig.checkAddresses addresses = .ok ()) {p : String × String} (hp : p ∈ addresses) :
    ∃ u, parse p.2 = .ok u := by
  induction addresses with
  | nil => exact absurd hp List.not_mem_nil
  | cons q rest ih =>
    rw [FlowConfig.checkAddresses] at h
    split at h
    · rename_i u hu
      rcases List.mem_cons.mp hp with rfl | hp
      · exact ⟨u, hu⟩
      · exact ih h hp
    · cases h

/-- A configuration that is accepted has an address for the provider. -/
theorem FlowConfig.parse_of_check {c : FlowConfig} (h : c.check = .ok ()) :
    ∃ u, parse c.oauthBaseUrl = .ok u := by
  unfold FlowConfig.check at h
  split at h
  · cases h
  · split at h
    · cases h
    · split at h
      · cases h
      · split at h
        · cases h
        · exact parse_of_checkAddresses (p := ("oauth_base_url", c.oauthBaseUrl)) h
            List.mem_cons_self

/-- A configuration that is accepted has an address for the provider. If that can be reached over
`http`, the authorization endpoint is an address below it if and only if its text is open at its
end. -/
theorem authorize_endpoint_below {c : FlowConfig} (h : c.check = .ok ()) :
    ∃ u, parse c.oauthBaseUrl = .ok u ∧
      (u.scheme = "http".toList →
        ((∃ e, parse c.authorizeEndpoint = .ok e ∧ e.IsBelow u FlowConfig.authorizePath) ↔
          u.IsOpen c.oauthBaseUrl)) := by
  obtain ⟨u, hu⟩ := c.parse_of_check h
  refine ⟨u, hu, fun hscheme => ?_⟩
  exact exists_isBelow_iff hu (by rw [hscheme]; decide)

/-- A configuration for a provider at an address. -/
def providerAt (base : String) : FlowConfig :=
  .new base "web" "http://app/cb" "" (.ofBase "http://api")

/-- Slashes at the end of the address are not doubled. -/
theorem authorize_endpoint_below_tenant : ∃ u e, parse "http://idp:3000/tenant//" = .ok u ∧
    parse (providerAt "http://idp:3000/tenant//").authorizeEndpoint = .ok e ∧
      e.IsBelow u FlowConfig.authorizePath := by
  have hcheck : (providerAt "http://idp:3000/tenant//").check.isOk = true := by decide +kernel
  have hread : (parse "http://idp:3000/tenant//").toOption =
      some ⟨"http".toList, some ⟨[], [], .name "idp".toList, some 3000⟩,
        .segments ["tenant".toList, [], []], none, none⟩ := by
    decide +kernel
  cases hok : (providerAt "http://idp:3000/tenant//").check with
  | error fault =>
    rw [hok] at hcheck
    cases hcheck
  | ok _ =>
    obtain ⟨u, hu, hbelow⟩ := authorize_endpoint_below hok
    rw [show parse "http://idp:3000/tenant//" = .ok u from hu] at hread
    obtain rfl := Option.some.inj hread
    obtain ⟨e, he, hebelow⟩ := (hbelow rfl).mpr (by decide +kernel)
    exact ⟨_, e, hu, he, hebelow⟩

/-- A configuration is accepted, its provider can be reached over `http`, and yet there is no
endpoint below the address of the provider. -/
def FlowConfig.IsElsewhere (c : FlowConfig) : Prop :=
  c.check = .ok () ∧ ∃ u, parse c.oauthBaseUrl = .ok u ∧ u.scheme = "http".toList ∧
    ¬∃ e, parse c.authorizeEndpoint = .ok e ∧ e.IsBelow u authorizePath

/-- The endpoint of a provider is not below its address, as far as can be computed. -/
def FlowConfig.strays (c : FlowConfig) : Bool :=
  match c.check, parse c.oauthBaseUrl, parse c.authorizeEndpoint with
  | .ok _, .ok u, .ok e => u.scheme = "http".toList && !decide (e.IsBelow u authorizePath)
  | _, _, _ => false

theorem FlowConfig.isElsewhere_of_strays {c : FlowConfig} (h : c.strays = true) :
    c.IsElsewhere := by
  unfold strays at h
  split at h
  · rename_i u e hcheck hu he
    simp only [Bool.and_eq_true, decide_eq_true_eq, Bool.not_eq_true', decide_eq_false_iff_not] at h
    refine ⟨hcheck, u, hu, h.1, ?_⟩
    rintro ⟨_, hagain, hbelow⟩
    rw [he] at hagain
    cases hagain
    exact h.2 hbelow
  · cases h

/-- A query, a fragment, a space at the end, a backslash there, and a segment of a dot behind an
empty one: all of them are accepted, and the endpoint is not below the address. -/
theorem endpoints_elsewhere :
    (providerAt "http://idp?x").IsElsewhere ∧ (providerAt "http://idp#x").IsElsewhere ∧
      (providerAt "http://idp/a ").IsElsewhere ∧ (providerAt "http://idp/a\\").IsElsewhere ∧
        (providerAt "http://idp/a//.").IsElsewhere := by
  refine ⟨?_, ?_, ?_, ?_, ?_⟩ <;>
    exact FlowConfig.isElsewhere_of_strays (by decide +kernel)

end CodeFlow
