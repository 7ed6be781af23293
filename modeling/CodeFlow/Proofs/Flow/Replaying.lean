import CodeFlow.Flow.Client
import CodeFlow.Proofs.Url.Place
import CodeFlow.Proofs.Url.Reencoding

/-!
# Replayed queries

The provider names addresses under its public name, and only their query is brought to the endpoint.
It is encoded there once more, under the scheme of the endpoint. All of it gets there, and nothing
of the endpoint changes but the query (`queries_replayed`): no pair is encoded twice, cut off or
left over, whatever the two texts are.
-/

namespace CodeFlow

namespace Url

variable {base redirect url : Url}

/-- An address has the query of another one, and all else of its base. -/
structure CarriesQuery (base redirect url : Url) : Prop where
  scheme : url.scheme = base.scheme
  authority : url.authority = base.authority
  path : (kindOf base.scheme).isSpecial = true → url.path = base.path
  fragment : url.fragment = base.fragment
  pairs : url.pairs = redirect.pairs
  without : url.query = none ↔ redirect.query = none
  verbatim : (kindOf redirect.scheme).isSpecial = true → url.query = redirect.query

/-- Pairs stay the same where their query is put to another address. -/
theorem pairs_withQuery (u redirect : Url) :
    (u.withQuery redirect.query).pairs = redirect.pairs := by
  rw [pairs_eq, pairs_eq, query_withQuery]
  cases redirect.query with
  | none => rfl
  | some q => exact pairsOf_percentEncode _ q

/-- A query that was read under one of the well-known schemes is put to another address as it is. -/
theorem query_withQuery_of_parse {text : String} (hredirect : parse text = .ok redirect)
    (hspecial : (kindOf redirect.scheme).isSpecial = true) (u : Url) :
    (u.withQuery redirect.query).query = redirect.query := by
  rw [query_withQuery, query_eq_of_parse hredirect, keptQuery, hspecial]
  cases queryText? (clean text.toList) with
  | none => rfl
  | some q => exact congrArg some (percentEncode_of_stricter _ q)

theorem carriesQuery_withQuery {endpoint redirectTo : String} (hbase : parse endpoint = .ok base)
    (hredirect : parse redirectTo = .ok redirect) :
    CarriesQuery base redirect (base.withQuery redirect.query) where
  scheme := scheme_withQuery base redirect.query
  authority := authority_withQuery base redirect.query
  path hspecial := by
    obtain ⟨ss, hss⟩ := segments_of_parse hbase hspecial
    exact path_withQuery hss redirect.query
  fragment := fragment_withQuery base redirect.query
  pairs := pairs_withQuery base redirect
  without := by rw [query_withQuery, Option.map_eq_none_iff]
  verbatim hspecial := query_withQuery_of_parse hredirect hspecial base

end Url

/-- Wherever both addresses can be read, the endpoint is asked with the whole query of the other one
and with nothing else of it. Where one of them cannot be read, the step fails for that. -/
theorem queries_replayed (step : Step) (endpoint redirectTo : String) :
    match Url.parse redirectTo, Url.parse endpoint with
    | .ok redirect, .ok base =>
      ∃ url, Session.ofRead step (replayUrl endpoint redirectTo) = pure url ∧
        base.CarriesQuery redirect url
    | .ok _, .error fault =>
      Session.ofRead step (replayUrl endpoint redirectTo) =
        .breaks step (.invalidRedirect fault)
    | .error fault, _ =>
      Session.ofRead step (replayUrl endpoint redirectTo) =
        .breaks step (.invalidRedirect fault) := by
  unfold replayUrl
  cases hredirect : Url.parse redirectTo with
  | error fault => rfl
  | ok redirect =>
    cases hbase : Url.parse endpoint with
    | error fault => rfl
    | ok base => exact ⟨_, rfl, Url.carriesQuery_withQuery hbase hredirect⟩

/-- An apostrophe is kept under one scheme and encoded under the other. -/
example :
    (replayUrl "http://me@local:81/at?own=1#f" "x:/?k='%27 ü").toOption.map Url.text =
      some "http://me@local:81/at?k=%27%27%20%C3%BC#f" := by
  decide +kernel

end CodeFlow
