import Mathlib.Data.List.Basic
import RuleLint.Probe.Http
import RuleLint.Proofs.Url.PlainDomain

namespace RuleLint.Http

/-- A server by what it responds to requests for its paths. Where it sends one on, the location is a
whole URL. -/
structure Server where
  origin : String
  respond : Method → (path : String) → Response

/-- A network with a server in it. Requests that are not for the server go elsewhere. -/
def Server.transport (server : Server) (elsewhere : Transport) : Transport := fun method url =>
  match Text.rest? (server.origin ++ "/").toList url.toList with
  | some path => .ok (server.respond method ("/" ++ .ofList path))
  | none => elsewhere method url

def SendsOn (t : Transport) (m : Method) (url target : String) : Prop :=
  ∃ response, t m url = .ok response ∧ response.redirect? = some target

/-- How a chain of requests ends. -/
inductive Ending where
  | final (status : Nat)
  /-- With a redirect that is not followed, for too many have been. -/
  | tooMany
  | unanswered

namespace Ending

/-- A chain ends in this way with the last of its URLs. -/
def At (t : Transport) (m : Method) (bound : Nat) (urls : List String) (last : String) :
    Ending → Prop
  | final status => ∃ response, t m last = .ok response ∧ response.redirect? = none ∧
      response.status = status
  | tooMany => urls.length = bound + 1 ∧ ∃ target, SendsOn t m last target
  | unanswered => ∃ cause, t m last = .error cause

def Refuses (e : Ending) : Prop := ∃ status ∈ [403, 405, 501], e = final status

def IsSuccess (e : Ending) : Prop := ∃ status, e = final status ∧ 200 ≤ status ∧ status ≤ 299

/-- Of the URLs that are asked for, those whose requests get a response. -/
def answered (urls : List String) : Ending → List String
  | unanswered => urls.dropLast
  | final _ | tooMany => urls

def SaidAs (outcome : Except String Nat) : Ending → Prop
  | final status => outcome = .ok status
  | tooMany | unanswered => ∃ cause, outcome = .error cause

theorem answered_cons {urls : List String} (h : urls ≠ []) (url : String) (e : Ending) :
    e.answered (url :: urls) = url :: e.answered urls := by
  cases e with
  | final | tooMany => rfl
  | unanswered => exact List.dropLast_cons_of_ne_nil h

theorem answered_nil (e : Ending) : e.answered [] = [] := by
  cases e <;> rfl

theorem length_answered_le (urls : List String) (e : Ending) :
    (e.answered urls).length ≤ urls.length := by
  cases e with
  | final | tooMany => exact Nat.le_refl _
  | unanswered => exact (List.dropLast_sublist urls).length_le

end Ending

/-- The URLs that are asked for one after the other, the first of them given and each other one the
target of a redirect; no more than `bound` redirects are followed. -/
structure Chain (t : Transport) (m : Method) (bound : Nat) (start : String) (urls : List String)
    (ending : Ending) :
    Prop where
  starts : urls.head? = some start
  linked : urls.IsChain (SendsOn t m)
  bounded : urls.length ≤ bound + 1
  ends : ∃ last, urls.getLast? = some last ∧ ending.At t m bound urls last

/-- The course of a probe: a chain of requests for the head, and one of requests in full exactly if
the first ends with a refusal. The probe succeeds exactly if the last chain ends with success. -/
structure Course (t : Transport) (url : String) (result : Result) (heads gets : List String)
    (headEnding lastEnding : Ending) : Prop where
  head : Chain t .head maxRedirects url heads headEnding
  full : headEnding.Refuses → Chain t .get maxRedirects url gets lastEnding
  head_only : ¬ headEnding.Refuses → gets = [] ∧ lastEnding = headEnding
  requests : result.requests =
    (headEnding.answered heads).map (Method.head, ·) ++
      (lastEnding.answered gets).map (Method.get, ·)
  sent : heads.length + gets.length ≤ 22
  success : result.failure = none ↔ lastEnding.IsSuccess

variable {t : Transport} {m : Method} {bound : Nat} {url target : String} {urls : List String}
    {e : Ending}

namespace Chain

theorem ne_nil (h : Chain t m bound url urls e) : urls ≠ [] := by
  rintro rfl
  exact absurd h.starts (by simp)

theorem single (h : e.At t m bound [url] url) : Chain t m bound url [url] e :=
  ⟨rfl, List.IsChain.singleton url, Nat.le_add_left 1 bound, url, rfl, h⟩

theorem cons (hurl : SendsOn t m url target) (h : Chain t m bound target urls e) :
    Chain t m (bound + 1) url (url :: urls) e := by
  obtain ⟨rest, rfl⟩ := List.head?_eq_some_iff.mp h.starts
  obtain ⟨last, hlast, hends⟩ := h.ends
  refine ⟨rfl, List.isChain_cons_cons.mpr ⟨hurl, h.linked⟩, Nat.succ_le_succ h.bounded,
    last, hlast, ?_⟩
  cases e with
  | final | unanswered => exact hends
  | tooMany => exact ⟨congrArg (· + 1) hends.1, hends.2⟩

end Chain

structure ChainOf (t : Transport) (m : Method) (bound : Nat) (url : String) (exchange : Exchange)
    (urls : List String) (e : Ending) : Prop where
  chain : Chain t m bound url urls e
  requests : exchange.requests = (e.answered urls).map (m, ·)
  outcome : e.SaidAs exchange.outcome

theorem send_zero_of_sendsOn (h : SendsOn t m url target) :
    send t m 0 url =
      ⟨[(m, url)],
        .error ("error following redirect for url (" ++ url ++ "): too many redirects")⟩ := by
  obtain ⟨response, hresponse, htarget⟩ := h
  unfold send
  rw [hresponse]
  dsimp only
  rw [htarget]

theorem send_succ_of_sendsOn (h : SendsOn t m url target) :
    send t m (bound + 1) url =
      ⟨(m, url) :: (send t m bound target).requests, (send t m bound target).outcome⟩ := by
  obtain ⟨response, hresponse, htarget⟩ := h
  rw [send, hresponse]
  dsimp only
  rw [htarget]

theorem exists_chainOf_of_stop (h : ¬ ∃ target, SendsOn t m url target) :
    ∃ e, ChainOf t m bound url (send t m bound url) [url] e := by
  unfold send
  cases hresponse : t m url with
  | error cause => exact ⟨.unanswered, .single ⟨cause, hresponse⟩, rfl, _, rfl⟩
  | ok response =>
    cases hredirect : response.redirect? with
    | some target => exact absurd ⟨target, response, hresponse, hredirect⟩ h
    | none =>
      dsimp only
      rw [hredirect]
      exact ⟨.final response.status, .single ⟨response, hresponse, hredirect, rfl⟩, rfl, rfl⟩

/-- Every exchange follows a chain, as far as it has redirects left. -/
theorem exists_chainOf_send (t : Transport) (m : Method) (bound : Nat) (url : String) :
    ∃ urls e, ChainOf t m bound url (send t m bound url) urls e := by
  induction bound generalizing url with
  | zero =>
    by_cases h : ∃ target, SendsOn t m url target
    · obtain ⟨target, htarget⟩ := h
      rw [send_zero_of_sendsOn htarget]
      exact ⟨[url], .tooMany, .single ⟨rfl, target, htarget⟩, rfl, _, rfl⟩
    · exact ⟨[url], exists_chainOf_of_stop h⟩
  | succ bound ih =>
    by_cases h : ∃ target, SendsOn t m url target
    · obtain ⟨target, htarget⟩ := h
      obtain ⟨urls, e, hrest⟩ := ih target
      rw [send_succ_of_sendsOn htarget]
      refine ⟨url :: urls, e, hrest.chain.cons htarget, ?_, hrest.outcome⟩
      rw [Ending.answered_cons hrest.chain.ne_nil, List.map_cons, hrest.requests]
    · exact ⟨[url], exists_chainOf_of_stop h⟩

namespace Ending

theorem refusesHead_iff {status : Nat} : refusesHead status = true ↔ (final status).Refuses := by
  unfold refusesHead Refuses
  rw [decide_eq_true_eq]
  constructor
  · exact fun h => ⟨status, h, rfl⟩
  · rintro ⟨_, h, ⟨⟩⟩
    exact h

theorem isSuccess_iff {status : Nat} : Http.isSuccess status = true ↔ (final status).IsSuccess := by
  unfold Http.isSuccess IsSuccess
  rw [Bool.and_eq_true, decide_eq_true_eq, decide_eq_true_eq, Nat.lt_succ_iff]
  constructor
  · exact fun h => ⟨status, rfl, h⟩
  · rintro ⟨_, ⟨⟩, h⟩
    exact h

end Ending

theorem failure_result {exchange : Exchange} (h : e.SaidAs exchange.outcome)
    (earlier : List (Method × String)) :
    (exchange.result earlier).failure = none ↔ e.IsSuccess := by
  unfold Exchange.result
  dsimp only
  cases e with
  | final status =>
    have houtcome : exchange.outcome = .ok status := h
    rw [houtcome, ← Ending.isSuccess_iff]
    dsimp only
    by_cases hstatus : isSuccess status = true
    · rw [if_pos hstatus]
      exact iff_of_true rfl hstatus
    · rw [if_neg hstatus]
      exact iff_of_false (Option.some_ne_none _) hstatus
  | tooMany | unanswered =>
    obtain ⟨cause, houtcome⟩ := h
    rw [houtcome]
    refine iff_of_false (Option.some_ne_none cause) ?_
    rintro ⟨_, ⟨⟩, -⟩

theorem probeUrl_of_refuses (h : e.Refuses)
    (houtcome : e.SaidAs (send t .head maxRedirects url).outcome) :
    probeUrl t url =
      (send t .get maxRedirects url).result (send t .head maxRedirects url).requests := by
  obtain ⟨status, hstatus, rfl⟩ := h
  have hok : (send t .head maxRedirects url).outcome = .ok status := houtcome
  unfold probeUrl
  dsimp only
  rw [hok]
  exact if_pos (Ending.refusesHead_iff.mpr ⟨status, hstatus, rfl⟩)

theorem probeUrl_of_not_refuses (h : ¬ e.Refuses)
    (houtcome : e.SaidAs (send t .head maxRedirects url).outcome) :
    probeUrl t url = (send t .head maxRedirects url).result [] := by
  unfold probeUrl
  dsimp only
  cases e with
  | final status =>
    have hok : (send t .head maxRedirects url).outcome = .ok status := houtcome
    rw [hok]
    exact if_neg (mt Ending.refusesHead_iff.mp h)
  | tooMany | unanswered =>
    obtain ⟨cause, herror⟩ := houtcome
    rw [herror]

/-- Every probe takes its course. -/
theorem exists_course_probeUrl (t : Transport) (url : String) :
    ∃ heads gets headEnding lastEnding,
    Course t url (probeUrl t url) heads gets headEnding lastEnding := by
  obtain ⟨heads, headEnding, hhead⟩ := exists_chainOf_send t .head maxRedirects url
  have hheads : heads.length ≤ 11 := hhead.chain.bounded
  by_cases hrefuses : headEnding.Refuses
  · obtain ⟨gets, lastEnding, hget⟩ := exists_chainOf_send t .get maxRedirects url
    have hgets : gets.length ≤ 11 := hget.chain.bounded
    refine ⟨heads, gets, headEnding, lastEnding, hhead.chain, fun _ => hget.chain, absurd hrefuses,
      ?_, by omega, ?_⟩
    · rw [probeUrl_of_refuses hrefuses hhead.outcome, Exchange.result, hhead.requests,
        hget.requests]
    · rw [probeUrl_of_refuses hrefuses hhead.outcome]
      exact failure_result hget.outcome _
  · refine ⟨heads, [], headEnding, headEnding, hhead.chain, fun h => absurd h hrefuses,
      fun _ => ⟨rfl, rfl⟩, ?_, Nat.le_trans hheads (by decide), ?_⟩
    · rw [probeUrl_of_not_refuses hrefuses hhead.outcome, Exchange.result, hhead.requests,
        headEnding.answered_nil]
      simp only [List.nil_append, List.map_nil, List.append_nil]
    · rw [probeUrl_of_not_refuses hrefuses hhead.outcome]
      exact failure_result hhead.outcome _

theorem transport_of_origin (server : Server) (elsewhere : Transport) (method : Method)
    {path : String} (h : url = server.origin ++ "/" ++ path) :
    server.transport elsewhere method url = .ok (server.respond method ("/" ++ path)) := by
  unfold Server.transport
  have hpath : Text.rest? (server.origin ++ "/").toList url.toList = some path.toList := by
    rw [Text.rest?_eq_some_iff, h, String.toList_append]
  rw [hpath]
  dsimp only
  rw [String.ofList_toList]

theorem Chain.answered_ne_nil (h : Chain t m bound url urls e) {response : Response}
    (hresponse : t m url = .ok response) :
    e.answered urls ≠ [] := by
  cases e with
  | final | tooMany => exact h.ne_nil
  | unanswered =>
    intro hnone
    obtain ⟨rest, rfl⟩ := List.head?_eq_some_iff.mp h.starts
    obtain ⟨last, hlast, cause, herror⟩ := h.ends
    -- The start would be the last, and nobody would respond to it.
    cases rest with
    | nil =>
      have hstart : url = last := Option.some.inj hlast
      rw [← hstart, hresponse] at herror
      contradiction
    | cons => exact absurd hnone (List.cons_ne_nil _ _)

/-- A probe of a server takes its course whatever the server responds, be it redirects in a circle:
a chain of requests for the head, and then one of requests in full exactly if the first chain ends
with a refusal, 22 requests at most. -/
theorem course_of_server (server : Server) (elsewhere : Transport) {text path : String} {u : Url}
    (hread : Url.ofText text = .ok u) (hpath : u.text = server.origin ++ "/" ++ path) :
    let result := probe (server.transport elsewhere) text
    ∃ heads gets headEnding lastEnding,
      Course (server.transport elsewhere) u.text result heads gets headEnding lastEnding ∧
      headEnding.answered heads ≠ [] ∧ (lastEnding.answered gets ≠ [] ↔ headEnding.Refuses) ∧
      result.requests.length ≤ 22 := by
  intro result
  have hresult : result = probeUrl (server.transport elsewhere) u.text := by
    show probe _ text = _
    unfold probe
    rw [hread]
  have hanswer (m : Method) := transport_of_origin server elsewhere m hpath
  obtain ⟨heads, gets, headEnding, lastEnding, hcourse⟩ :=
    exists_course_probeUrl (server.transport elsewhere) u.text
  rw [← hresult] at hcourse
  refine ⟨heads, gets, headEnding, lastEnding, hcourse,
    hcourse.head.answered_ne_nil (hanswer .head), ?_, ?_⟩
  · constructor
    · intro hasked
      by_contra hrefuses
      obtain ⟨rfl, rfl⟩ := hcourse.head_only hrefuses
      exact hasked (Ending.answered_nil _)
    · exact fun hrefuses => (hcourse.full hrefuses).answered_ne_nil (hanswer .get)
  · rw [hcourse.requests, List.length_append, List.length_map, List.length_map]
    have hheads := headEnding.length_answered_le heads
    have hgets := lastEnding.length_answered_le gets
    have hsent := hcourse.sent
    omega

/-- A server that refuses the head behind a redirect, and sends requests in full around in a
circle. -/
def circlingServer : Server where
  origin := "https://a.example"
  respond method path :=
    match method with
    | .head => if path = "/x" then ⟨302, some "https://a.example/y"⟩ else ⟨405, none⟩
    | .get => if path = "/x" then ⟨308, some "https://a.example/z"⟩
        else ⟨301, some "https://a.example/x"⟩

theorem course_of_circlingServer :
    let t := circlingServer.transport .offline
    ∃ u, Url.ofText "https://a.example/x" = .ok u ∧ u.text = circlingServer.origin ++ "/" ++ "x" ∧
      ∃ heads gets headEnding lastEnding,
        Course t u.text (probe t "https://a.example/x") heads gets headEnding lastEnding ∧
        headEnding.answered heads ≠ [] ∧ (lastEnding.answered gets ≠ [] ↔ headEnding.Refuses) ∧
        (probe t "https://a.example/x").requests.length ≤ 22 := by
  intro t
  have hcut : Url.cutScheme? (Url.clean "https://a.example/x".toList) =
      some ("https".toList, "//".toList ++ ("a.example".toList ++ '/' :: "x".toList)) := by
    decide +kernel
  have hread : Url.ofText "https://a.example/x" = .ok {
      scheme := "https".toList, host := some (.domain "a.example".toList), path :=
    "/x".toList } := by
    rw [Url.ofText_of_plain (by decide +kernel) (by decide) (by decide +kernel) hcut]
    decide +kernel
  have hpath : Url.text
      { scheme := "https".toList, host := some (.domain "a.example".toList), path := "/x".toList } =
      circlingServer.origin ++ "/" ++ "x" := by decide +kernel
  exact ⟨_, hread, hpath, course_of_server circlingServer .offline hread hpath⟩

example : (probeUrl (circlingServer.transport .offline) "https://a.example/x").requests.length =
    13 := by decide

end RuleLint.Http
