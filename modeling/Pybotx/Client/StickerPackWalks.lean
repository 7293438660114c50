/-
When the iteration over sticker packs ends, and what it hands out when a page fails.

The generator knows no page but the last one.  It goes on for as long as the server names
cursors, and a cursor that is named twice is asked for again and again.
-/

import Pybotx.Client.Destinations
import Pybotx.Client.StickerPackPages

set_option autoImplicit false

namespace Pybotx

open StateTransition Validator

namespace StickerPackGenerator

section

variable {env : Environment} {clock : Nat → Moment} {session : Session} {userHuid : UUID}
  {server : Option String → StickerPackPage}

/-- The iteration ends exactly if the cursors lead to an end, and then no page has been asked for
twice.  Otherwise it comes to ask for any number of pages. -/
structure EndsWithCursors (env : Environment) (clock : Nat → Moment) (session : Session)
    (userHuid : UUID) (server : Option String → StickerPackPage) : Prop where
  ends : (eval (step env clock userHuid) (iterateByStickerPacks session)).Dom ↔
    ∃ pages, Paging.Chain server StickerPackPage.next none pages
  distinct : ∀ last, last ∈ eval (step env clock userHuid) (iterateByStickerPacks session) →
    ∃ asked, asked.Nodup ∧ List.Forall₂ (PageRequest env session userHuid) last.requests asked
  endless : (∀ pages, ¬ Paging.Chain server StickerPackPage.next none pages) →
    ∀ count, ∃ generator,
      Reaches (step env clock userHuid) (iterateByStickerPacks session) generator ∧
        generator.requests.length = count ∧ ∃ after, generator.phase = .requesting after

theorem requesting_of_follows {generator : StickerPackGenerator} {cursor : Option String}
    {requested : List (Option String)} {yielded : List StickerPackFromList}
    (follows : Follows env session userHuid generator ⟨.requesting cursor, requested, yielded⟩) :
    generator.phase = .requesting cursor := by
  obtain ⟨phase, current, requests, handed⟩ := generator
  obtain ⟨same, _, _, _⟩ := follows
  cases same
  rfl

theorem iterateByStickerPacks_ends (env : Environment) (clock : Nat → Moment)
    (session : Session) (userHuid : UUID) (server : Option String → StickerPackPage)
    (serves : Serves env clock session userHuid server) :
    EndsWithCursors env clock session userHuid server := by
  have respects := (step_follows serves).respects
  have start := start_follows env session userHuid
  have ends : (eval (step env clock userHuid) (iterateByStickerPacks session)).Dom ↔
      ∃ pages, Paging.Chain server StickerPackPage.next none pages := by
    rw [← tr_eval_dom respects start]
    exact Paging.Walk.eval_start_dom_iff
  refine ⟨ends, ?_, ?_⟩
  · intro last evaluated
    obtain ⟨pages, chain⟩ := ends.mp (Part.dom_iff_mem.mpr ⟨last, evaluated⟩)
    obtain ⟨walk, follows, walked⟩ := tr_eval respects start evaluated
    have same := Part.mem_unique walked (Paging.Walk.eval_start chain)
    subst same
    exact ⟨_, chain.cursors_nodup, follows.requests⟩
  · intro noEnd count
    obtain ⟨cursor, requested, yielded, reached, length, _⟩ :=
      Paging.Walk.reaches_requests StickerPackPage.stickerPacks noEnd count [] []
    obtain ⟨generator, run, follows⟩ := (step_follows serves).reaches_of_reaches start reached
    refine ⟨generator, run, ?_, cursor, requesting_of_follows follows⟩
    rw [follows.requests.length_eq, length]
    exact Nat.zero_add count

/-- A server of two pages is walked through to its end. -/
theorem iterateByStickerPacks_ends_demo :
    EndsWithCursors demoPagesEnvironment (fun _ => ⟨0, ""⟩) demoSession demoAccount.id
      demoPages :=
  iterateByStickerPacks_ends demoPagesEnvironment _ demoSession demoAccount.id demoPages
    demoPages_served

/-! ### Any server -/

/-- The request that comes next is answered by its own server: what is asked for twice may be
answered in two ways. -/
def stepAt (env : Environment) (clock : Nat → Moment) (clients : Nat → HttpClient)
    (userHuid : UUID) (generator : StickerPackGenerator) : Option StickerPackGenerator :=
  step (env.withClient (clients generator.requests.length)) clock userHuid generator

inductive PageFails (env : Environment) (outgoing : OutgoingRequest) : PyError → Prop
  | unanswered (description : String)
      (failed : env.httpClient outgoing = .failed description) :
      PageFails env outgoing (networkError outgoing description)
  | cut (url : String) (status : Nat) (body : Body) (description : String)
      (answered : env.httpClient outgoing = .answered url status body)
      (failure : body.failure = some description) :
      PageFails env outgoing (networkError outgoing description)
  | refused (url : String) (status : Nat) (body : Body)
      (answered : env.httpClient outgoing = .answered url status body)
      (complete : body.failure = none) (unsuccessful : ¬ (200 ≤ status ∧ status < 300)) :
      PageFails env outgoing
        (.client (if status = 401 then .invalidBotAccount else .invalidBotXStatusCode)
          (responseMessage ⟨some outgoing.method, url, status, body⟩ body.bytes none))
  | unread (url : String) (status : Nat) (body : Body)
      (answered : env.httpClient outgoing = .answered url status body)
      (complete : body.failure = none) (successful : 200 ≤ status ∧ status < 300)
      (noPage : env.python.loads body.bytes = .error .jsonDecode ∨
        ∃ raw, env.python.loads body.bytes = .ok raw ∧
          (okPayload (BotXAPIGetStickerPacksResult.check env.python) raw : Validated Empty _) =
            .invalid) :
      PageFails env outgoing (.client .invalidBotXResponsePayload
        (responseMessage ⟨some outgoing.method, url, status, body⟩ body.bytes none))
  | undecoded (url : String) (status : Nat) (body : Body) (failure : DecodingError)
      (answered : env.httpClient outgoing = .answered url status body)
      (complete : body.failure = none) (successful : 200 ≤ status ∧ status < 300)
      (failed : env.python.loads body.bytes = .error failure) (other : failure ≠ .jsonDecode) :
      PageFails env outgoing failure.exc

/-- The requests for pages so far and the pages that they were answered with, one for one, and
what the next request has to ask for.  A page that names no cursor is the last one. -/
inductive Received (env : Environment) (clients : Nat → HttpClient) (session : Session)
    (userHuid : UUID) : List OutgoingRequest → List StickerPackPage → Option String → Prop
  | start : Received env clients session userHuid [] [] none
  | page (requests : List OutgoingRequest) (pages : List StickerPackPage)
      (upcoming : Option String) (outgoing : OutgoingRequest) (page : StickerPackPage)
      (earlier : Received env clients session userHuid requests pages upcoming)
      (continues : pages = [] ∨ upcoming ≠ none)
      (asked : PageRequest env session userHuid outgoing upcoming)
      (answered : AnsweredWith (env.withClient (clients requests.length)) outgoing page) :
      Received env clients session userHuid (requests ++ [outgoing]) (pages ++ [page]) page.next

/-- How far the iteration has come with the pages that it has received. -/
inductive Brought (env : Environment) (clock : Nat → Moment) (clients : Nat → HttpClient)
    (session : Session) (userHuid : UUID) :
    List StickerPackPage → StickerPackGenerator → Prop
  | requesting (requests : List OutgoingRequest) (pages : List StickerPackPage)
      (after : Option String) (current : Session)
      (accounts : current.storage.botAccounts = session.storage.botAccounts)
      (received : Received env clients session userHuid requests pages after)
      (continues : pages = [] ∨ after ≠ none) :
      Brought env clock clients session userHuid pages
        ⟨.requesting after, current, requests, pages.flatMap StickerPackPage.stickerPacks⟩
  | yielding (requests : List OutgoingRequest) (earlier : List StickerPackPage)
      (page : StickerPackPage) (handed rest : List StickerPackFromList) (current : Session)
      (accounts : current.storage.botAccounts = session.storage.botAccounts)
      (received : Received env clients session userHuid requests (earlier ++ [page]) page.next)
      (content : page.stickerPacks = handed ++ rest) :
      Brought env clock clients session userHuid (earlier ++ [page])
        ⟨.yielding rest page.after, current, requests,
          earlier.flatMap StickerPackPage.stickerPacks ++ handed⟩
  | stopped (requests : List OutgoingRequest) (pages : List StickerPackPage) (current : Session)
      (received : Received env clients session userHuid requests pages none)
      (nonempty : pages ≠ []) :
      Brought env clock clients session userHuid pages
        ⟨.stopped, current, requests, pages.flatMap StickerPackPage.stickerPacks⟩
  | unsent (requests : List OutgoingRequest) (pages : List StickerPackPage)
      (after : Option String) (exc : PyError) (current : Session)
      (received : Received env clients session userHuid requests pages after)
      (continues : pages = [] ∨ after ≠ none)
      (unprepared : (getStickerPacksMethod env.python).prepare
        ((env.withClient (clients requests.length)).atMoment (clock requests.length))
        (stickerPackPagePayload userHuid after) current.storage = .error exc) :
      Brought env clock clients session userHuid pages
        ⟨.raised exc, current, requests, pages.flatMap StickerPackPage.stickerPacks⟩
  | failed (requests : List OutgoingRequest) (pages : List StickerPackPage)
      (after : Option String) (outgoing : OutgoingRequest) (exc : PyError) (current : Session)
      (received : Received env clients session userHuid requests pages after)
      (continues : pages = [] ∨ after ≠ none)
      (asked : PageRequest env session userHuid outgoing after)
      (fails : PageFails (env.withClient (clients requests.length)) outgoing exc) :
      Brought env clock clients session userHuid pages
        ⟨.raised exc, current, requests ++ [outgoing],
          pages.flatMap StickerPackPage.stickerPacks⟩

variable {clients : Nat → HttpClient} {requests : List OutgoingRequest}
  {pages : List StickerPackPage} {after : Option String} {outgoing : OutgoingRequest}

theorem next_fresh (page : StickerPackPage) : page.next ≠ some "" := by
  rcases page.next_cases with ⟨_, ends⟩ | ⟨_, cursor, nonempty, _, continues⟩
  · rw [ends]
    exact (Option.some_ne_none "").symm
  · rw [continues]
    intro same
    exact nonempty (Option.some.inj same)

theorem Received.fresh (received : Received env clients session userHuid requests pages after) :
    after ≠ some "" := by
  cases received with
  | start => exact (Option.some_ne_none "").symm
  | page => exact next_fresh _

theorem authorizedStatusHandlers_of_other {status : Nat} (other : status ≠ 401) :
    authorizedStatusHandlers status = none :=
  Function.update_of_ne other _ _

theorem raiseForStatus_of_refused {response : HttpResponse} {content : List UInt8}
    (complete : response.data = .ok content) (unsuccessful : ¬ response.Successful) :
    raiseForStatus authorizedStatusHandlers response =
      .error (.client (if response.status = 401 then .invalidBotAccount else .invalidBotXStatusCode)
        (responseMessage response content none)) := by
  by_cases unauthorized : response.status = 401
  · rw [if_pos unauthorized]
    have found : authorizedStatusHandlers response.status =
        some (responseExceptionThrower .invalidBotAccount none) := by
      rw [unauthorized]
      exact Function.update_self 401 _ StatusHandlers.empty
    exact raiseForStatus_of_handler found
      (raiseFromResponse_of_data _ response none content complete)
  · rw [if_neg unauthorized,
      raiseForStatus_of_none (authorizedStatusHandlers_of_other unauthorized),
      if_neg unsuccessful]
    exact raiseFromResponse_of_data _ response none content complete

abbrev readPage (env : Environment) (outgoing : OutgoingRequest) :
    Result BotXAPIGetStickerPacksResponsePayload :=
  callAndRead env authorizedStatusHandlers
    (.returning (okPayload (BotXAPIGetStickerPacksResult.check env.python))) outgoing

/-- A page that is returned was in the answer, and an exception tells what was there instead. -/
def AnsweredBy (env : Environment) (outgoing : OutgoingRequest) :
    Result BotXAPIGetStickerPacksResponsePayload → Prop
  | .ok stickerPackList =>
      AnsweredWith env outgoing (BotXAPIGetStickerPacksResponsePayload.toDomain stickerPackList)
  | .error exc => PageFails env outgoing exc

section

variable {url : String} {status : Nat} {body : Body}
  (exchange : env.httpClient outgoing = .answered url status body)
  (complete : body.failure = none)

include exchange complete

theorem answeredBy_of_refused (unsuccessful : ¬ (200 ≤ status ∧ status < 300)) :
    AnsweredBy env outgoing (readPage env outgoing) := by
  have data : (⟨some outgoing.method, url, status, body⟩ : HttpResponse).data = .ok body.bytes :=
    (body.read_eq_ok_iff _).mpr ⟨complete, rfl⟩
  have refused := raiseForStatus_of_refused data unsuccessful
  unfold readPage callAndRead botxMethodCall
  rw [HttpClient.request_of_complete true exchange complete]
  simp only [refused]
  exact .refused url status body exchange complete unsuccessful

theorem answeredBy_of_success (successful : 200 ≤ status ∧ status < 300) :
    AnsweredBy env outgoing (readPage env outgoing) := by
  have data : (⟨some outgoing.method, url, status, body⟩ : HttpResponse).data = .ok body.bytes :=
    (body.read_eq_ok_iff _).mpr ⟨complete, rfl⟩
  have passed : raiseForStatus authorizedStatusHandlers
      ⟨some outgoing.method, url, status, body⟩ = .ok () :=
    raiseForStatus_eq_ok_iff.mpr ⟨authorizedStatusHandlers_of_success successful, successful⟩
  unfold readPage callAndRead botxMethodCall
  rw [HttpClient.request_of_complete true exchange complete]
  simp only [passed]
  change AnsweredBy env outgoing (verifyAndExtractApiModel env.python
    (silent (okPayload (BotXAPIGetStickerPacksResult.check env.python))) _ >>= _)
  cases decoded : env.python.loads body.bytes with
  | error failure =>
      rw [verifyAndExtractApiModel_of_undecoded _ _ _ _ data failure decoded]
      cases failure with
      | jsonDecode =>
          unfold DecodingError.extracted
          rw [raiseFromResponse_of_data _ _ _ _ data]
          exact .unread url status body exchange complete successful (.inl decoded)
      | _ =>
          exact .undecoded url status body _ exchange complete successful decoded (by simp)
  | ok raw =>
      rw [verifyAndExtractApiModel_of_decoded _ _ _ _ data raw decoded]
      unfold silent
      cases checked : (okPayload (BotXAPIGetStickerPacksResult.check env.python) raw :
          Validated Empty _) with
      | valid stickerPackList =>
          exact ⟨url, status, body, raw, stickerPackList, exchange, successful, complete, decoded,
            checked, rfl⟩
      | invalid =>
          change AnsweredBy env outgoing (raiseFromResponse _ _ _ >>= _)
          rw [raiseFromResponse_of_data _ _ _ _ data]
          exact .unread url status body exchange complete successful (.inr ⟨raw, decoded, checked⟩)
      | raised never => cases never

end

theorem readPage_answeredBy (env : Environment) (outgoing : OutgoingRequest) :
    AnsweredBy env outgoing (readPage env outgoing) := by
  cases exchange : env.httpClient outgoing with
  | failed description =>
      unfold readPage callAndRead botxMethodCall HttpClient.request
      rw [exchange]
      exact .unanswered description exchange
  | answered url status body =>
      cases failure : body.failure with
      | some description =>
          unfold readPage callAndRead botxMethodCall HttpClient.request
          rw [exchange]
          simp only [failure]
          exact .cut url status body description exchange failure
      | none =>
          by_cases successful : 200 ≤ status ∧ status < 300
          · exact answeredBy_of_success exchange failure successful
          · exact answeredBy_of_refused exchange failure successful

theorem botAccounts_of_execute (env : Environment) (moment : Moment) (payload : Payload)
    (current : Session) :
    ((getStickerPacksMethod env.python).execute (env.atMoment moment) payload
      current).2.storage.botAccounts = current.storage.botAccounts := by
  rw [execute_storage]
  cases prepared : (getStickerPacksMethod env.python).prepare (env.atMoment moment) payload
      current.storage with
  | error exc => rfl
  | ok result =>
      obtain ⟨outgoing, authorized⟩ := result
      obtain ⟨url, headers, _, added, _⟩ := (BotXMethod.prepare_eq_ok_iff authorized).mp prepared
      exact (authorize_again added).1

theorem pageRequest_of_accounts {current : Session} {client : HttpClient}
    (request : PageRequest (env.withClient client) current userHuid outgoing after)
    (accounts : current.storage.botAccounts = session.storage.botAccounts) :
    PageRequest env session userHuid outgoing after := by
  obtain ⟨method, ⟨url, built, address⟩, content⟩ := request
  refine ⟨method, ⟨url, ?_, address⟩, content⟩
  rw [← built]
  exact buildUrl_of_accounts env.botId stickersPath accounts.symm

theorem brought_start : Brought env clock clients session userHuid []
    (iterateByStickerPacks session) :=
  .requesting [] [] none session rfl .start (.inl rfl)

theorem requestPage_of_sent {asking : Environment} {generator : StickerPackGenerator}
    (sent : (getStickerPacksMethod asking.python).sends asking
      (stickerPackPagePayload userHuid after) generator.session = some outgoing) :
    requestPage asking userHuid after generator =
      ⟨received (readPage asking outgoing),
        ((getStickerPacksMethod asking.python).execute asking
          (stickerPackPagePayload userHuid after) generator.session).2,
        generator.requests ++ [outgoing], generator.yielded⟩ := by
  have read : ((getStickerPacksMethod asking.python).execute asking
      (stickerPackPagePayload userHuid after) generator.session).1 = readPage asking outgoing :=
    BotXMethod.execute_of_sent sent
  rw [← read]
  unfold requestPage
  change StickerPackGenerator.mk _ _ (generator.requests ++ ((getStickerPacksMethod
    asking.python).sends asking (stickerPackPagePayload userHuid after)
    generator.session).toList) _ = _
  rw [sent]
  rfl

theorem requestPage_of_unprepared {asking : Environment} {generator : StickerPackGenerator}
    {exc : PyError} (unprepared : (getStickerPacksMethod asking.python).prepare asking
      (stickerPackPagePayload userHuid after) generator.session.storage = .error exc) :
    requestPage asking userHuid after generator =
      ⟨.raised exc, generator.session, generator.requests, generator.yielded⟩ := by
  have failed : (getStickerPacksMethod asking.python).execute asking
      (stickerPackPagePayload userHuid after) generator.session =
        (.error exc, generator.session) := by
    unfold BotXMethod.execute
    rw [unprepared]
  have notSent : (getStickerPacksMethod asking.python).sends asking
      (stickerPackPagePayload userHuid after) generator.session = none := by
    unfold BotXMethod.sends
    rw [unprepared]
  unfold requestPage
  simp only [failed, notSent, Option.toList_none, List.append_nil]
  rfl

theorem brought_requestPage {current : Session}
    (accounts : current.storage.botAccounts = session.storage.botAccounts)
    (earlier : Received env clients session userHuid requests pages after)
    (continues : pages = [] ∨ after ≠ none) :
    ∃ arrived, Brought env clock clients session userHuid arrived
      (requestPage ((env.withClient (clients requests.length)).atMoment (clock requests.length))
        userHuid after
        ⟨.requesting after, current, requests, pages.flatMap StickerPackPage.stickerPacks⟩) := by
  let asking := (env.withClient (clients requests.length)).atMoment (clock requests.length)
  let payload := stickerPackPagePayload userHuid after
  cases prepared : (getStickerPacksMethod asking.python).prepare asking payload
      current.storage with
  | error exc =>
      rw [requestPage_of_unprepared prepared]
      exact ⟨pages, .unsent requests pages after exc current earlier continues prepared⟩
  | ok result =>
      obtain ⟨outgoing, authorized⟩ := result
      have sent : (getStickerPacksMethod asking.python).sends asking payload current =
          some outgoing := BotXMethod.sends_eq_some_iff.mpr ⟨authorized, prepared⟩
      have asked : PageRequest env session userHuid outgoing after :=
        pageRequest_of_accounts (pageRequest_of_sent earlier.fresh sent) accounts
      have answered := readPage_answeredBy (env.withClient (clients requests.length)) outgoing
      have kept := (botAccounts_of_execute (env.withClient (clients requests.length))
        (clock requests.length) payload current).trans accounts
      rw [requestPage_of_sent sent]
      change ∃ arrived, Brought env clock clients session userHuid arrived
        ⟨received (readPage (env.withClient (clients requests.length)) outgoing), _, _, _⟩
      cases outcome : readPage (env.withClient (clients requests.length)) outgoing with
      | ok stickerPackList =>
          rw [outcome] at answered
          have moved : Brought env clock clients session userHuid _ _ :=
            .yielding _ pages _ [] _ _ kept
              (.page requests pages after outgoing _ earlier continues asked answered)
              (List.nil_append _).symm
          rw [List.append_nil] at moved
          exact ⟨_, moved⟩
      | error exc =>
          rw [outcome] at answered
          exact ⟨pages, .failed requests pages after outgoing exc _ earlier continues asked
            answered⟩

theorem brought_step {before next : StickerPackGenerator}
    (brought : Brought env clock clients session userHuid pages before)
    (taken : stepAt env clock clients userHuid before = some next) :
    ∃ arrived, Brought env clock clients session userHuid arrived next := by
  cases brought with
  | requesting requests pages after current accounts received continues =>
      cases taken
      exact brought_requestPage accounts received continues
  | yielding requests earlier page handed rest current accounts received content =>
      cases rest with
      | cons stickerPack rest =>
          cases taken
          have rehanded : page.stickerPacks = (handed ++ [stickerPack]) ++ rest := by
            rw [content, List.append_cons]
          have moved : Brought env clock clients session userHuid _ _ :=
            .yielding requests earlier page _ rest current accounts received rehanded
          rw [← List.append_assoc] at moved
          exact ⟨_, moved⟩
      | nil =>
          cases taken
          rw [List.append_nil] at content
          have all : earlier.flatMap StickerPackPage.stickerPacks ++ handed =
              (earlier ++ [page]).flatMap StickerPackPage.stickerPacks := by
            rw [List.flatMap_append, List.flatMap_singleton, content]
          rw [all]
          rcases page.next_cases with ⟨falsy, ends⟩ | ⟨truthy, cursor, _, given, names⟩
          · rw [falsy, if_neg Bool.false_ne_true]
            rw [ends] at received
            exact ⟨_, .stopped requests _ current received (by simp)⟩
          · rw [truthy, if_pos rfl, given, ← names]
            refine ⟨_, .requesting requests _ page.next current accounts received (.inr ?_)⟩
            rw [names]
            exact Option.some_ne_none cursor
  | stopped => cases taken
  | unsent => cases taken
  | failed => cases taken

/-- Whatever the servers answer, the packs that are handed out are those of the pages in the
answers so far, in their order, and every page after the first is asked for with the cursor that
the page before it names.  An answer without a page ends the iteration with its own error, after
all packs of the earlier pages. -/
theorem iterateByStickerPacks_brings (env : Environment) (clock : Nat → Moment)
    (clients : Nat → HttpClient) (session : Session) (userHuid : UUID)
    (generator : StickerPackGenerator)
    (reached : Reaches (stepAt env clock clients userHuid) (iterateByStickerPacks session)
      generator) :
    ∃ pages, Brought env clock clients session userHuid pages generator := by
  have stable : Transition.Stable
      (fun before after => after ∈ stepAt env clock clients userHuid before)
      (fun generator => ∃ pages, Brought env clock clients session userHuid pages generator) := by
    intro before after taken brought
    obtain ⟨pages, brought⟩ := brought
    exact brought_step brought taken
  exact stable.reaches reached ⟨[], brought_start⟩

/-- The first request is answered with a page, and then the server is gone. -/
def demoTurns : Nat → HttpClient
  | 0 => demoPagesExchange
  | _ + 1 => fun _ => .failed "timeout"

def demoGone : Environment :=
  (demoPagesEnvironment.withClient fun _ => .failed "timeout").atMoment ⟨0, ""⟩

theorem demoGone_sends : ∃ outgoing, (getStickerPacksMethod demoGone.python).sends demoGone
    (stickerPackPagePayload demoAccount.id (some "next")) demoSession = some outgoing :=
  ⟨_, rfl⟩

/-- The pack of the first page is handed out before the request for the second one fails. -/
theorem iterateByStickerPacks_brings_demo :
    ∃ generator outgoing pages, Reaches
        (stepAt demoPagesEnvironment (fun _ => ⟨0, ""⟩) demoTurns demoAccount.id)
        (iterateByStickerPacks demoSession) generator ∧
      generator.phase = .raised (networkError outgoing "timeout") ∧
      generator.yielded = [⟨demoAccount.id, "first", true, 0, none⟩] ∧
      generator.requests.length = 2 ∧
      Brought demoPagesEnvironment (fun _ => ⟨0, ""⟩) demoTurns demoSession demoAccount.id pages
        generator := by
  let pack : StickerPackFromList := ⟨demoAccount.id, "first", true, 0, none⟩
  obtain ⟨first, sent, answered⟩ := demoPages_served 0 none (by simp)
  obtain ⟨second, asked⟩ := demoGone_sends
  obtain ⟨stickerPackList, returned, converted⟩ : ∃ stickerPackList,
      readPage (demoPagesEnvironment.atMoment ⟨0, ""⟩) first = .ok stickerPackList ∧
        BotXAPIGetStickerPacksResponsePayload.toDomain stickerPackList = demoPages none := by
    obtain ⟨stickerPackList, returned, converted⟩ := execute_of_answeredWith sent answered
    exact ⟨stickerPackList, (BotXMethod.execute_of_sent sent).symm.trans returned, converted⟩
  have page : requestPage (demoPagesEnvironment.atMoment ⟨0, ""⟩) demoAccount.id none
      (iterateByStickerPacks demoSession) =
        ⟨.yielding [pack] (some "next"), demoSession, [first], []⟩ := by
    have brought : received (.ok stickerPackList) = .yielding [pack] (some "next") := by
      change GeneratorPhase.yielding
        (BotXAPIGetStickerPacksResponsePayload.toDomain stickerPackList).stickerPacks
        (BotXAPIGetStickerPacksResponsePayload.toDomain stickerPackList).after = _
      rw [converted]
      rfl
    rw [requestPage_of_sent sent, returned, brought]
    rfl
  have failed : requestPage demoGone demoAccount.id (some "next")
      ⟨.requesting (some "next"), demoSession, [first], [pack]⟩ =
        ⟨.raised (networkError second "timeout"), demoSession, [first, second], [pack]⟩ := by
    rw [requestPage_of_sent asked]
    rfl
  let next := stepAt demoPagesEnvironment (fun _ => ⟨0, ""⟩) demoTurns demoAccount.id
  have yields : next ⟨.yielding [pack] (some "next"), demoSession, [first], []⟩ =
      some ⟨.yielding [] (some "next"), demoSession, [first], [pack]⟩ := rfl
  have turns : next ⟨.yielding [] (some "next"), demoSession, [first], [pack]⟩ =
      some ⟨.requesting (some "next"), demoSession, [first], [pack]⟩ := rfl
  have run : Reaches next (iterateByStickerPacks demoSession) _ :=
    .head (congrArg some page) (.head yields (.head turns (.single (congrArg some failed))))
  obtain ⟨pages, brought⟩ := iterateByStickerPacks_brings demoPagesEnvironment _ demoTurns
    demoSession demoAccount.id _ run
  exact ⟨_, second, pages, run, rfl, rfl, rfl, brought⟩

end

end StickerPackGenerator

end Pybotx
