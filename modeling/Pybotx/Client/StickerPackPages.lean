/-
The sticker packs of a user, fetched page by page.

`iterate_by_sticker_packs` is a generator: it goes on when the next pack is wanted.  Its
`step` cuts it at the answer to a request, at each `yield` and at the test at the end of
the loop.
-/

import Pybotx.Client.QueryParameters
import Pybotx.Client.Requests
import Pybotx.Client.StickersApi
import Pybotx.Foundation.Paging

set_option autoImplicit false

namespace Pybotx

open StateTransition Validator

structure StickerPackFromList where
  id : UUID
  name : String
  isPublic : Bool
  stickersCount : Int
  stickerIds : Option (List UUID)

structure StickerPackPage where
  stickerPacks : List StickerPackFromList
  after : Option String

abbrev BotXAPIGetStickerPacksResponsePayload := OkPayload BotXAPIGetStickerPacksResult

def BotXAPIGetStickerPacksResponsePayload.toDomain
    (payload : BotXAPIGetStickerPacksResponsePayload) : StickerPackPage where
  stickerPacks := payload.result.packs.map fun stickerPack =>
    { id := stickerPack.id
      name := stickerPack.name
      isPublic := stickerPack.isPublic
      stickersCount := stickerPack.stickersCount
      stickerIds := stickerPack.stickersOrder }
  after := payload.result.pagination.after

/-- `if after`: neither `None` nor an empty text. -/
def afterTruthy : Option String → Bool
  | none => false
  | some cursor => cursor ≠ ""

structure BotXAPIGetStickerPacksRequestPayload where
  userHuid : UUID
  limit : Int
  after : Missing (Option String)

namespace BotXAPIGetStickerPacksRequestPayload

def fromDomain (huid : UUID) (limit : Int) (after : Option String) :
    BotXAPIGetStickerPacksRequestPayload where
  userHuid := huid
  limit := limit
  after := if afterTruthy after then .value after else .undefined

def modelDump (payload : BotXAPIGetStickerPacksRequestPayload) : PyValue :=
  .dict [("user_huid", .str payload.userHuid.str), ("limit", .int payload.limit),
    ("after", payload.after.toPyValue fun after => after.elim .null .str)]

end BotXAPIGetStickerPacksRequestPayload

def stickerPacksPerPage : Int := 10

def stickerPackPagePayload (userHuid : UUID) (after : Option String) : Payload where
  params := paramsOf
    (BotXAPIGetStickerPacksRequestPayload.fromDomain userHuid stickerPacksPerPage after).modelDump
  content := .empty

inductive GeneratorPhase where
  | requesting (after : Option String)
  | yielding (rest : List StickerPackFromList) (after : Option String)
  | stopped
  | raised (exc : PyError)

/-- `requests` are those for pages that it has sent, and `yielded` are the packs it has handed
out.  The request for a token is not among them. -/
structure StickerPackGenerator where
  phase : GeneratorPhase
  session : Session
  requests : List OutgoingRequest
  yielded : List StickerPackFromList

namespace StickerPackGenerator

def iterateByStickerPacks (session : Session) : StickerPackGenerator where
  phase := .requesting none
  session := session
  requests := []
  yielded := []

/-- The page is converted before anything of it is handed out. -/
def received : Result BotXAPIGetStickerPacksResponsePayload → GeneratorPhase
  | .ok stickerPackList =>
      let stickerPackPage := BotXAPIGetStickerPacksResponsePayload.toDomain stickerPackList
      .yielding stickerPackPage.stickerPacks stickerPackPage.after
  | .error exc => .raised exc

def requestPage (env : Environment) (userHuid : UUID) (after : Option String)
    (generator : StickerPackGenerator) : StickerPackGenerator :=
  let payload := stickerPackPagePayload userHuid after
  let sent := (getStickerPacksMethod env.python).sends env payload generator.session
  let call := (getStickerPacksMethod env.python).execute env payload generator.session
  { phase := received call.1
    session := call.2
    requests := generator.requests ++ sent.toList
    yielded := generator.yielded }

/-- `clock` says when each of the requests is made. -/
def step (env : Environment) (clock : Nat → Moment) (userHuid : UUID)
    (generator : StickerPackGenerator) : Option StickerPackGenerator :=
  match generator.phase with
  | .requesting after =>
      some (generator.requestPage (env.atMoment (clock generator.requests.length)) userHuid after)
  | .yielding (stickerPack :: rest) after =>
      some { generator with
        phase := .yielding rest after
        yielded := generator.yielded ++ [stickerPack] }
  | .yielding [] after =>
      some { generator with phase := if afterTruthy after then .requesting after else .stopped }
  | .stopped | .raised _ => none

end StickerPackGenerator

def StickerPackPage.next (page : StickerPackPage) : Option String :=
  if afterTruthy page.after then page.after else none

def pageParams (userHuid : UUID) (after : Option String) : List (String × Json) :=
  [("user_huid", .str userHuid.str), ("limit", .int 10)] ++
    (after.map fun cursor => ("after", .str cursor)).toList

structure PageRequest (env : Environment) (session : Session) (userHuid : UUID)
    (outgoing : OutgoingRequest) (after : Option String) : Prop where
  method : outgoing.method = "GET"
  url : ∃ url, buildUrl session.storage env.botId stickersPath = .ok url ∧
    outgoing.url = withQuery env.python url (pageParams userHuid after)
  content : outgoing.content = .empty

def AnsweredWith (env : Environment) (outgoing : OutgoingRequest) (page : StickerPackPage) :
    Prop :=
  ∃ url status body raw payload, env.httpClient outgoing = .answered url status body ∧
    (200 ≤ status ∧ status < 300) ∧ body.failure = none ∧
    env.python.loads body.bytes = .ok raw ∧
    (okPayload (BotXAPIGetStickerPacksResult.check env.python) raw : Validated Empty _) =
      .valid payload ∧
    BotXAPIGetStickerPacksResponsePayload.toDomain payload = page

/-- The server behaves as a function from cursors to pages: whenever the page at a cursor is
asked for, it answers with that page. -/
def Serves (env : Environment) (clock : Nat → Moment) (session : Session) (userHuid : UUID)
    (server : Option String → StickerPackPage) : Prop :=
  ∀ (index : Nat) (after : Option String), after ≠ some "" →
    ∃ outgoing, (getStickerPacksMethod env.python).sends (env.atMoment (clock index))
        (stickerPackPagePayload userHuid after) session = some outgoing ∧
      AnsweredWith env outgoing (server after)

theorem stickerPackPagePayload_params (userHuid : UUID) (after : Option String)
    (fresh : after ≠ some "") :
    (stickerPackPagePayload userHuid after).params = pageParams userHuid after := by
  cases after with
  | none => rfl
  | some cursor =>
      have nonempty : afterTruthy (some cursor) = true := by
        simp [afterTruthy]
        intro empty
        exact fresh (congrArg some empty)
      unfold stickerPackPagePayload BotXAPIGetStickerPacksRequestPayload.fromDomain
      rw [nonempty, if_pos rfl]
      rfl

def PreparesLike (env : Environment) (session current : Session) : Prop :=
  ∀ (moment : Moment) (payload : Payload),
    (getStickerPacksMethod env.python).prepare (env.atMoment moment) payload current.storage =
      (getStickerPacksMethod env.python).prepare (env.atMoment moment) payload session.storage

section

variable {env : Environment} {clock : Nat → Moment} {session current : Session} {userHuid : UUID}

theorem PreparesLike.sends (like : PreparesLike env session current) (moment : Moment)
    (payload : Payload) :
    (getStickerPacksMethod env.python).sends (env.atMoment moment) payload current =
      (getStickerPacksMethod env.python).sends (env.atMoment moment) payload session := by
  unfold BotXMethod.sends
  rw [like moment payload]

theorem PreparesLike.execute (like : PreparesLike env session current) (moment : Moment)
    (payload : Payload) :
    PreparesLike env session
      ((getStickerPacksMethod env.python).execute (env.atMoment moment) payload current).2 := by
  intro later other
  rw [← like later other]
  exact BotXMethod.prepare_after_execute moment later other

theorem pageRequest_of_sent {moment : Moment} {after : Option String}
    {outgoing : OutgoingRequest} (fresh : after ≠ some "")
    (sent : (getStickerPacksMethod env.python).sends (env.atMoment moment)
      (stickerPackPagePayload userHuid after) session = some outgoing) :
    PageRequest env session userHuid outgoing after := by
  obtain ⟨authorized, prepared⟩ := BotXMethod.sends_eq_some_iff.mp sent
  obtain ⟨url, headers, built, _, rfl⟩ := (BotXMethod.prepare_eq_ok_iff authorized).mp prepared
  refine ⟨rfl, ⟨url, built, ?_⟩, rfl⟩
  rw [callRequest_url, stickerPackPagePayload_params userHuid after fresh]
  rfl

theorem execute_of_answeredWith {moment : Moment} {payload : Payload}
    {outgoing : OutgoingRequest} {page : StickerPackPage}
    (sent : (getStickerPacksMethod env.python).sends (env.atMoment moment) payload current =
      some outgoing) (answered : AnsweredWith env outgoing page) :
    ∃ stickerPackList,
      ((getStickerPacksMethod env.python).execute (env.atMoment moment) payload current).1 =
        .ok stickerPackList ∧
      BotXAPIGetStickerPacksResponsePayload.toDomain stickerPackList = page := by
  obtain ⟨url, status, body, raw, stickerPackList, exchange, successful, complete, decoded,
    checked, converted⟩ := answered
  refine ⟨stickerPackList, ?_, converted⟩
  have unhandled := authorizedStatusHandlers_of_success successful
  have received := BotXMethod.execute_of_success sent exchange complete successful unhandled
  refine received.trans ?_
  have data := (body.read_eq_ok_iff body.bytes).mpr ⟨complete, rfl⟩
  have valid : (silent (okPayload (BotXAPIGetStickerPacksResult.check env.python)) raw :
      Validated PyError _) = .valid stickerPackList := by
    unfold silent
    rw [checked]
    rfl
  have extracted := (verifyAndExtractApiModel_eq_ok_iff env.python
    (silent (okPayload (BotXAPIGetStickerPacksResult.check env.python)))
    ⟨some outgoing.method, url, status, body⟩ body.bytes data stickerPackList).mpr
    ⟨raw, decoded, valid⟩
  exact (Result.bind_eq_ok _ _ _).mpr ⟨stickerPackList, extracted, rfl⟩

end

/-- A phase of the generator and the phase of a walk, which knows empty cursors no more. -/
inductive SamePhase : GeneratorPhase → Paging.Phase String StickerPackFromList → Prop
  | requesting (after : Option String) (fresh : after ≠ some "") :
      SamePhase (.requesting after) (.requesting after)
  | yielding (rest : List StickerPackFromList) (page : StickerPackPage) :
      SamePhase (.yielding rest page.after) (.yielding rest page.next)
  | stopped : SamePhase .stopped .stopped

structure Follows (env : Environment) (session : Session) (userHuid : UUID)
    (generator : StickerPackGenerator) (walk : Paging.Walk String StickerPackFromList) :
    Prop where
  phase : SamePhase generator.phase walk.phase
  like : PreparesLike env session generator.session
  requests : List.Forall₂ (PageRequest env session userHuid) generator.requests walk.requested
  yielded : generator.yielded = walk.yielded

/-- An empty cursor ends the pages as an absent one does. -/
theorem StickerPackPage.next_cases (page : StickerPackPage) :
    (afterTruthy page.after = false ∧ page.next = none) ∨
      (afterTruthy page.after = true ∧
        ∃ cursor, cursor ≠ "" ∧ page.after = some cursor ∧ page.next = some cursor) := by
  unfold StickerPackPage.next
  cases page.after with
  | none => exact .inl ⟨rfl, rfl⟩
  | some cursor =>
      by_cases empty : cursor = ""
      · subst empty
        exact .inl ⟨rfl, rfl⟩
      · have truthy : afterTruthy (some cursor) = true := by
          simp [afterTruthy, empty]
        exact .inr ⟨truthy, cursor, empty, rfl, if_pos truthy⟩

namespace StickerPackGenerator

variable {env : Environment} {clock : Nat → Moment} {session : Session} {userHuid : UUID}
  {server : Option String → StickerPackPage}

theorem requestPage_of_served (generator : StickerPackGenerator) {after : Option String}
    (serves : Serves env clock session userHuid server) (fresh : after ≠ some "")
    (like : PreparesLike env session generator.session) :
    ∃ outgoing session', generator.requestPage (env.atMoment (clock generator.requests.length))
          userHuid after =
        { phase := .yielding (server after).stickerPacks (server after).after
          session := session'
          requests := generator.requests ++ [outgoing]
          yielded := generator.yielded } ∧
      PageRequest env session userHuid outgoing after ∧ PreparesLike env session session' := by
  obtain ⟨outgoing, sent, answered⟩ := serves generator.requests.length after fresh
  have request := pageRequest_of_sent fresh sent
  rw [← like.sends] at sent
  obtain ⟨stickerPackList, returned, converted⟩ := execute_of_answeredWith sent answered
  refine ⟨outgoing, _, ?_, request, like.execute (clock generator.requests.length)
    (stickerPackPagePayload userHuid after)⟩
  unfold requestPage
  have brought : received ((getStickerPacksMethod env.python).execute
      (env.atMoment (clock generator.requests.length)) (stickerPackPagePayload userHuid after)
      generator.session).1 = .yielding (server after).stickerPacks (server after).after := by
    rw [returned, ← converted]
    rfl
  have recorded : generator.requests ++ ((getStickerPacksMethod env.python).sends
      (env.atMoment (clock generator.requests.length)) (stickerPackPagePayload userHuid after)
      generator.session).toList = generator.requests ++ [outgoing] := by
    rw [sent]
    rfl
  exact congrArg₂ (StickerPackGenerator.mk · _ · generator.yielded) brought recorded

theorem step_follows (serves : Serves env clock session userHuid server) :
    Transition.Lockstep (Follows env session userHuid) (step env clock userHuid)
      (Paging.Walk.step server StickerPackPage.stickerPacks StickerPackPage.next) := by
  intro generator walk follows
  obtain ⟨phase, current, requests, yielded⟩ := generator
  obtain ⟨walkPhase, requested, walkYielded⟩ := walk
  obtain ⟨same, like, asked, handed⟩ := follows
  cases same with
  | requesting after fresh =>
      obtain ⟨outgoing, session', brought, request, later⟩ := requestPage_of_served
        ⟨.requesting after, current, requests, yielded⟩ serves fresh like
      have taken : step env clock userHuid ⟨.requesting after, current, requests, yielded⟩ = _ :=
        congrArg some brought
      rw [taken]
      apply Option.Rel.some
      exact ⟨.yielding _ (server after), later, List.rel_append asked (.cons request .nil), handed⟩
  | yielding rest page =>
      cases rest with
      | cons stickerPack rest =>
          apply Option.Rel.some
          exact ⟨.yielding rest page, like, asked, congrArg (· ++ [stickerPack]) handed⟩
      | nil =>
          have test : step env clock userHuid
              ⟨.yielding [] page.after, current, requests, yielded⟩ =
                some ⟨if afterTruthy page.after then .requesting page.after else .stopped, current,
                  requests, yielded⟩ := rfl
          rw [test]
          rcases page.next_cases with ⟨falsy, ends⟩ | ⟨truthy, cursor, nonempty, given, continues⟩
          · rw [ends, falsy, if_neg Bool.false_ne_true]
            apply Option.Rel.some
            exact ⟨.stopped, like, asked, handed⟩
          · rw [continues, truthy, if_pos rfl, given]
            have fresh : some cursor ≠ some "" := by
              intro same
              exact nonempty (Option.some.inj same)
            apply Option.Rel.some
            exact ⟨.requesting (some cursor) fresh, like, asked, handed⟩
  | stopped => exact .none

theorem start_follows (env : Environment) (session : Session) (userHuid : UUID) :
    Follows env session userHuid (iterateByStickerPacks session) .start where
  phase := .requesting none (by simp)
  like := fun _ _ => rfl
  requests := .nil
  yielded := rfl

/-! ### Every page once -/

/-- The generator visits each of the pages once, and none before it is needed. -/
structure VisitsOnce (env : Environment) (clock : Nat → Moment) (session : Session)
    (userHuid : UUID) (pages : List StickerPackPage) : Prop where
  finishes : ∃ last, last ∈ eval (step env clock userHuid) (iterateByStickerPacks session) ∧
    last.phase = .stopped ∧ last.requests.length = pages.length ∧
    List.Forall₂ (PageRequest env session userHuid) last.requests
      (Paging.cursors StickerPackPage.next none pages) ∧
    last.yielded = pages.flatMap StickerPackPage.stickerPacks
  lazily : ∀ before suspended stickerPack,
    Reaches (step env clock userHuid) (iterateByStickerPacks session) before →
    step env clock userHuid before = some suspended →
    suspended.yielded = before.yielded ++ [stickerPack] →
    ∃ earlier current later handed rest, pages = earlier ++ current :: later ∧
      current.stickerPacks = handed ++ stickerPack :: rest ∧
      suspended.yielded = earlier.flatMap StickerPackPage.stickerPacks ++ handed ++
        [stickerPack] ∧
      List.Forall₂ (PageRequest env session userHuid) suspended.requests
        ((Paging.cursors StickerPackPage.next none pages).take (earlier.length + 1))

end StickerPackGenerator

def asciiBytes (texts : List String) : List UInt8 :=
  texts.flatMap fun text => text.toList.map fun c => UInt8.ofNat c.toNat

def demoPageBody : Option String → List UInt8
  | none => asciiBytes
      ["\x7b\"result\": \x7b\"pagination\": \x7b\"after\": \"next\"\x7d, \"packs\": ",
        "[\x7b\"id\": \"24348246-6791-4ac0-9d86-b948cd6a0e46\", \"name\": \"first\", ",
        "\"public\": true, \"stickers_count\": 0, \"stickers_order\": null\x7d]",
        "\x7d, \"status\": \"ok\"\x7d"]
  | some _ => asciiBytes
      ["\x7b\"result\": \x7b\"pagination\": \x7b\"after\": \"\"\x7d, \"packs\": ", "[]",
        "\x7d, \"status\": \"ok\"\x7d"]

def demoPageJson : Option String → Json
  | none => .obj [("result", .obj [("pagination", .obj [("after", .str "next")]),
      ("packs", .arr [.obj [("id", .str "24348246-6791-4ac0-9d86-b948cd6a0e46"),
        ("name", .str "first"), ("public", .bool true), ("stickers_count", .int 0),
        ("stickers_order", .null)]])]), ("status", .str "ok")]
  | some _ => .obj [("result", .obj [("pagination", .obj [("after", .str "")]),
      ("packs", .arr [])]), ("status", .str "ok")]

def demoPages : Option String → StickerPackPage
  | none => ⟨[⟨demoAccount.id, "first", true, 0, none⟩], some "next"⟩
  | some _ => ⟨[], some ""⟩

def demoPagesPython : Interpreter :=
  { scalarPython with
    loads := fun content =>
      if content = demoPageBody none then .ok (demoPageJson none)
      else if content = demoPageBody (some "next") then .ok (demoPageJson (some "next"))
      else .error .jsonDecode }

/-- The server reads the query and looks for a cursor in it. -/
def demoPagesExchange (outgoing : OutgoingRequest) : Exchange :=
  .answered "" 200 ⟨[demoPageBody ((FormEncoding.decodeFields
    (appendedQuery (joinUrl demoAccount.ctsUrl.text stickersPath) outgoing.url)).bind
      (Dict.get "after"))], none⟩

def demoPagesEnvironment : Environment :=
  { demoEnvironment (.failed "") with
    python := demoPagesPython
    httpClient := demoPagesExchange }

theorem demoPageBody_ne (cursor : String) : demoPageBody (some cursor) ≠ demoPageBody none := by
  have different : demoPageBody (some "next") ≠ demoPageBody none := by
    decide +kernel
  exact different

theorem demoPageBody_loads (after : Option String) :
    demoPagesPython.loads (demoPageBody after) = .ok (demoPageJson after) := by
  cases after with
  | none => simp only [demoPagesPython, if_true]
  | some cursor =>
      have same : demoPageBody (some cursor) = demoPageBody (some "next") := rfl
      simp only [demoPagesPython, demoPageBody_ne, same, if_false, if_true]
      rfl

theorem demoPageJson_checks (after : Option String) :
    ∃ payload, (okPayload (BotXAPIGetStickerPacksResult.check demoPagesPython)
        (demoPageJson after) : Validated Empty _) = .valid payload ∧
      BotXAPIGetStickerPacksResponsePayload.toDomain payload = demoPages after := by
  cases after with
  | none => exact ⟨_, rfl, rfl⟩
  | some cursor => exact ⟨_, rfl, rfl⟩

section

variable {after : Option String} {outgoing : OutgoingRequest}
  (request : PageRequest demoPagesEnvironment demoSession demoAccount.id outgoing after)

include request

theorem demoPages_query :
    FormEncoding.decodeFields
      (appendedQuery (joinUrl demoAccount.ctsUrl.text stickersPath) outgoing.url) =
        some ((pageParams demoAccount.id after).map fun param =>
          (param.1, demoPagesPython.str param.2)) := by
  obtain ⟨url, built, address⟩ := request.url
  have known : buildUrl demoSession.storage demoPagesEnvironment.botId stickersPath =
      .ok (joinUrl demoAccount.ctsUrl.text stickersPath) := rfl
  rw [known] at built
  cases built
  rw [address]
  exact decodeFields_withQuery demoPagesPython _ _

theorem demoPages_answered : AnsweredWith demoPagesEnvironment outgoing (demoPages after) := by
  obtain ⟨payload, checked, converted⟩ := demoPageJson_checks after
  have asked : (some ((pageParams demoAccount.id after).map fun param =>
      (param.1, demoPagesPython.str param.2))).bind (Dict.get "after") = after := by
    cases after with
    | none => simp [pageParams, Dict.get_cons]
    | some cursor =>
        simp [pageParams, Dict.get_cons]
        rfl
  have exchange : demoPagesEnvironment.httpClient outgoing =
      .answered "" 200 ⟨[demoPageBody after], none⟩ := by
    change demoPagesExchange outgoing = _
    unfold demoPagesExchange
    rw [demoPages_query request, asked]
  have decoded : demoPagesPython.loads (Body.bytes ⟨[demoPageBody after], none⟩) =
      .ok (demoPageJson after) := by
    unfold Body.bytes
    rw [List.flatten_singleton]
    exact demoPageBody_loads after
  exact ⟨"", 200, _, _, payload, exchange, by decide, rfl, decoded, checked, converted⟩

end

theorem demoPages_served : Serves demoPagesEnvironment (fun _ => ⟨0, ""⟩) demoSession
    demoAccount.id demoPages := by
  intro index after fresh
  have sends : ∃ outgoing, (getStickerPacksMethod demoPagesPython).sends
      (demoPagesEnvironment.atMoment ⟨0, ""⟩) (stickerPackPagePayload demoAccount.id after)
      demoSession = some outgoing := ⟨_, rfl⟩
  obtain ⟨outgoing, sent⟩ := sends
  exact ⟨outgoing, sent, demoPages_answered (pageRequest_of_sent fresh sent)⟩

theorem demoPages_chain : Paging.Chain demoPages StickerPackPage.next none
    [demoPages none, demoPages (some "next")] :=
  .more none "next" _ rfl (.last (some "next") rfl)

end Pybotx
