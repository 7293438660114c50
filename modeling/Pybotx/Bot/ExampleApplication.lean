/-
The example application: a bot that echoes and that confirms mails.

Both commands answer in the chat that they come from.  Whatever else the application is
doing, a request is replied to at most once, and it is acknowledged only after the server
has taken the reply.
-/

import Pybotx.Bot.ApplicationRuns
import Pybotx.Client.MessagePayloads
import Pybotx.Client.NotificationsApi
import Pybotx.Models.Message.Arguments

set_option autoImplicit false

namespace Pybotx

def plainMessage (chatId : UUID) (body : String) : DirectNotificationArgs where
  chatId := chatId
  body := body
  metadata := .undefined
  bubbles := .undefined
  keyboard := .undefined
  file := .undefined
  recipients := .undefined
  silentResponse := .undefined
  markupAutoAdjust := .undefined
  stealthMode := .undefined
  sendPush := .undefined
  ignoreMute := .undefined

/-- The encoder refuses an `Undefined` that is left. -/
def jsonPayload : Option Json → Result Payload
  | some json => .ok ⟨[], .json json⟩
  | none => .error .typeError

def directNotificationPath : String := "/api/v4/botx/notifications/direct"

def sendMessage (python : Interpreter) (botId : UUID) (args : DirectNotificationArgs) :
    ClientCall where
  Model := BotXAPIDirectNotificationResponsePayload
  Answer := UUID
  botId := botId
  verb := "POST"
  path := directNotificationPath
  statusHandlers := authorizedStatusHandlers
  reading := .returning (okPayload (BotXAPISyncIdResult.check python))
  toDomain := fun payload => .ok payload.result.syncId
  payload := fun ids => do
    let payload ← BotXAPIDirectNotificationRequestPayload.fromDomain ids args
    jsonPayload payload.jsonableDict

def Result.raised {α : Type} : Result α → Option PyError
  | .ok _ => none
  | .error exc => some exc

inductive ExampleHandler where
  | echo
  | sendMail
  deriving DecidableEq

namespace ExampleHandler

/-- What `EchoUseCase` and `SendMailCommand` write, the mail itself apart. -/
def text (message : IncomingMessage) : ExampleHandler → String
  | echo => if message.argument = "" then "echo: (empty)" else message.argument
  | sendMail => "Email sent: " ++ message.argument

def reply (python : Interpreter) (message : IncomingMessage) (handler : ExampleHandler) :
    ClientCall :=
  sendMessage python message.bot.id (plainMessage message.chat.id (handler.text message))

/-- An event has no `argument`; the handlers are registered for messages only. -/
def execute (python : Interpreter) (handler : ExampleHandler) : BotCommand → Script
  | .message message => .call (handler.reply python message) fun result =>
      match result with
      | .ok _ => .done
      | .error exc => .raised exc
  | .event _ => .raised .attributeError

end ExampleHandler

def exampleCommands : List (String × ExampleHandler) :=
  [("/echo", .echo), ("/send_mail", .sendMail)]

/-- `HandleCallback` only writes to its log. -/
def exampleUseCases (python : Interpreter) : UseCases ExampleHandler Unit where
  execute := ExampleHandler.execute python
  executeCallback := fun _ _ => .done

def exampleApp (storage : BotAccountsStorage) : BotxApp ExampleHandler Unit :=
  createBotxApp storage exampleCommands () [] none true

def Job.pending : Job → List OutgoingRequest
  | .awaiting _ outgoing _ => [outgoing]
  | _ => []

def Thread.requests (thread : Thread) : List OutgoingRequest :=
  thread.events.filterMap Event.outgoing ++ thread.job.pending

/-- The request of a thread is a message for a handler, from the account it is addressed to. -/
structure Commanded (storage : BotAccountsStorage) (runtime : Runtime) (thread : Thread)
    (account : BotAccountWithSecret) (message : IncomingMessage) (handler : ExampleHandler) :
    Prop where
  verified : ∃ rawCommand headers,
    thread.incoming = .command (some (.obj rawCommand)) headers ∧
    verifyRequest runtime.jwt thread.time (some (lowerKeys headers)) storage.botAccounts none =
      .ok account ∧
    parseBotCommand runtime.python.toScalars rawCommand = .ok (.message message)
  bot : message.bot.id = account.id
  registered : ∃ token rest, Text.split message.body = token :: rest ∧
    Dict.get token exampleCommands = some handler

/-- A direct notification with the text of the handler, to the chat of the message, from
its bot. -/
structure SendsReply (runtime : Runtime) (world : World) (message : IncomingMessage)
    (handler : ExampleHandler) (outgoing : OutgoingRequest) : Prop where
  method : outgoing.method = "POST"
  address : buildUrl world.storage message.bot.id directNotificationPath = .ok outgoing.url
  credential : ∃ token, world.Credential runtime message.bot.id token ∧
    outgoing.headers =
      [("Authorization", bearer token), ("Content-Type", "application/json")]
  content : ∃ ids body mentions json,
    findAndReplaceEmbedMentions ids (handler.text message) = .ok (body, mentions) ∧
    outgoing.content = .json json ∧
    Sparse.Renders (directNotificationLeaves
      (plainMessage message.chat.id (handler.text message)) body mentions) json

structure RepliesOnce (storage : BotAccountsStorage) (runtime : Runtime) (world : World)
    (thread : Thread) : Prop where
  once : thread.requests.length ≤ 1
  replies : ∀ outgoing ∈ thread.requests, ∃ account message handler,
    Commanded storage runtime thread account message handler ∧
    SendsReply runtime world message handler outgoing
  acknowledged : ∀ account message handler response,
    Commanded storage runtime thread account message handler →
    thread.job = .answered (.ok response) →
    ∃ outgoing exchange syncId, thread.requests = [outgoing] ∧
      (handler.reply runtime.python message).receive runtime.python outgoing exchange =
        .ok syncId

section

variable {storage : BotAccountsStorage} {runtime : Runtime} {world : World} {thread : Thread}

theorem SentFor.sendsReply {message : IncomingMessage} {handler : ExampleHandler}
    {outgoing : OutgoingRequest}
    (sent : SentFor runtime world (handler.reply runtime.python message) outgoing) :
    SendsReply runtime world message handler outgoing := by
  obtain ⟨ids, payload, url, token, built, address, valid, rfl⟩ := sent
  obtain ⟨apiPayload, converted, encoded⟩ := (Result.bind_eq_ok _ _ _).mp built
  obtain ⟨body, mentions, json, replaced, dumped, renders⟩ :=
    directNotification_renders ids _ apiPayload converted
  rw [dumped] at encoded
  cases encoded
  exact ⟨rfl, address, ⟨token, valid, rfl⟩, ids, body, mentions, json, replaced, rfl, renders⟩

theorem Plays.of_ended {script rest : Script} {events : List Event}
    (plays : Plays script events rest) (finished : script.ended ≠ none) :
    events = [] ∧ rest = script := by
  cases plays with
  | nil => exact ⟨rfl, rfl⟩
  | cons => exact absurd rfl finished

theorem Plays.once {call : ClientCall} {next : Result call.Answer → Script} {events : List Event}
    {rest : Script} (plays : Plays (.call call next) events rest)
    (last : ∀ result, (next result).ended ≠ none) :
    (events = [] ∧ rest = .call call next) ∨
      ∃ outgoing result, events = [⟨call, outgoing, result⟩] ∧ rest = next result := by
  cases plays with
  | nil => exact .inl ⟨rfl, rfl⟩
  | cons _ _ outgoing result events _ later =>
      obtain ⟨rfl, same⟩ := later.of_ended (last result)
      exact .inr ⟨outgoing, result, rfl, same⟩

theorem Job.pending_of_ended {job : Job} {rest : Script} {accepted : Response}
    (atJob : job.At accepted rest) (finished : rest.ended ≠ none) : job.pending = [] := by
  cases job with
  | awaiting call outgoing next =>
      have goesOn : Script.call call next = rest := atJob
      rw [← goesOn] at finished
      exact absurd rfl finished
  | running script => rfl
  | authorizing index call url payload next => rfl
  | answered answer => rfl

theorem Thread.requests_of_ended {script rest : Script} {accepted : Response}
    (finished : script.ended ≠ none) (plays : Plays script thread.events rest)
    (atJob : thread.job.At accepted rest) : thread.requests = [] := by
  obtain ⟨silent, rfl⟩ := plays.of_ended finished
  rw [Thread.requests, silent, Job.pending_of_ended atJob finished]
  rfl

theorem Job.mem_pending {job : Job} {outgoing : OutgoingRequest}
    (pending : outgoing ∈ job.pending) : ∃ call next, job = .awaiting call outgoing next := by
  cases job with
  | awaiting call sent next =>
      rw [List.mem_singleton.mp pending]
      exact ⟨call, next, rfl⟩
  | running script => cases pending
  | authorizing index call url payload next => cases pending
  | answered answer => cases pending

theorem Job.pending_length (job : Job) : job.pending.length ≤ 1 := by
  cases job with
  | awaiting call outgoing next => exact Nat.le_refl 1
  | running script => exact Nat.zero_le 1
  | authorizing index call url payload next => exact Nat.zero_le 1
  | answered answer => exact Nat.zero_le 1

theorem Thread.requests_once {call : ClientCall} {next : Result call.Answer → Script}
    {rest : Script} {accepted : Response} (last : ∀ result, (next result).ended ≠ none)
    (plays : Plays (.call call next) thread.events rest) (atJob : thread.job.At accepted rest)
    (events : ∀ event ∈ thread.events, event.Sound runtime world)
    (awaiting : ∀ call outgoing next, thread.job = .awaiting call outgoing next →
      SentFor runtime world call outgoing) :
    thread.requests.length ≤ 1 ∧
      ∀ outgoing ∈ thread.requests, SentFor runtime world call outgoing := by
  rcases plays.once last with ⟨silent, rfl⟩ | ⟨sent, result, made, rfl⟩
  · rw [Thread.requests, silent]
    refine ⟨thread.job.pending_length, ?_⟩
    intro outgoing pending
    obtain ⟨current, following, here⟩ := Job.mem_pending pending
    rw [here] at atJob
    cases atJob
    exact awaiting call outgoing next here
  · have sound := events _ (made ▸ List.mem_singleton.mpr rfl)
    rw [Thread.requests, made, Job.pending_of_ended atJob (last result)]
    cases sent with
    | none => exact ⟨Nat.zero_le 1, fun other member => absurd member List.not_mem_nil⟩
    | some outgoing =>
        refine ⟨Nat.le_refl 1, ?_⟩
        intro other member
        rw [List.mem_singleton.mp member]
        exact sound.1

/-- A thread that is answered without an error has made its call with success. -/
theorem Thread.acknowledged_once {call : ClientCall} {next : Result call.Answer → Script}
    {rest : Script} {accepted response : Response}
    (ends : ∀ result, (next result).ended = some result.raised)
    (plays : Plays (.call call next) thread.events rest) (atJob : thread.job.At accepted rest)
    (events : ∀ event ∈ thread.events, event.Sound runtime world)
    (here : thread.job = .answered (.ok response)) :
    ∃ outgoing exchange answer, thread.requests = [outgoing] ∧
      call.receive runtime.python outgoing exchange = .ok answer := by
  have last : ∀ result, (next result).ended ≠ none := by
    intro result impossible
    rw [ends] at impossible
    cases impossible
  rw [here] at atJob
  obtain ⟨raised, finished, accepts⟩ := atJob
  rcases plays.once last with ⟨_, rfl⟩ | ⟨sent, result, made, rfl⟩
  · cases finished
  · have sound := events _ (made ▸ List.mem_singleton.mpr rfl)
    have noExc : ∀ exc, result ≠ .error exc := by
      intro exc failed
      rw [ends, failed] at finished
      cases finished
      cases accepts
    cases sent with
    | none =>
        obtain ⟨exc, failed⟩ := sound
        exact absurd failed (noExc exc)
    | some outgoing =>
        obtain ⟨_, exchange, received⟩ := sound
        dsimp only at received
        cases result with
        | error exc => exact absurd rfl (noExc exc)
        | ok answer =>
            refine ⟨outgoing, exchange, answer, ?_, received.symm⟩
            rw [Thread.requests, made, here]
            rfl

theorem ExampleHandler.execute_once (python : Interpreter) (handler : ExampleHandler)
    (message : IncomingMessage) :
    ∃ next, handler.execute python (.message message) =
        .call (handler.reply python message) next ∧
      ∀ result, (next result).ended = some result.raised := by
  refine ⟨_, rfl, ?_⟩
  intro result
  cases result <;> rfl

/-- There is no handler for messages without text or for events. -/
theorem exampleApp_registered_iff (handler : ExampleHandler) (command : BotCommand) :
    (exampleApp storage).command.Registered handler command ↔
      ∃ message, command = .message message ∧
        ∃ token rest, Text.split message.body = token :: rest ∧
          Dict.get token exampleCommands = some handler := by
  cases command with
  | event event =>
      constructor
      · intro registered
        have none_ : ([] : List (SystemEventClass × ExampleHandler)).lookup event.type =
            some handler := registered
        cases none_
      · intro impossible
        obtain ⟨message, impossible, _⟩ := impossible
        cases impossible
  | message message =>
      constructor
      · intro registered
        rcases registered with worded | ⟨_, empty⟩
        · exact ⟨message, rfl, worded⟩
        · have absent : Dict.get "" exampleCommands = none := by decide
          have present : Dict.get "" exampleCommands = some handler := empty
          rw [absent] at present
          cases present
      · intro worded
        obtain ⟨_, same, worded⟩ := worded
        cases same
        exact .inl worded

theorem Commanded.opening {account : BotAccountWithSecret} {message : IncomingMessage}
    {handler : ExampleHandler}
    (commanded : Commanded storage runtime thread account message handler) :
    (exampleApp storage).opening (exampleUseCases runtime.python) runtime thread.time
        thread.incoming =
      .running (handler.execute runtime.python (.message message))
        ⟨200, buildCommandAcceptedResponse⟩ := by
  obtain ⟨rawCommand, headers, incoming, verified, parsed⟩ := commanded.verified
  rw [incoming]
  refine BotxApp.openCommand_eq_running_iff.mpr
    ⟨rawCommand, .message message, handler, rfl, ?_, ?_, rfl, rfl⟩
  · rw [CommandResource.parseCommand_eq_ok_iff]
    exact ⟨account, verified, parsed, commanded.bot⟩
  · exact (exampleApp_registered_iff handler _).mpr ⟨message, rfl, commanded.registered⟩

theorem commanded_of_running {script : Script} {accepted : Response}
    (running : (exampleApp storage).opening (exampleUseCases runtime.python) runtime thread.time
      thread.incoming = .running script accepted) :
    script = .done ∨ ∃ account message handler,
      Commanded storage runtime thread account message handler ∧
      script = handler.execute runtime.python (.message message) := by
  cases incoming : thread.incoming with
  | command media headers =>
      rw [incoming] at running
      obtain ⟨rawCommand, command, handler, rfl, parsed, registered, rfl, _⟩ :=
        BotxApp.openCommand_eq_running_iff.mp running
      rw [CommandResource.parseCommand_eq_ok_iff] at parsed
      obtain ⟨account, verified, read, bot⟩ := parsed
      obtain ⟨message, rfl, worded⟩ := (exampleApp_registered_iff handler command).mp registered
      exact .inr ⟨account, message, handler,
        ⟨⟨rawCommand, headers, incoming, verified, read⟩, bot, worded⟩, rfl⟩
  | callback media headers =>
      rw [incoming] at running
      unfold BotxApp.opening BotxApp.openCallback at running
      dsimp only at running
      split at running
      · cases running
      · cases running
        exact .inl rfl
  | status params headers =>
      rw [incoming] at running
      cases running

/-! ### Every schedule -/

theorem Thread.Served.repliesOnce
    (served : thread.Served (exampleApp storage) (exampleUseCases runtime.python) runtime world) :
    RepliesOnce storage runtime world thread := by
  have follows := served.follows
  cases opened : (exampleApp storage).opening (exampleUseCases runtime.python) runtime thread.time
      thread.incoming with
  | answered answer =>
      rw [opened] at follows
      have silent : thread.requests = [] := by
        rw [Thread.requests, follows.1, follows.2]
        rfl
      refine ⟨?_, ?_, ?_⟩
      · rw [silent]
        exact Nat.zero_le 1
      · rw [silent]
        intro outgoing impossible
        cases impossible
      · intro account message handler response commanded _
        rw [commanded.opening] at opened
        cases opened
  | running script accepted =>
      rw [opened] at follows
      obtain ⟨rest, plays, atJob⟩ := follows
      rcases commanded_of_running opened with rfl | ⟨account, message, handler, commanded, rfl⟩
      · have silent : thread.requests = [] :=
          Thread.requests_of_ended (fun impossible => by cases impossible) plays atJob
        refine ⟨?_, ?_, ?_⟩
        · rw [silent]
          exact Nat.zero_le 1
        · rw [silent]
          intro outgoing impossible
          cases impossible
        · intro account message handler response commanded _
          rw [commanded.opening] at opened
          cases handler <;> cases opened
      · obtain ⟨next, executed, ends⟩ := handler.execute_once runtime.python message
        have last : ∀ result, (next result).ended ≠ none := by
          intro result impossible
          rw [ends] at impossible
          cases impossible
        rw [executed] at plays
        have sent := Thread.requests_once last plays atJob served.events served.awaiting
        refine ⟨sent.1, ?_, ?_⟩
        · intro outgoing member
          exact ⟨account, message, handler, commanded, (sent.2 outgoing member).sendsReply⟩
        · intro other otherMessage otherHandler response otherCommanded here
          have same := otherCommanded.opening.symm.trans opened
          obtain ⟨otherNext, otherExecuted, _⟩ :=
            otherHandler.execute_once runtime.python otherMessage
          rw [executed, otherExecuted] at same
          injection same with scripts _
          injection scripts with calls _
          rw [calls]
          exact Thread.acknowledged_once ends plays atJob served.events here

/-- However its threads are scheduled, the application replies to a command once at most, in
the chat and as the bot of the command; and it accepts a command only after the server has
taken the reply. -/
theorem exampleApp_repliesOnce (storage : BotAccountsStorage) (runtime : Runtime)
    (state : Interleaving.State World Thread)
    (reached : Transition.Reaches
      ((exampleApp storage).system (exampleUseCases runtime.python) runtime).Step
      (.initial (World.serving storage)) state) :
    ∀ index thread, state.threads index = some thread →
      RepliesOnce storage runtime state.shared thread := by
  have holds := ((exampleApp storage).relyGuarantee (exampleUseCases runtime.python) runtime
    storage).reaches .refl reached
  intro index thread here
  exact ((holds.threads index thread here).served _ _ runtime).repliesOnce

end

def demoAcceptedBody : List UInt8 :=
  ("\x7b\"status\": \"ok\", \"result\": \x7b\"sync_id\": " ++
    "\"6f40a492-4b5f-54f3-87ee-77126d825b51\"\x7d\x7d").toList.map fun c => UInt8.ofNat c.toNat

def demoReplyRuntime : Runtime :=
  { demoRuntime with
    python := { demoPython with
      loads := fun content =>
        if content = demoAcceptedBody then
          .ok (.obj [("status", .str "ok"),
            ("result", .obj [("sync_id", .str "6f40a492-4b5f-54f3-87ee-77126d825b51")])])
        else .error .jsonDecode } }

theorem exampleApp_repliesOnce_demo :
    ∃ state thread response, Transition.Reaches
        ((exampleApp (.new [demoAccount] .v2)).system (exampleUseCases demoReplyRuntime.python)
          demoReplyRuntime).Step (.initial (World.serving (.new [demoAccount] .v2))) state ∧
      state.threads 0 = some thread ∧ thread.job = .answered (.ok response) ∧
      RepliesOnce (.new [demoAccount] .v2) demoReplyRuntime state.shared thread := by
  let storage := BotAccountsStorage.new [demoAccount] .v2
  let app := exampleApp storage
  let useCases := exampleUseCases demoReplyRuntime.python
  let world := World.serving storage
  obtain ⟨message, opened, argument, bot, chat⟩ : ∃ message,
      app.opening useCases demoReplyRuntime 1030 (demoCommand "/echo hello") =
        .running (ExampleHandler.execute demoReplyRuntime.python .echo (.message message))
          ⟨200, buildCommandAcceptedResponse⟩ ∧
      message.argument = "hello" ∧ message.bot.id = demoAccount.id ∧
      message.chat.id = ⟨⟨0x8dada2c867a644349dec570d244e78ee, by decide⟩⟩ := ⟨_, rfl, rfl, rfl, rfl⟩
  have text : ExampleHandler.echo.text message = "hello" := by
    unfold ExampleHandler.text
    rw [argument]
    rfl
  have executed := ExampleHandler.execute_once demoReplyRuntime.python .echo message
  obtain ⟨next, executed, ends⟩ := executed
  let call := ExampleHandler.echo.reply demoReplyRuntime.python message
  obtain ⟨payload, built⟩ : ∃ payload, call.payload (fun _ => ⟨0⟩) = .ok payload := by
    obtain ⟨apiPayload, converted⟩ : ∃ apiPayload,
        BotXAPIDirectNotificationRequestPayload.fromDomain (fun _ => ⟨0⟩)
          (plainMessage message.chat.id "hello") = .ok apiPayload := by
      rw [chat]
      exact ⟨_, rfl⟩
    obtain ⟨_, _, json, _, dumped, _⟩ := directNotification_renders _ _ _ converted
    refine ⟨⟨[], .json json⟩, ?_⟩
    change (BotXAPIDirectNotificationRequestPayload.fromDomain (fun _ => ⟨0⟩)
      (plainMessage message.chat.id (ExampleHandler.echo.text message)) >>= _) = _
    rw [text, converted]
    change jsonPayload apiPayload.jsonableDict = _
    rw [dumped]
    rfl
  have address : buildUrl world.storage call.botId call.path =
      .ok "https://cts.example.com/api/v4/botx/notifications/direct" := by
    change buildUrl world.storage message.bot.id directNotificationPath = _
    rw [bot]
    rfl
  have signs : world.storage.buildJwtV2 demoReplyRuntime.jwt call.botId 1030 "0a1b2c3d4e5f" =
      .ok "header.payload.signature" := by
    change world.storage.buildJwtV2 demoReplyRuntime.jwt message.bot.id 1030 "0a1b2c3d4e5f" = _
    rw [bot]
    rfl
  let outgoing := call.request demoReplyRuntime.python
    "https://cts.example.com/api/v4/botx/notifications/direct" "header.payload.signature" payload
  let exchange : Exchange := .answered outgoing.url 202 ⟨[demoAcceptedBody], none⟩
  obtain ⟨syncId, taken⟩ : ∃ syncId, call.receive demoReplyRuntime.python outgoing exchange =
      .ok syncId := ⟨_, rfl⟩
  have finished : (next (call.receive demoReplyRuntime.python outgoing exchange)).ended =
      some none := by
    rw [ends, taken]
    rfl
  let thread : Thread := ⟨demoCommand "/echo hello", 1030, [], .running (.call call next)⟩
  let sent : Thread := { thread with job := .awaiting call outgoing next }
  let received := sent.resume call (some outgoing) next
    (call.receive demoReplyRuntime.python outgoing exchange)
  let answered : Thread :=
    { received with job := .answered (closing ⟨200, buildCommandAcceptedResponse⟩ none) }
  have opens : (app.system useCases demoReplyRuntime).opens thread := by
    refine ⟨1030, demoCommand "/echo hello", ?_⟩
    rw [opened, executed]
    rfl
  let opening := app.opening useCases demoReplyRuntime
  have signed : Thread.Action demoReplyRuntime opening (world, thread) (world, sent) :=
    .signed world thread call next _ payload _ _ _ _ rfl rfl built address signs
  have receives : Thread.Action demoReplyRuntime opening (world, sent) (world, received) :=
    .received world sent call outgoing next exchange rfl
  have closes : Thread.Action demoReplyRuntime opening (world, received) (world, answered) :=
    .closed world received _ _ _ none rfl finished opened
  have reached : Transition.Reaches (app.system useCases demoReplyRuntime).Step (.initial world)
      (.alone world answered) :=
    .head (.opens_alone world opens) (.head (.acts_alone signed)
      (.head (.acts_alone receives) (.single (.acts_alone closes))))
  have found : (Interleaving.State.alone world answered).threads 0 = some answered := rfl
  exact ⟨_, answered, _, reached, found, rfl,
    exampleApp_repliesOnce storage demoReplyRuntime _ reached 0 answered found⟩

end Pybotx
