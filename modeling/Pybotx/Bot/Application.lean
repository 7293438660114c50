/-
The application that `create_botx_app` builds, serving many requests at a time.

A handler runs as a script of client calls.  A thread serves one request: it opens with
what the resource makes of the request, and each client call of its script passes through
the token protocol that all threads share.
-/

import Pybotx.Bot.CommandDispatch
import Pybotx.Client.Requests
import Pybotx.Foundation.Interleaving

set_option autoImplicit false

namespace Pybotx

/-- A call of the client: an authorized method that reads a model, with the conversions
around it.  `payload` is `from_domain` with the identifiers it makes up.  The streamed methods,
`download_file` and `users_as_csv`, are not among them. -/
structure ClientCall : Type 1 where
  Model : Type
  Answer : Type
  botId : UUID
  verb : String
  path : String
  statusHandlers : StatusHandlers
  reading : ModelReading Model
  toDomain : Model → Result Answer
  payload : (Nat → UUID) → Result Payload

namespace ClientCall

variable (call : ClientCall)

def request (python : Interpreter) (url token : String) (payload : Payload) : OutgoingRequest :=
  callRequest python call.verb url [("Authorization", bearer token)] payload

def receive (python : Interpreter) (outgoing : OutgoingRequest) (exchange : Exchange) :
    Result call.Answer := do
  let response ← botxMethodCall (fun _ => exchange) call.statusHandlers outgoing
  let model ← call.reading.receive python response
  call.toDomain model

end ClientCall

/-- What a handler does with the client; it goes on with the answer of each call, or with
the exception the call raises. -/
inductive Script : Type 1 where
  | done
  | raised (exc : PyError)
  | call (call : ClientCall) (next : Result call.Answer → Script)

def Script.ended : Script → Option (Option PyError)
  | .done => some none
  | .raised exc => some (some exc)
  | .call _ _ => none

/-- A call that is over, and the request it sent if it came to that. -/
structure Event : Type 1 where
  call : ClientCall
  outgoing : Option OutgoingRequest
  result : Result call.Answer

/-- The script has made the calls of the events and goes on as the rest. -/
inductive Plays : Script → List Event → Script → Prop
  | nil (script : Script) : Plays script [] script
  | cons (call : ClientCall) (next : Result call.Answer → Script)
      (outgoing : Option OutgoingRequest) (result : Result call.Answer) (events : List Event)
      (rest : Script) (later : Plays (next result) events rest) :
      Plays (.call call next) (⟨call, outgoing, result⟩ :: events) rest

/-! ### The resources -/

structure BotxApp (Handler Callback : Type) where
  command : CommandResource Handler
  callback : CallbackResource Callback
  status : StatusResource

/-- The resources share the accounts of the client's storage. -/
def createBotxApp {Handler Callback : Type} (storage : BotAccountsStorage)
    (commands : List (String × Handler)) (callback : Callback)
    (events : List (SystemEventClass × Handler)) (botMenu : Option BotMenu)
    (verifyRequests : Bool) : BotxApp Handler Callback :=
  let base : BaseResource :=
    { credentials := storage.botAccounts, verifyRequests := verifyRequests }
  { command := { toBaseResource := base, commands := commands, events := events }
    callback := { toBaseResource := base, callback := callback }
    status := { toBaseResource := base, botMenu := botMenu.getD [] } }

structure UseCases (Handler Callback : Type) : Type 1 where
  execute : Handler → BotCommand → Script
  executeCallback : Callback → BotXMethodCallback → Script

inductive Incoming where
  | command (media : Option Json) (headers : List (String × String))
  | callback (media : Option Json) (headers : List (String × String))
  | status (params : List (String × ParamValue)) (headers : List (String × String))

inductive Opening : Type 1 where
  | answered (answer : Result Response)
  | running (script : Script) (accepted : Response)

def closing (accepted : Response) : Option PyError → Result Response
  | none => .ok accepted
  | some exc => .error exc

structure Runtime where
  python : Interpreter
  jwt : PyJWT
  hmacSha256 : Hmac

theorem CommandResource.object_of_parsed {Handler : Type} (resource : CommandResource Handler)
    {jwt : PyJWT} {now : Int} {scalars : Scalars} {rawCommand : Json}
    {headers : List (String × String)} {command : BotCommand}
    (parsed : resource.parseCommand jwt now scalars rawCommand headers = .ok command) :
    ∃ entries, rawCommand = .obj entries := by
  unfold parseCommand at parsed
  obtain ⟨_, _, parsed⟩ := (Result.bind_eq_ok _ _ _).mp parsed
  obtain ⟨entries, object, _⟩ := (Result.bind_eq_ok _ _ _).mp parsed
  cases rawCommand with
  | obj entries => exact ⟨entries, rfl⟩
  | _ => cases object

namespace BotxApp

variable {Handler Callback : Type} (app : BotxApp Handler Callback)
  (useCases : UseCases Handler Callback) (runtime : Runtime) (now : Int)

def openCommand (media : Option Json) (headers : List (String × String)) : Opening :=
  let parsed := requestMedia media >>= fun rawCommand =>
    app.command.parseCommand runtime.jwt now runtime.python.toScalars rawCommand
      (lowerKeys headers)
  match parsed with
  | .error exc => .answered (orUnauthorized (.error exc))
  | .ok botCommand =>
      match app.command.handlerFor botCommand with
      | .error exc => .answered (.error exc)
      | .ok none => .answered (.ok ⟨200, buildCommandAcceptedResponse⟩)
      | .ok (some handler) =>
          .running (useCases.execute handler botCommand) ⟨200, buildCommandAcceptedResponse⟩

def openCallback (media : Option Json) (headers : List (String × String)) : Opening :=
  let parsed := requestMedia media >>= fun rawCallback =>
    app.callback.parseCallback runtime.jwt now runtime.python.toScalars rawCallback
      (lowerKeys headers)
  match parsed with
  | .error exc => .answered (orUnauthorized (.error exc))
  | .ok callbackMsg =>
      .running (useCases.executeCallback app.callback.callback callbackMsg)
        ⟨200, .obj [("status", .str "ok")]⟩

def opening : Incoming → Opening
  | .command media headers => app.openCommand useCases runtime now media headers
  | .callback media headers => app.openCallback useCases runtime now media headers
  | .status params headers => .answered
      (app.status.onGet runtime.jwt now runtime.python.toScalars params headers)

def respond (raised : Option PyError) : Incoming → Result Response
  | .command media headers =>
      (app.command.onPost runtime.jwt now runtime.python.toScalars (fun _ _ => raised) media
        headers).answer
  | .callback media headers =>
      app.callback.onPost runtime.jwt now runtime.python.toScalars (fun _ _ => raised) media
        headers
  | .status params headers =>
      app.status.onGet runtime.jwt now runtime.python.toScalars params headers

theorem respond_eq (raised : Option PyError) (incoming : Incoming) :
    app.respond runtime now raised incoming =
      match app.opening useCases runtime now incoming with
      | .answered answer => answer
      | .running _ accepted => closing accepted raised := by
  cases incoming with
  | command media headers =>
      unfold respond opening openCommand CommandResource.onPost
      dsimp only
      cases requestMedia media >>= fun rawCommand =>
          app.command.parseCommand runtime.jwt now runtime.python.toScalars rawCommand
            (lowerKeys headers) with
      | error exc => rfl
      | ok botCommand =>
          dsimp only
          cases app.command.handlerFor botCommand with
          | error exc => rfl
          | ok found => cases found <;> cases raised <;> rfl
  | callback media headers =>
      unfold respond opening openCallback CallbackResource.onPost
      dsimp only
      cases requestMedia media >>= fun rawCallback =>
          app.callback.parseCallback runtime.jwt now runtime.python.toScalars rawCallback
            (lowerKeys headers) with
      | error exc => rfl
      | ok callbackMsg => cases raised <;> rfl
  | status params headers => rfl

variable {app useCases runtime now}

theorem openCommand_eq_running_iff {media : Option Json} {headers : List (String × String)}
    {script : Script} {accepted : Response} :
    app.openCommand useCases runtime now media headers = .running script accepted ↔
      ∃ rawCommand command handler, media = some (.obj rawCommand) ∧
        app.command.parseCommand runtime.jwt now runtime.python.toScalars (.obj rawCommand)
          (lowerKeys headers) = .ok command ∧
        app.command.Registered handler command ∧ script = useCases.execute handler command ∧
        accepted = ⟨200, buildCommandAcceptedResponse⟩ := by
  unfold openCommand
  cases media with
  | none =>
      constructor
      · intro impossible
        cases impossible
      · intro parsed
        obtain ⟨_, _, _, impossible, _⟩ := parsed
        cases impossible
  | some raw =>
      simp only [requestMedia, bind, Except.bind]
      simp only [← CommandResource.handlerFor_eq_some_iff, Option.some.injEq]
      constructor
      · intro opened
        cases parsed : app.command.parseCommand runtime.jwt now runtime.python.toScalars raw
            (lowerKeys headers) with
        | error exc =>
            rw [parsed] at opened
            cases opened
        | ok command =>
            rw [parsed] at opened
            dsimp only at opened
            obtain ⟨rawCommand, rfl⟩ := app.command.object_of_parsed parsed
            cases found : app.command.handlerFor command with
            | error exc =>
                rw [found] at opened
                cases opened
            | ok entry =>
                rw [found] at opened
                cases entry with
                | none => cases opened
                | some handler =>
                    cases opened
                    exact ⟨rawCommand, command, handler, rfl, parsed, found, rfl, rfl⟩
      · intro parsed
        obtain ⟨rawCommand, command, handler, rfl, parsed, found, rfl, rfl⟩ := parsed
        rw [parsed]
        dsimp only
        rw [found]

end BotxApp

/-! ### Threads -/

inductive Job : Type 1 where
  | running (script : Script)
  | authorizing (index : Nat) (call : ClientCall) (url : String) (payload : Payload)
      (next : Result call.Answer → Script)
  | awaiting (call : ClientCall) (outgoing : OutgoingRequest)
      (next : Result call.Answer → Script)
  | answered (answer : Result Response)

/-- `time` is when the request is verified. -/
structure Thread : Type 1 where
  incoming : Incoming
  time : Int
  events : List Event
  job : Job

def Thread.resume (thread : Thread) (call : ClientCall) (outgoing : Option OutgoingRequest)
    (next : Result call.Answer → Script) (result : Result call.Answer) : Thread :=
  { thread with
    events := thread.events ++ [⟨call, outgoing, result⟩]
    job := .running (next result) }

def Opening.job : Opening → Job
  | .answered answer => .answered answer
  | .running script _ => .running script

/-- One action of a thread; the time and the identifiers of an action are anything. -/
inductive Thread.Action (runtime : Runtime) (opening : Int → Incoming → Opening) :
    World × Thread → World × Thread → Prop
  | unbuilt (world : World) (thread : Thread) (call : ClientCall)
      (next : Result call.Answer → Script) (ids : Nat → UUID) (exc : PyError)
      (here : thread.job = .running (.call call next)) (refused : call.payload ids = .error exc) :
      Action runtime opening (world, thread) (world, thread.resume call none next (.error exc))
  | unaddressed (world : World) (thread : Thread) (call : ClientCall)
      (next : Result call.Answer → Script) (ids : Nat → UUID) (payload : Payload) (exc : PyError)
      (here : thread.job = .running (.call call next)) (built : call.payload ids = .ok payload)
      (unknown : buildUrl world.storage call.botId call.path = .error exc) :
      Action runtime opening (world, thread) (world, thread.resume call none next (.error exc))
  | authorize (world : World) (thread : Thread) (index : Nat) (call : ClientCall)
      (next : Result call.Answer → Script) (ids : Nat → UUID) (payload : Payload) (url : String)
      (version : world.storage.authVersion = .v1)
      (here : thread.job = .running (.call call next)) (built : call.payload ids = .ok payload)
      (address : buildUrl world.storage call.botId call.path = .ok url)
      (fresh : world.calls index = none) :
      Action runtime opening (world, thread)
        (world.setCall index call.botId .started,
          { thread with job := .authorizing index call url payload next })
  | authorized (world : World) (thread : Thread) (index : Nat) (call : ClientCall)
      (next : Result call.Answer → Script) (payload : Payload) (url token : String)
      (here : thread.job = .authorizing index call url payload next)
      (present : world.calls index = some ⟨call.botId, .authorized token⟩) :
      Action runtime opening (world, thread)
        ({ world.setCall index call.botId .finished with
            sent := ⟨index, call.botId, bearer token⟩ :: world.sent },
          { thread with
            job := .awaiting call (call.request runtime.python url token payload) next })
  | unauthorized (world : World) (thread : Thread) (index : Nat) (call : ClientCall)
      (next : Result call.Answer → Script) (payload : Payload) (url : String) (exc : PyError)
      (here : thread.job = .authorizing index call url payload next)
      (failed : world.calls index = some ⟨call.botId, .failed exc⟩) :
      Action runtime opening (world, thread) (world, thread.resume call none next (.error exc))
  | signed (world : World) (thread : Thread) (call : ClientCall)
      (next : Result call.Answer → Script) (ids : Nat → UUID) (payload : Payload)
      (url token tokenHex : String) (time : Int) (version : world.storage.authVersion = .v2)
      (here : thread.job = .running (.call call next)) (built : call.payload ids = .ok payload)
      (address : buildUrl world.storage call.botId call.path = .ok url)
      (signs : world.storage.buildJwtV2 runtime.jwt call.botId time tokenHex = .ok token) :
      Action runtime opening (world, thread)
        (world, { thread with
          job := .awaiting call (call.request runtime.python url token payload) next })
  | unsigned (world : World) (thread : Thread) (call : ClientCall)
      (next : Result call.Answer → Script) (ids : Nat → UUID) (payload : Payload)
      (url tokenHex : String) (time : Int) (exc : PyError)
      (version : world.storage.authVersion = .v2)
      (here : thread.job = .running (.call call next)) (built : call.payload ids = .ok payload)
      (address : buildUrl world.storage call.botId call.path = .ok url)
      (refused : world.storage.buildJwtV2 runtime.jwt call.botId time tokenHex = .error exc) :
      Action runtime opening (world, thread) (world, thread.resume call none next (.error exc))
  | received (world : World) (thread : Thread) (call : ClientCall) (outgoing : OutgoingRequest)
      (next : Result call.Answer → Script) (exchange : Exchange)
      (here : thread.job = .awaiting call outgoing next) :
      Action runtime opening (world, thread) (world, thread.resume call (some outgoing) next
        (call.receive runtime.python outgoing exchange))
  | closed (world : World) (thread : Thread) (script first : Script) (accepted : Response)
      (raised : Option PyError) (here : thread.job = .running script)
      (finished : script.ended = some raised)
      (opened : opening thread.time thread.incoming = .running first accepted) :
      Action runtime opening (world, thread)
        (world, { thread with job := .answered (closing accepted raised) })

/-- The steps of the token protocol that belong to no thread: those of the cache and of the
server. -/
def BotxApp.system {Handler Callback : Type} (app : BotxApp Handler Callback)
    (useCases : UseCases Handler Callback) (runtime : Runtime) :
    Interleaving.System World Thread where
  opens := fun thread => ∃ time incoming, thread =
    { incoming := incoming, time := time, events := [],
      job := (app.opening useCases runtime time incoming).job }
  act := fun _ => Thread.Action runtime (app.opening useCases runtime)
  ambient := fun before after => Step runtime.hmacSha256 before after ∧ after.sent = before.sent

def World.serving (storage : BotAccountsStorage) : World :=
  { World.initial storage.botAccounts with
    storage := .new storage.botAccounts storage.authVersion }

end Pybotx
