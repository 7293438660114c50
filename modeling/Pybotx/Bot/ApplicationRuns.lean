/-
The runs of an application.

Every thread keeps to its script and sends each request under a credential of its bot, and
it relies on no more of the other threads than that they step through the token protocol.
-/

import Pybotx.Bot.Application

set_option autoImplicit false

namespace Pybotx

/-- A V1 token that the server issued for the bot, or a V2 token that its key signs. -/
def World.Credential (runtime : Runtime) (world : World) (botId : UUID) (token : String) : Prop :=
  match world.storage.authVersion with
  | .v1 => world.IssuedFor runtime.hmacSha256 botId token
  | .v2 => ∃ time tokenHex, world.storage.buildJwtV2 runtime.jwt botId time tokenHex = .ok token

def SentFor (runtime : Runtime) (world : World) (call : ClientCall) (outgoing : OutgoingRequest) :
    Prop :=
  ∃ ids payload url token, call.payload ids = .ok payload ∧
    buildUrl world.storage call.botId call.path = .ok url ∧
    world.Credential runtime call.botId token ∧
    outgoing = call.request runtime.python url token payload

/-- A call that sent nothing has raised; the others have what the server made of the request. -/
def Event.Sound (runtime : Runtime) (world : World) (event : Event) : Prop :=
  match event.outgoing with
  | none => ∃ exc, event.result = .error exc
  | some outgoing => SentFor runtime world event.call outgoing ∧
      ∃ exchange, event.result = event.call.receive runtime.python outgoing exchange

def Job.At (accepted : Response) : Job → Script → Prop
  | .running now, rest => now = rest
  | .authorizing _ call _ _ next, rest => .call call next = rest
  | .awaiting call _ next, rest => .call call next = rest
  | .answered answer, rest => ∃ raised, rest.ended = some raised ∧ answer = closing accepted raised

def FollowsOpening (opening : Opening) (thread : Thread) : Prop :=
  match opening with
  | .answered answer => thread.job = .answered answer ∧ thread.events = []
  | .running script accepted =>
      ∃ rest, Plays script thread.events rest ∧ thread.job.At accepted rest

def Job.Sound (runtime : Runtime) (world : World) : Job → Prop
  | .authorizing _ call url payload _ => world.storage.authVersion = .v1 ∧
      (∃ ids, call.payload ids = .ok payload) ∧
      buildUrl world.storage call.botId call.path = .ok url
  | .awaiting call outgoing _ => SentFor runtime world call outgoing
  | _ => True

structure Thread.Sound (runtime : Runtime) (opening : Int → Incoming → Opening) (world : World)
    (thread : Thread) : Prop where
  follows : FollowsOpening (opening thread.time thread.incoming) thread
  events : ∀ event ∈ thread.events, event.Sound runtime world
  job : thread.job.Sound runtime world

section

variable {runtime : Runtime} {opening : Int → Incoming → Opening}

theorem isolated_serving (storage : BotAccountsStorage) (hmacSha256 : Hmac) :
    Isolated hmacSha256 (World.serving storage) where
  cache := by intro botId token present; cases present
  calls := by intro index botId phase here; cases here
  sent := by intro sent member; cases member
  fetches := by intro fetch member; cases member
  finished := by intro sent member; cases member

/-- What a thread does to the shared world is a step of the token protocol, if anything. -/
theorem Thread.Action.world_step {before after : World × Thread}
    (action : Thread.Action runtime opening before after) :
    after.1 = before.1 ∨ Step runtime.hmacSha256 before.1 after.1 := by
  cases action with
  | authorize world thread index call next ids payload url version here built address fresh =>
      exact .inr (.start world index call.botId fresh)
  | authorized world thread index call next payload url token here present =>
      exact .inr (.send world index call.botId token present)
  | _ => exact .inl rfl

theorem Step.storage_accounts {hmacSha256 : Hmac} {before after : World}
    (step : Step hmacSha256 before after) :
    after.storage.botAccounts = before.storage.botAccounts ∧
      after.storage.authVersion = before.storage.authVersion := by
  cases step <;> exact ⟨rfl, rfl⟩

theorem Step.credential {before after : World} (step : Step runtime.hmacSha256 before after)
    {botId : UUID} {token : String} (valid : before.Credential runtime botId token) :
    after.Credential runtime botId token := by
  obtain ⟨accounts, version⟩ := step.storage_accounts
  unfold World.Credential at valid ⊢
  rw [version]
  revert valid
  cases before.storage.authVersion with
  | v1 => exact step.issuedFor botId token
  | v2 =>
      intro valid
      obtain ⟨time, tokenHex, signs⟩ := valid
      refine ⟨time, tokenHex, ?_⟩
      unfold BotAccountsStorage.buildJwtV2 BotAccountsStorage.getBotAccount at signs ⊢
      rw [accounts]
      exact signs

theorem Step.sentFor {before after : World} (step : Step runtime.hmacSha256 before after)
    {call : ClientCall} {outgoing : OutgoingRequest}
    (sent : SentFor runtime before call outgoing) : SentFor runtime after call outgoing := by
  obtain ⟨ids, payload, url, token, built, address, valid, same⟩ := sent
  refine ⟨ids, payload, url, token, built, ?_, step.credential valid, same⟩
  rw [buildUrl_of_accounts call.botId call.path step.storage_accounts.1, address]

theorem Step.eventSound {before after : World} (step : Step runtime.hmacSha256 before after)
    {event : Event} (sound : event.Sound runtime before) : event.Sound runtime after := by
  unfold Event.Sound at sound ⊢
  revert sound
  cases event.outgoing with
  | none => exact id
  | some outgoing => exact And.imp_left step.sentFor

theorem Step.jobSound {before after : World} (step : Step runtime.hmacSha256 before after)
    {job : Job} (sound : job.Sound runtime before) : job.Sound runtime after := by
  cases job with
  | authorizing index call url payload next =>
      obtain ⟨version, built, address⟩ := sound
      obtain ⟨accounts, sameVersion⟩ := step.storage_accounts
      refine ⟨sameVersion.trans version, built, ?_⟩
      rw [buildUrl_of_accounts call.botId call.path accounts, address]
  | awaiting call outgoing next => exact step.sentFor sound
  | running script => trivial
  | answered answer => trivial

/-- A thread stays sound while others move the world. -/
theorem Step.threadSound {before after : World} (step : Step runtime.hmacSha256 before after)
    {thread : Thread} (sound : thread.Sound runtime opening before) :
    thread.Sound runtime opening after where
  follows := sound.follows
  events := fun event member => step.eventSound (sound.events event member)
  job := step.jobSound sound.job

theorem Plays.snoc {script : Script} {events : List Event} {call : ClientCall}
    {next : Result call.Answer → Script} (plays : Plays script events (.call call next))
    (outgoing : Option OutgoingRequest) (result : Result call.Answer) :
    Plays script (events ++ [⟨call, outgoing, result⟩]) (next result) := by
  generalize same : Script.call call next = rest at plays
  induction plays with
  | nil script =>
      subst same
      exact .cons call next outgoing result [] _ (.nil _)
  | cons first later firstOutgoing firstResult events rest _ ih =>
      exact .cons first later firstOutgoing firstResult _ _ (ih same)

inductive Job.Calling (call : ClientCall) (next : Result call.Answer → Script) : Job → Prop
  | running : Calling call next (.running (.call call next))
  | authorizing (index : Nat) (url : String) (payload : Payload) :
      Calling call next (.authorizing index call url payload next)
  | awaiting (outgoing : OutgoingRequest) : Calling call next (.awaiting call outgoing next)

variable {world : World} {thread : Thread} {call : ClientCall}
  {next : Result call.Answer → Script}

theorem Job.Calling.at_iff {job : Job} (calling : job.Calling call next) (accepted : Response)
    (rest : Script) : job.At accepted rest ↔ .call call next = rest := by
  cases calling <;> exact Iff.rfl

theorem Job.Calling.unanswered {job : Job} (calling : job.Calling call next)
    (answer : Result Response) : job ≠ .answered answer := by
  intro same
  subst same
  cases calling

theorem Thread.Sound.plays (sound : thread.Sound runtime opening world)
    (calling : thread.job.Calling call next) :
    ∃ script accepted, opening thread.time thread.incoming = .running script accepted ∧
      Plays script thread.events (.call call next) := by
  have follows := sound.follows
  cases opened : opening thread.time thread.incoming with
  | answered answer =>
      rw [opened] at follows
      exact absurd follows.1 (calling.unanswered answer)
  | running script accepted =>
      rw [opened] at follows
      obtain ⟨rest, plays, atJob⟩ := follows
      have atCall := (calling.at_iff accepted rest).mp atJob
      subst atCall
      exact ⟨script, accepted, rfl, plays⟩

theorem Thread.Sound.resume (sound : thread.Sound runtime opening world)
    (calling : thread.job.Calling call next) {outgoing : Option OutgoingRequest}
    {result : Result call.Answer} (event : (Event.mk call outgoing result).Sound runtime world) :
    (thread.resume call outgoing next result).Sound runtime opening world where
  follows := by
    obtain ⟨script, accepted, opened, plays⟩ := sound.plays calling
    change FollowsOpening (opening thread.time thread.incoming) _
    rw [opened]
    exact ⟨next result, plays.snoc outgoing result, rfl⟩
  events := by
    intro other member
    rcases List.mem_append.mp member with earlier | last
    · exact sound.events other earlier
    · rw [List.mem_singleton.mp last]
      exact event
  job := trivial

theorem Thread.Sound.inside {job : Job} (sound : thread.Sound runtime opening world)
    (calling : thread.job.Calling call next) (still : job.Calling call next)
    (jobSound : job.Sound runtime world) :
    { thread with job := job }.Sound runtime opening world where
  follows := by
    obtain ⟨script, accepted, opened, plays⟩ := sound.plays calling
    change FollowsOpening (opening thread.time thread.incoming) _
    rw [opened]
    exact ⟨_, plays, (still.at_iff accepted _).mpr rfl⟩
  events := sound.events
  job := jobSound

theorem Thread.Sound.closed {script first : Script} {accepted : Response}
    {raised : Option PyError} (sound : thread.Sound runtime opening world)
    (here : thread.job = .running script) (finished : script.ended = some raised)
    (opened : opening thread.time thread.incoming = .running first accepted) :
    { thread with job := .answered (closing accepted raised) }.Sound runtime opening world where
  follows := by
    have follows := sound.follows
    change FollowsOpening (opening thread.time thread.incoming) _
    rw [opened] at follows ⊢
    obtain ⟨rest, plays, atJob⟩ := follows
    rw [here] at atJob
    subst atJob
    exact ⟨script, plays, raised, finished, rfl⟩
  events := sound.events
  job := trivial

/-- Every action keeps its thread sound, in the world it leaves. -/
theorem Thread.Action.sound {before after : World × Thread}
    (isolated : Isolated runtime.hmacSha256 before.1)
    (sound : before.2.Sound runtime opening before.1)
    (action : Thread.Action runtime opening before after) :
    after.2.Sound runtime opening after.1 := by
  cases action with
  | unbuilt world thread call next ids exc here refused =>
      exact sound.resume (here ▸ .running) ⟨exc, rfl⟩
  | unaddressed world thread call next ids payload exc here built unknown =>
      exact sound.resume (here ▸ .running) ⟨exc, rfl⟩
  | authorize world thread index call next ids payload url version here built address fresh =>
      have started : Step runtime.hmacSha256 world _ := .start world index call.botId fresh
      exact (started.threadSound sound).inside (here ▸ .running) (.authorizing index url payload)
        ⟨version, ⟨ids, built⟩, address⟩
  | authorized world thread index call next payload url token here present =>
      have sends : Step runtime.hmacSha256 world _ := .send world index call.botId token present
      have issued := isolated.calls index call.botId _ present
      have job := sound.job
      dsimp only at job
      rw [here] at job
      obtain ⟨version, ⟨ids, built⟩, address⟩ := job
      have valid : world.Credential runtime call.botId token := by
        unfold World.Credential
        rw [version]
        exact issued
      exact (sends.threadSound sound).inside (here ▸ .authorizing index url payload) (.awaiting _)
        (sends.sentFor ⟨ids, payload, url, token, built, address, valid, rfl⟩)
  | unauthorized world thread index call next payload url exc here failed =>
      exact sound.resume (here ▸ .authorizing index url payload) ⟨exc, rfl⟩
  | signed world thread call next ids payload url token tokenHex time version here built address
      signs =>
      have valid : world.Credential runtime call.botId token := by
        unfold World.Credential
        rw [version]
        exact ⟨time, tokenHex, signs⟩
      exact sound.inside (here ▸ .running) (.awaiting _)
        ⟨ids, payload, url, token, built, address, valid, rfl⟩
  | unsigned world thread call next ids payload url tokenHex time exc version here built address
      refused =>
      exact sound.resume (here ▸ .running) ⟨exc, rfl⟩
  | received world thread call outgoing next exchange here =>
      have job := sound.job
      dsimp only at job
      rw [here] at job
      exact sound.resume (here ▸ .awaiting outgoing) ⟨job, exchange, rfl⟩
  | closed world thread script first accepted raised here finished opened =>
      exact sound.closed here finished opened

end

/-! ### Every schedule -/

/-- The request is served as if it were alone: the calls are those of its script in their
order, each sent for the bot of the call, and the answer is that of the resource to a
handler that ends as the script has ended. -/
structure Thread.Served {Handler Callback : Type} (app : BotxApp Handler Callback)
    (useCases : UseCases Handler Callback) (runtime : Runtime) (world : World)
    (thread : Thread) : Prop where
  follows : FollowsOpening (app.opening useCases runtime thread.time thread.incoming) thread
  events : ∀ event ∈ thread.events, event.Sound runtime world
  awaiting : ∀ call outgoing next, thread.job = .awaiting call outgoing next →
    SentFor runtime world call outgoing
  answered : ∀ answer, thread.job = .answered answer → ∃ raised,
    answer = app.respond runtime thread.time raised thread.incoming ∧
    ∀ script accepted,
      app.opening useCases runtime thread.time thread.incoming = .running script accepted →
      ∃ rest, Plays script thread.events rest ∧ rest.ended = some raised

section

variable {Handler Callback : Type} (app : BotxApp Handler Callback)
  (useCases : UseCases Handler Callback) (runtime : Runtime)

theorem Thread.Sound.served {world : World} {thread : Thread}
    (sound : thread.Sound runtime (app.opening useCases runtime) world) :
    thread.Served app useCases runtime world where
  follows := sound.follows
  events := sound.events
  awaiting := by
    intro call outgoing next here
    have job := sound.job
    rw [here] at job
    exact job
  answered := by
    intro answer here
    have follows := sound.follows
    cases opened : app.opening useCases runtime thread.time thread.incoming with
    | answered first =>
        rw [opened] at follows
        have same := follows.1
        rw [here] at same
        cases same
        refine ⟨none, ?_, ?_⟩
        · rw [app.respond_eq useCases, opened]
        · intro script accepted impossible
          cases impossible
    | running script accepted =>
        rw [opened] at follows
        obtain ⟨rest, plays, atJob⟩ := follows
        rw [here] at atJob
        obtain ⟨raised, finished, same⟩ := atJob
        refine ⟨raised, ?_, ?_⟩
        · rw [app.respond_eq useCases, opened]
          exact same
        · intro first firstAccepted opening
          cases opening
          exact ⟨rest, plays, finished⟩

theorem BotxApp.relyGuarantee (storage : BotAccountsStorage) :
    Interleaving.RelyGuarantee (app.system useCases runtime)
      (Transition.Reaches (Step runtime.hmacSha256) (World.serving storage))
      (fun _ world thread => thread.Sound runtime (app.opening useCases runtime) world) where
  opened := by
    intro index world thread reached opening
    obtain ⟨time, incoming, rfl⟩ := opening
    refine ⟨?_, ?_, ?_⟩
    · dsimp only
      cases app.opening useCases runtime time incoming with
      | answered answer => exact ⟨rfl, rfl⟩
      | running script accepted => exact ⟨script, .nil script, rfl⟩
    · intro event member
      cases member
    · dsimp only
      cases app.opening useCases runtime time incoming <;> trivial
  acted := by
    intro index before after reached sound action
    have isolated := isolated_stable.reaches reached (isolated_serving storage runtime.hmacSha256)
    refine ⟨?_, Thread.Action.sound isolated sound action⟩
    rcases Thread.Action.world_step action with same | step
    · rw [same]
      exact reached
    · exact reached.tail step
  others := by
    intro index before after reached sound action other there different otherSound
    rcases Thread.Action.world_step action with same | step
    · rw [same]
      exact otherSound
    · exact step.threadSound otherSound
  around := by
    intro before after reached change
    exact ⟨reached.tail change.1, fun _ _ sound => change.1.threadSound sound⟩

/-- However the threads are scheduled, each request is served as if it were alone, and the
tokens are those of a run of the token protocol. -/
theorem BotxApp.requests_served (storage : BotAccountsStorage)
    (state : Interleaving.State World Thread)
    (reached : Transition.Reaches (app.system useCases runtime).Step
      (.initial (World.serving storage)) state) :
    Transition.Reaches (Step runtime.hmacSha256) (World.serving storage) state.shared ∧
      ∀ index thread, state.threads index = some thread →
        thread.Served app useCases runtime state.shared := by
  have holds := (app.relyGuarantee useCases runtime storage).reaches .refl reached
  refine ⟨holds.shared, ?_⟩
  intro index thread here
  exact (holds.threads index thread here).served app useCases runtime

end

def demoCall : ClientCall where
  Model := String
  Answer := String
  botId := demoAccount.id
  verb := "GET"
  path := "/api/v1/botx/chats/list"
  statusHandlers := authorizedStatusHandlers
  reading := .returning Validator.str
  toDomain := .ok
  payload := fun _ => .ok ⟨[], .empty⟩

def demoUseCases : UseCases String Unit where
  execute := fun _ _ => .call demoCall fun _ => .done
  executeCallback := fun _ _ => .done

def demoRuntime : Runtime where
  python := demoPython
  jwt := demoJwt
  hmacSha256 := demoHmac

def demoCommand (text : String) : Incoming :=
  .command (some (.obj (demoMessage text))) demoHeaders

/-- Two commands at once for a V1 bot: one fetches the token, the other finds it in the cache and
is sent first.  The fetching one is answered although its call gets no answer. -/
theorem BotxApp.requests_served_demo :
    ∃ state first second outgoing next, Transition.Reaches
        ((createBotxApp (.new [demoAccount] .v1) [("/start", "start")] () [] none true).system
          demoUseCases demoRuntime).Step (.initial (World.serving (.new [demoAccount] .v1))) state ∧
      state.threads 0 = some first ∧
      first.job = .answered (.ok ⟨200, buildCommandAcceptedResponse⟩) ∧
      first.events.length = 1 ∧
      state.threads 1 = some second ∧ second.job = .awaiting demoCall outgoing next ∧
      SentFor demoRuntime state.shared demoCall outgoing ∧
      first.Served (createBotxApp (.new [demoAccount] .v1) [("/start", "start")] () [] none true)
        demoUseCases demoRuntime state.shared := by
  let storage := BotAccountsStorage.new [demoAccount] .v1
  let app := createBotxApp storage [("/start", "start")] () [] none true
  let url := "https://cts.example.com/api/v1/botx/chats/list"
  let payload : Payload := ⟨[], .empty⟩
  let next : Result String → Script := fun _ => .done
  let outgoing := demoCall.request demoPython url "token" payload
  let opened : Thread := ⟨demoCommand "/start now", 1030, [], .running (.call demoCall next)⟩
  let waits (index : Nat) : Thread :=
    { opened with job := .authorizing index demoCall url payload next }
  let sent : Thread := { opened with job := .awaiting demoCall outgoing next }
  let exchange := Exchange.failed "timeout"
  let result := demoCall.receive demoPython outgoing exchange
  let answered := sent.resume demoCall (some outgoing) next result
  obtain ⟨request, built⟩ : ∃ request,
      getTokenRequest demoHmac storage demoAccount.id = .ok request := ⟨_, rfl⟩
  have run : Transition.Reaches (app.system demoUseCases demoRuntime).Step
      (.initial (World.serving storage)) _ :=
    Relation.ReflTransGen.refl
    |>.tail (.opens _ 0 opened rfl ⟨1030, _, rfl⟩)
    |>.tail (.opens _ 1 opened rfl ⟨1030, _, rfl⟩)
    |>.tail (.acts _ 0 opened (waits 7) _ rfl (.authorize _ opened 7 demoCall next (fun _ => ⟨0⟩)
      payload url rfl rfl rfl rfl rfl))
    |>.tail (.ambient _ _ ⟨.readEmpty _ 7 demoAccount.id rfl rfl, rfl⟩)
    |>.tail (.ambient _ _ ⟨.request _ 7 demoAccount.id request rfl built, rfl⟩)
    |>.tail (.ambient _ _ ⟨.answer _ 7 demoAccount.id request "token" rfl, rfl⟩)
    |>.tail (.ambient _ _ ⟨.store _ 7 demoAccount.id "token" rfl, rfl⟩)
    |>.tail (.acts _ 1 opened (waits 8) _ rfl (.authorize _ opened 8 demoCall next (fun _ => ⟨0⟩)
      payload url rfl rfl rfl rfl rfl))
    |>.tail (.ambient _ _ ⟨.readCached _ 8 demoAccount.id "token" rfl rfl, rfl⟩)
    |>.tail (.acts _ 1 (waits 8) sent _ rfl (.authorized _ (waits 8) 8 demoCall next payload url
      "token" rfl rfl))
    |>.tail (.acts _ 0 (waits 7) sent _ rfl (.authorized _ (waits 7) 7 demoCall next payload url
      "token" rfl rfl))
    |>.tail (.acts _ 0 sent answered _ rfl (.received _ sent demoCall outgoing next exchange rfl))
    |>.tail (.acts _ 0 answered _ _ rfl (.closed _ answered .done _ _ none rfl rfl rfl))
  have served := (app.requests_served demoUseCases demoRuntime storage _ run).2
  exact ⟨_, _, sent, outgoing, next, run, rfl, rfl, rfl, rfl, rfl,
    (served 1 sent rfl).awaiting demoCall outgoing next rfl, served 0 _ rfl⟩

end Pybotx
