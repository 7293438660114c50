/-
What becomes of the calls that share the token cache.

A call takes a few steps and ends, whatever the other calls do, and it sends its request
once or raises.  The token of a bot stays for good when no call that has missed it is on
its way to the server; until then the last answer wins.
-/

import Pybotx.Client.AuthorizedBotXMethod

set_option autoImplicit false

namespace Pybotx

variable {hmacSha256 : Hmac}

def Phase.remaining : Phase → Nat
  | .started => 5
  | .cacheEmpty => 4
  | .awaiting _ => 3
  | .received _ => 2
  | .authorized _ => 1
  | .finished => 0
  | .failed _ => 0

def Phase.Ended (phase : Phase) : Prop :=
  phase.remaining = 0

theorem Next.remaining_lt {old new : Phase} (next : Next old new) :
    new.remaining < old.remaining := by
  cases next <;> simp [Phase.remaining]

def World.remaining (world : World) (index : Nat) : Nat :=
  (world.calls index).elim 0 fun call => call.phase.remaining

theorem World.remaining_of_call {world : World} {index : Nat} {botId : UUID} {phase : Phase}
    (here : world.calls index = some ⟨botId, phase⟩) :
    world.remaining index = phase.remaining := by
  rw [World.remaining, here]
  rfl

def World.Started (world : World) (started : Finset Nat) : Prop :=
  ∀ index, index ∈ started ↔ world.calls index ≠ none

def World.potential (world : World) (started : Finset Nat) : Nat :=
  ∑ index ∈ started, world.remaining index

theorem World.remaining_setCall {before after : World} {index : Nat} {botId : UUID}
    {phase : Phase} (calls : after.calls = (before.setCall index botId phase).calls)
    (other : Nat) :
    after.remaining other =
      if other = index then phase.remaining else before.remaining other := by
  rw [World.remaining, calls, World.setCall_calls]
  by_cases same : other = index
  · rw [if_pos same, if_pos same]
    rfl
  · rw [if_neg same, if_neg same]
    rfl

theorem World.potential_lt {before after : World} {started : Finset Nat} {index : Nat}
    {botId : UUID} {old phase : Phase}
    (calls : after.calls = (before.setCall index botId phase).calls)
    (here : before.calls index = some ⟨botId, old⟩) (next : Next old phase)
    (known : index ∈ started) : after.potential started < before.potential started := by
  have lower : after.remaining index < before.remaining index := by
    rw [World.remaining_setCall calls, if_pos rfl, World.remaining_of_call here]
    exact next.remaining_lt
  refine Finset.sum_lt_sum ?_ ⟨index, known, lower⟩
  intro other _
  by_cases same : other = index
  · rw [same]
    exact Nat.le_of_lt lower
  · rw [World.remaining_setCall calls, if_neg same]

theorem World.potential_start {before after : World} {started : Finset Nat} {index : Nat}
    {botId : UUID} (calls : after.calls = (before.setCall index botId .started).calls)
    (unknown : index ∉ started) :
    after.potential (insert index started) = before.potential started + 5 := by
  have here : after.remaining index = 5 := by
    rw [World.remaining_setCall calls, if_pos rfl]
    rfl
  have others : ∑ other ∈ started, after.remaining other = before.potential started := by
    refine Finset.sum_congr rfl ?_
    intro other member
    have different : other ≠ index := fun same => unknown (same ▸ member)
    rw [World.remaining_setCall calls, if_neg different]
  rw [World.potential, Finset.sum_insert unknown, here, others]
  omega

theorem World.Started.moves {before after : World} {started : Finset Nat} {index : Nat}
    {botId : UUID} {phase : Phase} (known : before.Started started)
    (calls : after.calls = (before.setCall index botId phase).calls) :
    after.Started (insert index started) := by
  intro other
  rw [Finset.mem_insert, known other, calls, World.setCall_calls]
  by_cases same : other = index
  · rw [if_pos same]
    exact ⟨fun _ => Option.some_ne_none _, fun _ => .inl same⟩
  · rw [if_neg same]
    exact ⟨fun found => found.resolve_left same, fun found => .inr found⟩

/-- A run makes at most six steps for each of its calls. -/
theorem run_bounded {length : Nat} {first world : World}
    (fresh : ∀ index, first.calls index = none)
    (run : Transition.Run (Step hmacSha256) length first world) :
    ∃ started : Finset Nat, world.Started started ∧
      length + world.potential started ≤ 6 * started.card := by
  induction run with
  | refl world =>
      refine ⟨∅, ?_, ?_⟩
      · intro index
        rw [fresh index]
        exact ⟨fun member => absurd member (Finset.notMem_empty index),
          fun found => absurd rfl found⟩
      · exact Nat.le_refl 0
  | tail run step ih =>
      obtain ⟨started, known, bound⟩ := ih fresh
      obtain ⟨index, botId, phase, calls, moved⟩ := step.moves
      have knownAfter := known.moves calls
      rcases moved with ⟨absent, rfl⟩ | ⟨old, here, next⟩
      · have unknown : index ∉ started := fun member => (known index).mp member absent
        refine ⟨insert index started, knownAfter, ?_⟩
        rw [World.potential_start calls unknown, Finset.card_insert_of_notMem unknown]
        omega
      · have member : index ∈ started := by
          rw [known index, here]
          exact Option.some_ne_none _
        rw [Finset.insert_eq_of_mem member] at knownAfter
        have lower := World.potential_lt calls here next member
        exact ⟨started, knownAfter, by omega⟩

/-- A call that has not ended can take a step, which leaves the other calls where they are. -/
theorem World.progress (world : World) (index : Nat) (botId : UUID) (phase : Phase)
    (here : world.calls index = some ⟨botId, phase⟩) (unfinished : ¬ phase.Ended) :
    ∃ next new, Step hmacSha256 world next ∧
      next.calls = (world.setCall index botId new).calls ∧ Next phase new := by
  cases phase with
  | started =>
      cases found : world.storage.getTokenOrNone botId with
      | none => exact ⟨_, _, .readEmpty world index botId here found, rfl, .miss⟩
      | some token => exact ⟨_, _, .readCached world index botId token here found, rfl, .hit token⟩
  | cacheEmpty =>
      cases built : getTokenRequest hmacSha256 world.storage botId with
      | error exc => exact ⟨_, _, .requestFails world index botId exc here built, rfl,
          .requestFails exc⟩
      | ok request => exact ⟨_, _, .request world index botId request here built, rfl,
          .request request⟩
  | awaiting request =>
      exact ⟨_, _, .answer world index botId request "" here, rfl, .answer request ""⟩
  | received token => exact ⟨_, _, .store world index botId token here, rfl, .store token⟩
  | authorized token => exact ⟨_, _, .send world index botId token here, rfl, .send token⟩
  | finished => exact absurd rfl unfinished
  | failed exc => exact absurd rfl unfinished

/-- No call is added and all have ended. -/
structure Drained (world last : World) : Prop where
  calls : ∀ index, last.calls index = none ↔ world.calls index = none
  ended : ∀ index botId phase, last.calls index = some ⟨botId, phase⟩ → phase.Ended

theorem World.drains (world : World) (started : Finset Nat) (known : world.Started started) :
    ∃ last, Transition.Reaches (Step hmacSha256) world last ∧ Drained world last := by
  have progress (state : World) (same : state.Started started)
      (unfinished : ¬ ∀ index botId phase, state.calls index = some ⟨botId, phase⟩ → phase.Ended) :
      ∃ next, Step hmacSha256 state next ∧ next.Started started ∧
        next.potential started < state.potential started := by
    push Not at unfinished
    obtain ⟨index, botId, phase, here, unfinished⟩ := unfinished
    obtain ⟨next, new, step, calls, moved⟩ := state.progress index botId phase here unfinished
    have member : index ∈ started := by
      rw [same index, here]
      exact Option.some_ne_none _
    have knownAfter := same.moves calls
    rw [Finset.insert_eq_of_mem member] at knownAfter
    exact ⟨next, step, knownAfter, World.potential_lt calls here moved member⟩
  obtain ⟨last, run, atLast, ended⟩ :=
    Transition.reaches_done (fun state => state.potential started) progress world known
  refine ⟨last, run, ?_, ended⟩
  intro index
  rw [← not_iff_not]
  exact (atLast index).symm.trans (known index)

theorem Step.adds {before after : World} (step : Step hmacSha256 before after) :
    (after.sent = before.sent ∨ ∃ index botId token,
        before.calls index = some ⟨botId, .authorized token⟩ ∧
        after.sent = ⟨index, botId, bearer token⟩ :: before.sent) ∧
      (after.fetches = before.fetches ∨ ∃ index botId request,
        before.calls index = some ⟨botId, .cacheEmpty⟩ ∧
        after.calls index = some ⟨botId, .awaiting request⟩ ∧
        after.fetches = ⟨index, request⟩ :: before.fetches) := by
  cases step with
  | send index botId token here => exact ⟨.inr ⟨index, botId, token, here, rfl⟩, .inl rfl⟩
  | request index botId request here =>
      exact ⟨.inl rfl, .inr ⟨index, botId, request, here, World.setCall_self _ _ _ _, rfl⟩⟩
  | _ => exact ⟨.inl rfl, .inl rfl⟩

structure OnceEach (world : World) : Prop where
  sent : (world.sent.map Sent.call).Nodup
  finished : ∀ index botId, world.calls index = some ⟨botId, .finished⟩ ↔
    ∃ authorization, ⟨index, botId, authorization⟩ ∈ world.sent
  fetched : (world.fetches.map Fetch.call).Nodup
  asked : ∀ fetch ∈ world.fetches, ∃ botId phase,
    world.calls fetch.call = some ⟨botId, phase⟩ ∧ phase.remaining < 4

theorem onceEach_of_fresh {world : World} (fresh : ∀ index, world.calls index = none)
    (unsent : world.sent = []) (unfetched : world.fetches = []) : OnceEach world where
  sent := by
    rw [unsent]
    exact List.nodup_nil
  finished := by
    intro index botId
    rw [fresh, unsent]
    constructor
    · intro impossible
      cases impossible
    · intro impossible
      obtain ⟨_, impossible⟩ := impossible
      cases impossible
  fetched := by
    rw [unfetched]
    exact List.nodup_nil
  asked := by
    rw [unfetched]
    intro fetch impossible
    cases impossible

theorem Step.finishes {before after : World} (step : Step hmacSha256 before after) {index : Nat}
    {botId : UUID} (here : after.calls index = some ⟨botId, .finished⟩) :
    before.calls index = some ⟨botId, .finished⟩ ∨
      ∃ token, ⟨index, botId, bearer token⟩ ∈ after.sent := by
  have only (other : Nat) (bot : UUID) (phase : Phase)
      (calls : after.calls = (before.setCall other bot phase).calls)
      (going : phase ≠ .finished) : before.calls index = some ⟨botId, .finished⟩ := by
    rw [calls, World.setCall_calls] at here
    by_cases same : index = other
    · rw [if_pos same] at here
      cases here
      exact absurd rfl going
    · rw [if_neg same] at here
      exact here
  cases step with
  | start other bot => exact .inl (only other bot _ rfl Phase.noConfusion)
  | readEmpty other bot => exact .inl (only other bot _ rfl Phase.noConfusion)
  | readCached other bot => exact .inl (only other bot _ rfl Phase.noConfusion)
  | request other bot => exact .inl (only other bot _ rfl Phase.noConfusion)
  | requestFails other bot => exact .inl (only other bot _ rfl Phase.noConfusion)
  | answer other bot => exact .inl (only other bot _ rfl Phase.noConfusion)
  | answerFails other bot => exact .inl (only other bot _ rfl Phase.noConfusion)
  | store other bot => exact .inl (only other bot _ rfl Phase.noConfusion)
  | send other bot token =>
      have atIndex : (before.setCall other bot .finished).calls index = some ⟨botId, .finished⟩ :=
        here
      rw [World.setCall_calls] at atIndex
      by_cases same : index = other
      · rw [if_pos same] at atIndex
        cases atIndex
        exact .inr ⟨token, same ▸ List.mem_cons_self⟩
      · rw [if_neg same] at atIndex
        exact .inl atIndex

theorem onceEach_stable : Transition.Stable (Step hmacSha256) OnceEach := by
  intro before after step once
  obtain ⟨sends, fetches⟩ := step.adds
  refine ⟨?_, ?_, ?_, ?_⟩
  · rcases sends with same | ⟨index, botId, token, here, added⟩
    · rw [same]
      exact once.sent
    · rw [added, List.map_cons, List.nodup_cons]
      refine ⟨?_, once.sent⟩
      intro member
      obtain ⟨earlier, member, same⟩ := List.mem_map.mp member
      have finished := (once.finished earlier.call earlier.botId).mpr ⟨_, member⟩
      rw [same, here] at finished
      cases finished
  · intro index botId
    constructor
    · intro here
      rcases step.finishes here with earlier | ⟨token, member⟩
      · obtain ⟨authorization, member⟩ := (once.finished index botId).mp earlier
        refine ⟨authorization, ?_⟩
        rcases sends with same | ⟨_, _, _, _, added⟩
        · rw [same]
          exact member
        · rw [added]
          exact List.mem_cons_of_mem _ member
      · exact ⟨_, member⟩
    · intro sent
      obtain ⟨authorization, member⟩ := sent
      rcases step.sent _ member with earlier | ⟨token, _, finished, _⟩
      · exact step.finished_stays index botId ((once.finished index botId).mpr ⟨_, earlier⟩)
      · exact finished
  · rcases fetches with same | ⟨index, botId, request, here, _, added⟩
    · rw [same]
      exact once.fetched
    · rw [added, List.map_cons, List.nodup_cons]
      refine ⟨?_, once.fetched⟩
      intro member
      obtain ⟨earlier, member, same⟩ := List.mem_map.mp member
      obtain ⟨_, _, there, further⟩ := once.asked earlier member
      rw [same, here] at there
      cases there
      exact absurd further (Nat.lt_irrefl 4)
  · intro fetch member
    have asked : fetch ∈ before.fetches → ∃ botId phase,
        after.calls fetch.call = some ⟨botId, phase⟩ ∧ phase.remaining < 4 := by
      intro earlier
      obtain ⟨botId, old, there, further⟩ := once.asked fetch earlier
      obtain ⟨phase, now, moved⟩ := step.call fetch.call botId old there
      refine ⟨botId, phase, now, ?_⟩
      rcases moved with rfl | next
      · exact further
      · exact Nat.lt_trans next.remaining_lt further
    rcases fetches with same | ⟨index, botId, request, _, there, added⟩
    · rw [same] at member
      exact asked member
    · rw [added] at member
      rcases List.mem_cons.mp member with rfl | earlier
      · exact ⟨botId, .awaiting request, there, Nat.lt_succ_self 3⟩
      · exact asked earlier

/-! ### Every run -/

/-- The calls of a run end, each with one request or an exception. -/
structure CallsEnd (hmacSha256 : Hmac) (length : Nat) (world : World) : Prop where
  bounded : ∃ started : Finset Nat, world.Started started ∧ length ≤ 6 * started.card
  progress : ∀ index botId phase, world.calls index = some ⟨botId, phase⟩ → phase.Ended ∨
    ∃ next new, Step hmacSha256 world next ∧
      next.calls = (world.setCall index botId new).calls ∧ Next phase new
  drains : ∃ last, Transition.Reaches (Step hmacSha256) world last ∧ Drained world last
  once : OnceEach world

/-- A call is never stuck and never goes on forever: so many steps are enough for so many
calls, and whatever has happened, all the calls in progress can still end. -/
theorem calls_end (accounts : List BotAccountWithSecret) (length : Nat) (world : World)
    (run : Transition.Run (Step hmacSha256) length (World.initial accounts) world) :
    CallsEnd hmacSha256 length world := by
  obtain ⟨started, known, bound⟩ := run_bounded (fun _ => rfl) run
  refine ⟨⟨started, known, by omega⟩, ?_, world.drains started known, ?_⟩
  · intro index botId phase here
    by_cases ended : phase.Ended
    · exact .inl ended
    · exact .inr (world.progress index botId phase here ended)
  · exact onceEach_stable.reaches run.reaches (onceEach_of_fresh (fun _ => rfl) rfl rfl)

theorem calls_end_demo :
    ∃ world, Transition.Run (Step demoHmac) 6 (World.initial [demoAccount]) world ∧
      world.calls 7 = some ⟨demoAccount.id, .finished⟩ ∧ CallsEnd demoHmac 6 world := by
  let botId := demoAccount.id
  have self (world : World) (phase : Phase) := World.setCall_self world 7 botId phase
  obtain ⟨request, built⟩ : ∃ request,
      getTokenRequest demoHmac (.new [demoAccount] .v1) botId = .ok request := ⟨_, rfl⟩
  let started := (World.initial [demoAccount]).setCall 7 botId .started
  let missed := started.setCall 7 botId .cacheEmpty
  let asked : World :=
    { missed.setCall 7 botId (.awaiting request) with fetches := [⟨7, request⟩] }
  let received : World :=
    { asked.setCall 7 botId (.received "token") with issued := [(request, "token")] }
  let stored : World :=
    { received.setCall 7 botId (.authorized "token") with
      storage := received.storage.setToken botId "token" }
  have run := (.refl (World.initial [demoAccount]) : Transition.Run (Step demoHmac) 0 _ _)
    |>.tail (.start _ 7 botId rfl)
    |>.tail (.readEmpty started 7 botId (self _ _) rfl)
    |>.tail (.request missed 7 botId request (self _ _) built)
    |>.tail (.answer asked 7 botId request "token" (self missed _))
    |>.tail (.store received 7 botId "token" (self asked _))
    |>.tail (.send stored 7 botId "token" (self received _))
  exact ⟨_, run, self stored _, calls_end [demoAccount] 6 _ run⟩

/-! ### The last answer wins -/

/-- A call in this phase can still write another token for the bot. -/
def Phase.Overwrites (hmacSha256 : Hmac) (world : World) (botId : UUID) (token : String) :
    Phase → Prop
  | .cacheEmpty => ∃ request, getTokenRequest hmacSha256 world.storage botId = .ok request
  | .awaiting _ => True
  | .received other => other ≠ token
  | _ => False

/-- The token of the bot is cached, and no call can overwrite it. -/
structure Kept (hmacSha256 : Hmac) (botId : UUID) (token : String) (world : World) : Prop where
  cached : world.cached botId = some token
  calls : ∀ index phase, world.calls index = some ⟨botId, phase⟩ →
    ¬ phase.Overwrites hmacSha256 world botId token

theorem Phase.Overwrites.of_step {before after : World} (step : Step hmacSha256 before after)
    {botId : UUID} {token : String} {phase : Phase}
    (overwrites : phase.Overwrites hmacSha256 after botId token) :
    phase.Overwrites hmacSha256 before botId token := by
  cases phase with
  | cacheEmpty =>
      obtain ⟨request, built⟩ := overwrites
      exact ⟨request, (step.getTokenRequest botId).symm.trans built⟩
  | awaiting request => trivial
  | received other => exact overwrites
  | started => exact overwrites
  | authorized other => exact overwrites
  | finished => exact overwrites
  | failed exc => exact overwrites

theorem World.setCall_moved {world : World} {index other : Nat} {botId bot : UUID}
    {old new phase : Phase} (here : world.calls index = some ⟨botId, old⟩)
    (there : (world.setCall other bot phase).calls index = some ⟨botId, new⟩)
    (moved : old ≠ new) : bot = botId ∧ phase = new := by
  rw [World.setCall_calls] at there
  by_cases same : index = other
  · rw [if_pos same] at there
    cases there
    exact ⟨rfl, rfl⟩
  · rw [if_neg same, here] at there
    cases there
    exact absurd rfl moved

theorem Step.asks {before after : World} (step : Step hmacSha256 before after) {index : Nat}
    {botId : UUID} {request : GetTokenRequest}
    (here : before.calls index = some ⟨botId, .cacheEmpty⟩)
    (there : after.calls index = some ⟨botId, .awaiting request⟩) :
    Pybotx.getTokenRequest hmacSha256 before.storage botId = .ok request := by
  have moved (other : Nat) (bot : UUID) (phase : Phase)
      (calls : (before.setCall other bot phase).calls index = some ⟨botId, .awaiting request⟩) :=
    World.setCall_moved here calls Phase.noConfusion
  cases step with
  | request other bot asked _ built =>
      obtain ⟨rfl, same⟩ := moved other bot _ there
      cases same
      exact built
  | start other bot => cases (moved other bot _ there).2
  | readEmpty other bot => cases (moved other bot _ there).2
  | readCached other bot => cases (moved other bot _ there).2
  | requestFails other bot => cases (moved other bot _ there).2
  | answer other bot => cases (moved other bot _ there).2
  | answerFails other bot => cases (moved other bot _ there).2
  | store other bot => cases (moved other bot _ there).2
  | send other bot => cases (moved other bot _ there).2

theorem Step.hits {before after : World} (step : Step hmacSha256 before after) {index : Nat}
    {botId : UUID} {token : String} (here : before.calls index = some ⟨botId, .started⟩)
    (there : after.calls index = some ⟨botId, .authorized token⟩) :
    before.cached botId = some token := by
  have moved (other : Nat) (bot : UUID) (phase : Phase)
      (calls : (before.setCall other bot phase).calls index = some ⟨botId, .authorized token⟩) :=
    World.setCall_moved here calls Phase.noConfusion
  cases step with
  | readCached other bot found _ present =>
      obtain ⟨rfl, same⟩ := moved other bot _ there
      cases same
      exact present
  | store other bot found stored =>
      have there : (before.setCall other bot (.authorized found)).calls index =
          some ⟨botId, .authorized token⟩ := there
      rw [World.setCall_calls] at there
      by_cases same : index = other
      · rw [same, stored] at here
        cases here
      · rw [if_neg same, here] at there
        cases there
  | start other bot => cases (moved other bot _ there).2
  | readEmpty other bot => cases (moved other bot _ there).2
  | request other bot => cases (moved other bot _ there).2
  | requestFails other bot => cases (moved other bot _ there).2
  | answer other bot => cases (moved other bot _ there).2
  | answerFails other bot => cases (moved other bot _ there).2
  | send other bot => cases (moved other bot _ there).2

theorem Step.overwrites {before after : World} (step : Step hmacSha256 before after) {index : Nat}
    {botId : UUID} {token : String} {phase : Phase}
    (cached : before.cached botId = some token)
    (here : after.calls index = some ⟨botId, phase⟩)
    (overwrites : phase.Overwrites hmacSha256 after botId token) :
    ∃ old, before.calls index = some ⟨botId, old⟩ ∧
      old.Overwrites hmacSha256 before botId token := by
  have earlier := overwrites.of_step step
  rcases step.call_before index botId phase here with ⟨_, rfl⟩ | ⟨old, there, rfl | next⟩
  · exact absurd overwrites id
  · exact ⟨phase, there, earlier⟩
  · refine ⟨old, there, ?_⟩
    cases next with
    | miss =>
        have present : (before.cached botId).isSome = true := by
          rw [cached]
          rfl
        exact absurd here (step.not_empty index botId present there)
    | hit other => exact absurd overwrites id
    | request request => exact ⟨request, step.asks there here⟩
    | requestFails exc => exact absurd overwrites id
    | answer request other => trivial
    | answerFails request exc => exact absurd overwrites id
    | store other => exact absurd overwrites id
    | send other => exact absurd overwrites id

theorem kept_stable (botId : UUID) (token : String) :
    Transition.Stable (Step hmacSha256) (Kept hmacSha256 botId token) := by
  intro before after step kept
  refine ⟨?_, ?_⟩
  · rcases step.cached botId with unchanged | ⟨index, other, here, written⟩
    · rw [unchanged]
      exact kept.cached
    · have same : other = token := by
        by_contra different
        exact kept.calls index (.received other) here different
      rw [written, same]
  · intro index phase here overwrites
    obtain ⟨old, there, earlier⟩ := step.overwrites kept.cached here overwrites
    exact kept.calls index old there earlier

theorem Phase.Overwrites.run {world : World} {index : Nat} {botId : UUID} {token : String}
    {phase : Phase} (here : world.calls index = some ⟨botId, phase⟩)
    (overwrites : phase.Overwrites hmacSha256 world botId token) :
    ∃ later other, Transition.Reaches (Step hmacSha256) world later ∧ other ≠ token ∧
      later.cached botId = some other := by
  have stores (state : World) (other : String)
      (received : state.calls index = some ⟨botId, .received other⟩) :
      ∃ later, Transition.Reaches (Step hmacSha256) state later ∧
        later.cached botId = some other :=
    ⟨_, .single (.store state index botId other received), by simp [World.cached]⟩
  obtain ⟨other, different⟩ := exists_ne token
  have answers (state : World) (request : GetTokenRequest)
      (awaiting : state.calls index = some ⟨botId, .awaiting request⟩) :
      ∃ later, Transition.Reaches (Step hmacSha256) state later ∧
        later.cached botId = some other := by
    obtain ⟨answered, answer, received⟩ : ∃ answered, Step hmacSha256 state answered ∧
        answered.calls index = some ⟨botId, .received other⟩ :=
      ⟨_, .answer state index botId request other awaiting, World.setCall_self _ _ _ _⟩
    obtain ⟨later, run, cached⟩ := stores answered other received
    exact ⟨later, .head answer run, cached⟩
  cases phase with
  | cacheEmpty =>
      obtain ⟨request, built⟩ := overwrites
      obtain ⟨asked, asks, awaiting⟩ : ∃ asked, Step hmacSha256 world asked ∧
          asked.calls index = some ⟨botId, .awaiting request⟩ :=
        ⟨_, .request world index botId request here built, World.setCall_self _ _ _ _⟩
      obtain ⟨later, run, cached⟩ := answers asked request awaiting
      exact ⟨later, other, .head asks run, different, cached⟩
  | awaiting request =>
      obtain ⟨later, run, cached⟩ := answers world request here
      exact ⟨later, other, run, different, cached⟩
  | received written =>
      obtain ⟨later, run, cached⟩ := stores world written here
      exact ⟨later, written, run, overwrites, cached⟩
  | started => exact absurd overwrites id
  | authorized written => exact absurd overwrites id
  | finished => exact absurd overwrites id
  | failed exc => exact absurd overwrites id

/-- The cached token stays for good exactly if no call can overwrite it. -/
theorem kept_iff (botId : UUID) (token : String) (world : World) :
    (∀ later, Transition.Reaches (Step hmacSha256) world later →
      later.cached botId = some token) ↔ Kept hmacSha256 botId token world := by
  constructor
  · intro always
    refine ⟨always world .refl, ?_⟩
    intro index phase here overwrites
    obtain ⟨later, other, run, different, cached⟩ := overwrites.run here
    rw [always later run] at cached
    cases cached
    exact different rfl
  · intro kept later run
    exact ((kept_stable botId token).reaches run kept).cached

/-- What is left to send for the bot carries the token. -/
structure Carries (hmacSha256 : Hmac) (botId : UUID) (token : String) (first world : World) :
    Prop where
  kept : Kept hmacSha256 botId token world
  authorized : ∀ index other, world.calls index = some ⟨botId, .authorized other⟩ → other = token
  sent : ∀ sent ∈ world.sent, sent.botId = botId →
    sent ∈ first.sent ∨ sent.authorization = bearer token
  fetches : ∀ fetch ∈ world.fetches, fetch ∈ first.fetches ∨
    ∃ other phase, world.calls fetch.call = some ⟨other, phase⟩ ∧ other ≠ botId

theorem carries_stable (botId : UUID) (token : String) (first : World) :
    Transition.Stable (Step hmacSha256) (Carries hmacSha256 botId token first) := by
  intro before after step carries
  refine ⟨kept_stable botId token before after step carries.kept, ?_, ?_, ?_⟩
  · intro index other here
    rcases step.call_before index botId _ here with ⟨_, impossible⟩ | ⟨old, there, rfl | next⟩
    · cases impossible
    · exact carries.authorized index other there
    · cases next with
      | hit =>
          have cached := carries.kept.cached
          rw [step.hits there here] at cached
          exact Option.some.inj cached
      | store =>
          by_contra different
          exact carries.kept.calls index (.received other) there different
  · intro sent member same
    rcases step.sent sent member with earlier | ⟨other, here, _, authorization⟩
    · exact carries.sent sent earlier same
    · right
      rw [same] at here
      rw [authorization, carries.authorized sent.call other here]
  · intro fetch member
    have stays : fetch ∈ before.fetches → fetch ∈ first.fetches ∨
        ∃ other phase, after.calls fetch.call = some ⟨other, phase⟩ ∧ other ≠ botId := by
      intro earlier
      rcases carries.fetches fetch earlier with old | ⟨other, phase, here, different⟩
      · exact .inl old
      · obtain ⟨now, there, _⟩ := step.call fetch.call other phase here
        exact .inr ⟨other, now, there, different⟩
    rcases step.adds.2 with same | ⟨index, other, request, here, there, added⟩
    · rw [same] at member
      exact stays member
    · rw [added] at member
      rcases List.mem_cons.mp member with rfl | earlier
      · refine .inr ⟨other, .awaiting request, there, ?_⟩
        intro same
        subst same
        exact carries.kept.calls index .cacheEmpty here ⟨request, step.asks here there⟩
      · exact stays earlier

/-- Once no call can overwrite its token, a bot goes on with it for good, whatever the server
makes of it: no call of the bot asks for another one, and all that is still sent carries it. -/
structure TokenSettles (hmacSha256 : Hmac) (botId : UUID) (token : String) (world : World) :
    Prop where
  kept : (∀ later, Transition.Reaches (Step hmacSha256) world later →
    later.cached botId = some token) ↔ Kept hmacSha256 botId token world
  carried : Kept hmacSha256 botId token world →
    (∀ index other, world.calls index = some ⟨botId, .authorized other⟩ → other = token) →
    ∀ later, Transition.Reaches (Step hmacSha256) world later →
      (∀ sent ∈ later.sent, sent.botId = botId →
        sent ∈ world.sent ∨ sent.authorization = bearer token) ∧
      ∀ fetch ∈ later.fetches, fetch ∈ world.fetches ∨
        ∀ phase, later.calls fetch.call ≠ some ⟨botId, phase⟩

theorem token_settles (botId : UUID) (token : String) (world : World) :
    TokenSettles hmacSha256 botId token world := by
  refine ⟨kept_iff botId token world, ?_⟩
  intro kept authorized later run
  have start : Carries hmacSha256 botId token world world :=
    ⟨kept, authorized, fun sent member _ => .inl member, fun fetch member => .inl member⟩
  have carries := (carries_stable botId token world).reaches run start
  refine ⟨carries.sent, ?_⟩
  intro fetch member
  rcases carries.fetches fetch member with earlier | ⟨other, phase, here, different⟩
  · exact .inl earlier
  · right
    intro now there
    rw [here] at there
    cases there
    exact different rfl

end Pybotx
