/-
The payload of `send_smartapp_manifest`, and which parameters reach the server.
-/

import Pybotx.Client.Requests
import Pybotx.Client.SmartappsApi
import Pybotx.Models.ApiBase

set_option autoImplicit false

namespace Pybotx

open PyValue

structure SmartappManifestArgs where
  ios : Missing SmartappManifestIosParams
  android : Missing SmartappManifestAndroidParams
  webLayout : Missing SmartappManifestWebParams
  unreadCounter : Missing SmartappManifestUnreadCounterParams
  storeOnClose : Missing Bool
  preloadInBackground : Missing Bool
  linkRegex : Missing (Option String)

def SmartappManifestMobileParams.modelDump (params : SmartappManifestMobileParams) : PyValue :=
  .dict [("fullscreen_layout", .bool params.fullscreenLayout)]

def SmartappManifestWebParams.modelDump (params : SmartappManifestWebParams) : PyValue :=
  .dict [("default_layout", .str params.defaultLayout.value),
    ("expanded_layout", .str params.expandedLayout.value),
    ("allowed_layouts", params.allowedLayouts.elim .null fun layouts =>
      .list (layouts.map fun layout => .str layout.value)),
    ("always_pinned", .bool params.alwaysPinned)]

def SmartappManifestUnreadCounterParams.modelDump
    (params : SmartappManifestUnreadCounterParams) : PyValue :=
  .dict [("user_huid", .list (params.userHuid.map fun huid => .str huid.str)),
    ("group_chat_id", .list (params.groupChatId.map fun id => .str id.str)),
    ("app_id", .list (params.appId.map .str))]

structure SmartappManifestPayload where
  ios : Missing SmartappManifestIosParams
  android : Missing SmartappManifestAndroidParams
  web : Missing SmartappManifestWebParams
  aurora : Missing SmartappManifestMobileParams
  unreadCounterLink : Missing SmartappManifestUnreadCounterParams
  storeOnClose : Missing Bool
  preloadInBackground : Missing Bool
  linkRegex : Missing (Option String)

def SmartappManifestPayload.dumpedFields (payload : SmartappManifestPayload) :
    List (String × PyValue) :=
  [("ios", payload.ios.toPyValue SmartappManifestMobileParams.modelDump),
    ("android", payload.android.toPyValue SmartappManifestMobileParams.modelDump),
    ("web", payload.web.toPyValue SmartappManifestWebParams.modelDump),
    ("aurora", payload.aurora.toPyValue SmartappManifestMobileParams.modelDump),
    ("unread_counter_link",
      payload.unreadCounterLink.toPyValue SmartappManifestUnreadCounterParams.modelDump),
    ("store_on_close", payload.storeOnClose.toPyValue .bool),
    ("preload_in_background", payload.preloadInBackground.toPyValue .bool),
    ("link_regex", payload.linkRegex.toPyValue fun regex => regex.elim .null .str)]

def SmartappManifestPayload.modelDump (payload : SmartappManifestPayload) : PyValue :=
  .dict payload.dumpedFields

/-- Without validation the manifest may also be the empty dictionary it was given. -/
structure BotXAPISmartAppManifestRequestPayload where
  manifest : Option SmartappManifestPayload

namespace BotXAPISmartAppManifestRequestPayload

def modelDump (payload : BotXAPISmartAppManifestRequestPayload) : PyValue :=
  .dict [("manifest", payload.manifest.elim (.dict []) SmartappManifestPayload.modelDump)]

def jsonableDict (payload : BotXAPISmartAppManifestRequestPayload) : Option Json :=
  PyValue.jsonableDict payload.modelDump

def fromDomain (args : SmartappManifestArgs) : BotXAPISmartAppManifestRequestPayload :=
  match args.webLayout, args.unreadCounter with
  | .undefined, .undefined => { manifest := none }
  | _, _ =>
      { manifest := some {
          ios := args.ios
          android := args.android
          web := args.webLayout
          aurora := .undefined
          unreadCounterLink := args.unreadCounter
          storeOnClose := args.storeOnClose
          preloadInBackground := args.preloadInBackground
          linkRegex := args.linkRegex } }

end BotXAPISmartAppManifestRequestPayload

def smartAppManifestRequest (env : Environment) (args : SmartappManifestArgs)
    (session : Session) : Option OutgoingRequest := do
  let json ← (BotXAPISmartAppManifestRequestPayload.fromDomain args).jsonableDict
  (smartAppManifestMethod env.python).sends env ⟨[], .json json⟩ session

/-! ### What should be sent -/

def SmartappManifestMobileParams.json (params : SmartappManifestMobileParams) : Json :=
  .obj [("fullscreen_layout", .bool params.fullscreenLayout)]

def SmartappManifestWebParams.json (params : SmartappManifestWebParams) : Json :=
  .obj [("default_layout", .str params.defaultLayout.value),
    ("expanded_layout", .str params.expandedLayout.value),
    ("allowed_layouts", params.allowedLayouts.elim .null fun layouts =>
      .arr (layouts.map fun layout => .str layout.value)),
    ("always_pinned", .bool params.alwaysPinned)]

def SmartappManifestUnreadCounterParams.json (params : SmartappManifestUnreadCounterParams) :
    Json :=
  .obj [("user_huid", .arr (params.userHuid.map fun huid => .str huid.str)),
    ("group_chat_id", .arr (params.groupChatId.map fun id => .str id.str)),
    ("app_id", .arr (params.appId.map .str))]

/-- The name of each parameter in the manifest, and its value if it is not `Undefined`. -/
def SmartappManifestArgs.fields (args : SmartappManifestArgs) : List (String × Option Json) :=
  [("ios", args.ios.toOption.map SmartappManifestMobileParams.json),
    ("android", args.android.toOption.map SmartappManifestMobileParams.json),
    ("web", args.webLayout.toOption.map SmartappManifestWebParams.json),
    ("unread_counter_link",
      args.unreadCounter.toOption.map SmartappManifestUnreadCounterParams.json),
    ("store_on_close", args.storeOnClose.toOption.map .bool),
    ("preload_in_background", args.preloadInBackground.toOption.map .bool),
    ("link_regex", args.linkRegex.toOption.map fun regex => regex.elim .null .str)]

def CarriesAll (args : SmartappManifestArgs) (content : Content) : Prop :=
  ∃ manifest, content = .json (.obj [("manifest", .obj manifest)]) ∧
    ∀ field ∈ args.fields, Dict.get field.1 manifest = field.2

theorem SmartappManifestMobileParams.prune_modelDump (params : SmartappManifestMobileParams) :
    prune params.modelDump = some params.json := by
  simp [modelDump, json, prune_dict, pruneFields]

/-- Lists and `None` stay, whatever is in them. -/
theorem SmartappManifestWebParams.prune_modelDump (params : SmartappManifestWebParams) :
    prune params.modelDump = some params.json := by
  have layouts (list : List SmartappManifestWebLayoutChoices) :
      prune (.list (list.map fun layout => .str layout.value)) =
        some (.arr (list.map fun layout => .str layout.value)) :=
    prune_list_of_kept list _ _ fun _ _ => rfl
  cases allowed : params.allowedLayouts with
  | none => simp [modelDump, json, prune_dict, pruneFields, allowed]
  | some list => simp [modelDump, json, prune_dict, pruneFields, allowed, layouts]

theorem SmartappManifestUnreadCounterParams.prune_modelDump
    (params : SmartappManifestUnreadCounterParams) :
    prune params.modelDump = some params.json := by
  have ids (list : List UUID) : prune (.list (list.map fun id => .str id.str)) =
      some (.arr (list.map fun id => .str id.str)) :=
    prune_list_of_kept list _ _ fun _ _ => rfl
  have texts (list : List String) : prune (.list (list.map .str)) = some (.arr (list.map .str)) :=
    prune_list_of_kept list _ _ fun _ _ => rfl
  simp [modelDump, json, prune_dict, pruneFields, ids, texts]

private theorem prune_parameter {α : Type} (encode : α → PyValue) (json : α → Json)
    (same : ∀ x, prune (encode x) = some (json x)) (parameter : Missing α) :
    prune (parameter.toPyValue encode) = parameter.toOption.map json := by
  cases parameter with
  | undefined => rfl
  | value x => exact same x

theorem Missing.toOption_eq_none_iff {α : Type} (parameter : Missing α) :
    parameter.toOption = none ↔ parameter = .undefined := by
  cases parameter <;> simp [toOption]

/-- The branch that sends an empty manifest. -/
def SmartappManifestArgs.Emptied (args : SmartappManifestArgs) : Prop :=
  args.webLayout = .undefined ∧ args.unreadCounter = .undefined

def SmartappManifestArgs.payload (args : SmartappManifestArgs) : SmartappManifestPayload :=
  ⟨args.ios, args.android, args.webLayout, .undefined, args.unreadCounter, args.storeOnClose,
    args.preloadInBackground, args.linkRegex⟩

theorem SmartappManifestArgs.get_pruned (args : SmartappManifestArgs) :
    ∀ field ∈ args.fields,
      Dict.get field.1 (pruneFields args.payload.dumpedFields) = field.2 := by
  have distinct : (args.payload.dumpedFields.map Prod.fst).Nodup := by
    simp [SmartappManifestPayload.dumpedFields]
  intro field member
  rw [get_pruneFields _ distinct]
  simp only [fields, List.mem_cons, List.not_mem_nil, or_false] at member
  rcases member with rfl | rfl | rfl | rfl | rfl | rfl | rfl
  · exact prune_parameter _ _ SmartappManifestMobileParams.prune_modelDump _
  · exact prune_parameter _ _ SmartappManifestMobileParams.prune_modelDump _
  · exact prune_parameter _ _ SmartappManifestWebParams.prune_modelDump _
  · exact prune_parameter _ _ SmartappManifestUnreadCounterParams.prune_modelDump _
  · exact prune_parameter _ _ (fun _ => rfl) _
  · exact prune_parameter _ _ (fun _ => rfl) _
  · refine prune_parameter _ _ (fun regex => ?_) _
    cases regex <;> rfl

theorem SmartappManifestArgs.pruned_ne_nil {args : SmartappManifestArgs}
    (filled : ¬ args.Emptied) : pruneFields args.payload.dumpedFields ≠ [] := by
  intro empty
  have gets := args.get_pruned
  rw [empty] at gets
  simp only [fields, List.forall_mem_cons, Dict.get_nil] at gets
  obtain ⟨_, _, web, counter, _⟩ := gets
  apply filled
  constructor
  · exact (Missing.toOption_eq_none_iff _).mp (Option.map_eq_none_iff.mp web.symm)
  · exact (Missing.toOption_eq_none_iff _).mp (Option.map_eq_none_iff.mp counter.symm)

namespace BotXAPISmartAppManifestRequestPayload

theorem jsonable_of_emptied {args : SmartappManifestArgs} (emptied : args.Emptied) :
    (fromDomain args).jsonableDict = some (.obj [("manifest", .obj [])]) := by
  obtain ⟨web, counter⟩ := emptied
  rw [fromDomain, web, counter]
  rfl

theorem jsonable_of_filled {args : SmartappManifestArgs} (filled : ¬ args.Emptied) :
    (fromDomain args).jsonableDict =
      some (.obj [("manifest", .obj (pruneFields args.payload.dumpedFields))]) := by
  have whole : fromDomain args = { manifest := some args.payload } := by
    unfold fromDomain
    split
    · rename_i web counter
      exact absurd ⟨web, counter⟩ filled
    · rfl
  have manifest : prune args.payload.modelDump =
      some (.obj (pruneFields args.payload.dumpedFields)) := by
    rw [SmartappManifestPayload.modelDump, prune_dict, if_neg]
    intro lost
    exact args.pruned_ne_nil filled lost.1
  rw [whole, jsonableDict, modelDump, jsonableDict_dict, pruneFields, Option.elim_some,
    List.filterMap_cons, manifest]
  rfl

end BotXAPISmartAppManifestRequestPayload

theorem smartAppManifestRequest_content {env : Environment} {args : SmartappManifestArgs}
    {session : Session} {outgoing : OutgoingRequest} {json : Json}
    (encoded : (BotXAPISmartAppManifestRequestPayload.fromDomain args).jsonableDict = some json)
    (sent : smartAppManifestRequest env args session = some outgoing) :
    outgoing.content = .json json := by
  rw [smartAppManifestRequest, encoded] at sent
  exact BotXMethod.content_of_sent sent

/-- Every parameter reaches the server exactly if one of the two that are looked at is
given, or none at all is. -/
theorem smartAppManifest_carriesAll_iff (args : SmartappManifestArgs) :
    (∀ env session outgoing, smartAppManifestRequest env args session = some outgoing →
        CarriesAll args outgoing.content) ↔
      args.webLayout ≠ .undefined ∨ args.unreadCounter ≠ .undefined ∨
        (args.ios = .undefined ∧ args.android = .undefined ∧ args.storeOnClose = .undefined ∧
          args.preloadInBackground = .undefined ∧ args.linkRegex = .undefined) := by
  by_cases emptied : args.Emptied
  · have encoded := BotXAPISmartAppManifestRequestPayload.jsonable_of_emptied emptied
    obtain ⟨web, counter⟩ := emptied
    have carries (content : Content) (given : content = .json (.obj [("manifest", .obj [])])) :
        CarriesAll args content ↔ args.ios = .undefined ∧ args.android = .undefined ∧
          args.storeOnClose = .undefined ∧ args.preloadInBackground = .undefined ∧
            args.linkRegex = .undefined := by
      simp only [CarriesAll, given, SmartappManifestArgs.fields, List.forall_mem_cons]
      simp [web, counter, Missing.toOption_eq_none_iff, @eq_comm _ none]
    simp only [web, counter, ne_eq, not_true_eq_false, false_or]
    constructor
    · intro always
      obtain ⟨outgoing, sent⟩ : ∃ outgoing, smartAppManifestRequest
          (demoEnvironment (.failed "")) args demoSession = some outgoing := by
        rw [smartAppManifestRequest, encoded, smartAppManifestMethod]
        exact BotXMethod.demo_sends _ _ _ _ (.failed "") ⟨[], .json _⟩
      have content := smartAppManifestRequest_content encoded sent
      exact (carries _ content).mp (always _ _ _ sent)
    · intro nothing env session outgoing sent
      exact (carries _ (smartAppManifestRequest_content encoded sent)).mpr nothing
  · have encoded := BotXAPISmartAppManifestRequestPayload.jsonable_of_filled emptied
    constructor
    · intro _
      rcases not_and_or.mp emptied with web | counter
      · exact Or.inl web
      · exact Or.inr (Or.inl counter)
    · intro _ env session outgoing sent
      exact ⟨_, smartAppManifestRequest_content encoded sent, args.get_pruned⟩

def iosAlone : SmartappManifestArgs :=
  ⟨.value ⟨true⟩, .undefined, .undefined, .undefined, .undefined, .undefined, .undefined⟩

/-- A layout for iOS alone is sent as an empty manifest. -/
theorem iosAlone_dropped :
    ∃ env session outgoing, smartAppManifestRequest env iosAlone session = some outgoing ∧
      outgoing.content = .json (.obj [("manifest", .obj [])]) ∧
      ¬ CarriesAll iosAlone outgoing.content := by
  refine ⟨demoEnvironment (.failed ""), demoSession, _, rfl, rfl, ?_⟩
  intro carries
  obtain ⟨manifest, same, each⟩ := carries
  cases same
  have missing := each ("ios", some (.obj [("fullscreen_layout", .bool true)])) List.mem_cons_self
  cases missing

end Pybotx
