/-
The methods of the SmartApps API.
-/

import Pybotx.Client.NotificationsApi
import Pybotx.Models.Enums

set_option autoImplicit false

namespace Pybotx

open Validator

section

variable (python : Interpreter)

/-- The parameters of one mobile platform. -/
structure SmartappManifestMobileParams where
  fullscreenLayout : Bool

abbrev SmartappManifestIosParams := SmartappManifestMobileParams

abbrev SmartappManifestAndroidParams := SmartappManifestMobileParams

structure SmartappManifestWebParams where
  defaultLayout : SmartappManifestWebLayoutChoices
  expandedLayout : SmartappManifestWebLayoutChoices
  allowedLayouts : Option (List SmartappManifestWebLayoutChoices)
  alwaysPinned : Bool

structure SmartappManifestUnreadCounterParams where
  userHuid : List UUID
  groupChatId : List UUID
  appId : List String

structure SmartappManifest where
  ios : SmartappManifestIosParams
  android : SmartappManifestAndroidParams
  web : SmartappManifestWebParams
  unreadCounterLink : SmartappManifestUnreadCounterParams
  storeOnClose : Bool
  preloadInBackground : Bool
  linkRegex : Option String

def SmartappManifestMobileParams.check {ε : Type} : Validator ε SmartappManifestMobileParams :=
  model fun entries => SmartappManifestMobileParams.mk <$>
    defaulted "fullscreen_layout" false python.checkBool entries

def checkLayout {ε : Type} : Validator ε SmartappManifestWebLayoutChoices :=
  member SmartappManifestWebLayoutChoices.members SmartappManifestWebLayoutChoices.value

def SmartappManifestWebParams.check {ε : Type} : Validator ε SmartappManifestWebParams :=
  model fun entries => SmartappManifestWebParams.mk <$>
    defaulted "default_layout" .minimal checkLayout entries <*>
    defaulted "expanded_layout" .half checkLayout entries <*>
    defaulted "allowed_layouts" none (optional (list checkLayout)) entries <*>
    defaulted "always_pinned" false python.checkBool entries

def SmartappManifestUnreadCounterParams.check {ε : Type} :
    Validator ε SmartappManifestUnreadCounterParams :=
  model fun entries => SmartappManifestUnreadCounterParams.mk <$>
    defaulted "user_huid" [] (list python.checkUuid) entries <*>
    defaulted "group_chat_id" [] (list python.checkUuid) entries <*>
    defaulted "app_id" [] (list str) entries

def SmartappManifest.check {ε : Type} : Validator ε SmartappManifest :=
  model fun entries => SmartappManifest.mk <$>
    required "ios" (SmartappManifestMobileParams.check python) entries <*>
    required "android" (SmartappManifestMobileParams.check python) entries <*>
    required "web" (SmartappManifestWebParams.check python) entries <*>
    required "unread_counter_link" (SmartappManifestUnreadCounterParams.check python) entries <*>
    defaulted "store_on_close" false python.checkBool entries <*>
    defaulted "preload_in_background" false python.checkBool entries <*>
    defaulted "link_regex" none (optional str) entries

structure BotXAPISmartAppEntity where
  appId : String
  enabled : Bool
  id : UUID
  name : String
  avatar : Option String
  avatarPreview : Option String

structure BotXAPISmartAppsListResult where
  phonebookVersion : Int
  smartapps : List BotXAPISmartAppEntity

structure BotXAPIUploadFileResult where
  link : String

def BotXAPISmartAppEntity.check {ε : Type} : Validator ε BotXAPISmartAppEntity :=
  model fun entries => BotXAPISmartAppEntity.mk <$>
    required "app_id" str entries <*>
    required "enabled" python.checkBool entries <*>
    required "id" python.checkUuid entries <*>
    required "name" str entries <*>
    defaulted "avatar" none (optional str) entries <*>
    defaulted "avatar_preview" none (optional str) entries

def BotXAPISmartAppsListResult.check {ε : Type} : Validator ε BotXAPISmartAppsListResult :=
  model fun entries => BotXAPISmartAppsListResult.mk <$>
    required "phonebook_version" python.checkInt entries <*>
    required "smartapps" (list (BotXAPISmartAppEntity.check python)) entries

def BotXAPIUploadFileResult.check {ε : Type} : Validator ε BotXAPIUploadFileResult :=
  model fun entries => BotXAPIUploadFileResult.mk <$> required "link" str entries

def smartAppCustomNotificationMethod : BotXMethod :=
  authorizedMethod "POST" "/api/v4/botx/smartapps/notification" authorizedStatusHandlers
    (.returning (okPayload (BotXAPISyncIdResult.check python)))

def smartAppEventMethod : BotXMethod :=
  authorizedMethod "POST" "/api/v3/botx/smartapps/event" authorizedStatusHandlers
    (.returningNone okStatus)

def smartAppManifestMethod : BotXMethod :=
  authorizedMethod "POST" "/api/v1/botx/smartapps/manifest" authorizedStatusHandlers
    (.returning (okPayload (SmartappManifest.check python)))

def smartAppNotificationMethod : BotXMethod :=
  authorizedMethod "POST" "/api/v3/botx/smartapps/notification" authorizedStatusHandlers
    (.returningNone okStatus)

def smartAppUnreadCounterMethod : BotXMethod :=
  authorizedMethod "POST" "/api/v4/botx/smartapps/unread_counter" authorizedStatusHandlers
    (.returning (okPayload (BotXAPISyncIdResult.check python)))

def smartAppsListMethod : BotXMethod :=
  authorizedMethod "GET" "/api/v3/botx/smartapps/list" authorizedStatusHandlers
    (.returning (okPayload (BotXAPISmartAppsListResult.check python)))

/-- `UploadFileMethod` of the SmartApps API. -/
def smartAppUploadFileMethod : BotXMethod :=
  authorizedMethod "POST" "/api/v3/botx/smartapps/upload_file"
    (authorizedStatusHandlers.set 400 (responseExceptionThrower .fileTypeNotAllowed none))
    (.returning (okPayload BotXAPIUploadFileResult.check))

end

end Pybotx
