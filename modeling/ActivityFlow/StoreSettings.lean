import ActivityFlow.Payload
import ActivityFlow.Text.Blank

/-!
# Settings of the content store

A run needs a credential and two addresses from its payload. They are looked at in a fixed
order and the first one that is missing or blank is reported.
-/
namespace ActivityFlow

/-- Where the content store is and the credential for it. -/
structure StoreSettings where
  serverUrl : String
  storeUrl : String
  apiKey : String
deriving DecidableEq, Inhabited

/-- The report of a part of the payload that is missing. -/
def missingSetting (name : String) : Diagnosis :=
  (Diagnosis.of .activityParamNotFound
    ("missing required parameter '" ++ name ++ "' in execution context")).withDetail
      "param" (.text name)

/-- A part of the payload that has to be there, without the white space around it. -/
def requireSetting (value : Option String) (name : String) : Except Diagnosis String :=
  let trimmed := Text.trim (value.getD "")
  if trimmed.isEmpty then .error (missingSetting name) else .ok trimmed

namespace Payload

/-- The settings for the content store: credential, server and store, in this order. -/
def storeSettings (p : Payload) : Except Diagnosis StoreSettings := do
  let apiKey ← requireSetting p.authToken "auth_token"
  let serverUrl ← requireSetting p.config.studioUrl "config.studio_url"
  let storeUrl ← requireSetting p.config.storeUrl "config.store_url"
  return { serverUrl, storeUrl, apiKey }

/-- Whether a run could reach the content store. -/
def validate (p : Payload) : Except Diagnosis Unit := p.storeSettings.map fun _ => ()

end Payload

def StoreSettings.describe (s : StoreSettings) : String :=
  recordListing "ClientSettings" [
    ("server_url", Text.quoted s.serverUrl),
    ("store_url", Text.quoted s.storeUrl),
    ("api_key", redacted)]

end ActivityFlow
