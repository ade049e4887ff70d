/-
Module: ServerDriven.Config
Purpose: How a client is set up by named settings.
Main exports:
  Config, ConfigError, Config.load, Config.storagePathIn
-/
import ServerDriven.Retry.Policy
import ServerDriven.Text.Blank
import ServerDriven.Url.Parser

namespace ServerDriven

/-- Where the server and the screens are, and how patient the client is. -/
structure Config where
  baseUrl : String
  screensUrl : String
  /-- Where sessions are kept, unless in the place that is customary on the machine. -/
  storagePath : Option String
  connectTimeout : Duration
  requestTimeout : Duration
  retry : RetryPolicy
deriving Repr, Inhabited

/-- What is wrong with a text that should be the URL of a server. -/
inductive ServerUrlError where
  | notUrl (raw : String) (cause : UrlError)
  | unsupportedScheme (scheme : String)
deriving Repr, DecidableEq, Inhabited

/-- A setting that cannot be used. -/
structure ConfigError where
  setting : String
  cause : ServerUrlError
deriving Repr, DecidableEq, Inhabited

namespace ServerUrlError

/-- The causes of an error, each after what it caused. -/
def causes : ServerUrlError → List String
  | .notUrl raw cause => ["invalid URL: " ++ raw, cause.message]
  | .unsupportedScheme scheme => ["unsupported URL scheme: " ++ scheme]

end ServerUrlError

namespace ConfigError

def message (e : ConfigError) : String := e.setting ++ " must be a valid http(s) URL"

/-- The message and the causes. -/
def chain (e : ConfigError) : List String := e.message :: e.cause.causes

end ConfigError

namespace Config

def baseUrlSetting : String := "FLOWPILOT_BASE_URL"
def screensUrlSetting : String := "FLOWPILOT_SCREENS_URL"
def storagePathSetting : String := "FLOWPILOT_STORAGE_PATH"
def connectTimeoutSetting : String := "FLOWPILOT_CONNECT_TIMEOUT_MS"
def requestTimeoutSetting : String := "FLOWPILOT_REQUEST_TIMEOUT_MS"
def retryTimesSetting : String := "FLOWPILOT_RETRY_TIMES"
def retryInitialDelaySetting : String := "FLOWPILOT_RETRY_INITIAL_DELAY_MS"
def retryMaxDelaySetting : String := "FLOWPILOT_RETRY_MAX_DELAY_MS"

/-- Where the settings of all programs are kept. -/
def directorySetting : String := "XDG_CONFIG_HOME"
def homeSetting : String := "HOME"

def allSettings : List String :=
  [baseUrlSetting, screensUrlSetting, storagePathSetting, connectTimeoutSetting,
    requestTimeoutSetting, retryTimesSetting, retryInitialDelaySetting, retryMaxDelaySetting,
    directorySetting, homeSetting]

def defaultBaseUrl : String := "http://localhost:8000"

/-- A setting that says something: blank text counts as none. -/
def given? (lookup : String → Option String) (setting : String) : Option String :=
  (lookup setting).filter fun value => !(Text.trim value).isEmpty

/-- Where sessions are kept if no setting says otherwise: with the settings of other programs, or,
where there is no such place, beside the running program. -/
def customaryStoragePath (lookup : String → Option String) : String :=
  let name := "session.json"
  match (lookup directorySetting).filter (·.startsWith "/"),
      (lookup homeSetting).filter (!·.isEmpty) with
  | some directory, _ => directory ++ "/flowpilot/" ++ name
  | none, some home => home ++ "/.config/flowpilot/" ++ name
  | none, none => "flowpilot_" ++ name

/-- Where sessions are kept. -/
def storagePathIn (lookup : String → Option String) : String :=
  (given? lookup storagePathSetting).getD (customaryStoragePath lookup)

/-- A setting that is a number of 64 bits, with a default for all that is none. -/
def number (lookup : String → Option String) (setting : String) (default : Nat) : Nat :=
  ((lookup setting).bind fun value => Text.readNat UInt64.size (Text.trim value)).getD default

/-- The same, for a setting that is a number of milliseconds. -/
def millis (lookup : String → Option String) (setting : String) (default : Nat) : Duration :=
  .ofMillis (number lookup setting default)

/-- Whether a text is the URL of a server that speaks HTTP. -/
def checkServerUrl (raw : String) : Except ServerUrlError Unit :=
  match Url.parse raw with
  | .error cause => .error (.notUrl raw cause)
  | .ok url =>
    if url.scheme = "http" ∨ url.scheme = "https" then .ok ()
    else .error (.unsupportedScheme url.scheme)

/-- The URL under a setting, or the default, checked. -/
def serverUrl (lookup : String → Option String) (setting default : String) :
    Except ConfigError String :=
  let raw := (given? lookup setting).getD default
  match checkServerUrl raw with
  | .ok () => .ok raw
  | .error cause => .error ⟨setting, cause⟩

/-- How often to try; what does not fit 32 bits is as good as nothing. -/
def retryTimes (lookup : String → Option String) : Nat :=
  let default := RetryPolicy.times {}
  let times := number lookup retryTimesSetting default
  if times < UInt32.size then times else default

/-- Read the settings. -/
def load (lookup : String → Option String) : Except ConfigError Config := do
  let baseUrl ← serverUrl lookup baseUrlSetting defaultBaseUrl
  let screensUrl ← serverUrl lookup screensUrlSetting baseUrl
  return {
    baseUrl, screensUrl
    storagePath := given? lookup storagePathSetting
    connectTimeout := millis lookup connectTimeoutSetting 10000
    requestTimeout := millis lookup requestTimeoutSetting 15000
    retry := {
      times := retryTimes lookup
      initialDelay := millis lookup retryInitialDelaySetting 1000
      maxDelay := millis lookup retryMaxDelaySetting 10000 } }

end Config

end ServerDriven
