import TagRelay.Duration

/-!
# Errors

A session reports why a call failed; some of these failures mean that the session is
gone.  Building a device and converting its readings have errors of their own.
-/

namespace TagRelay

inductive SessionError where
  | notConnected
  | connectFailed (server host reason : String)
  | lost (reason : String)
  | timeout (after : Duration)
  | rejected (tag reason : String)
  | other (reason : String)
  deriving Repr, DecidableEq

namespace SessionError

def message : SessionError → String
  | .notConnected => "session is not connected"
  | .connectFailed server host reason =>
      "connection to " ++ server ++ " on " ++ host ++ " failed: " ++ reason
  | .lost reason => "session lost: " ++ reason
  | .timeout after => "call timed out after " ++ after.text
  | .rejected tag reason => "tag " ++ tag ++ " rejected the request: " ++ reason
  | .other reason => reason

/-- The live session is to be considered gone. -/
def isSessionLost : SessionError → Bool
  | .notConnected | .lost _ | .timeout _ => true
  | _ => false

end SessionError

inductive ConnectorError where
  | session (cause : SessionError)
  | unknownConverter (id : String)
  | invalidDevice (device reason : String)
  | missingReading (device tag : String)
  | conversion (device reason : String)
  | metrics (reason : String)
  deriving Repr, DecidableEq

def ConnectorError.message : ConnectorError → String
  | .session cause => cause.message
  | .unknownConverter id => "no converter registered under `" ++ id ++ "`"
  | .invalidDevice device reason => "device `" ++ device ++ "` is invalid: " ++ reason
  | .missingReading device tag =>
      "reply for device `" ++ device ++ "` carries no reading for tag `" ++ tag ++ "`"
  | .conversion device reason => "conversion of device `" ++ device ++ "` failed: " ++ reason
  | .metrics reason => "metrics registration failed: " ++ reason

end TagRelay
