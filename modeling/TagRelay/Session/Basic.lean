import TagRelay.Error
import TagRelay.Tag.Reading

/-!
# Sessions

A session is the way to a server: it is connected and closed, reads and writes tags,
and tells about the server.  Every call either succeeds with the answer of its kind or
reports why it failed, and may take some time.
-/

namespace TagRelay

/-- Where a session connects to. -/
structure Endpoint where
  server : String
  host : String
  deriving Repr, DecidableEq

namespace Session

inductive Call where
  | connect (target : Endpoint)
  | close
  | read (paths : List String)
  | write (path : String) (value : TagValue)
  | info

/-- What a call yields when it succeeds. -/
abbrev Call.Success : Call → Type
  | .connect _ | .close | .write _ _ => Unit
  | .read _ => List Reading
  | .info => List (String × String)

abbrev Call.Result (c : Call) : Type := Except SessionError c.Success

end Session

open Session (Call)

/-- States of a session, with what its calls do.  A call takes its time first and has
its effect, all at once, at the end of it. -/
class TagSession (σ : Type) where
  call : (c : Call) → σ → c.Result × σ
  /-- How long a call takes that begins in this state, in milliseconds. -/
  delay : Call → σ → Nat

namespace Session

variable {σ : Type} [TagSession σ]

def connect (target : Endpoint) (session : σ) : Except SessionError Unit × σ :=
  TagSession.call (.connect target) session

def close (session : σ) : Except SessionError Unit × σ := TagSession.call .close session

def read (paths : List String) (session : σ) : Except SessionError (List Reading) × σ :=
  TagSession.call (.read paths) session

def write (path : String) (value : TagValue) (session : σ) : Except SessionError Unit × σ :=
  TagSession.call (.write path value) session

def info (session : σ) : Except SessionError (List (String × String)) × σ :=
  TagSession.call .info session

/-- How the guard of a session, which lets one call through at a time, shows itself in
diagnostics. -/
def guardDescription (timeout : Duration) : String :=
  "SessionGuard \x7b timeout: " ++ timeout.text ++ ", .. \x7d"

end Session

end TagRelay
