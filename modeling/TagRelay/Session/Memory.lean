import TagRelay.Decimal.Whole
import TagRelay.Roster
import TagRelay.Session.Basic

/-!
# Sessions in memory

A session whose tags are kept in memory.  Tags can be seeded, failures prepared and the
form of replies changed from outside, and every call that reaches the session is
counted.  Tags that were never stored are read with bad quality.
-/

namespace TagRelay

structure StoredTag where
  value : TagValue
  quality : Quality := .good
  timestamp : Option SourceTimestamp := none

/-- How many calls of each kind have reached a session. -/
structure CallCounts where
  connect : Nat := 0
  close : Nat := 0
  read : Nat := 0
  write : Nat := 0
  info : Nat := 0
  deriving Repr, DecidableEq

structure Memory where
  tags : Roster StoredTag := []
  /-- Where the session is connected to, while it is open. -/
  opened : Option Endpoint := none
  calls : CallCounts := {}
  /-- How many of the next attempts to connect fail. -/
  failingConnects : Nat := 0
  /-- Failures of the next reads, one each. -/
  readFailures : List SessionError := []
  /-- Failures of the next writes, one each. -/
  writeFailures : List SessionError := []
  /-- The failure of every request for information. -/
  infoFailure : Option SessionError := none
  reversed : Bool := false
  /-- How long a read takes, in milliseconds. -/
  readDelay : Nat := 0
  /-- A read that asks for one of these is rejected as a whole. -/
  rejectedPaths : List String := []
  /-- These are left out of replies. -/
  omittedPaths : List String := []

namespace Memory

/-! ## Preparing the store -/

def store (m : Memory) (path : String) (tag : StoredTag) : Memory :=
  { m with tags := m.tags.enter path tag }

def value? (m : Memory) (path : String) : Option TagValue :=
  (m.tags.find? path).map StoredTag.value

def isOpen (m : Memory) : Bool := m.opened.isSome

def failConnects (m : Memory) (count : Nat) : Memory := { m with failingConnects := count }

def failNextRead (m : Memory) (cause : SessionError) : Memory :=
  { m with readFailures := m.readFailures ++ [cause] }

def failNextWrite (m : Memory) (cause : SessionError) : Memory :=
  { m with writeFailures := m.writeFailures ++ [cause] }

def failInfo (m : Memory) (cause : SessionError) : Memory := { m with infoFailure := some cause }

def reverseReplies (m : Memory) (on : Bool) : Memory := { m with reversed := on }

def rejectReads (m : Memory) (path : String) : Memory :=
  { m with rejectedPaths := path :: m.rejectedPaths }

def omitPath (m : Memory) (path : String) : Memory :=
  { m with omittedPaths := path :: m.omittedPaths }

def delayReads (m : Memory) (millis : Nat) : Memory := { m with readDelay := millis }

/-- The server drops the connection. -/
def drop (m : Memory) : Memory := { m with opened := none }

/-! ## Calls -/

/-- The stored reading of a path. -/
def reading (m : Memory) (path : String) : Reading :=
  match m.tags.find? path with
  | some tag => ⟨path, tag.value, tag.quality, tag.timestamp⟩
  | none => .unknown path

/-- The reply of a read that does not fail. -/
def reply (m : Memory) (paths : List String) : List Reading :=
  let readings := (paths.filter fun path => !m.omittedPaths.contains path).map m.reading
  if m.reversed then readings.reverse else readings

def connect (m : Memory) (target : Endpoint) : Except SessionError Unit × Memory :=
  let m := { m with calls.connect := m.calls.connect + 1 }
  match m.failingConnects with
  | rest + 1 =>
      (.error (.connectFailed target.server target.host "server unavailable"),
        { m with failingConnects := rest })
  | 0 =>
      if m.isOpen then (.error (.other "already connected"), m)
      else (.ok (), { m with opened := some target })

def close (m : Memory) : Except SessionError Unit × Memory :=
  (.ok (), { m with calls.close := m.calls.close + 1, opened := none })

def read (m : Memory) (paths : List String) : Except SessionError (List Reading) × Memory :=
  let m := { m with calls.read := m.calls.read + 1 }
  match m.readFailures with
  | cause :: rest => (.error cause, { m with readFailures := rest })
  | [] =>
      if m.isOpen then
        match paths.find? fun path => m.rejectedPaths.contains path with
        | some path => (.error (.rejected path "access denied"), m)
        | none => (.ok (m.reply paths), m)
      else (.error .notConnected, m)

def write (m : Memory) (path : String) (value : TagValue) : Except SessionError Unit × Memory :=
  let m := { m with calls.write := m.calls.write + 1 }
  match m.writeFailures with
  | cause :: rest => (.error cause, { m with writeFailures := rest })
  | [] =>
      if m.isOpen then (.ok (), m.store path ⟨value, .good, none⟩)
      else (.error .notConnected, m)

def info (m : Memory) : Except SessionError (List (String × String)) × Memory :=
  let m := { m with calls.info := m.calls.info + 1 }
  match m.infoFailure, m.opened with
  | some cause, _ => (.error cause, m)
  | none, none => (.error .notConnected, m)
  | none, some target =>
      (.ok [("Server Name", target.server), ("Host", target.host),
          ("Vendor", "R-EMS in-memory session"),
          ("Tags", Decimal.wholeText m.tags.length)], m)

def call (m : Memory) : (c : Session.Call) → c.Result × Memory
  | .connect target => m.connect target
  | .close => m.close
  | .read paths => m.read paths
  | .write path value => m.write path value
  | .info => m.info

/-- Only reads take time. -/
def delay (m : Memory) : Session.Call → Nat
  | .read _ => m.readDelay
  | _ => 0

instance : TagSession Memory where
  call c m := m.call c
  delay c m := m.delay c

end Memory

end TagRelay
