import TagRelay.Json.Printer
import TagRelay.Record

/-!
# Sinks

Records leave a connector through a sink, which accepts or refuses each of them.  A
mailbox keeps them as long as somebody listens; a journal writes every one down.
-/

namespace TagRelay

/-- A record with the connector that sends it. -/
structure Dispatch where
  connector : String
  id : String
  record : Record

/-- The record as it is written into a journal. -/
def Dispatch.text (d : Dispatch) : String := d.record.toJson.compact

class RecordSink (κ : Type) where
  /-- Offers a record; answers whether it was accepted. -/
  send : Dispatch → κ → Bool × κ

structure Mailbox where
  listening : Bool := true
  held : List Dispatch := []

def Mailbox.send (d : Dispatch) (m : Mailbox) : Bool × Mailbox :=
  if m.listening then (true, { m with held := m.held ++ [d] }) else (false, m)

instance : RecordSink Mailbox := ⟨Mailbox.send⟩

structure Journal where
  written : List Dispatch := []

instance : RecordSink Journal := ⟨fun d j => (true, ⟨j.written ++ [d]⟩)⟩

/-- A sink that is chosen when the connector is set up. -/
inductive Outlet where
  | mailbox (mailbox : Mailbox)
  | journal (journal : Journal)

namespace Outlet

def send (d : Dispatch) : Outlet → Bool × Outlet
  | .mailbox m =>
      let (accepted, m) := RecordSink.send d m
      (accepted, .mailbox m)
  | .journal j =>
      let (accepted, j) := RecordSink.send d j
      (accepted, .journal j)

instance : RecordSink Outlet := ⟨send⟩

/-- Nobody listens to the mailbox any more; a journal needs no listener. -/
def deafen : Outlet → Outlet
  | .mailbox m => .mailbox { m with listening := false }
  | .journal j => .journal j

/-- Takes out what was sent. -/
def take : Outlet → List Dispatch × Outlet
  | .mailbox m => (m.held, .mailbox { m with held := [] })
  | .journal j => (j.written, .journal {})

end Outlet

end TagRelay
