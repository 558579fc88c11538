import TagRelay.Config.Basic
import TagRelay.Session.Memory
import TagRelay.Session.Simulated

/-!
# Sessions by configuration

The configuration chooses between a simulated session and one in memory.
-/

namespace TagRelay

inductive ChosenSession where
  | simulated (session : Simulated)
  | memory (session : Memory)

namespace ChosenSession

def ofKind : Config.SessionKind → ChosenSession
  | .simulated => .simulated (.ofSeed Simulated.defaultSeed)
  | .memory => .memory {}

def call (c : Session.Call) : ChosenSession → c.Result × ChosenSession
  | .simulated s =>
      let (result, s) := s.call c
      (result, .simulated s)
  | .memory m =>
      let (result, m) := m.call c
      (result, .memory m)

def delay (c : Session.Call) : ChosenSession → Nat
  | .simulated _ => 0
  | .memory m => m.delay c

instance : TagSession ChosenSession := ⟨call, delay⟩

/-- Sets the clock of a session that has one, in Unix milliseconds. -/
def setClock (time : Nat) : ChosenSession → ChosenSession
  | .simulated s => .simulated { s with clock := time }
  | .memory m => .memory m

end ChosenSession

end TagRelay
