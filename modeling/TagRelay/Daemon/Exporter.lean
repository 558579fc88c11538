import TagRelay.Json.Printer
import TagRelay.Metrics.Exposition
import TagRelay.Pipeline.Connector

/-!
# The exporter

Two paths can be asked for: the metrics for scrapers, and the health, which is good
while the link is connected.
-/

namespace TagRelay.Exporter

structure Response where
  status : Nat
  contentType : Option String := none
  body : String := ""
  deriving Repr, DecidableEq

/-- Parameters after a question mark make no difference. -/
def pathOf (target : String) : String := String.ofList (target.toList.takeWhile (· ≠ '?'))

def health (status : Status) : Response where
  status := if status.state = .connected then 200 else 503
  contentType := some "application/json"
  body := status.toJson.compact

def answer (metrics : Metrics) (status : Status) (target : String) : Response :=
  match pathOf target with
  | "/metrics" =>
      { status := 200, contentType := some "text/plain; version=0.0.4"
        body := metrics.exposition }
  | "/health" => health status
  | _ => { status := 404 }

end TagRelay.Exporter
