import Mathlib.Data.List.Nodup
import TagRelay.Proofs.Pipeline.Assembly
import TagRelay.Proofs.Pipeline.Lockstep

/-!
# Rejected reads are contained

Two connectors are set up in the same way and the same happens to them, but the session of the
second one rejects reads of some more paths.  Then the devices with such tags lose their
records, and everything else is as it was.

In one case it does make a difference that a read was rejected: a loop that was asked to stop
ends at once with a reply in hand, and goes on with the next device without one.  So after
that no device that loses its records may have been read with success.
-/

namespace TagRelay.Running

open Interleaved (Event history late loopEvents workerEvents)
open Poll (acquired batch)
open Worker (convert offered taken)

variable {κ : Type} [RecordSink κ]

/-! ## Happenings -/

/-- Shutting down begins with asking the tasks to stop. -/
theorem tolerant_shutdown (limit : Nat) :
    ∃ rest, Host.shutdown limit = .act .signalStop (fun _ => rest) ∧ Host.Tolerant rest := by
  refine ⟨_, rfl, .acts trivial fun begun => .acts trivial fun joined => .acts trivial fun _ =>
    .acts trivial fun _ => .acts trivial fun halted => .acts trivial fun _ => .done joined⟩

section Scripts

variable {c : Connector} {extra : List String} {past past' log log' : List Event}
  {r s r' s' : Running Memory κ}

omit [RecordSink κ] in
/-- What is done to both sessions and sinks from outside. -/
theorem Level.changed (hlevel : Level c extra past past' r s) (change : Memory → Memory)
    (resink : κ → κ)
    (hchange : Memory.Rejecting extra (change r.link.session) (change s.link.session)) :
    Level c extra (past ++ []) (past' ++ [])
      { r with link.session := change r.link.session, sink := resink r.sink }
      { s with link.session := change s.link.session, sink := resink s.sink } := by
  have hchanged : ∀ q : Running Memory κ,
      Aside [] q { q with link.session := change q.link.session, sink := resink q.sink } :=
    fun q => ⟨rfl, rfl, rfl, rfl, rfl, foreign_nil.asked q, Metrics.SameFlow.refl _, rfl, rfl⟩
  obtain ⟨-, hstate, hcycles⟩ := hlevel.abreast.beside
  exact hlevel.aside (hchanged r) (hchanged s) hlevel.abreast.core ⟨hchange, hstate, hcycles⟩ rfl

omit [RecordSink κ] in
/-- Both runs are asked to stop. -/
theorem Level.asked (hlevel : Level c extra past past' r s) :
    Level c extra (past ++ [.host ⟨.signalStop, ()⟩]) (past' ++ [.host ⟨.signalStop, ()⟩])
      { r with stopAsked := true } { s with stopAsked := true } := by
  have hasked : ∀ q : Running Memory κ,
      Aside [.host ⟨.signalStop, ()⟩] q { q with stopAsked := true } := fun q =>
    ⟨rfl, rfl, rfl, rfl, rfl, (Bool.or_true _).symm, Metrics.SameFlow.refl _, rfl, rfl⟩
  refine hlevel.aside (hasked r) (hasked s) ?_ hlevel.abreast.beside rfl
  exact congrArg (fun core : Core => { core with stopAsked := true }) hlevel.abreast.core

/-- Whatever happens to both leaves them level. -/
theorem Level.happens (hcapacity : 0 < c.server.queueCapacity)
    (hlevel : Level c extra past past' r s) (hlate : noneLate extra (past ++ log) = true)
    {h : Happening κ} (hhappens : Happens r h log r') (hhappens' : Happens s h log' s') :
    Level c extra (past ++ log) (past' ++ log') r' s' := by
  have hconnector : s.connector = r.connector := congrArg Core.connector hlevel.abreast.core
  have hsession := hlevel.abreast.session
  cases hhappens with
  | advance hperforms =>
      cases hhappens' with
      | advance hperforms' =>
          refine hlevel.performs hcapacity (.same ?_) hlate hperforms hperforms'
          exact .acts trivial fun _ => .done ()
  | answer hperforms =>
      cases hhappens' with
      | answer hperforms' =>
          rw [hconnector] at hperforms'
          exact hlevel.performs hcapacity (.same (Remote.tolerant_answer _ _)) hlate hperforms
            hperforms'
  | update hperforms =>
      cases hhappens' with
      | update hperforms' =>
          rw [hconnector] at hperforms'
          exact hlevel.performs hcapacity (.same (Remote.tolerant_update _ _)) hlate hperforms
            hperforms'
  | prepare preparation =>
      cases hhappens'
      exact hlevel.changed (·.prepare preparation) id (hsession.prepare preparation)
  | drop =>
      cases hhappens'
      exact hlevel.changed Memory.drop id hsession.drop
  | resink change =>
      cases hhappens'
      exact hlevel.changed id change hsession
  | shutdown hperforms =>
      cases hhappens' with
      | shutdown hperforms' =>
          rw [hconnector] at hperforms'
          obtain ⟨rest, hprogram, htolerant⟩ :=
            tolerant_shutdown r.connector.server.stopTimeout
          rw [hprogram] at hperforms hperforms'
          obtain ⟨later, rfl, hrest⟩ := hperforms.of_answered rfl
          obtain ⟨later', rfl, hrest'⟩ := hperforms'.of_answered rfl
          rw [List.append_cons] at hlate
          rw [List.append_cons, List.append_cons past']
          exact hlevel.asked.performs hcapacity (.same htolerant) hlate hrest hrest'

theorem Level.plays (hcapacity : 0 < c.server.queueCapacity)
    (hlevel : Level c extra past past' r s) (hlate : noneLate extra (past ++ log) = true)
    {script : List (Happening κ)} (hplays : Plays r script log r')
    (hplays' : Plays s script log' s') :
    Level c extra (past ++ log) (past' ++ log') r' s' := by
  induction hplays generalizing s past past' log' with
  | nil =>
      cases hplays'
      rwa [List.append_nil, List.append_nil]
  | cons hfirst hrest ih =>
      cases hplays' with
      | cons hfirst' hrest' =>
          rw [← List.append_assoc] at hlate
          rw [← List.append_assoc, ← List.append_assoc]
          have hnext := hlevel.happens hcapacity (noneLate_of_append hlate) hfirst hfirst'
          exact ih hnext hlate hrest'

omit [RecordSink κ] in
/-- Two connectors that have just been started are level. -/
theorem level_start (c : Connector) (session : Memory) (extra : List String) (sink : κ)
    (epoch : Int) :
    Level c extra [] [] (start c session sink epoch)
      (start c (session.rejectAll extra) sink epoch) := by
  have hsound := sound_turn c.pollSettings false 0
  have hreplies : ∀ session : Memory, replies [] (start c session sink epoch) = [] :=
    fun session => (view_of_sound (r := start c session sink epoch) hsound []).2.1
  have hside : ∀ session : Memory, Side c [] (start c session sink epoch) := fun session =>
    { connector := rfl
      accounts := Interleaved.accounts_start c session sink
      standing := Or.inl hsound
      asked := rfl
      batches := by rw [hreplies]; rfl
      devices := by simp [hreplies]
      still := by simp [start] }
  have hcalm : ∀ session : Memory, Calm c [] (start c session sink epoch) := fun session =>
    ⟨hsound, rfl, rfl⟩
  refine ⟨⟨hside session, hside _, ?_⟩, hcalm session, hcalm _, rfl⟩
  refine ⟨rfl, Memory.rejecting_rejectAll session extra, rfl, rfl, rfl, ?_, fun _ _ => rfl, rfl⟩
  change replies [] _ = (replies [] _).filter _
  rw [hreplies, hreplies]
  rfl

end Scripts

/-! ## Connectors that were set up -/

theorem queueCapacity_pos {declared : Config.Connector} (hvalid : declared.validate = .ok ()) :
    0 < declared.server.queueCapacity :=
  Nat.pos_of_ne_zero (declared.validate_eq_ok_iff.mp hvalid).server.queueCapacity

theorem build_ok {declared : Config.Connector} {registry : Registry} {c : Connector}
    (hbuild : Connector.build declared registry = .ok c) :
    c.server = declared.server ∧ ∃ devices, c.devices = Connector.rosterOf devices := by
  obtain ⟨devices, -, rfl⟩ := Connector.build_eq_ok_iff.mp hbuild
  exact ⟨rfl, devices, rfl⟩

/-- No two devices of a connector have one name. -/
theorem nodup_names (devices : List Device) :
    ((Connector.rosterOf devices).items.map fun device => device.name).Nodup := by
  have hnames : (Connector.rosterOf devices).items.map (fun device => device.name) =
      (Connector.rosterOf devices).names := by
    rw [Roster.items, List.map_map, Roster.names]
    apply List.map_congr_left
    intro entry hentry
    obtain ⟨device, -, rfl⟩ := List.mem_map.mp (Roster.mem_ofList hentry)
    rfl
  rw [hnames]
  exact Roster.nodup_ofList _

/-! ## Records of devices -/

/-- The replies to the reads of a device that were taken for conversion, of each of which
`convert` makes the record. -/
def repliesOf (device : Device) (log : List Event) : List Unconverted :=
  (taken (workerEvents log)).filter fun reply => reply.device.name = device.name

/-- Every read that succeeded before the tasks were asked to stop was taken for conversion, and
what came of it was offered as a record. -/
structure Complete (c : Connector) (log : List Event) : Prop where
  devices : ∀ reply ∈ taken (workerEvents log), reply.device ∈ c.devices.items
  reads : acquired (loopEvents log) = (taken (workerEvents log)).map batch ++ late log
  records : offered (workerEvents log) =
    (taken (workerEvents log)).map fun reply => (convert reply).1

/-- The second run has lost the records of the devices with a tag in `extra`, and nothing
else. -/
structure Contained (c : Connector) (extra : List String) (log log' : List Event)
    (r s : Running Memory κ) : Prop where
  complete : Complete c log
  complete' : Complete c log'
  /-- All that is lost are replies of these devices, whoever has read them in the first run. -/
  lost : taken (workerEvents log') =
    (taken (workerEvents log)).filter fun reply => spares extra reply.device
  spared : ∀ device ∈ c.devices.items, spares extra device = true →
    repliesOf device log' = repliesOf device log
  touched : ∀ device ∈ c.devices.items, spares extra device = false →
    repliesOf device log' = []
  failures : ∀ device ∈ c.devices.items, Clear extra c.devices.items device.name →
    s.link.metrics.readFailures.count device.name = r.link.metrics.readFailures.count device.name
  history : history log' = history log
  state : s.link.state = r.link.state
  calls : s.link.session.calls = r.link.session.calls
  pollCycles : s.link.metrics.pollCycles = r.link.metrics.pollCycles

section Contained

variable {c : Connector} {past : List Event} {r : Running Memory κ}

omit [RecordSink κ] in
/-- Where nothing is on its way, all replies were taken. -/
theorem Calm.taken (hcalm : Calm c past r) (hside : Side c past r) :
    replies past r = taken (workerEvents past) := by
  calc replies past r
      = Poll.delivered (loopEvents past) := (view_of_sound hcalm.sound past).2.1
    _ = Worker.taken (workerEvents past) ++ r.queue := hside.accounts.queue
    _ = Worker.taken (workerEvents past) := by rw [hcalm.queue, List.append_nil]

omit [RecordSink κ] in
theorem Calm.complete (hcalm : Calm c past r) (hside : Side c past r) : Complete c past := by
  have htaken := hcalm.taken hside
  constructor
  · rw [← htaken]
    exact hside.devices
  · rw [← htaken]
    exact hside.batches
  · have hrecords := hside.accounts.records.records
    rw [hcalm.idle] at hrecords
    exact (List.append_nil _).symm.trans hrecords

/-- Whatever happens to two connectors of one configuration, of which the second has a
session that rejects more reads, only the devices with tags that are rejected lose records.
The failures of a device are the same as long as its name shares its fingerprint with none of
these.  In the first run none of these was read with success after the tasks had been asked to
stop. -/
theorem contained_of_rejections {declared : Config.Connector} {registry : Registry}
    (hvalid : declared.validate = .ok ()) (hbuild : Connector.build declared registry = .ok c)
    (session : Memory) (extra : List String) (sink : κ) (epoch : Int)
    {script : List (Happening κ)} {log log' : List Event} {s : Running Memory κ}
    (hfirst : Plays (start c session sink epoch) script log r)
    (hsecond : Plays (start c (session.rejectAll extra) sink epoch) script log' s)
    (hlate : noneLate extra log = true) : Contained c extra log log' r s := by
  obtain ⟨hserver, built, hdevices⟩ := build_ok hbuild
  have hcapacity : 0 < c.server.queueCapacity := by
    rw [hserver]
    exact queueCapacity_pos hvalid
  have hlevel := (level_start c session extra sink epoch).plays hcapacity hlate hfirst hsecond
  rw [List.nil_append, List.nil_append] at hlevel
  obtain ⟨⟨hside, hside', habreast⟩, hcalm, hcalm', -⟩ := hlevel
  have hcomplete := hcalm.complete hside
  have hlost : taken (workerEvents log') =
      (taken (workerEvents log)).filter fun reply => spares extra reply.device := by
    rw [← hcalm.taken hside, ← hcalm'.taken hside']
    exact habreast.replies
  -- A reply that goes by the name of a device is one of this device.
  have hdevice : ∀ device ∈ c.devices.items, ∀ reply ∈ taken (workerEvents log),
      reply.device.name = device.name → reply.device = device := by
    intro device hmem reply hreply hname
    have hnodup := nodup_names built
    rw [← hdevices] at hnodup
    exact List.inj_on_of_nodup_map hnodup (hcomplete.devices reply hreply) hmem hname
  constructor
  · exact hcomplete
  · exact hcalm'.complete hside'
  · exact hlost
  · intro device hmem hspared
    rw [repliesOf, repliesOf, hlost, List.filter_filter]
    apply List.filter_congr
    intro reply hreply
    by_cases hname : reply.device.name = device.name
    · rw [hdevice device hmem reply hreply hname, hspared, Bool.and_true]
    · simp [hname]
  · intro device hmem htouched
    rw [repliesOf, hlost, List.filter_filter, List.filter_eq_nil_iff]
    intro reply hreply hboth
    obtain ⟨hname, hspared⟩ := Bool.and_eq_true_iff.mp hboth
    rw [hdevice device hmem reply hreply (of_decide_eq_true hname), htouched] at hspared
    exact Bool.false_ne_true hspared
  · intro device hmem hclear
    have hcounts := habreast.failures device.name hclear
    rwa [(view_of_sound hcalm.sound log).2.2, (view_of_sound hcalm'.sound log').2.2] at hcounts
  · exact habreast.history
  · exact habreast.state
  · obtain ⟨rejected, hsession, -⟩ := habreast.session
    have hcalls := congrArg Memory.calls hsession
    exact hcalls
  · exact habreast.pollCycles

/-- A device that shows one tag. -/
def gauge (name path : String) : Device :=
  { boiler name with tags := [⟨"value", path, .timeseries, .gateway, none, none⟩] }

/-- A boiler and a pump, by these names. -/
def plant (boiler pump : String) : Connector :=
  { boilers [] with
    devices := Connector.rosterOf [gauge boiler "Boiler.Temperature", gauge pump "Pump.Speed"] }

/-- The configuration of the plant. -/
def plantConfig (boiler pump : String) : Config.Connector where
  name := "Boilers"
  id := "boilers"
  devices :=
    [{ name := boiler, timeseries := [{ key := "value", path := "Boiler.Temperature" }] },
      { name := pump, timeseries := [{ key := "value", path := "Pump.Speed" }] }]

theorem contained_of_rejected_pump : ∃ log log' r s,
    (plantConfig "boiler" "pump").validate = .ok () ∧
      Connector.build (plantConfig "boiler" "pump") .standard = .ok (plant "boiler" "pump") ∧
      let started (session : Memory) : Running Memory Mailbox :=
        start (plant "boiler" "pump") session {} 0
      Plays (started (Memory.delayReads {} 100)) [.advance 5050, .shutdown] log r ∧
      Plays (started ((Memory.delayReads {} 100).rejectAll ["Pump.Speed"]))
        [.advance 5050, .shutdown] log' s ∧
      noneLate ["Pump.Speed"] log = true ∧ (late log).map Prod.fst = [["Boiler.Temperature"]] ∧
      (r.sink.held.map fun dispatch => dispatch.record.device) = ["boiler", "pump"] ∧
      (s.sink.held.map fun dispatch => dispatch.record.device) = ["boiler"] ∧
      Contained (plant "boiler" "pump") ["Pump.Speed"] log log' r s := by
  have hvalid : (plantConfig "boiler" "pump").validate = .ok () := rfl
  have hbuild : Connector.build (plantConfig "boiler" "pump") .standard =
    .ok (plant "boiler" "pump") := rfl
  have hlog : (playLog (start (plant "boiler" "pump") (Memory.delayReads {} 100)
      ({} : Mailbox) 0) [.advance 5050, .shutdown]).any (fun log =>
    noneLate ["Pump.Speed"] log && (late log).map Prod.fst = [["Boiler.Temperature"]]) = true := by
    decide +kernel
  have hlog' : (playLog (start (plant "boiler" "pump")
      ((Memory.delayReads {} 100).rejectAll ["Pump.Speed"]) ({} : Mailbox) 0)
    [.advance 5050, .shutdown]).isSome = true := by decide +kernel
  obtain ⟨log, hlog, hreads⟩ := (Option.any_eq_true _ _).mp hlog
  obtain ⟨log', hlog'⟩ := Option.isSome_iff_exists.mp hlog'
  obtain ⟨hnone, hlate⟩ := Bool.and_eq_true_iff.mp hreads
  have hfirst := plays_of_log hlog
  have hsecond := plays_of_log hlog'
  exact ⟨log, log', _, _, hvalid, hbuild, hfirst, hsecond, hnone, of_decide_eq_true hlate, rfl,
    rfl, contained_of_rejections hvalid hbuild _ ["Pump.Speed"] {} 0 hfirst hsecond hnone⟩

/-- Where the two devices have names of one fingerprint, the failures of the pump are counted
for the boiler as well.  And where the tasks are asked to stop during the read of the boiler,
the loop whose read is rejected reads the pump too, while the other one ends at once. -/
theorem exists_uncontained :
    ((plantConfig "8yn0iYCKYHlIj4-BwPqk" "GReLUrM4wMqfg9yzV3KQ").validate = .ok () ∧
      Connector.build (plantConfig "8yn0iYCKYHlIj4-BwPqk" "GReLUrM4wMqfg9yzV3KQ") .standard =
        .ok (plant "8yn0iYCKYHlIj4-BwPqk" "GReLUrM4wMqfg9yzV3KQ") ∧
      spares ["Pump.Speed"] (gauge "8yn0iYCKYHlIj4-BwPqk" "Boiler.Temperature") = true ∧
      let started (session : Memory) : Running Memory Mailbox :=
        start (plant "8yn0iYCKYHlIj4-BwPqk" "GReLUrM4wMqfg9yzV3KQ") session {} 0
      ((started (Memory.rejectAll {} ["Pump.Speed"])).advance 10).link.metrics.readFailures.count
          "8yn0iYCKYHlIj4-BwPqk" ≠
        ((started {}).advance 10).link.metrics.readFailures.count "8yn0iYCKYHlIj4-BwPqk") ∧
    ((plantConfig "boiler" "pump").validate = .ok () ∧
      Connector.build (plantConfig "boiler" "pump") .standard = .ok (plant "boiler" "pump") ∧
      let started (session : Memory) : Running Memory Mailbox :=
        start (plant "boiler" "pump") (session.delayReads 100) {} 0
      let stopped (session : Memory) : Running Memory Mailbox :=
        ((started session).advance 50).shutdown.2
      (stopped (Memory.rejectAll {} ["Boiler.Temperature"])).link.session.calls ≠
        (stopped {}).link.session.calls) := by
  refine ⟨⟨rfl, rfl, rfl, ?_⟩, rfl, rfl, ?_⟩
  · decide +kernel
  · decide +kernel

end Contained

end TagRelay.Running
