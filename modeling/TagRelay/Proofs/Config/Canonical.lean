import TagRelay.Config.Load
import TagRelay.Proofs.Config.Address
import TagRelay.Proofs.Config.Forms
import TagRelay.Proofs.Json.Written

/-!
# Canonical form of configuration

However a configuration is spelled in a document, it is written in one form, which reads as the
same configuration: the values settle one by one, then the fields of each record, and with them
the whole document.
-/

namespace TagRelay.Config

open Json (Settles asString_settles asBool_settles asNat_int asNat_settles asWord_settles
  asList_settles asOption_settles asFree_settles bind_eq_ok_iff required_again withDefault_again
  optional_again)

/-! ## Values -/

theorem natJson_settles : Settles Json.asNat64 natJson := asNat_settles _

theorem natJson_ne_null (n : Nat) : natJson n ≠ .null := by simp [natJson]

theorem ReportKind.settles : Settles (Json.asWord .json words) fun kind => .string kind.word :=
  asWord_settles fun kind => by cases kind <;> rfl

theorem ValueType.settles : Settles (Json.asWord .json words) fun type => .string type.word :=
  asWord_settles fun type => by cases type <;> rfl

theorem TimestampLocation.settles :
    Settles (Json.asWord .json words) fun location => .string location.word :=
  asWord_settles fun location => by cases location <;> rfl

theorem SessionKind.settles : Settles (Json.asWord .json words) fun kind => .string kind.word :=
  asWord_settles fun kind => by cases kind <;> rfl

theorem LogFormat.settles : Settles (Json.asWord .json words) fun format => .string format.word :=
  asWord_settles fun format => by cases format <;> rfl

theorem asAddress_settles : Settles asAddress fun address => .string address.text := by
  intro value address hread
  rw [asAddress, bind_eq_ok_iff] at hread
  obtain ⟨spelling, -, hread⟩ := hread
  split at hread
  · cases hread
    have hagain := Address.read_text_of_read ‹_›
    rw [asAddress, bind_eq_ok_iff]
    exact ⟨_, rfl, by rw [hagain]⟩
  · nomatch hread

/-! ## Records -/

theorem Strategy.settles : Settles (ofJson .json) toJson := by
  intro value strategy hread
  simp only [ofJson, bind_eq_ok_iff] at hread ⊢
  obtain ⟨fields, -, kind, hkind, period, hperiod, hstrategy⟩ := hread
  cases hstrategy
  exact ⟨_, rfl, _, required_again hkind ReportKind.settles rfl,
    _, optional_again hperiod (asOption_settles natJson_settles natJson_ne_null) rfl, rfl⟩

theorem Strategy.toJson_ne_null (strategy : Strategy) : strategy.toJson ≠ .null := by
  simp [toJson]

theorem strategyField_again {fields written : List (String × Json)} {strategy : Option Strategy}
    (hread : strategyField .json fields = .ok strategy)
    (hwritten : Json.fieldNamed ["report_strategy", "reportStrategy"] written =
      .ok (some (.ofOption Strategy.toJson strategy))) :
    strategyField .json written = .ok strategy :=
  optional_again hread (asOption_settles Strategy.settles Strategy.toJson_ne_null) hwritten

theorem Tag.settles : Settles (ofJson .json) toJson := by
  intro value tag hread
  simp only [ofJson, bind_eq_ok_iff] at hread ⊢
  obtain ⟨fields, -, key, hkey, path, hpath, valueType, hvalueType, location, hlocation,
    strategy, hstrategy, htag⟩ := hread
  cases htag
  exact ⟨_, rfl, _, required_again hkey asString_settles rfl,
    _, required_again hpath asString_settles rfl,
    _, optional_again hvalueType (asOption_settles ValueType.settles nofun) rfl,
    _, withDefault_again hlocation TimestampLocation.settles rfl rfl,
    _, strategyField_again hstrategy rfl, rfl⟩

theorem AttributeUpdate.settles : Settles (ofJson .json) toJson := by
  intro value update hread
  simp only [ofJson, bind_eq_ok_iff] at hread ⊢
  obtain ⟨fields, -, key, hkey, path, hpath, hupdate⟩ := hread
  cases hupdate
  exact ⟨_, rfl, _, required_again hkey asString_settles rfl,
    _, required_again hpath asString_settles rfl, rfl⟩

theorem Method.settles : Settles (ofJson .json) toJson := by
  intro value method hread
  simp only [ofJson, bind_eq_ok_iff] at hread ⊢
  obtain ⟨fields, -, name, hname, path, hpath, written, hwritten, hmethod⟩ := hread
  cases hmethod
  exact ⟨_, rfl, _, required_again hname asString_settles rfl,
    _, required_again hpath asString_settles rfl,
    _, optional_again hwritten asFree_settles rfl, rfl⟩

theorem Device.settles : Settles (ofJson .json) toJson := by
  intro value device hread
  simp only [ofJson, bind_eq_ok_iff] at hread ⊢
  obtain ⟨fields, -, name, hname, profile, hprofile, converter, hconverter, strategy, hstrategy,
    attributes, hattributes, timeseries, htimeseries, updates, hupdates, methods, hmethods,
    hdevice⟩ := hread
  cases hdevice
  exact ⟨_, rfl, _, required_again hname asString_settles rfl,
    _, withDefault_again hprofile asString_settles rfl rfl,
    _, optional_again hconverter (asOption_settles asString_settles nofun) rfl,
    _, strategyField_again hstrategy rfl,
    _, withDefault_again hattributes (asList_settles Tag.settles) rfl rfl,
    _, withDefault_again htimeseries (asList_settles Tag.settles) rfl rfl,
    _, withDefault_again hupdates (asList_settles AttributeUpdate.settles) rfl rfl,
    _, withDefault_again hmethods (asList_settles Method.settles) rfl rfl, rfl⟩

theorem Server.settles : Settles (ofJson .json) toJson := by
  intro value server hread
  simp only [ofJson, bind_eq_ok_iff] at hread ⊢
  obtain ⟨fields, -, name, hname, host, hhost, pollPeriod, hpollPeriod, timeout, htimeout,
    reconnectDelay, hreconnectDelay, idleTick, hidleTick, stopTimeout, hstopTimeout,
    queueCapacity, hqueueCapacity, session, hsession, hserver⟩ := hread
  cases hserver
  exact ⟨_, rfl, _, withDefault_again hname asString_settles rfl rfl,
    _, withDefault_again hhost asString_settles rfl rfl,
    _, withDefault_again hpollPeriod natJson_settles (asNat_int (by decide)) rfl,
    _, withDefault_again htimeout natJson_settles (asNat_int (by decide)) rfl,
    _, withDefault_again hreconnectDelay natJson_settles (asNat_int (by decide)) rfl,
    _, withDefault_again hidleTick natJson_settles (asNat_int (by decide)) rfl,
    _, withDefault_again hstopTimeout natJson_settles (asNat_int (by decide)) rfl,
    _, withDefault_again hqueueCapacity natJson_settles (asNat_int (by decide)) rfl,
    _, withDefault_again hsession SessionKind.settles rfl rfl, rfl⟩

/-- The standard server is read back as it is. -/
theorem Server.ofJson_default : ofJson .json (toJson {}) = .ok {} := by
  have hread : ofJson .json (.object []) = .ok {} := rfl
  exact settles hread

theorem Connector.settles : Settles (ofJson .json) toJson := by
  intro value connector hread
  simp only [ofJson, bind_eq_ok_iff] at hread ⊢
  obtain ⟨fields, -, name, hname, id, hid, type, htype, server, hserver, strategy, hstrategy,
    devices, hdevices, hconnector⟩ := hread
  cases hconnector
  exact ⟨_, rfl, _, withDefault_again hname asString_settles rfl rfl,
    _, withDefault_again hid asString_settles rfl rfl,
    _, withDefault_again htype asString_settles rfl rfl,
    _, withDefault_again hserver Server.settles Server.ofJson_default rfl,
    _, strategyField_again hstrategy rfl,
    _, withDefault_again hdevices (asList_settles Device.settles) rfl rfl, rfl⟩

/-- The standard connector is read back as it is. -/
theorem Connector.ofJson_default : ofJson .json (toJson {}) = .ok {} := by
  have hread : ofJson .json (.object []) = .ok {} := rfl
  exact settles hread

theorem Logging.settles : Settles (ofJson .json) toJson := by
  intro value logging hread
  simp only [ofJson, bind_eq_ok_iff] at hread ⊢
  obtain ⟨fields, -, directory, hdirectory, format, hformat, filePrefix, hfilePrefix,
    hlogging⟩ := hread
  cases hlogging
  exact ⟨_, rfl, _, withDefault_again hdirectory asString_settles rfl rfl,
    _, withDefault_again hformat LogFormat.settles rfl rfl,
    _, optional_again hfilePrefix (asOption_settles asString_settles nofun) rfl, rfl⟩

theorem Metrics.settles : Settles (ofJson .json) toJson := by
  intro value metrics hread
  simp only [ofJson, bind_eq_ok_iff] at hread ⊢
  obtain ⟨fields, -, enabled, henabled, listen, hlisten, hmetrics⟩ := hread
  cases hmetrics
  exact ⟨_, rfl, _, withDefault_again henabled asBool_settles rfl rfl,
    _, withDefault_again hlisten asAddress_settles rfl rfl, rfl⟩

theorem App.settles : Settles (ofJson .json) toJson := by
  intro value app hread
  simp only [ofJson, bind_eq_ok_iff] at hread ⊢
  obtain ⟨fields, -, connector, hconnector, logging, hlogging, metrics, hmetrics, happ⟩ := hread
  cases happ
  exact ⟨_, rfl, _, withDefault_again hconnector Connector.settles Connector.ofJson_default rfl,
    _, withDefault_again hlogging Logging.settles rfl rfl,
    _, withDefault_again hmetrics Metrics.settles rfl rfl, rfl⟩

/-! ## Documents -/

/-- Configuration that was read is written in a form that reads as the same configuration, and
so is every document that says the same; a document that gives a field twice is refused. -/
theorem App.ofJson_canonical (document : Json) :
    (∀ app, ofJson .json document = .ok app →
      ofJson .json app.toJson = .ok app ∧
        (ofJson .json app.toJson).map toJson = .ok app.toJson ∧
        (ofJson .json app.toJson).map validate = .ok app.validate ∧
        ∀ other, form.Same document other → ofJson .json other = .ok app) ∧
      (form.Doubled document → ∃ cause, ofJson .json document = .error cause) := by
  constructor
  · intro app hread
    have hagain := App.settles hread
    rw [hagain]
    exact ⟨rfl, rfl, rfl, fun other hsame => App.reads.same hsame hread⟩
  · intro hdoubled
    cases hread : ofJson .json document with
    | error cause => exact ⟨cause, rfl⟩
    | ok app => exact absurd hdoubled (App.reads.single hread)

/-! A document with one device, under its first names or under others. -/

def levelTag (path type : String) : Json :=
  .object [("key", .string "level"), (path, .string "boiler.level"), ("type", .string type)]

def resetMethod : Json :=
  .object [("method", .string "reset"), ("tag", .string "boiler.reset"),
    ("value", .object [("tagPath", .null)])]

def boiler (name methods : String) (tag : Json) : Json :=
  .object [(name, .string "Boiler"), ("attributes", .array [tag]), (methods, .array [resetMethod])]

def boilerDocument (devices : String) (boiler : Json) (more : List (String × Json)) : Json :=
  .object [("connector", .object (more ++ [(devices, .array [boiler])]))]

theorem boilerDocument_same :
    App.form.Same
      (boilerDocument "devices" (boiler "name" "rpc_methods" (levelTag "tag" "int")) [])
      (boilerDocument "mapping"
        (boiler "deviceNamePattern" "rpcMethods" (levelTag "tagPath" "integer"))
        [("note", .null)]) := by
  have hpath : Tag.layout.fields[1] ∈ Tag.layout.fields := List.getElem_mem _
  have htype : Tag.layout.fields[2] ∈ Tag.layout.fields := List.getElem_mem _
  have htag : Tag.form.Same (levelTag "tag" "int") (levelTag "tagPath" "integer") := by
    refine .fields (.kept _ (.renamed hpath (.head _) (.tail _ (.head _)) rfl ?_))
    refine .renamed htype (.head _) (.head _) ?_ .nil
    exact .text (.head _) (.head _) (.tail _ (.head _))
  have hname : Device.layout.fields[0] ∈ Device.layout.fields := List.getElem_mem _
  have hattributes : Device.layout.fields[4] ∈ Device.layout.fields := List.getElem_mem _
  have hmethods : Device.layout.fields[7] ∈ Device.layout.fields := List.getElem_mem _
  have hboiler : Device.form.Same (boiler "name" "rpc_methods" (levelTag "tag" "int"))
      (boiler "deviceNamePattern" "rpcMethods" (levelTag "tagPath" "integer")) := by
    refine .fields (.renamed hname (.head _) (.tail _ (.head _)) rfl ?_)
    refine .renamed hattributes (.head _) (.head _) (.items (.cons htag .nil)) ?_
    exact .renamed hmethods (.head _) (.tail _ (.head _)) (.self _) .nil
  have hdevices : Connector.layout.fields[5] ∈ Connector.layout.fields := List.getElem_mem _
  have hconnector : App.layout.fields[0] ∈ App.layout.fields := List.getElem_mem _
  refine .fields (.renamed hconnector (.head _) (.head _) (.fields (.added .null ?_ ?_)) .nil)
  · decide
  · exact .renamed hdevices (.head _) (.tail _ (.head _)) (.items (.cons hboiler .nil)) .nil

/-- A boiler that is named twice. -/
def doubledDocument : Json :=
  .object [("connector", .object [("mapping", .array [.object
    [("name", .string "Boiler"), ("deviceNamePattern", .string "Boiler")]])])]

theorem doubledDocument_doubled : App.form.Doubled doubledDocument := by
  have hname : Device.layout.fields[0] ∈ Device.layout.fields := List.getElem_mem _
  have hdevices : Connector.layout.fields[5] ∈ Connector.layout.fields := List.getElem_mem _
  have hconnector : App.layout.fields[0] ∈ App.layout.fields := List.getElem_mem _
  refine .within hconnector (.head _) (.head _) ?_
  refine .within hdevices (.tail _ (.head _)) (.head _) ⟨_, rfl, _, .head _, ?_⟩
  exact .twice hname (.head _) (.tail _ (.head _)) (by decide) (.head _) (.tail _ (.head _))

theorem App.ofJson_canonical_boiler :
    (∃ app, App.ofJson .json
        (boilerDocument "devices" (boiler "name" "rpc_methods" (levelTag "tag" "int")) []) =
          .ok app ∧
      app.validate = .ok () ∧ App.ofJson .json app.toJson = .ok app ∧
      App.ofJson .json (boilerDocument "mapping"
        (boiler "deviceNamePattern" "rpcMethods" (levelTag "tagPath" "integer"))
        [("note", .null)]) = .ok app) ∧
      ∃ cause, App.ofJson .json doubledDocument = .error cause := by
  constructor
  · obtain ⟨app, hread, hvalid⟩ : ∃ app, App.ofJson .json
        (boilerDocument "devices" (boiler "name" "rpc_methods" (levelTag "tag" "int")) []) =
          .ok app ∧ app.validate = .ok () := ⟨_, rfl, by cbv⟩
    obtain ⟨hagain, -, -, hsame⟩ := (App.ofJson_canonical _).1 app hread
    exact ⟨app, hread, hvalid, hagain, hsame _ boilerDocument_same⟩
  · exact (App.ofJson_canonical doubledDocument).2 doubledDocument_doubled

end TagRelay.Config
