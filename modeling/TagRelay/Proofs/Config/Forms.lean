import TagRelay.Config.Decode
import TagRelay.Proofs.Json.Reading

/-!
# Forms of configuration

What a configuration document may say at each place, and under which names.  The value of a
method is free, so nothing in it goes by another name.
-/

namespace TagRelay.Config

open Json (Form Layout)

def Strategy.layout : Layout where
  fields := [{ name := "type" }, { name := "report_period_ms", aliases := ["reportPeriod"] }]

def Strategy.form : Form := .record layout

theorem Strategy.reads : form.Reads (ofJson .json) := by
  apply Form.Reads.record
  refine .next (.required (.plain _)) fun kind => ?_
  refine .next (.optional (.plain _)) fun period => ?_
  exact .nothing _ _

def ValueType.form : Form := .word [["int", "integer"], ["bool", "boolean"]]

theorem ValueType.reads : form.Reads (Json.asWord .json words) := .word (by decide)

def Tag.layout : Layout where
  fields :=
    [{ name := "key" }, { name := "tag", aliases := ["tagPath"] },
      { name := "type", form := ValueType.form },
      { name := "timestamp_location", aliases := ["timestampLocation"] },
      { name := "report_strategy", aliases := ["reportStrategy"], form := Strategy.form }]

def Tag.form : Form := .record layout

theorem Tag.reads : form.Reads (ofJson .json) := by
  apply Form.Reads.record
  refine .next (.required (.plain _)) fun key => ?_
  refine .next (.required (.plain _)) fun path => ?_
  refine .next (.optional ValueType.reads) fun valueType => ?_
  refine .next (.withDefault (.plain _)) fun timestampLocation => ?_
  refine .next (.optional Strategy.reads) fun strategy => ?_
  exact .nothing _ _

def AttributeUpdate.layout : Layout where
  fields :=
    [{ name := "key", aliases := ["attributeOnThingsBoard"] },
      { name := "tag", aliases := ["attributeOnDevice", "tagPath"] }]

def AttributeUpdate.form : Form := .record layout

theorem AttributeUpdate.reads : form.Reads (ofJson .json) := by
  apply Form.Reads.record
  refine .next (.required (.plain _)) fun key => ?_
  refine .next (.required (.plain _)) fun path => ?_
  exact .nothing _ _

def Method.layout : Layout where
  fields := [{ name := "method" }, { name := "tag" }, { name := "value" }]

def Method.form : Form := .record layout

theorem Method.reads : form.Reads (ofJson .json) := by
  apply Form.Reads.record
  refine .next (.required (.plain _)) fun name => ?_
  refine .next (.required (.plain _)) fun path => ?_
  refine .next (.optional (.plain _)) fun value => ?_
  exact .nothing _ _

def Device.layout : Layout where
  fields :=
    [{ name := "name", aliases := ["deviceNamePattern"] },
      { name := "profile", aliases := ["deviceTypePattern"] }, { name := "converter" },
      { name := "report_strategy", aliases := ["reportStrategy"], form := Strategy.form },
      { name := "attributes", form := .list Tag.form },
      { name := "timeseries", form := .list Tag.form },
      { name := "attributes_updates", aliases := ["attributeUpdates"],
        form := .list AttributeUpdate.form },
      { name := "rpc_methods", aliases := ["rpcMethods"], form := .list Method.form }]

def Device.form : Form := .record layout

theorem Device.reads : form.Reads (ofJson .json) := by
  apply Form.Reads.record
  refine .next (.required (.plain _)) fun name => ?_
  refine .next (.withDefault (.plain _)) fun profile => ?_
  refine .next (.optional (.plain _)) fun converter => ?_
  refine .next (.optional Strategy.reads) fun strategy => ?_
  refine .next (.withDefault Tag.reads.list) fun attributes => ?_
  refine .next (.withDefault Tag.reads.list) fun timeseries => ?_
  refine .next (.withDefault AttributeUpdate.reads.list) fun attributeUpdates => ?_
  refine .next (.withDefault Method.reads.list) fun methods => ?_
  exact .nothing _ _

def Server.layout : Layout where
  fields :=
    [{ name := "name" }, { name := "host" },
      { name := "poll_period_ms", aliases := ["pollPeriodInMillis"] },
      { name := "timeout_ms", aliases := ["timeoutMs"] },
      { name := "reconnect_delay_ms", aliases := ["reconnectDelayMs"] },
      { name := "idle_tick_ms" }, { name := "stop_timeout_ms" }, { name := "queue_capacity" },
      { name := "session" }]

def Server.form : Form := .record layout

theorem Server.reads : form.Reads (ofJson .json) := by
  apply Form.Reads.record
  refine .next (.withDefault (.plain _)) fun name => ?_
  refine .next (.withDefault (.plain _)) fun host => ?_
  refine .next (.withDefault (.plain _)) fun pollPeriod => ?_
  refine .next (.withDefault (.plain _)) fun timeout => ?_
  refine .next (.withDefault (.plain _)) fun reconnectDelay => ?_
  refine .next (.withDefault (.plain _)) fun idleTick => ?_
  refine .next (.withDefault (.plain _)) fun stopTimeout => ?_
  refine .next (.withDefault (.plain _)) fun queueCapacity => ?_
  refine .next (.withDefault (.plain _)) fun session => ?_
  exact .nothing _ _

def Connector.layout : Layout where
  fields :=
    [{ name := "name" }, { name := "id" }, { name := "type" },
      { name := "server", form := Server.form },
      { name := "report_strategy", aliases := ["reportStrategy"], form := Strategy.form },
      { name := "devices", aliases := ["mapping"], form := .list Device.form }]

def Connector.form : Form := .record layout

theorem Connector.reads : form.Reads (ofJson .json) := by
  apply Form.Reads.record
  refine .next (.withDefault (.plain _)) fun name => ?_
  refine .next (.withDefault (.plain _)) fun id => ?_
  refine .next (.withDefault (.plain _)) fun type => ?_
  refine .next (.withDefault Server.reads) fun server => ?_
  refine .next (.optional Strategy.reads) fun strategy => ?_
  refine .next (.withDefault Device.reads.list) fun devices => ?_
  exact .nothing _ _

def Logging.layout : Layout where
  fields := [{ name := "directory" }, { name := "format" }, { name := "file_prefix" }]

def Logging.form : Form := .record layout

theorem Logging.reads : form.Reads (ofJson .json) := by
  apply Form.Reads.record
  refine .next (.withDefault (.plain _)) fun directory => ?_
  refine .next (.withDefault (.plain _)) fun format => ?_
  refine .next (.optional (.plain _)) fun filePrefix => ?_
  exact .nothing _ _

def Metrics.layout : Layout where
  fields := [{ name := "enabled" }, { name := "listen" }]

def Metrics.form : Form := .record layout

theorem Metrics.reads : form.Reads (ofJson .json) := by
  apply Form.Reads.record
  refine .next (.withDefault (.plain _)) fun enabled => ?_
  refine .next (.withDefault (.plain _)) fun listen => ?_
  exact .nothing _ _

def App.layout : Layout where
  fields :=
    [{ name := "connector", form := Connector.form }, { name := "logging", form := Logging.form },
      { name := "metrics", form := Metrics.form }]

def App.form : Form := .record layout

theorem App.reads : form.Reads (ofJson .json) := by
  apply Form.Reads.record
  refine .next (.withDefault Connector.reads) fun connector => ?_
  refine .next (.withDefault Logging.reads) fun logging => ?_
  refine .next (.withDefault Metrics.reads) fun metrics => ?_
  exact .nothing _ _

end TagRelay.Config
