import LinkWarden.Proofs.Config.RoundTrip
import LinkWarden.Proofs.Document.ArrayForm

/-!
# Settings written as arrays

The settings, each of their sections and the two links of a simulation may be written as arrays of
their fields in order of their declaration. No two fields of a structure interfere, since each is
put in a place of its own.

* `readsArrays_plain` is about the structures with nothing but single values in them, and
  `settings_readsArrays` puts them together.
* **Main statement** (`arrays_read_as_tables`): each of these structures is read from an array as
  from the table with the same values, with arrays and tables mixed at any depth, and from no array
  with more items than it has fields.
-/

namespace LinkWarden

namespace Decode

section Structures

variable {f : Format}

/-- A structure without structures inside may be written as an array if its fields do not
interfere. -/
theorem readsArrays_plain {σ : Type} {fields : List (Field σ)} {type : String} {default : σ}
    {usual : Value} (hcomm : fields.Pairwise Field.Commutes)
    (hnames : (fields.map Field.name).Nodup)
    (husual : HasDefaults f fields default usual) :
    ReadsArrays (plainShapes fields) usual (struct type fields default f) := by
  have hshapes : HaveShapes f fields (plainShapes fields) := by
    unfold HaveShapes plainShapes
    rw [List.forall₂_map_right_iff, List.forall₂_same]
    exact fun x _ => ⟨rfl, x.respects_whole f⟩
  exact readsArrays_struct hcomm hnames hshapes husual

/-- The general settings may be written as an array. -/
theorem general_readsArrays :
    ReadsArrays (plainShapes generalFields) (Encode.general {}) (general f) :=
  readsArrays_plain (by simp [generalFields, Field.plain, Field.commutes_of]) (by decide)
    ⟨rfl, rfl, rfl⟩

/-- The credentials of the network may be written as an array. -/
theorem wifi_readsArrays :
    ReadsArrays (plainShapes wifiFields) (Encode.wifi {}) (wifi f) :=
  readsArrays_plain (by simp [wifiFields, Field.plain, Field.commutes_of]) (by decide)
    ⟨rfl, rfl, rfl⟩

/-- The broker may be written as an array. -/
theorem broker_readsArrays :
    ReadsArrays (plainShapes brokerFields) (Encode.broker {}) (broker f) :=
  readsArrays_plain (by simp [brokerFields, Field.plain, Field.commutes_of]) (by decide)
    ⟨rfl, rfl, rfl, rfl, rfl, rfl⟩

/-- The settings of reconnecting may be written as an array. -/
theorem reconnect_readsArrays :
    ReadsArrays (plainShapes reconnectFields) (Encode.reconnect {}) (reconnect f) :=
  readsArrays_plain (by simp [reconnectFields, Field.plain, Field.commutes_of]) (by decide)
    ⟨rfl, rfl, rfl, rfl, rfl⟩

/-- The settings of the health checks may be written as an array. -/
theorem health_readsArrays :
    ReadsArrays (plainShapes healthFields) (Encode.health {}) (health f) :=
  readsArrays_plain (by simp [healthFields, Field.plain, Field.commutes_of]) (by decide)
    ⟨rfl, rfl, rfl, rfl⟩

/-- The settings of the diagnostics may be written as an array. -/
theorem diagnostics_readsArrays :
    ReadsArrays (plainShapes diagnosticsFields) (Encode.diagnostics {}) (diagnostics f) :=
  readsArrays_plain (by simp [diagnosticsFields, Field.plain, Field.commutes_of]) (by decide)
    ⟨rfl, rfl, rfl⟩

/-- The settings of the indicators may be written as an array. The rules inside stay as they are. -/
theorem status_readsArrays :
    ReadsArrays (plainShapes statusFields) (Encode.status {}) (status f) :=
  readsArrays_plain (by simp [statusFields, Field.plain, Field.commutes_of]) (by decide)
    ⟨rfl, rfl, rfl⟩

/-- The behaviour of a simulated link may be written as an array. -/
theorem behavior_readsArrays :
    ReadsArrays (plainShapes behaviorFields) (Encode.behavior {}) (behavior f) :=
  readsArrays_plain (by simp [behaviorFields, Field.plain, Field.commutes_of]) (by decide)
    ⟨rfl, rfl, rfl, rfl, rfl, rfl⟩

/-- The simulation may be written as an array, and so may each of the two links inside. -/
theorem simulation_readsArrays :
    ReadsArrays simulationShapes (Encode.simulation {}) (simulation f) := by
  have hshapes : HaveShapes f simulationFields simulationShapes :=
    .cons ⟨rfl, behavior_readsArrays.respects_of⟩
      (.cons ⟨rfl, behavior_readsArrays.respects_of⟩ .nil)
  exact readsArrays_struct (by simp [simulationFields, Field.commutes_of]) (by decide) hshapes
    ⟨rfl, rfl, rfl⟩

/-- **The settings may be written as an array, and so may each section inside.** -/
theorem settings_readsArrays :
    ReadsArrays settingsShapes (Encode.settings {}) (settings f) := by
  have hshapes : HaveShapes f settingsFields settingsShapes :=
    .cons ⟨rfl, general_readsArrays.respects_of⟩
      (.cons ⟨rfl, wifi_readsArrays.respects_of⟩
      (.cons ⟨rfl, broker_readsArrays.respects_of⟩
      (.cons ⟨rfl, reconnect_readsArrays.respects_of⟩
      (.cons ⟨rfl, health_readsArrays.respects_of⟩
      (.cons ⟨rfl, diagnostics_readsArrays.respects_of⟩
      (.cons ⟨rfl, status_readsArrays.respects_of⟩
      (.cons ⟨rfl, simulation_readsArrays.respects_of⟩ .nil)))))))
  exact readsArrays_struct (by simp [settingsFields, Field.commutes_of]) (by decide) hshapes
    ⟨rfl, rfl, rfl, rfl, rfl, rfl, rfl, rfl, rfl⟩

end Structures

/-! ### All of them -/

/-- Settings, their sections and the links of a simulation may be written as arrays. -/
structure ReadArrays (f : Format) : Prop where
  settings : ReadsArrays settingsShapes (Encode.settings {}) (Decode.settings f)
  general : ReadsArrays (plainShapes generalFields) (Encode.general {}) (Decode.general f)
  wifi : ReadsArrays (plainShapes wifiFields) (Encode.wifi {}) (Decode.wifi f)
  broker : ReadsArrays (plainShapes brokerFields) (Encode.broker {}) (Decode.broker f)
  reconnect : ReadsArrays (plainShapes reconnectFields) (Encode.reconnect {}) (Decode.reconnect f)
  health : ReadsArrays (plainShapes healthFields) (Encode.health {}) (Decode.health f)
  diagnostics :
    ReadsArrays (plainShapes diagnosticsFields) (Encode.diagnostics {}) (Decode.diagnostics f)
  status : ReadsArrays (plainShapes statusFields) (Encode.status {}) (Decode.status f)
  simulation : ReadsArrays simulationShapes (Encode.simulation {}) (Decode.simulation f)
  behavior : ReadsArrays (plainShapes behaviorFields) (Encode.behavior {}) (Decode.behavior f)

/-- **An array means the same as a table.** For the settings, each of their sections and the links
of a simulation, and in both formats:

* Of an array with at most as many items as there are fields the same is read as of the table with
  the items under the names of the first fields, and it decodes just if the table does. The other
  fields have their default values.
* The same holds when structures inside are written in either form, at any depth.
* A longer array does not decode, whatever its items are, nor does a document that has one
  inside. -/
theorem arrays_read_as_tables (f : Format) : ReadArrays f where
  settings := settings_readsArrays
  general := general_readsArrays
  wifi := wifi_readsArrays
  broker := broker_readsArrays
  reconnect := reconnect_readsArrays
  health := health_readsArrays
  diagnostics := diagnostics_readsArrays
  status := status_readsArrays
  simulation := simulation_readsArrays
  behavior := behavior_readsArrays

/-- A network that is a table stands in an array beside general settings that are one. An array of
three texts is no network. -/
theorem arrays_read_as_tables_mixed :
    let v : Value := .seq [.seq [.null, .text "dev"], .table [("ssid", .text "home")]]
    let w : Value := .table [
      ("general", .table [("log_level", .null), ("device", .text "dev")]),
      ("wifi", .table [("ssid", .text "home")])]
    Restates (.table settingsShapes) v w ∧
      (settings .json v).toOption =
        some { general := { device := "dev" }, wifi := { ssid := "home" } } ∧
      ∃ fault, wifi .json (.seq [.text "home", .text "password", .text "wpa2"]) = .error fault := by
  intro v w
  have houter : Rewrites (.table settingsShapes) v (.table [
      ("general", .seq [.null, .text "dev"]), ("wifi", .table [("ssid", .text "home")])]) :=
    .asTable (by decide) (.refl _)
  have hinner : Rewrites (.table settingsShapes) (.table [
      ("general", .seq [.null, .text "dev"]), ("wifi", .table [("ssid", .text "home")])]) w :=
    @Rewrites.inTable _ [] _ "general" _ _ _ rfl (.asTable (by decide) (.refl _))
  have hrestates : Restates (.table settingsShapes) v w :=
    .trans _ _ _ (.rel _ _ houter) (.rel _ _ hinner)
  exact ⟨hrestates, (arrays_read_as_tables .json).settings.mixed v w hrestates,
    (arrays_read_as_tables .json).wifi.tooLong _ (by decide)⟩

end Decode

end LinkWarden
